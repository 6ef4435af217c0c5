import Stencil.Proofs.Node.Numeral
import Stencil.Proofs.Syntax.Denotation
import Stencil.Proofs.Text.Slice

/-!
# Literals of a template

What becomes of a numeral of a source, wherever it is an operand: an integer is
the literal that it denotes, or it is refused at its own first byte, and this if
it does not fit in 64 bits.  A decimal is a literal in any case.  It is a number
only if there is a finite double for it; else the literal is nil, without a word.
-/

namespace Stencil

open Grammar (IsDecimal IsNumeral)

namespace Template

/-- The literals and paths of a template, in the order of its source. -/
def operands (template : Template) : List Expr :=
  (Node.walkBody template.nodes).flatMap Mark.operands

/-- A source says the same as a template but for one operand, which is the literal `value`. -/
def GivesLiteral (template : Template) (source : String) (value : Value) : Prop :=
  ∃ other, compile template.config source = .ok other ∧
    Node.Relabels value template.nodes other.nodes

variable {config : Config} {template : Template} {source : String}

theorem givesLiteral_of_rereads {value : Value}
    (rereads : Node.Rereads template.config template.nodes source.toList (.ok value)) :
    template.GivesLiteral source value := by
  obtain ⟨others, compiled, relabels⟩ := rereads
  exact ⟨⟨others, template.config⟩, compile_eq_ok_iff.2 ⟨compiled, rfl⟩, relabels⟩

/-- Among all operands of a template there is one other literal. -/
theorem GivesLiteral.exists_operands {value : Value}
    (gives : template.GivesLiteral source value) :
    ∃ other first old last, compile template.config source = .ok other ∧
      template.operands = first ++ .literal old :: last ∧
      other.operands = first ++ .literal value :: last := by
  obtain ⟨other, compiled, before, mark, again, behind, walk, walkAgain, -, first, old, last,
    here, there⟩ := gives
  refine ⟨other, before.flatMap Mark.operands ++ first, old,
    last ++ behind.flatMap Mark.operands, compiled, ?_, ?_⟩
  · simp [operands, walk, here]
  · simp [operands, walkAgain, there]

theorem compile_eq_error {failure : Located Problem}
    (refused : Node.compile config source.toList = .error failure) :
    compile config source = .error (failure.content.toError source.toList failure.position) := by
  rw [compile, refused]

/-- A source with another numeral for one of its operands is the source read again. -/
theorem rereads_of_compile {front old back text : List Char} {known rule : Grammar.Rule}
    (compiled : compile config (String.ofList (front ++ (old ++ back))) = .ok template)
    (operand : ⟨known, old, Text.width front⟩ ∈ Numeral.ofSource (front ++ (old ++ back)))
    (numeral : IsNumeral back rule text) :
    Node.Rereads template.config template.nodes (String.ofList (front ++ (text ++ back))).toList
      (Numeral.value ⟨rule, text, Text.width front⟩) := by
  obtain ⟨nodes, rfl⟩ := compile_eq_ok_iff.1 compiled
  rw [String.toList_ofList] at nodes
  obtain ⟨before, behind, whole, width_eq, rereads⟩ := Node.exists_rereads nodes operand
  obtain ⟨rfl, rest⟩ := Text.append_inj_of_width whole width_eq
  obtain rfl := List.append_cancel_left rest
  rw [String.toList_ofList]
  exact rereads rule text numeral

/--
What becomes of a numeral that stands for an operand of a source that compiles.
Each integer is the literal that it denotes, or else it does not fit in 64 bits,
and the source is refused at the first byte of the integer.  A decimal never has
a source refused: it is its nearest double, but nil if this is infinite.
-/
theorem compile_numeral {front old back text : List Char} {known rule : Grammar.Rule}
    (compiled : compile config (String.ofList (front ++ (old ++ back))) = .ok template)
    (operand : ⟨known, old, Text.width front⟩ ∈ Numeral.ofSource (front ++ (old ++ back)))
    (numeral : IsNumeral back rule text)
    (exchanged : source = String.ofList (front ++ (text ++ back))) :
    (rule = .int →
      (∀ inRange : -9223372036854775808 ≤ Numeral.integer text ∧
          Numeral.integer text < 9223372036854775808,
        template.GivesLiteral source
          (.number (.integer (Numeral.integer text) ⟨inRange.1, by omega⟩))) ∧
      (¬ (-9223372036854775808 ≤ Numeral.integer text ∧
          Numeral.integer text < 9223372036854775808) →
        compile config source = .error (.parse .malformedExpression (Text.width front)
          ((Text.Location.of source.toList (Text.width front)).text ++ ": " ++
            ("Integer out of bounds: " ++ Problem.code (String.ofList text)))))) ∧
    (rule = .float →
      ((Numeral.decimal text).Fits → ∃ double,
        (Numeral.decimal text).toDouble .double = .finite double ∧
        template.GivesLiteral source (.number (.float double))) ∧
      (¬ (Numeral.decimal text).Fits → template.GivesLiteral source .nil)) := by
  have rereads := rereads_of_compile compiled operand numeral
  obtain ⟨-, rfl⟩ := compile_eq_ok_iff.1 compiled
  rw [← exchanged] at rereads
  constructor
  · rintro rfl
    rw [Numeral.value_int numeral.isInteger] at rereads
    refine ⟨fun inRange => ?_, fun outside => ?_⟩
    · rw [if_pos inRange, Value.ofInt_eq ⟨inRange.1, by omega⟩] at rereads
      exact givesLiteral_of_rereads rereads
    · rw [if_neg outside] at rereads
      exact compile_eq_error rereads
  · rintro rfl
    refine ⟨fun fits => ?_, fun large => ?_⟩
    · obtain ⟨double, nearest, value⟩ := Numeral.exists_value_float numeral.isDecimal fits _
      rw [value] at rereads
      exact ⟨double, nearest, givesLiteral_of_rereads rereads⟩
    · rw [Numeral.value_float_eq_nil numeral.isDecimal large] at rereads
      exact givesLiteral_of_rereads rereads

/-- A source whose only operand is a numeral. -/
def numeralSource (text : List Char) : List Char :=
  "\x7b\x7b ".toList ++ (text ++ " \x7d\x7d".toList)

/-- Behind the numeral of such a source no more letters or digits follow. -/
theorem isNumeral_of_isDecimal {text : List Char} (decimal : IsDecimal text) :
    IsNumeral " \x7d\x7d".toList .float text :=
  .of_isDecimal decimal (Grammar.wordEnds_cons (by decide) "\x7d\x7d".toList)

theorem compile_zero :
    compile .empty (String.ofList (numeralSource ['0'])) =
      .ok ⟨[.output ⟨.literal (.number (.integer 0 (by decide))), []⟩], .empty⟩ := by
  cbv

theorem mem_ofSource_zero :
    ⟨.int, ['0'], Text.width "\x7b\x7b ".toList⟩ ∈
      Numeral.ofSource (numeralSource ['0']) := by
  have numerals : Numeral.ofSource (numeralSource ['0']) =
      [⟨.int, ['0'], 3⟩] := by cbv
  rw [numerals]
  exact List.mem_cons_self

/-- An integer of twenty digits in the place of the zero. -/
theorem compile_numeral_outOfBounds :
    compile .empty "{{ 99999999999999999999 }}" =
      .error (.parse .malformedExpression 3
        "1:4: Integer out of bounds: `99999999999999999999`") := by
  have numeral : IsNumeral " \x7d\x7d".toList .int "99999999999999999999".toList :=
    .int (by cbv) (by cbv)
  have exchanged : "{{ 99999999999999999999 }}" =
      String.ofList (numeralSource "99999999999999999999".toList) := by cbv
  have refused :=
    ((compile_numeral compile_zero mem_ofSource_zero numeral exchanged).1 rfl).2 (by decide)
  rw [refused]
  cbv

/-- The output of a decimal that is too large for a double is the output of nil. -/
theorem exists_compile_of_not_fits {text : List Char} (decimal : IsDecimal text)
    (large : ¬ (Numeral.decimal text).Fits) :
    ∃ template, compile .empty (String.ofList (numeralSource text)) =
        .ok template ∧
      template.operands = [.literal .nil] := by
  have rereads := rereads_of_compile compile_zero mem_ofSource_zero (isNumeral_of_isDecimal decimal)
  rw [Numeral.value_float_eq_nil decimal large] at rereads
  obtain ⟨template, first, old, last, compiled, zero, operands⟩ :=
    (givesLiteral_of_rereads rereads).exists_operands
  have alone : first = [] ∧ last = [] := by
    have length : 1 = first.length + (last.length + 1) := by
      simpa [Template.operands, Node.walkBody, Node.walk, Mark.operands, Output.operands,
        Expr.operands] using congrArg List.length zero
    exact ⟨List.length_eq_zero_iff.1 (by omega), List.length_eq_zero_iff.1 (by omega)⟩
  refine ⟨template, compiled, ?_⟩
  rw [operands, alone.1, alone.2, List.nil_append]

/-- A decimal of 309 digits and a fraction. -/
theorem exists_compile_overflow :
    let text := List.replicate 309 '9' ++ ".0".toList
    IsNumeral " \x7d\x7d".toList .float text ∧
      ∃ template, compile .empty (String.ofList (numeralSource text)) =
          .ok template ∧
        template.operands = [.literal .nil] := by
  have decimal : IsDecimal (List.replicate 309 '9' ++ ".0".toList) :=
    @IsDecimal.mk [] (List.replicate 309 '9') ['0'] (.inl rfl) (List.cons_ne_nil _ _)
      (fun char nine => by rw [List.eq_of_mem_replicate nine]; rfl) (by simp) (by simp)
  exact ⟨isNumeral_of_isDecimal decimal, exists_compile_of_not_fits decimal (by decide +kernel)⟩

end Template

end Stencil
