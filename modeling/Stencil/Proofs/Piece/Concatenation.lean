import Stencil.Proofs.Piece.Tiling

/-!
# Pieces of concatenated sources

The pieces of two sources written one after the other are the pieces of the
first and then those of the second.  Only text runs that meet at the seam
become one, and only a brace at the end of the first source can spoil this: it
would open a span together with what follows it.
-/

namespace Stencil

namespace Piece

/-- No delimiter begins at the end of one text and goes on in the next. -/
def Seamless (first second : List Char) : Prop :=
  first.getLast? = some '{' → second.head? ≠ some '{' ∧ second.head? ≠ some '%'

theorem Seamless.of_append_left {content rest second : List Char}
    (seamless : Seamless (content ++ rest) second) : Seamless rest second := by
  intro brace
  apply seamless
  rw [List.getLast?_append, brace, Option.some_or]

theorem opens?_cons_eq_none {second : List Char} (here : second.head? ≠ some '{')
    (there : second.head? ≠ some '%') : Delimiter.opens? ('{' :: second) = none := by
  unfold Delimiter.opens?
  split <;> simp_all

theorem Plain.append {first second : List Char} (plain : Plain first)
    (following : Plain second) (seamless : Seamless first second) : Plain (first ++ second) := by
  induction first with
  | nil => exact following
  | cons char chars ih =>
      obtain ⟨closed, later⟩ := plain_cons_iff.1 plain
      have rest := ih later (@Seamless.of_append_left [char] chars second seamless)
      refine plain_cons_iff.2 ⟨?_, rest⟩
      by_cases brace : char = '{'
      · cases chars with
        | nil =>
            obtain ⟨here, there⟩ := seamless (by simp [brace])
            rw [brace]
            exact opens?_cons_eq_none here there
        | cons next chars =>
            exact Delimiter.opens?_append_eq_none (by simp) closed second
      · exact Delimiter.opens?_of_ne_brace brace _

/-- Two sequences of pieces, where text runs at the seam become one. -/
def join : List Piece → List Piece → List Piece
  | [.text first], .text second :: others => .text (first ++ second) :: others
  | [], others => others
  | piece :: pieces, others => piece :: join pieces others

theorem join_cons {piece next : Piece} {pieces others : List Piece} :
    join (piece :: next :: pieces) others = piece :: join (next :: pieces) others := by
  cases piece <;> rfl

theorem join_cases (pieces others : List Piece) :
    join pieces others = pieces ++ others ∨
      ∃ before first second after, pieces = before ++ [.text first] ∧
        others = .text second :: after ∧
          join pieces others = before ++ .text (first ++ second) :: after := by
  induction pieces with
  | nil => exact .inl rfl
  | cons piece pieces ih =>
      cases pieces with
      | nil =>
          cases piece with
          | text first =>
              cases others with
              | nil => exact .inl rfl
              | cons other others =>
                  cases other with
                  | text second => exact .inr ⟨[], first, second, others, rfl, rfl, rfl⟩
                  | span delimiter content => exact .inl rfl
                  | quotation kind content body closing => exact .inl rfl
          | span delimiter content => exact .inl rfl
          | quotation kind content body closing => exact .inl rfl
      | cons next pieces =>
          rw [join_cons]
          rcases ih with plain | ⟨before, first, second, after, ends, begins, joined⟩
          · exact .inl (congrArg (piece :: ·) plain)
          · refine .inr ⟨piece :: before, first, second, after, ?_, begins, ?_⟩
            · rw [ends, List.cons_append]
            · rw [joined, List.cons_append]

theorem Tiles.eq_nil {pieces : List Piece} (tiles : Tiles [] pieces) : pieces = [] := by
  cases pieces with
  | nil => rfl
  | cons piece pieces =>
      have joined := tiles.eq_flatMap
      rw [List.flatMap_cons, eq_comm, List.append_eq_nil_iff] at joined
      exact absurd joined.1 (tiles.wellFormed piece List.mem_cons_self).source_ne_nil

theorem Seamless.of_append_right {first next rest : List Char} (nonempty : next ≠ [])
    (seamless : Seamless first (next ++ rest)) : Seamless first next := by
  cases next with
  | nil => exact absurd rfl nonempty
  | cons char chars => exact seamless

theorem TextEnd.append {content next rest : List Char} (nonempty : next ≠ [])
    (ends : TextEnd next rest) : TextEnd (content ++ next) rest := by
  rcases ends with finished | ⟨opens, last⟩
  · exact .inl finished
  · refine .inr ⟨opens, ?_⟩
    rwa [List.getLast?_append, List.getLast?_eq_some_getLast nonempty, Option.some_or,
      ← List.getLast?_eq_some_getLast nonempty]

/-- A text run at the end of the first source. -/
theorem Tiles.text_append {content second : List Char} {others : List Piece}
    (following : Tiles second others) (wellFormed : (Piece.text content).WellFormed)
    (seamless : Seamless content second) :
    Tiles (content ++ second) (join [.text content] others) := by
  obtain ⟨nonempty, plain⟩ := wellFormed
  have opened (opens : (Delimiter.opens? second).isSome) :
      Tiles (content ++ second) (.text content :: others) := by
    refine @Tiles.cons (.text content) _ _ ⟨nonempty, plain⟩ (.inr ⟨opens, ?_⟩) following
    intro brace
    exact (seamless brace).1 (Delimiter.head?_of_opens? opens)
  cases following with
  | nil => exact @Tiles.cons (.text content) _ _ ⟨nonempty, plain⟩ (.inl rfl) .nil
  | @cons other rest others here ends later =>
      cases other with
      | text next =>
          obtain ⟨more, following_plain⟩ := here
          have joined := plain.append following_plain (seamless.of_append_right more)
          have whole := @Tiles.cons (.text (content ++ next)) _ _ ⟨by simp [nonempty], joined⟩
            (ends.append more) later
          rwa [source, List.append_assoc] at whole
      | span delimiter inside => exact opened (by simp [source, enclose])
      | quotation kind inside body closing => exact opened (by simp [source, enclose])

theorem Tiles.append {first second : List Char} {pieces others : List Piece}
    (tiles : Tiles first pieces) (following : Tiles second others)
    (seamless : Seamless first second) : Tiles (first ++ second) (join pieces others) := by
  induction tiles with
  | nil => exact following
  | @cons piece rest pieces wellFormed ends tiles ih =>
      have later := ih seamless.of_append_left
      rw [List.append_assoc]
      cases pieces with
      | nil =>
          cases tiles
          rw [List.append_nil] at seamless
          rw [List.nil_append]
          cases piece with
          | text content => exact following.text_append wellFormed seamless
          | span delimiter content => exact .cons wellFormed trivial following
          | quotation kind content body closing => exact .cons wellFormed trivial following
      | cons next pieces =>
          rw [join_cons]
          refine .cons wellFormed ?_ later
          cases piece with
          | text content =>
              rcases ends with rfl | ⟨opens, last⟩
              · cases tiles.eq_nil
              · refine .inr ⟨?_, last⟩
                obtain ⟨⟨delimiter, behind⟩, opened⟩ := Option.isSome_iff_exists.1 opens
                rw [Delimiter.eq_append_of_opens? opened, List.append_assoc,
                  Delimiter.opens?_append, Option.isSome_some]
          | span delimiter content => trivial
          | quotation kind content body closing => trivial

end Piece

end Stencil
