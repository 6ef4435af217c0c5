import Stencil.Context
import Stencil.Proofs.Checked
import Stencil.Proofs.Entries
import Stencil.Proofs.Value.Equivalence

/-!
# Values as host data

A value can be handed over as host data itself.  Converting it back gives the
value again, with a string in the place of each object.  What comes of a
conversion holds no objects, so that nothing is left to replace in it.
-/

namespace Stencil

namespace Value

/-! ## The parts of a value -/

def isObject : Value → Bool
  | .object _ => true
  | _ => false

/-- If the value is a mapping, its names are ascending. -/
def NamesAscend : Value → Prop
  | .mapping entries => Entries.Ascending entries
  | _ => True

mutual

/-- A value and all that it holds, at any depth of sequences and mappings. -/
def parts : Value → List Value
  | .sequence items => .sequence items :: partsOfItems items
  | .mapping entries => .mapping entries :: partsOfEntries entries
  | value => [value]

def partsOfItems : List Value → List Value
  | [] => []
  | item :: items => parts item ++ partsOfItems items

def partsOfEntries : List (String × Value) → List Value
  | [] => []
  | (_, value) :: entries => parts value ++ partsOfEntries entries

end

/-- Setting an entry adds no parts but those of its value. -/
theorem mem_partsOfEntries_insert {name : String} {value part : Value} {entries : Entries Value}
    (member : part ∈ partsOfEntries (entries.insert name value)) :
    part ∈ value.parts ∨ part ∈ partsOfEntries entries := by
  induction entries with
  | nil => simpa [Entries.insert, partsOfEntries] using member
  | cons entry entries ih =>
      obtain ⟨first, kept⟩ := entry
      unfold Entries.insert at member
      split at member
      · exact List.mem_append.1 member
      · rw [partsOfEntries, List.mem_append]
        split at member
        · exact (List.mem_append.1 member).imp_right .inr
        · rcases List.mem_append.1 member with here | later
          · exact .inr (.inl here)
          · exact (ih later).imp_right .inr

/-! ## Strings for objects -/

mutual

/-- A value with the string of its text in the place of each object that it holds. -/
def detach : Value → Value
  | .sequence items => .sequence (detachItems items)
  | .mapping entries => .mapping (detachEntries entries)
  | .object host => .string (render (.object host))
  | value => value

def detachItems : List Value → List Value
  | [] => []
  | item :: items => detach item :: detachItems items

def detachEntries : List (String × Value) → List (String × Value)
  | [] => []
  | (name, value) :: entries => (name, detach value) :: detachEntries entries

end

mutual

theorem detach_eq_self : ∀ value : Value, (∀ part ∈ value.parts, part.isObject = false) →
    value.detach = value
  | .nil, _ | .bool _, _ | .number _, _ | .string _, _ => rfl
  | .sequence items, plain => by
      rw [parts, List.forall_mem_cons] at plain
      rw [detach, detachItems_eq_self items plain.2]
  | .mapping entries, plain => by
      rw [parts, List.forall_mem_cons] at plain
      rw [detach, detachEntries_eq_self entries plain.2]
  | .object host, plain => nomatch plain (.object host) (List.mem_singleton_self _)

theorem detachItems_eq_self : ∀ items : List Value,
    (∀ part ∈ partsOfItems items, part.isObject = false) → detachItems items = items
  | [], _ => rfl
  | item :: items, plain => by
      rw [partsOfItems, List.forall_mem_append] at plain
      rw [detachItems, detach_eq_self item plain.1, detachItems_eq_self items plain.2]

theorem detachEntries_eq_self : ∀ entries : List (String × Value),
    (∀ part ∈ partsOfEntries entries, part.isObject = false) → detachEntries entries = entries
  | [], _ => rfl
  | (name, value) :: entries, plain => by
      rw [partsOfEntries, List.forall_mem_append] at plain
      rw [detachEntries, detach_eq_self value plain.1, detachEntries_eq_self entries plain.2]

end

mutual

/-- An object is not equal to its text, wherever it is. -/
theorem isObject_eq_false_of_detach_equals : ∀ value : Value, value.detach.equals value →
    ∀ part ∈ value.parts, part.isObject = false
  | .nil, _ | .bool _, _ | .number _, _ | .string _, _ => by simp [parts, isObject]
  | .sequence items, equal => by
      rw [parts, List.forall_mem_cons]
      rw [detach, equals] at equal
      exact ⟨rfl, isObject_eq_false_of_detachItems_equal items equal⟩
  | .mapping entries, equal => by
      rw [parts, List.forall_mem_cons]
      rw [detach, equals] at equal
      exact ⟨rfl, isObject_eq_false_of_detachEntries_equal entries equal⟩
  | .object _, equal => nomatch equal

theorem isObject_eq_false_of_detachItems_equal : ∀ items : List Value,
    equalItems (detachItems items) items → ∀ part ∈ partsOfItems items, part.isObject = false
  | [], _ => nofun
  | item :: items, equal => by
      rw [detachItems, equalItems, Bool.and_eq_true] at equal
      rw [partsOfItems, List.forall_mem_append]
      exact ⟨isObject_eq_false_of_detach_equals item equal.1,
        isObject_eq_false_of_detachItems_equal items equal.2⟩

theorem isObject_eq_false_of_detachEntries_equal : ∀ entries : List (String × Value),
    equalEntries (detachEntries entries) entries →
      ∀ part ∈ partsOfEntries entries, part.isObject = false
  | [], _ => nofun
  | (name, value) :: entries, equal => by
      rw [detachEntries, equalEntries, Bool.and_eq_true, Bool.and_eq_true] at equal
      rw [partsOfEntries, List.forall_mem_append]
      exact ⟨isObject_eq_false_of_detach_equals value equal.1.2,
        isObject_eq_false_of_detachEntries_equal entries equal.2⟩

end

/-- The strings make no difference just to those values that hold no object. -/
theorem detach_equals_iff (value : Value) :
    value.detach.equals value ↔ ∀ part ∈ value.parts, part.isObject = false := by
  constructor
  · exact isObject_eq_false_of_detach_equals value
  · intro plain
    rw [detach_eq_self value plain]
    exact equals_self value

/-! ## There and back -/

theorem toValue_toDatum_number (numeral : Number) :
    numeral.toDatum.toValue = .ok (.number numeral) := by
  cases numeral with
  | integer value inRange => rw [Number.toDatum, Datum.toValue, Number.ofInt?, dif_pos inRange]
  | float value => rfl

mutual

/-- A value comes back with strings for its objects. -/
theorem toValue_toDatum : ∀ value : Value, (∀ part ∈ value.parts, part.NamesAscend) →
    value.toDatum.toValue = .ok value.detach
  | .nil, _ | .bool _, _ | .string _, _ => rfl
  | .number numeral, _ => toValue_toDatum_number numeral
  | .object host, _ => by rw [toDatum, Datum.toValue, detach, render]
  | .sequence items, ordered => by
      rw [parts, List.forall_mem_cons] at ordered
      rw [toDatum, Datum.toValue, itemValues_itemData items ordered.2, detach]
      rfl
  | .mapping entries, ordered => by
      rw [parts, List.forall_mem_cons] at ordered
      obtain ⟨ascending, inner⟩ := ordered
      rw [toDatum, Datum.toValue, entryValues_entryData entries [] ascending inner, detach]
      rfl

theorem itemValues_itemData : ∀ items : List Value,
    (∀ part ∈ partsOfItems items, part.NamesAscend) →
      Datum.itemValues (itemData items) = .ok (detachItems items)
  | [], _ => rfl
  | item :: items, ordered => by
      rw [partsOfItems, List.forall_mem_append] at ordered
      rw [itemData, Datum.itemValues, toValue_toDatum item ordered.1,
        itemValues_itemData items ordered.2, detachItems]
      rfl

/-- Entries in ascending order are set one behind the other. -/
theorem entryValues_entryData : ∀ (entries : List (String × Value)) (settled : Entries Value),
    (settled.names ++ Entries.names entries).Pairwise (· < ·) →
    (∀ part ∈ partsOfEntries entries, part.NamesAscend) →
      Datum.entryValues (entryData entries) settled = .ok (settled ++ detachEntries entries)
  | [], settled, _, _ => by rw [entryData, Datum.entryValues, detachEntries, List.append_nil]
  | (name, value) :: entries, settled, ascending, ordered => by
      rw [partsOfEntries, List.forall_mem_append] at ordered
      have last : ∀ other ∈ settled.names, other < name := fun other member =>
        (List.pairwise_append.1 ascending).2.2 other member name List.mem_cons_self
      have regrouped : (Entries.names (settled ++ [(name, value.detach)]) ++
          Entries.names entries).Pairwise (· < ·) := by
        simpa [Entries.names] using ascending
      rw [entryData, Datum.entryValues, Datum.key, toValue_toDatum value ordered.1]
      dsimp only
      rw [Entries.insert_eq_concat last, entryValues_entryData entries _ regrouped ordered.2,
        detachEntries, List.append_assoc, List.singleton_append]

end

/-! ## What comes of a conversion -/

/-- What all parts of a converted value are like. -/
def Settled (part : Value) : Prop :=
  part.NamesAscend ∧ part.isObject = false

/-- A value that holds no other one has itself as its only part. -/
theorem settled_alone {value : Value} (alone : value.parts = [value]) (settled : Settled value) :
    ∀ part ∈ value.parts, Settled part := by
  rw [alone]
  exact List.forall_mem_singleton.2 settled

theorem settled_ofInt (value : Int) : ∀ part ∈ (ofInt value).parts, Settled part := by
  unfold ofInt
  split
  · exact settled_alone rfl ⟨trivial, rfl⟩
  · exact settled_alone rfl ⟨trivial, rfl⟩

theorem settled_ofDouble (value : Double) : ∀ part ∈ (ofDouble value).parts, Settled part := by
  unfold ofDouble
  split
  · exact settled_alone rfl ⟨trivial, rfl⟩
  · exact settled_alone rfl ⟨trivial, rfl⟩

theorem settled_sequence {items : List Value}
    (settled : ∀ part ∈ partsOfItems items, Settled part) :
    ∀ part ∈ (sequence items).parts, Settled part :=
  List.forall_mem_cons.2 ⟨⟨trivial, rfl⟩, settled⟩

theorem settled_mapping {entries : Entries Value} (ascending : entries.Ascending)
    (settled : ∀ part ∈ partsOfEntries entries, Settled part) :
    ∀ part ∈ (mapping entries).parts, Settled part :=
  List.forall_mem_cons.2 ⟨⟨ascending, rfl⟩, settled⟩

theorem settled_map_ofInt (bytes : List UInt8) :
    ∀ part ∈ partsOfItems (bytes.map fun byte => ofInt byte.toNat), Settled part := by
  induction bytes with
  | nil => nofun
  | cons byte bytes ih =>
      rw [List.map_cons, partsOfItems, List.forall_mem_append]
      exact ⟨settled_ofInt byte.toNat, ih⟩

mutual

theorem settled_of_toValue : ∀ (datum : Datum) (value : Value), datum.toValue = .ok value →
    ∀ part ∈ value.parts, Settled part
  | .nothing, _, rfl => settled_alone rfl ⟨trivial, rfl⟩
  | .bool _, _, rfl => settled_alone rfl ⟨trivial, rfl⟩
  | .integer value, _, converted => by
      rw [Datum.toValue] at converted
      split at converted
      · cases converted
        exact settled_alone rfl ⟨trivial, rfl⟩
      · cases converted
  | .double value, _, rfl => settled_ofDouble value
  | .single value, _, rfl => settled_ofDouble value
  | .char _, _, rfl => settled_alone rfl ⟨trivial, rfl⟩
  | .text _, _, rfl => settled_alone rfl ⟨trivial, rfl⟩
  | .bytes value, _, rfl => settled_sequence (settled_map_ofInt value)
  | .list items, _, converted => by
      rw [Datum.toValue] at converted
      obtain ⟨values, found, rfl⟩ := Except.map_eq_ok_iff.1 converted
      exact settled_sequence (settled_of_itemValues items values found)
  | .mapping pairs, _, converted => by
      rw [Datum.toValue] at converted
      obtain ⟨entries, found, rfl⟩ := Except.map_eq_ok_iff.1 converted
      obtain ⟨ascending, settled⟩ :=
        settled_of_entryValues pairs [] entries Entries.ascending_nil nofun found
      exact settled_mapping ascending settled
  | .caseName _, _, rfl => settled_alone rfl ⟨trivial, rfl⟩
  | .caseOf name content, _, converted => by
      rw [Datum.toValue] at converted
      obtain ⟨value, found, rfl⟩ := Except.map_eq_ok_iff.1 converted
      have inner := settled_of_toValue content value found
      exact settled_mapping (List.pairwise_singleton _ _)
        (List.forall_mem_append.2 ⟨inner, nofun⟩)
  | .refusal _, _, converted => nomatch converted

theorem settled_of_itemValues : ∀ (items : List Datum) (values : List Value),
    Datum.itemValues items = .ok values → ∀ part ∈ partsOfItems values, Settled part
  | [], _, rfl => nofun
  | item :: items, _, converted => by
      unfold Datum.itemValues at converted
      split at converted
      · next value found =>
          obtain ⟨values, later, rfl⟩ := Except.map_eq_ok_iff.1 converted
          exact List.forall_mem_append.2
            ⟨settled_of_toValue item value found, settled_of_itemValues items values later⟩
      · cases converted

/-- The names stay ascending, in whatever order the keys of the data come. -/
theorem settled_of_entryValues : ∀ (pairs : List (Datum × Datum)) (before after : Entries Value),
    before.Ascending → (∀ part ∈ partsOfEntries before, Settled part) →
    Datum.entryValues pairs before = .ok after →
      after.Ascending ∧ ∀ part ∈ partsOfEntries after, Settled part
  | [], _, _, ascending, settled, rfl => ⟨ascending, settled⟩
  | (name, content) :: pairs, before, after, ascending, settled, converted => by
      unfold Datum.entryValues at converted
      split at converted
      · cases converted
      · next key _ =>
          split at converted
          · cases converted
          · next value found =>
              have inner := settled_of_toValue content value found
              refine settled_of_entryValues pairs (before.insert key value) after
                (ascending.insert key value) (fun part member => ?_) converted
              exact (mem_partsOfEntries_insert member).elim (inner part) (settled part)

end

/-- Nothing is left to replace in what comes of a conversion. -/
theorem toValue_toDatum_of_toValue {datum : Datum} {value : Value}
    (converted : datum.toValue = .ok value) : value.toDatum.toValue = .ok value := by
  have settled := settled_of_toValue datum value converted
  have again := toValue_toDatum value fun part member => (settled part member).1
  rwa [detach_eq_self value fun part member => (settled part member).2] at again

theorem ofDatum_eq_ok_iff {datum : Datum} {value : Value} :
    ofDatum datum = .ok value ↔ datum.toValue = .ok value := by
  rw [ofDatum]
  cases datum.toValue <;> simp [Except.mapError]

/--
The conversion of a value whose mappings have ascending names succeeds.  It
gives the value with the string of its text in the place of each object, which
equals the value just if there are no objects.  What comes of a conversion does
not change when it is converted again.
-/
theorem ofDatum_toDatum (value : Value) (ordered : ∀ part ∈ value.parts, part.NamesAscend) :
    ofDatum value.toDatum = .ok value.detach ∧
      (∀ datum result, ofDatum datum = .ok result → ofDatum result.toDatum = .ok result) ∧
      (value.detach.equals value ↔ ∀ part ∈ value.parts, part.isObject = false) := by
  simp only [ofDatum_eq_ok_iff]
  exact ⟨toValue_toDatum value ordered, fun _ _ => toValue_toDatum_of_toValue,
    detach_equals_iff value⟩

/-- An object among numbers in a mapping of a sequence. -/
theorem ofDatum_toDatum_nested :
    let host : HostObject Value := ⟨0, fun _ => none, fun _ => none, some "leto", "Named"⟩
    let one := number (.integer 1 (by decide))
    let value := sequence [.mapping [("age", one), ("name", .object host)], .nil]
    let result := sequence [.mapping [("age", one), ("name", .string "leto")], .nil]
    ofDatum value.toDatum = .ok result ∧ ofDatum result.toDatum = .ok result ∧
      ¬ result.equals value := by
  intro host one value result
  have ascending (age name : Value) : Entries.Ascending [("age", age), ("name", name)] :=
    List.pairwise_pair.2 (show "age" < "name" by decide)
  have ordered : ∀ part ∈ value.parts, part.NamesAscend := by
    simp [value, one, parts, partsOfItems, partsOfEntries, NamesAscend, ascending]
  obtain ⟨converted, again, iff⟩ := ofDatum_toDatum value ordered
  refine ⟨converted, again value.toDatum result converted, fun equal => ?_⟩
  have plain := iff.1 equal (.object host) (by simp [value, parts, partsOfItems, partsOfEntries])
  cases plain

end Value

end Stencil
