import Mathlib.Data.String.Basic
import Stencil.Entries

/-!
# Merging entries

What a name stands for after two maps have been merged, when every name has one
entry at most.  This is so for all maps that come of setting entries, because
their names are ascending.
-/

namespace Stencil

namespace Entries

variable {α : Type}

/-- The names of a map are ascending, so that there is one entry for each. -/
def Ascending (entries : Entries α) : Prop :=
  entries.names.Pairwise (· < ·)

theorem ascending_nil : Ascending ([] : Entries α) :=
  .nil

theorem Ascending.nodup {entries : Entries α} (ascending : entries.Ascending) :
    entries.names.Nodup :=
  List.Pairwise.imp (fun less => ne_of_lt less) ascending

theorem mem_names_insert {name other : String} {value : α} {entries : Entries α}
    (member : other ∈ (insert name value entries).names) :
    other = name ∨ other ∈ entries.names := by
  induction entries with
  | nil => exact .inl (List.mem_singleton.1 member)
  | cons entry entries ih =>
      obtain ⟨first, kept⟩ := entry
      unfold insert at member
      split at member
      · exact List.mem_cons.1 member
      · split at member
        · exact (List.mem_cons.1 member).imp_right (List.mem_cons_of_mem _)
        · rcases List.mem_cons.1 member with rfl | later
          · exact .inr List.mem_cons_self
          · exact (ih later).imp_right (List.mem_cons_of_mem _)

theorem Ascending.insert {entries : Entries α} (ascending : entries.Ascending) (name : String)
    (value : α) : (entries.insert name value).Ascending := by
  induction entries with
  | nil => exact List.pairwise_singleton _ _
  | cons entry entries ih =>
      obtain ⟨first, kept⟩ := entry
      obtain ⟨before, later⟩ := List.pairwise_cons.1 ascending
      unfold Entries.insert
      split
      · next less =>
          refine List.pairwise_cons.2 ⟨fun other member => ?_, ascending⟩
          rcases List.mem_cons.1 member with rfl | behind
          · exact less
          · exact less.trans (before other behind)
      · next notLess =>
          split
          · next same =>
              subst same
              exact ascending
          · next differs =>
              refine List.pairwise_cons.2 ⟨fun other member => ?_, ih later⟩
              rcases mem_names_insert member with rfl | behind
              · exact lt_of_le_of_ne (not_lt.1 notLess) (Ne.symm differs)
              · exact before other behind

theorem Ascending.erase {entries : Entries α} (ascending : entries.Ascending) (name : String) :
    (entries.erase name).Ascending :=
  ascending.sublist (List.filter_sublist.map Prod.fst)

theorem Ascending.merge {target : Entries α} (ascending : target.Ascending) (source : Entries α) :
    (target.merge source).Ascending := by
  induction source generalizing target with
  | nil => exact ascending
  | cons entry source ih => exact ih (ascending.insert entry.1 entry.2)

/-- An entry whose name is behind all others is added at the end. -/
theorem insert_eq_concat {entries : Entries α} {name : String}
    (last : ∀ other ∈ entries.names, other < name) (value : α) :
    entries.insert name value = entries ++ [(name, value)] := by
  induction entries with
  | nil => rfl
  | cons entry entries ih =>
      obtain ⟨first, kept⟩ := entry
      have before : first < name := last first List.mem_cons_self
      have rest := ih fun other member => last other (List.mem_cons_of_mem _ member)
      rw [insert, if_neg before.not_gt, if_neg before.ne', rest, List.cons_append]

/-- Entries behind all others are added as they stand. -/
theorem merge_eq_append {settled entries : Entries α}
    (ascending : Ascending (settled ++ entries)) : settled.merge entries = settled ++ entries := by
  induction entries generalizing settled with
  | nil => exact (List.append_nil settled).symm
  | cons entry entries ih =>
      have last : ∀ other ∈ settled.names, other < entry.1 := fun other member => by
        rw [Ascending, names, List.map_append] at ascending
        exact (List.pairwise_append.1 ascending).2.2 other member entry.1 List.mem_cons_self
      have regrouped : settled ++ entry :: entries = (settled ++ [entry]) ++ entries := by simp
      rw [regrouped] at ascending ⊢
      rw [← ih ascending, ← insert_eq_concat last entry.2]
      rfl

theorem Ascending.ofList_eq {entries : Entries α} (ascending : entries.Ascending) :
    ofList entries = entries :=
  merge_eq_append ascending

theorem get?_eq_none {entries : Entries α} {name : String} (absent : name ∉ entries.names) :
    entries.get? name = none := by
  induction entries with
  | nil => rfl
  | cons entry entries ih =>
      obtain ⟨differs, later⟩ := not_or.1 (mt List.mem_cons.2 absent)
      rw [get?, if_neg differs, ih later]

/-- The entries of the source win, when every name has one at most. -/
theorem get?_merge {target source : Entries α} (nodup : source.names.Nodup) (name : String) :
    (merge target source).get? name = (source.get? name).or (target.get? name) := by
  induction source generalizing target with
  | nil => rfl
  | cons entry source ih =>
      obtain ⟨first, value⟩ := entry
      obtain ⟨absent, later⟩ := List.nodup_cons.1 nodup
      have rest := @ih (target.insert first value) later
      rw [get?_insert] at rest
      rw [get?_cons]
      refine rest.trans ?_
      by_cases same : name = first
      · subst same
        rw [get?_eq_none absent, if_pos rfl, if_pos rfl]
        rfl
      · rw [if_neg same, if_neg same]

end Entries

end Stencil
