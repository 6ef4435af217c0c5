/-!
# Named entries

Finite maps from names, kept as lists of pairs with ascending names.  Names are
ordered by their characters, which is also the order of their UTF-8 bytes.
-/

namespace Stencil

/-- A finite map from names: pairs with ascending names. -/
abbrev Entries (α : Type) :=
  List (String × α)

namespace Entries

variable {α : Type}

def get? : Entries α → String → Option α
  | [], _ => none
  | (other, value) :: entries, name =>
      if name = other then some value else get? entries name

def has (entries : Entries α) (name : String) : Bool :=
  (entries.get? name).isSome

/-- The map with an entry set: an earlier one of the same name is replaced. -/
def insert (name : String) (value : α) : Entries α → Entries α
  | [] => [(name, value)]
  | (other, kept) :: entries =>
      if name < other then
        (name, value) :: (other, kept) :: entries
      else if name = other then
        (name, value) :: entries
      else
        (other, kept) :: insert name value entries

def erase (name : String) (entries : Entries α) : Entries α :=
  entries.filter fun entry => entry.1 != name

/-- The map with all entries of another map, which win over its own. -/
def merge (target source : Entries α) : Entries α :=
  source.foldl (fun entries entry => entries.insert entry.1 entry.2) target

/-- The map of a list of pairs, of which the last wins. -/
def ofList (pairs : List (String × α)) : Entries α :=
  merge [] pairs

/-- The names that have an entry, in ascending order. -/
def names (entries : Entries α) : List String :=
  entries.map Prod.fst

@[simp]
theorem get?_nil (name : String) : get? ([] : Entries α) name = none :=
  rfl

@[simp]
theorem get?_cons (other name : String) (value : α) (entries : Entries α) :
    get? ((other, value) :: entries) name =
      if name = other then some value else get? entries name :=
  rfl

/-- After setting an entry, a name stands for what was set or for what it stood for. -/
theorem get?_insert (name asked : String) (value : α) (entries : Entries α) :
    get? (insert name value entries) asked =
      if asked = name then some value else get? entries asked := by
  induction entries with
  | nil => simp [insert]
  | cons entry entries ih =>
      obtain ⟨other, kept⟩ := entry
      simp only [insert]
      split
      · simp
      · split
        · next same =>
            subst same
            by_cases here : asked = name <;> simp [here]
        · next differs =>
            by_cases here : asked = other
            · subst here
              simp [Ne.symm differs]
            · simp [here, ih]

/-- After erasing an entry, its name stands for nothing. -/
theorem get?_erase (name asked : String) (entries : Entries α) :
    get? (erase name entries) asked =
      if asked = name then none else get? entries asked := by
  induction entries with
  | nil => simp [erase]
  | cons entry entries ih =>
      obtain ⟨other, kept⟩ := entry
      simp only [erase] at ih
      by_cases same : other = name
      · subst same
        simp only [erase, List.filter_cons, bne_self_eq_false, Bool.false_eq_true, if_false, ih,
          get?_cons]
        split <;> simp_all
      · by_cases here : asked = other
        · subst here
          simp [erase, same]
        · simp [erase, same, here, ih]

end Entries

end Stencil
