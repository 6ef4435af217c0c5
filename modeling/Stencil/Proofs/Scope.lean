import Stencil.Scope

/-!
# Paths through values

A path is followed member by member, so a longer path goes on from the value of
a shorter one.  From nil on everything is nil, and a path is without value only
where an object has neither a field nor a method for a name.
-/

namespace Stencil

namespace Value

/-- A value that holds nothing for a name, or nil. -/
inductive Lacks : Value → String → Prop
  | entry {entries : Entries Value} {name : String} (absent : entries.get? name = none) :
      Lacks (.mapping entries) name
  | item {items : List Value} {name : String} {index : Nat}
      (numbered : Decimal.readNatural? name.toList = some index) (beyond : items.length ≤ index) :
      Lacks (.sequence items) name
  | first : Lacks (.sequence []) "first"
  | last : Lacks (.sequence []) "last"
  | field {host : HostObject Value} {name : String} (isNil : host.field name = some .nil) :
      Lacks (.object host) name
  | method {host : HostObject Value} {name : String} (noField : host.field name = none)
      (isNil : host.method name = some .nil) : Lacks (.object host) name

theorem Lacks.member?_eq {value : Value} {name : String} (lacks : value.Lacks name) :
    value.member? name = some .nil := by
  cases lacks with
  | entry absent => rw [member?, absent, Option.getD_none]
  | @item items name index numbered beyond =>
      have unread : ∀ word ∈ ["size", "first", "last"],
          Decimal.readNatural? word.toList = none := by decide
      have unnamed : ∀ word ∈ ["size", "first", "last"], name ≠ word := by
        intro word member same
        rw [same, unread word member] at numbered
        cases numbered
      simp [member?, numbered, beyond, unnamed]
  | first => rfl
  | last => rfl
  | field isNil => rw [member?, HostObject.member, isNil, Option.some_or]
  | method noField isNil => rw [member?, HostObject.member, noField, isNil, Option.none_or]

/-- Only an object can be without a member. -/
theorem member?_eq_none_iff {value : Value} {name : String} :
    value.member? name = none ↔
      ∃ host, value = .object host ∧ host.field name = none ∧ host.method name = none := by
  cases value with
  | object host => simp [member?, HostObject.member]
  | _ => simp [member?]

theorem follow?_nil (names : List String) : Value.nil.follow? names = some .nil := by
  induction names with
  | nil => rfl
  | cons name names ih => exact ih

/-- A longer path goes on from where a shorter one leads. -/
theorem follow?_append (value : Value) (first second : List String) :
    value.follow? (first ++ second) = (value.follow? first).bind (·.follow? second) := by
  induction first generalizing value with
  | nil => rfl
  | cons name first ih =>
      rw [List.cons_append, follow?, follow?]
      cases value.member? name with
      | none => rfl
      | some next => exact ih next

/-- Members are without value just behind one that an object does not have. -/
theorem follow?_eq_none_iff {value : Value} {names : List String} :
    value.follow? names = none ↔
      ∃ before name behind host, names = before ++ name :: behind ∧
        value.follow? before = some (.object host) ∧
          host.field name = none ∧ host.method name = none := by
  constructor
  · intro stuck
    induction names generalizing value with
    | nil => cases stuck
    | cons name names ih =>
        rw [follow?] at stuck
        cases here : value.member? name with
        | none =>
            obtain ⟨host, rfl, noField, noMethod⟩ := member?_eq_none_iff.1 here
            exact ⟨[], name, names, host, rfl, rfl, noField, noMethod⟩
        | some next =>
            rw [here] at stuck
            obtain ⟨before, missing, behind, host, rfl, leads, lacks⟩ := ih stuck
            refine ⟨name :: before, missing, behind, host, rfl, ?_, lacks⟩
            rw [follow?, here]
            exact leads
  · rintro ⟨before, name, behind, host, rfl, leads, lacks⟩
    have missing : (Value.object host).member? name = none :=
      member?_eq_none_iff.2 ⟨host, rfl, lacks⟩
    rw [follow?_append, leads, Option.bind_some, follow?, missing]

end Value

namespace Scope

variable {scope : Scope} {path : List String}

theorem lookup?_cons (scope : Scope) (root : String) (names : List String) :
    scope.lookup? (root :: names) = ((scope.get? root).getD .nil).follow? names :=
  rfl

theorem lookup?_append (nonempty : path ≠ []) (names : List String) :
    scope.lookup? (path ++ names) = (scope.lookup? path).bind (·.follow? names) := by
  obtain ⟨root, members, rfl⟩ := List.exists_cons_of_ne_nil nonempty
  rw [List.cons_append, lookup?_cons, lookup?_cons, Value.follow?_append]

theorem lookup?_append_of_eq_none (unresolved : scope.lookup? path = none)
    (names : List String) : scope.lookup? (path ++ names) = none := by
  have nonempty : path ≠ [] := by
    rintro rfl
    cases unresolved
  rw [lookup?_append nonempty, unresolved, Option.bind_none]

theorem lookup?_append_of_eq_some {value : Value} (nonempty : path ≠ [])
    (found : scope.lookup? path = some value) (names : List String) :
    scope.lookup? (path ++ names) = value.follow? names := by
  rw [lookup?_append nonempty, found, Option.bind_some]

/-- A path is without value just if it leads through a member that an object does not have. -/
theorem lookup?_eq_none_iff :
    scope.lookup? path = none ↔
      ∃ before name behind host, before ≠ [] ∧ path = before ++ name :: behind ∧
        scope.lookup? before = some (.object host) ∧
          host.field name = none ∧ host.method name = none := by
  constructor
  · intro unresolved
    cases path with
    | nil => cases unresolved
    | cons root members =>
        rw [lookup?_cons] at unresolved
        obtain ⟨before, name, behind, host, rfl, leads, lacks⟩ :=
          Value.follow?_eq_none_iff.1 unresolved
        exact ⟨root :: before, name, behind, host, by simp, rfl, leads, lacks⟩
  · rintro ⟨before, name, behind, host, nonempty, rfl, leads, lacks⟩
    rw [lookup?_append_of_eq_some nonempty leads]
    exact Value.follow?_eq_none_iff.2 ⟨[], name, behind, host, rfl, rfl, lacks⟩

end Scope

end Stencil
