import Stencil.Proofs.Checked
import Stencil.Proofs.Node.Agreement

/-!
# The variables that rendering sets

Captures and assigns set variables of the scope, one after the other, in the
order in which they come to their end; of branches and cases only those that are
taken.  What a name stands for behind the nodes is what was set last, or what it
stood for before.
-/

namespace Stencil

/-- A variable that is set while nodes are rendered, and what it is set to. -/
structure Setting where
  name : String
  value : Value

namespace Setting

def valueFor? (name : String) (setting : Setting) : Option Value :=
  if name = setting.name then some setting.value else none

/-- What the last of some settings sets a variable to, if one does. -/
def latest (name : String) (settings : List Setting) : Option Value :=
  settings.reverse.findSome? (valueFor? name)

theorem latest_cons (name : String) (setting : Setting) (settings : List Setting) :
    latest name (setting :: settings) = (latest name settings).or (setting.valueFor? name) := by
  rw [latest, List.reverse_cons, List.findSome?_append, List.findSome?_cons, latest]
  cases setting.valueFor? name <;> rfl

theorem latest_eq_none {name : String} {settings : List Setting}
    (unset : ∀ setting ∈ settings, setting.name ≠ name) : latest name settings = none := by
  rw [latest, List.findSome?_eq_none_iff]
  intro setting member
  rw [valueFor?, if_neg (Ne.symm (unset setting (List.mem_reverse.1 member)))]

end Setting

namespace Scope

/-- The scope after some variables have been set. -/
def setAll (scope : Scope) (settings : List Setting) : Scope :=
  settings.foldl (fun scope setting => scope.set setting.name setting.value) scope

@[simp]
theorem setAll_nil (scope : Scope) : scope.setAll [] = scope :=
  rfl

theorem setAll_append (scope : Scope) (first second : List Setting) :
    scope.setAll (first ++ second) = (scope.setAll first).setAll second :=
  List.foldl_append

theorem data_setAll (scope : Scope) (settings : List Setting) :
    (scope.setAll settings).data = scope.data := by
  induction settings generalizing scope with
  | nil => rfl
  | cons setting settings ih => exact ih (scope.set setting.name setting.value)

/-- The last setting of a variable counts. -/
theorem get?_locals_setAll (scope : Scope) (settings : List Setting) (name : String) :
    (scope.setAll settings).locals.get? name =
      (Setting.latest name settings).or (scope.locals.get? name) := by
  induction settings generalizing scope with
  | nil => rfl
  | cons setting settings ih =>
      have here : (scope.set setting.name setting.value).locals.get? name =
          (setting.valueFor? name).or (scope.locals.get? name) := by
        rw [set, Entries.get?_insert, Setting.valueFor?]
        split <;> rfl
      rw [Setting.latest_cons, Option.or_assoc, ← here]
      exact ih (scope.set setting.name setting.value)

theorem get?_setAll (scope : Scope) (settings : List Setting) (name : String) :
    (scope.setAll settings).get? name = (Setting.latest name settings).or (scope.get? name) := by
  rw [get?, get?, get?_locals_setAll, data_setAll, Option.or_assoc]

end Scope

namespace Node

/-! ## The settings of a run -/

mutual

def settings (config : Config) : Node → Rendering → List Setting
  | .text _, _ | .output _, _ | .custom _ _, _ => []
  | .conditional branches, rendering => settingsOfBranches config branches rendering
  | .switch subject cases none, rendering =>
      (settingsOfCases config (subject.eval rendering.scope) cases rendering).getD []
  | .switch subject cases (some body), rendering =>
      (settingsOfCases config (subject.eval rendering.scope) cases rendering).getD
        (settingsOfBody config body rendering)
  | .capture name body, rendering =>
      settingsOfBody config body { rendering with output := "" } ++
        match renderBody config body { rendering with output := "" } with
        | .ok captured => [⟨name, .string captured.output⟩]
        | .error _ => []
  | .assign name value, rendering =>
      match value.eval? config rendering.scope with
      | .ok result => [⟨name, result.getD .nil⟩]
      | .error _ => []

/-- The settings of nodes one after the other, up to the first that cannot be rendered. -/
def settingsOfBody (config : Config) : List Node → Rendering → List Setting
  | [], _ => []
  | node :: nodes, rendering =>
      settings config node rendering ++
        match render config node rendering with
        | .ok next => settingsOfBody config nodes next
        | .error _ => []

/-- The settings of the first branch that applies. -/
def settingsOfBranches (config : Config) : List (Branch Node) → Rendering → List Setting
  | [], _ => []
  | ⟨condition, body⟩ :: branches, rendering =>
      if Branch.applies rendering.scope ⟨condition, body⟩ then
        settingsOfBody config body rendering
      else
        settingsOfBranches config branches rendering

/-- The settings of the first case that applies to a subject, if one does. -/
def settingsOfCases (config : Config) (subject : Value) :
    List (When Node) → Rendering → Option (List Setting)
  | [], _ => none
  | ⟨values, body⟩ :: cases, rendering =>
      if When.applies rendering.scope subject ⟨values, body⟩ then
        some (settingsOfBody config body rendering)
      else
        settingsOfCases config subject cases rendering

end

variable {config : Config}

mutual

theorem scope_of_render : ∀ (node : Node) (rendering next : Rendering),
    render config node rendering = .ok next →
      next.scope = rendering.scope.setAll (settings config node rendering)
  | .text content, rendering, next, rendered => by
      cases rendered
      rfl
  | .output value, rendering, next, rendered => by
      obtain ⟨text, -, rfl⟩ := Except.map_eq_ok_iff.1 rendered
      rfl
  | .conditional branches, rendering, next, rendered =>
      scope_of_renderBranches branches rendering next rendered
  | .switch subject cases none, rendering, next, rendered =>
      scope_of_renderCases (subject.eval rendering.scope) cases rendering next rendered fun last => by
        cases last
        rfl
  | .switch subject cases (some body), rendering, next, rendered =>
      scope_of_renderCases (subject.eval rendering.scope) cases rendering next rendered
        (scope_of_renderBody body rendering next)
  | .capture name body, rendering, next, rendered => by
      obtain ⟨captured, inner, rfl⟩ := Except.map_eq_ok_iff.1 rendered
      have left := scope_of_renderBody body { rendering with output := "" } captured inner
      rw [settings, inner, Scope.setAll_append, ← left]
      rfl
  | .assign name value, rendering, next, rendered => by
      obtain ⟨result, evaluated, rfl⟩ := Except.map_eq_ok_iff.1 rendered
      rw [settings, evaluated]
      rfl
  | .custom name markup, rendering, next, rendered => by
      rw [render] at rendered
      split at rendered <;>
      · cases rendered
        rfl

theorem scope_of_renderBody : ∀ (nodes : List Node) (rendering next : Rendering),
    renderBody config nodes rendering = .ok next →
      next.scope = rendering.scope.setAll (settingsOfBody config nodes rendering)
  | [], rendering, next, rendered => by
      cases rendered
      rfl
  | node :: nodes, rendering, next, rendered => by
      obtain ⟨middle, here, later⟩ := renderBody_cons_eq_ok_iff.1 rendered
      rw [settingsOfBody, here, Scope.setAll_append, ← scope_of_render node rendering middle here]
      exact scope_of_renderBody nodes middle next later

theorem scope_of_renderBranches : ∀ (branches : List (Branch Node)) (rendering next : Rendering),
    renderBranches config branches rendering = .ok next →
      next.scope = rendering.scope.setAll (settingsOfBranches config branches rendering)
  | [], rendering, next, rendered => by
      cases rendered
      rfl
  | ⟨condition, body⟩ :: branches, rendering, next, rendered => by
      rw [renderBranches] at rendered
      rw [settingsOfBranches]
      split at rendered
      · next applies =>
          rw [if_pos applies]
          exact scope_of_renderBody body rendering next rendered
      · next passes =>
          rw [if_neg passes]
          exact scope_of_renderBranches branches rendering next rendered

/-- The case that applies is rendered, or something else if none does. -/
theorem scope_of_renderCases (subject : Value) :
    ∀ (cases : List (When Node)) (rendering next : Rendering)
      {otherwise : Except Fault Rendering} {last : List Setting},
      (renderCases config subject cases rendering).getD otherwise = .ok next →
        (otherwise = .ok next → next.scope = rendering.scope.setAll last) →
          next.scope = rendering.scope.setAll
            ((settingsOfCases config subject cases rendering).getD last)
  | [], rendering, next, otherwise, last, rendered, same => same rendered
  | ⟨values, body⟩ :: cases, rendering, next, otherwise, last, rendered, same => by
      rw [renderCases] at rendered
      rw [settingsOfCases]
      split at rendered
      · next applies =>
          rw [if_pos applies]
          exact scope_of_renderBody body rendering next rendered
      · next passes =>
          rw [if_neg passes]
          exact scope_of_renderCases subject cases rendering next rendered same

end

/-! ## Where settings come from -/

/-- A node stands among others or, at whatever depth, inside one of them. -/
inductive OccursIn (node : Node) : List Node → Prop
  | here {nodes : List Node} (member : node ∈ nodes) : OccursIn node nodes
  | branch {nodes : List Node} {branches : List (Branch Node)} {branch : Branch Node}
      (member : .conditional branches ∈ nodes) (part : branch ∈ branches)
      (inner : OccursIn node branch.body) : OccursIn node nodes
  | case {nodes : List Node} {subject : Expr} {cases : List (When Node)}
      {otherwise : Option (List Node)} {case : When Node}
      (member : .switch subject cases otherwise ∈ nodes) (part : case ∈ cases)
      (inner : OccursIn node case.body) : OccursIn node nodes
  | otherwise {nodes : List Node} {subject : Expr} {cases : List (When Node)} {body : List Node}
      (member : .switch subject cases (some body) ∈ nodes) (inner : OccursIn node body) :
      OccursIn node nodes
  | capture {nodes : List Node} {name : String} {body : List Node}
      (member : .capture name body ∈ nodes) (inner : OccursIn node body) : OccursIn node nodes

theorem OccursIn.mono {node : Node} {nodes others : List Node} (occurs : OccursIn node nodes)
    (more : nodes ⊆ others) : OccursIn node others := by
  cases occurs with
  | here member => exact .here (more member)
  | branch member part inner => exact .branch (more member) part inner
  | case member part inner => exact .case (more member) part inner
  | otherwise member inner => exact .otherwise (more member) inner
  | capture member inner => exact .capture (more member) inner

/--
What a node sets when it is rendered: a capture the text that is written inside it,
an assign its value, nil where it has none.
-/
inductive Sets (config : Config) : Node → Setting → Prop
  | capture {name : String} {body : List Node} {scope : Scope} {captured : Rendering}
      (rendered : renderBody config body ⟨scope, ""⟩ = .ok captured) :
      Sets config (.capture name body) ⟨name, .string captured.output⟩
  | assign {name : String} {value : Output} {scope : Scope} {result : Option Value}
      (evaluated : value.eval? config scope = .ok result) :
      Sets config (.assign name value) ⟨name, result.getD .nil⟩

mutual

theorem sets_of_mem_settings : ∀ (node : Node) (rendering : Rendering),
    ∀ setting ∈ settings config node rendering,
      ∃ setter, OccursIn setter [node] ∧ Sets config setter setting
  | .conditional branches, rendering, setting, member => by
      obtain ⟨branch, part, setter, inner, sets⟩ :=
        sets_of_mem_settingsOfBranches branches rendering setting member
      exact ⟨setter, .branch (List.mem_singleton_self _) part inner, sets⟩
  | .switch subject cases none, rendering, setting, member => by
      obtain ⟨case, part, setter, inner, sets⟩ | last :=
        sets_of_mem_settingsOfCases (subject.eval rendering.scope) cases rendering [] setting member
      · exact ⟨setter, .case (List.mem_singleton_self _) part inner, sets⟩
      · exact absurd last List.not_mem_nil
  | .switch subject cases (some body), rendering, setting, member => by
      obtain ⟨case, part, setter, inner, sets⟩ | last :=
        sets_of_mem_settingsOfCases (subject.eval rendering.scope) cases rendering _ setting member
      · exact ⟨setter, .case (List.mem_singleton_self _) part inner, sets⟩
      · obtain ⟨setter, inner, sets⟩ := sets_of_mem_settingsOfBody body rendering setting last
        exact ⟨setter, .otherwise (List.mem_singleton_self _) inner, sets⟩
  | .capture name body, rendering, setting, member => by
      rcases List.mem_append.1 member with earlier | own
      · obtain ⟨setter, inner, sets⟩ :=
          sets_of_mem_settingsOfBody body { rendering with output := "" } setting earlier
        exact ⟨setter, .capture (List.mem_singleton_self _) inner, sets⟩
      · refine ⟨.capture name body, .here (List.mem_singleton_self _), ?_⟩
        cases captured : renderBody config body { rendering with output := "" } with
        | error fault => simp [captured] at own
        | ok next =>
            rw [captured, List.mem_singleton] at own
            subst own
            exact .capture captured
  | .assign name value, rendering, setting, member => by
      refine ⟨.assign name value, .here (List.mem_singleton_self _), ?_⟩
      rw [settings] at member
      cases evaluated : value.eval? config rendering.scope with
      | error fault => simp [evaluated] at member
      | ok result =>
          rw [evaluated, List.mem_singleton] at member
          subst member
          exact .assign evaluated

theorem sets_of_mem_settingsOfBody : ∀ (nodes : List Node) (rendering : Rendering),
    ∀ setting ∈ settingsOfBody config nodes rendering,
      ∃ setter, OccursIn setter nodes ∧ Sets config setter setting
  | node :: nodes, rendering, setting, member => by
      rcases List.mem_append.1 member with first | later
      · obtain ⟨setter, occurs, sets⟩ := sets_of_mem_settings node rendering setting first
        exact ⟨setter, occurs.mono (by simp), sets⟩
      · cases here : render config node rendering with
        | error fault => simp [here] at later
        | ok next =>
            rw [here] at later
            obtain ⟨setter, occurs, sets⟩ := sets_of_mem_settingsOfBody nodes next setting later
            exact ⟨setter, occurs.mono (by simp), sets⟩

theorem sets_of_mem_settingsOfBranches : ∀ (branches : List (Branch Node)) (rendering : Rendering),
    ∀ setting ∈ settingsOfBranches config branches rendering,
      ∃ branch ∈ branches, ∃ setter, OccursIn setter branch.body ∧ Sets config setter setting
  | ⟨condition, body⟩ :: branches, rendering, setting, member => by
      rw [settingsOfBranches] at member
      split at member
      · exact ⟨⟨condition, body⟩, List.mem_cons_self,
          sets_of_mem_settingsOfBody body rendering setting member⟩
      · obtain ⟨branch, part, found⟩ :=
          sets_of_mem_settingsOfBranches branches rendering setting member
        exact ⟨branch, List.mem_cons_of_mem _ part, found⟩

theorem sets_of_mem_settingsOfCases (subject : Value) :
    ∀ (cases : List (When Node)) (rendering : Rendering) (last : List Setting),
      ∀ setting ∈ (settingsOfCases config subject cases rendering).getD last,
        (∃ case ∈ cases, ∃ setter, OccursIn setter case.body ∧ Sets config setter setting) ∨
          setting ∈ last
  | [], rendering, last, setting, member => .inr member
  | ⟨values, body⟩ :: cases, rendering, last, setting, member => by
      rw [settingsOfCases] at member
      split at member
      · exact .inl ⟨⟨values, body⟩, List.mem_cons_self,
          sets_of_mem_settingsOfBody body rendering setting member⟩
      · obtain ⟨case, part, found⟩ | last :=
          sets_of_mem_settingsOfCases subject cases rendering last setting member
        · exact .inl ⟨case, List.mem_cons_of_mem _ part, found⟩
        · exact .inr last

end

/-! ## The scope behind nodes -/

/-- The variable that a capture or an assign sets. -/
def target? : Node → Option String
  | .capture name _ | .assign name _ => some name
  | _ => none

theorem Sets.target?_eq {node : Node} {setting : Setting} (sets : Sets config node setting) :
    node.target? = some setting.name := by
  cases sets <;> rfl

/--
What nodes leave of a scope.  The data is as it was, and so is everything that a
name leads to which no capture or assign among them sets.  Other names stand for
what they stood for before, or for what the last capture or assign to them that
was rendered has set, whatever the data has for them.
-/
theorem frame_of_renderBody {nodes : List Node} {rendering next : Rendering}
    (rendered : renderBody config nodes rendering = .ok next) :
    next.scope.data = rendering.scope.data ∧
      (∀ name, (∀ node, OccursIn node nodes → node.target? ≠ some name) →
        next.scope.get? name = rendering.scope.get? name ∧
          ∀ members, next.scope.lookup? (name :: members) =
            rendering.scope.lookup? (name :: members)) ∧
      (∀ name, Setting.latest name (settingsOfBody config nodes rendering) = none →
        next.scope.get? name = rendering.scope.get? name) ∧
      (∀ name value, Setting.latest name (settingsOfBody config nodes rendering) = some value →
        ∀ data, (next.scope.withData data).get? name = some value ∧
          ∀ members, (next.scope.withData data).lookup? (name :: members) =
            value.follow? members) ∧
      ∀ setting ∈ settingsOfBody config nodes rendering,
        ∃ node, OccursIn node nodes ∧ Sets config node setting := by
  have origin : ∀ setting ∈ settingsOfBody config nodes rendering,
      ∃ node, OccursIn node nodes ∧ Sets config node setting :=
    sets_of_mem_settingsOfBody nodes rendering
  have scope := scope_of_renderBody nodes rendering next rendered
  generalize settingsOfBody config nodes rendering = settings at origin scope
  have unset : ∀ name, Setting.latest name settings = none →
      next.scope.get? name = rendering.scope.get? name := by
    intro name none
    rw [scope, Scope.get?_setAll, none, Option.none_or]
  refine ⟨by rw [scope, Scope.data_setAll], fun name untargeted => ?_, unset,
    fun name value latest data => ?_, origin⟩
  · have same : next.scope.get? name = rendering.scope.get? name := by
      refine unset name (Setting.latest_eq_none fun setting member named => ?_)
      obtain ⟨node, occurs, sets⟩ := origin setting member
      exact untargeted node occurs (named ▸ sets.target?_eq)
    exact ⟨same, fun members => by rw [Scope.lookup?, Scope.lookup?, same]⟩
  · have found : (next.scope.withData data).get? name = some value := by
      rw [Scope.get?, Scope.withData, scope, Scope.get?_locals_setAll, latest, Option.some_or,
        Option.some_or]
    exact ⟨found, fun members => by rw [Scope.lookup?, found, Option.getD_some]⟩

/-- A nil set inside a capture hides the data; a branch that is not taken sets nothing. -/
theorem frame_of_renderBody_nested :
    let nodes : List Node :=
      [.capture "a" [.assign "b" ⟨.literal .nil, []⟩, .text "x"],
        .conditional [⟨some (.path ["b"]), [.assign "c" ⟨.literal (.string "y"), []⟩]⟩]]
    let data : Context := ⟨[("a", .string "1"), ("b", .string "2"), ("c", .string "3")]⟩
    ∃ next, renderBody .empty nodes ⟨.start data (Moment.ofDate ⟨0⟩), "z"⟩ = .ok next ∧
      next.scope.data = data ∧ next.scope.lookup? ["a"] = some (.string "x") ∧
        next.scope.lookup? ["b"] = some .nil ∧ next.scope.lookup? ["c"] = some (.string "3") := by
  intro nodes data
  obtain ⟨next, rendered⟩ :
      ∃ next, renderBody .empty nodes ⟨.start data (Moment.ofDate ⟨0⟩), "z"⟩ = .ok next :=
    ⟨_, rfl⟩
  obtain ⟨same, -, unset, shadows, -⟩ := frame_of_renderBody rendered
  have own : next.scope.withData data = next.scope := congrArg (next.scope.withData ·) same.symm
  have text := (shadows "a" (.string "x") rfl data).2 []
  have hidden := (shadows "b" .nil rfl data).2 []
  rw [own] at text hidden
  refine ⟨next, rendered, same, text, hidden, ?_⟩
  rw [Scope.lookup?, unset "c" rfl]
  rfl

end Node

end Stencil
