import Mathlib
import Stencil.Proofs.Entries
import Stencil.Proofs.Node.Compilation
import Stencil.Proofs.Node.Extension
import Stencil.Session

/-!
# What filters a template uses

A template uses the filters that its configuration had when the template was
compiled: the last one registered there under a name, else the one that the
configuration began with.  Nothing that is done later changes what the template
renders.
-/

namespace Stencil

/-! ## Registrations -/

namespace Step

/-- The filter that a step registers under a name for all standard configurations to come. -/
def global? (name : String) : Step → Option Filter
  | .registerGlobal other filter => if name = other then some filter else none
  | _ => none

/-- The filter that a step registers under a name in a configuration. -/
def local? (config : Nat) (name : String) : Step → Option Filter
  | .registerFilter number other filter =>
      if number = config ∧ name = other then some filter else none
  | _ => none

/-- What the last of some steps registers that registers anything. -/
def latest (registered : Step → Option Filter) (steps : List Step) : Option Filter :=
  steps.reverse.findSome? registered

theorem latest_cons (registered : Step → Option Filter) (step : Step) (steps : List Step) :
    latest registered (step :: steps) = (latest registered steps).or (registered step) := by
  rw [latest, List.reverse_cons, List.findSome?_append, List.findSome?_cons, latest]
  cases registered step <;> rfl

theorem latest_append (registered : Step → Option Filter) (first second : List Step) :
    latest registered (first ++ second) = (latest registered second).or (latest registered first) := by
  rw [latest, List.reverse_append, List.findSome?_append]
  rfl

theorem latest_singleton (registered : Step → Option Filter) (step : Step) :
    latest registered [step] = registered step := by
  rw [latest_cons]
  rfl

/-- The filter that a name stands for at the beginning of a configuration that a step makes after
some steps: in a standard one the last registered, else the built-in one. -/
def inherited (older : List Step) (name : String) : Step → Option Filter
  | .newStandard => (latest (global? name) older).or (Entries.get? Filter.builtin name)
  | _ => none

/-- The filter that a name stands for in a configuration some steps after it has been made. -/
def resolve (older : List Step) (create : Step) (config : Nat) (newer : List Step)
    (name : String) : Option Filter :=
  (latest (local? config name) newer).or (inherited older name create)

end Step

/-! ## Configurations at their beginning -/

theorem Config.filter?_of_registerTag? {config next : Config} {name : String} {tag : CustomTag}
    (registered : config.registerTag? name tag = some next) (asked : String) :
    next.filter? asked = config.filter? asked := by
  unfold registerTag? at registered
  split at registered
  · cases registered
  · cases registered
    rfl

namespace Registry

theorem nodup_builtin : (Entries.names Filter.builtin).Nodup := by
  decide

/-- Registered filters win over built-in ones. -/
theorem filter?_standard {registry : Registry} (ascending : registry.filters.Ascending)
    (name : String) :
    registry.standard.filter? name =
      (registry.filters.get? name).or (Entries.get? Filter.builtin name) := by
  rw [Config.filter?, standard, Entries.get?_merge ascending.nodup, Entries.ofList,
    Entries.get?_merge nodup_builtin]
  simp

end Registry

namespace Session

/-! ## What steps leave -/

/--
What is left of a session after some steps: what has been registered last is found
first, in the registry and in each configuration, and templates stay.
-/
structure Follows (session : Session) (steps : List Step) (next : Session) : Prop where
  registry : ∀ name, next.registry.filters.get? name =
    (Step.latest (Step.global? name) steps).or (session.registry.filters.get? name)
  ascending : session.registry.filters.Ascending → next.registry.filters.Ascending
  configs : ∀ number config, session.configs[number]? = some config →
    ∃ later, next.configs[number]? = some later ∧ ∀ name, later.filter? name =
      (Step.latest (Step.local? number name) steps).or (config.filter? name)
  templates : session.templates <+: next.templates

theorem follows_nil (session : Session) : Follows session [] session where
  registry _ := rfl
  ascending := id
  configs _ config here := ⟨config, here, fun _ => rfl⟩
  templates := List.prefix_refl _

theorem Follows.append {session middle last : Session} {first second : List Step}
    (here : Follows session first middle) (later : Follows middle second last) :
    Follows session (first ++ second) last where
  registry name := by
    rw [later.registry, here.registry, Step.latest_append, Option.or_assoc]
  ascending known := later.ascending (here.ascending known)
  configs number config known := by
    obtain ⟨next, nextKnown, nextFilters⟩ := here.configs number config known
    obtain ⟨last, lastKnown, lastFilters⟩ := later.configs number next nextKnown
    refine ⟨last, lastKnown, fun name => ?_⟩
    rw [lastFilters, nextFilters, Step.latest_append, Option.or_assoc]
  templates := here.templates.trans later.templates

/-- What a step leaves that registers no filter globally and makes nothing anew. -/
theorem follows_of_configs {session next : Session} {step : Step}
    (silent : ∀ name, step.global? name = none) (registry : next.registry = session.registry)
    (configs : ∀ number config, session.configs[number]? = some config →
      ∃ later, next.configs[number]? = some later ∧ ∀ name, later.filter? name =
        (step.local? number name).or (config.filter? name))
    (templates : session.templates <+: next.templates) : Follows session [step] next where
  registry name := by
    rw [Step.latest_singleton, silent, registry, Option.none_or]
  ascending known := by
    rw [registry]
    exact known
  configs number config known := by
    simpa only [Step.latest_singleton] using configs number config known
  templates

theorem getElem?_of_prefix {α : Type} {first second : List α} {number : Nat} {item : α}
    (grows : first <+: second) (known : first[number]? = some item) :
    second[number]? = some item := by
  obtain ⟨bound, rfl⟩ := List.getElem?_eq_some_iff.1 known
  exact List.prefix_iff_getElem?.1 grows number bound

/-- Configurations stay as they are, and others may be made. -/
theorem follows_of_prefix {session next : Session} {step : Step}
    (silent : ∀ name, step.global? name = none ∧ ∀ number, step.local? number name = none)
    (registry : next.registry = session.registry) (configs : session.configs <+: next.configs)
    (templates : session.templates <+: next.templates) : Follows session [step] next := by
  refine follows_of_configs (fun name => (silent name).1) registry ?_ templates
  intro number config known
  refine ⟨config, getElem?_of_prefix configs known, fun name => ?_⟩
  rw [(silent name).2, Option.none_or]

theorem follows_unchanged (session : Session) {step : Step}
    (silent : ∀ name, step.global? name = none ∧ ∀ number, step.local? number name = none) :
    Follows session [step] session :=
  follows_of_prefix silent rfl (List.prefix_refl _) (List.prefix_refl _)

/-- One configuration is replaced by another one, in which a step has registered something. -/
theorem follows_replace {session : Session} {step : Step} {number : Nat} {present next : Config}
    (silent : ∀ name, step.global? name = none) (here : session.configs[number]? = some present)
    (filters : ∀ name, next.filter? name = (step.local? number name).or (present.filter? name))
    (elsewhere : ∀ other, other ≠ number → ∀ name, step.local? other name = none) :
    Follows session [step] (session.replace number next) := by
  refine follows_of_configs silent rfl ?_ (List.prefix_refl _)
  intro other config known
  by_cases same : other = number
  · subst same
    obtain rfl : present = config := Option.some.inj (here.symm.trans known)
    obtain ⟨bound, -⟩ := List.getElem?_eq_some_iff.1 here
    exact ⟨next, List.getElem?_set_self bound, filters⟩
  · refine ⟨config, ?_, fun name => by rw [elsewhere other same, Option.none_or]⟩
    rw [replace, List.getElem?_set_ne (Ne.symm same), known]

/-- What a single step leaves. -/
theorem follows_step (session : Session) (step : Step) :
    Follows session [step] (session.step step).1 := by
  cases step with
  | registerGlobal name filter =>
      refine ⟨fun asked => ?_, fun known => known.insert name filter, ?_, List.prefix_refl _⟩
      · rw [Step.latest_singleton]
        refine (Entries.get?_insert name asked filter _).trans ?_
        by_cases same : asked = name <;> simp [Step.global?, same]
      · exact fun _ config known => ⟨config, known, fun asked => by
          rw [Step.latest_singleton]
          rfl⟩
  | newEmpty =>
      exact follows_of_prefix (fun _ => ⟨rfl, fun _ => rfl⟩) rfl (List.prefix_append _ _)
        (List.prefix_refl _)
  | newStandard =>
      exact follows_of_prefix (fun _ => ⟨rfl, fun _ => rfl⟩) rfl (List.prefix_append _ _)
        (List.prefix_refl _)
  | registerFilter number name filter =>
      rw [Session.step]
      split
      · next missing =>
          -- The step names no configuration that there is.
          refine follows_of_configs (fun _ => rfl) rfl ?_ (List.prefix_refl _)
          intro other config known
          have differs : number ≠ other := by
            rintro rfl
            rw [missing] at known
            cases known
          exact ⟨config, known, fun asked => by simp [Step.local?, differs]⟩
      · next present here =>
          refine follows_replace (fun _ => rfl) here (fun asked => ?_) fun other differs asked => ?_
          · refine (Entries.get?_insert name asked filter _).trans ?_
            by_cases same : asked = name <;> simp [Step.local?, same, Config.filter?]
          · simp [Step.local?, Ne.symm differs]
  | registerTag number name tag =>
      rw [Session.step]
      split
      · exact follows_unchanged session fun _ => ⟨rfl, fun _ => rfl⟩
      · next present here =>
          split
          · exact follows_unchanged session fun _ => ⟨rfl, fun _ => rfl⟩
          · next next registered =>
              exact follows_replace (fun _ => rfl) here
                (fun asked => Config.filter?_of_registerTag? registered asked) fun _ _ _ => rfl
  | compile number source =>
      rw [Session.step]
      split
      · exact follows_unchanged session fun _ => ⟨rfl, fun _ => rfl⟩
      · split
        · exact follows_unchanged session fun _ => ⟨rfl, fun _ => rfl⟩
        · exact follows_of_prefix (fun _ => ⟨rfl, fun _ => rfl⟩) rfl (List.prefix_refl _)
            (List.prefix_append _ _)
  | render number data now =>
      rw [Session.step]
      split
      · exact follows_unchanged session fun _ => ⟨rfl, fun _ => rfl⟩
      · exact follows_unchanged session fun _ => ⟨rfl, fun _ => rfl⟩

theorem follows_after (session : Session) (steps : List Step) :
    Follows session steps (session.after steps) := by
  induction steps generalizing session with
  | nil => exact follows_nil session
  | cons step steps ih => exact (follows_step session step).append (ih _)

/-! ## What a configuration has -/

theorem after_append (session : Session) (first second : List Step) :
    session.after (first ++ second) = (session.after first).after second :=
  List.foldl_append

theorem ascending_run (steps : List Step) : (run steps).registry.filters.Ascending :=
  (follows_after start steps).ascending Entries.ascending_nil

theorem get?_registry_run (steps : List Step) (name : String) :
    (run steps).registry.filters.get? name = Step.latest (Step.global? name) steps := by
  rw [run, (follows_after start steps).registry]
  exact Option.or_none

/-- A configuration begins with what its step finds. -/
theorem exists_config_of_created {older : List Step} {create : Step} {number : Nat}
    (created : ((run older).step create).2 = .config number) :
    ∃ config, ((run older).step create).1.configs[number]? = some config ∧
      ∀ name, config.filter? name = Step.inherited older name create := by
  cases create with
  | newEmpty =>
      cases created
      exact ⟨.empty, List.getElem?_concat_length, fun name => rfl⟩
  | newStandard =>
      cases created
      refine ⟨(run older).registry.standard, List.getElem?_concat_length, fun name => ?_⟩
      rw [Registry.filter?_standard (ascending_run older), get?_registry_run]
      rfl
  | registerGlobal name filter => cases created
  | registerFilter other name filter =>
      rw [step] at created
      split at created <;> cases created
  | registerTag other name tag =>
      rw [step] at created
      split at created
      · cases created
      · split at created <;> cases created
  | compile other source =>
      rw [step] at created
      split at created
      · cases created
      · split at created <;> cases created
  | render template data now =>
      rw [step] at created
      split at created <;> cases created

/-- A template that has been compiled is rendered as it is, whatever steps have come since. -/
theorem step_render_of_compiled {session : Session} {number : Nat} {template : Template}
    (known : session.templates[number]? = some template) (later : List Step) (data : Context)
    (now : Moment) :
    ((session.after later).step (.render number data now)).2 =
      .rendered (template.render data now) := by
  have kept := getElem?_of_prefix (follows_after session later).templates known
  rw [step, kept]

/-- A step that compiles a template keeps it. -/
theorem exists_template_of_compiled {session : Session} {config number : Nat} {source : String}
    {present : Config} (here : session.configs[config]? = some present)
    (compiled : (session.step (.compile config source)).2 = .template number) :
    ∃ template, Template.compile present source = .ok template ∧
      (session.step (.compile config source)).1.templates[number]? = some template := by
  rw [step, here] at compiled ⊢
  dsimp only at compiled ⊢
  cases found : Template.compile present source with
  | error error =>
      rw [found] at compiled
      cases compiled
  | ok template =>
      rw [found] at compiled
      cases compiled
      exact ⟨template, rfl, List.getElem?_concat_length⟩

theorem step_registerTag_of_reserved {session : Session} {config : Nat} {name : String}
    (bound : config < session.configs.length) (reserved : name ∈ Config.reservedTags)
    (tag : CustomTag) :
    session.step (.registerTag config name tag) =
      (session, .panic (Config.reservedMessage name)) := by
  have refused (present : Config) : present.registerTag? name tag = none := dif_pos reserved
  rw [step, List.getElem?_eq_getElem bound]
  dsimp only
  rw [refused]

/-- Some steps later a configuration has what its history says. -/
theorem exists_config_of_run {older newer : List Step} {create : Step} {number : Nat}
    (created : ((run older).step create).2 = .config number) :
    ∃ config, (run (older ++ create :: newer)).configs[number]? = some config ∧
      ∀ name, config.filter? name = Step.resolve older create number newer name := by
  obtain ⟨first, here, begins⟩ := exists_config_of_created created
  obtain ⟨config, known, filters⟩ :=
    (follows_after ((run older).step create).1 newer).configs number first here
  refine ⟨config, ?_, fun name => ?_⟩
  · rw [run, after_append]
    exact known
  · rw [filters, begins, Step.resolve]

end Session

namespace Node

/-- The filters that a node calls itself, with their arguments. -/
def calls : Node → List FilterCall
  | .output value | .assign _ value => value.filters
  | _ => []

/-- All filters that compiled nodes call are registered. -/
theorem everywhere_registered_of_compile {config : Config} {source : List Char}
    {nodes : List Node} (compiled : compile config source = .ok nodes) :
    EverywhereBody (fun node => ∀ call ∈ node.calls, ∃ filter, config.filter? call.name =
      some filter) nodes := by
  refine EverywhereBody.imp (fun node wellFormed call member => ?_) nodes
    (everywhere_wellFormed_of_compile compiled)
  cases node with
  | output value => exact Option.isSome_iff_exists.1 (wellFormed.filters call member).registered
  | assign name value =>
      exact Option.isSome_iff_exists.1 (wellFormed.filters call member).registered
  | _ => cases member

end Node

namespace Session

/--
A template uses the filters of its configuration as they were when it was compiled.
Whatever steps come in whatever order before, between and after, a filter that the
template calls, at whatever depth, is the last one that was registered under its
name in the configuration before the template was compiled; else, in a standard
configuration, the last one that was registered for all of them before the
configuration was made; else the built-in one.  One of these exists, or else the
template does not compile.  Later steps do not change what it renders, and a tag
with a reserved name is refused without a change.
-/
theorem resolve_of_compiled :
    (∀ (older newer : List Step) (create : Step) (config template : Nat) (source : String),
      ((run older).step create).2 = .config config →
      ((run (older ++ create :: newer)).step (.compile config source)).2 = .template template →
        ∃ (present : Config) (compiled : Template),
          (run (older ++ create :: newer)).configs[config]? = some present ∧
          Template.compile present source = .ok compiled ∧
          Node.EverywhereBody
            (fun node => ∀ call ∈ node.calls, ∃ filter,
              Step.resolve older create config newer call.name = some filter ∧
              ∀ scope value, call.apply compiled.config scope value =
                filter scope.now value (call.argument.map (·.eval scope)))
            compiled.nodes ∧
          ∀ later data now,
            ((run (older ++ create :: newer ++ .compile config source :: later)).step
              (.render template data now)).2 = .rendered (compiled.render data now)) ∧
    ∀ steps config name tag, config < (run steps).configs.length →
      name ∈ Config.reservedTags →
        (run steps).step (.registerTag config name tag) =
          (run steps, .panic (Config.reservedMessage name)) := by
  refine ⟨?_, fun steps config name tag bound reserved =>
    step_registerTag_of_reserved bound reserved tag⟩
  intro older newer create config template source created compiled
  obtain ⟨present, here, filters⟩ := @exists_config_of_run older newer create config created
  obtain ⟨found, known, kept⟩ := exists_template_of_compiled here compiled
  obtain ⟨nodes, same⟩ := Template.compile_eq_ok_iff.1 known
  refine ⟨present, found, here, known, ?_, fun later data now => ?_⟩
  · refine Node.EverywhereBody.imp (fun node registered call member => ?_) found.nodes
      (Node.everywhere_registered_of_compile nodes)
    obtain ⟨filter, isFilter⟩ := registered call member
    refine ⟨filter, by rw [← filters, isFilter], fun scope value => ?_⟩
    rw [FilterCall.apply, same, isFilter]
  · rw [run, after_append]
    exact step_render_of_compiled kept later data now

/-- Filters in place of built-in ones: one for all configurations, and one for a single one. -/
theorem resolve_of_compiled_overwritten :
    let keep : Filter := fun _ value _ => .ok value
    let drop : Filter := fun _ _ _ => .ok .nil
    let older : List Step := [.registerGlobal "size" keep]
    let newer : List Step := [.registerFilter 0 "append" drop, .registerGlobal "size" drop]
    let source := "\x7b\x7b a | size | append: b | upcase \x7d\x7d"
    Step.resolve older .newStandard 0 newer "size" = some keep ∧
      Step.resolve older .newStandard 0 newer "append" = some drop ∧
      Step.resolve older .newStandard 0 newer "upcase" =
        some (Filter.ofFunction Filter.upcase) ∧
      (∃ (present : Config) (compiled : Template),
        (run (older ++ .newStandard :: newer)).configs[0]? = some present ∧
        Template.compile present source = .ok compiled ∧
        Node.EverywhereBody
          (fun node => ∀ call ∈ node.calls, ∃ filter,
            Step.resolve older .newStandard 0 newer call.name = some filter ∧
            ∀ scope value, call.apply compiled.config scope value =
              filter scope.now value (call.argument.map (·.eval scope)))
          compiled.nodes ∧
        ∀ later data now,
          ((run (older ++ .newStandard :: newer ++ .compile 0 source :: later)).step
            (.render 0 data now)).2 = .rendered (compiled.render data now)) ∧
      ∀ tag, (run [.newEmpty]).step (.registerTag 0 "if" tag) =
        (run [.newEmpty], .panic "`if` is a built-in tag and can't be replaced") := by
  intro keep drop older newer source
  obtain ⟨compiles, reserved⟩ := resolve_of_compiled
  have created : ((run older).step .newStandard).2 = .config 0 := rfl
  have compiled : ((run (older ++ .newStandard :: newer)).step (.compile 0 source)).2 =
      .template 0 := by
    cbv
  exact ⟨rfl, rfl, rfl, compiles older newer .newStandard 0 0 source created compiled,
    fun tag => reserved [.newEmpty] 0 "if" tag (by decide) (by decide)⟩

end Session

end Stencil
