import Stencil.Template

/-!
# Sessions

A program makes configurations, registers filters and tags, and compiles and
renders templates, in any order.  It keeps one registry for all configurations
to come; a configuration begins with a copy of it, and a template keeps a copy of
the configuration it was compiled with.
-/

namespace Stencil

/-- What a program does next.  Configurations and templates are known by numbers, in the order in
which they are made. -/
inductive Step
  /-- Registers a filter for all standard configurations to come. -/
  | registerGlobal (name : String) (filter : Filter)
  | newEmpty
  | newStandard
  | registerFilter (config : Nat) (name : String) (filter : Filter)
  | registerTag (config : Nat) (name : String) (tag : CustomTag)
  | compile (config : Nat) (source : String)
  | render (template : Nat) (data : Context) (now : Moment)

/-- What a program gets for a step. -/
inductive Answer
  | done
  /-- The number of a configuration that has been made. -/
  | config (number : Nat)
  /-- The number of a template that has been compiled. -/
  | template (number : Nat)
  | rendered (output : Except Fault String)
  | failed (error : Error)
  /-- The message with which a step is refused that a program must not take. -/
  | panic (message : String)
  /-- There is no configuration or template with the number. -/
  | missing

/-- What a program keeps between its steps. -/
structure Session where
  registry : Registry
  configs : List Config
  templates : List Template

namespace Session

def start : Session :=
  ⟨.empty, [], []⟩

/-- The session with one more configuration, and the answer that gives its number. -/
def create (session : Session) (config : Config) : Session × Answer :=
  ({ session with configs := session.configs ++ [config] }, .config session.configs.length)

/-- The session with another configuration in place of one of them. -/
def replace (session : Session) (number : Nat) (config : Config) : Session :=
  { session with configs := session.configs.set number config }

/-- The session after a step, and the answer to it. -/
def step (session : Session) : Step → Session × Answer
  | .registerGlobal name filter =>
      ({ session with registry := session.registry.register name filter }, .done)
  | .newEmpty => session.create .empty
  | .newStandard => session.create session.registry.standard
  | .registerFilter number name filter =>
      match session.configs[number]? with
      | none => (session, .missing)
      | some config => (session.replace number (config.registerFilter name filter), .done)
  | .registerTag number name tag =>
      match session.configs[number]? with
      | none => (session, .missing)
      | some config =>
          match config.registerTag? name tag with
          | none => (session, .panic (Config.reservedMessage name))
          | some config => (session.replace number config, .done)
  | .compile number source =>
      match session.configs[number]? with
      | none => (session, .missing)
      | some config =>
          match Template.compile config source with
          | .error error => (session, .failed error)
          | .ok template =>
              ({ session with templates := session.templates ++ [template] },
                .template session.templates.length)
  | .render number data now =>
      match session.templates[number]? with
      | none => (session, .missing)
      | some template => (session, .rendered (template.render data now))

/-- The session after some steps. -/
def after (session : Session) (steps : List Step) : Session :=
  steps.foldl (fun session step => (session.step step).1) session

/-- The session after the first steps of a program. -/
def run (steps : List Step) : Session :=
  start.after steps

end Session

end Stencil
