import Stencil.Context

/-!
# Workspaces

A program keeps contexts under places of its own.  It begins them, writes to
them, moves one into another, and turns them into values and back, in any order;
a place that keeps no context is read as an empty one.
-/

namespace Stencil

/-- The contexts that a program keeps. -/
structure Workspace where
  contexts : Entries Context

namespace Workspace

/-- What a program does next with the context of a place. -/
inductive Step
  | new (place : String)
  /-- Keeps a copy of the context of another place. -/
  | copy (place source : String)
  | insert (place name : String) (datum : Datum)
  | tryInsert (place name : String) (datum : Datum)
  | set (place name : String) (value : Value)
  | setObject (place name : String) (host : HostObject Value)
  /-- Moves the entries of the context of another place into the context. -/
  | extend (place source : String)
  | erase (place name : String)
  | ofValue (place : String) (value : Value)
  | ofDatum (place : String) (datum : Datum)
  /-- Moves the context out as a value. -/
  | toValue (place : String)
  | get (place name : String)
  | has (place name : String)

/-- What a program gets for a step. -/
inductive Answer
  | done
  | found (value : Option Value)
  | decided (present : Bool)
  | whole (value : Value)
  | failed (error : Error)

def start : Workspace :=
  ⟨[]⟩

/-- The context of a place. -/
def context (workspace : Workspace) (place : String) : Context :=
  (workspace.contexts.get? place).getD .empty

def put (workspace : Workspace) (place : String) (context : Context) : Workspace :=
  ⟨workspace.contexts.insert place context⟩

def drop (workspace : Workspace) (place : String) : Workspace :=
  ⟨workspace.contexts.erase place⟩

/-- Keeps a context that has been made; the error of one that has not changes nothing. -/
def keep (workspace : Workspace) (place : String) : Except Error Context → Workspace × Answer
  | .ok context => (workspace.put place context, .done)
  | .error error => (workspace, .failed error)

/-- The workspace after a step, and the answer to it. -/
def step (workspace : Workspace) : Step → Workspace × Answer
  | .new place => (workspace.put place .empty, .done)
  | .copy place source => (workspace.put place (workspace.context source), .done)
  | .insert place name datum =>
      (workspace.put place ((workspace.context place).insert name datum), .done)
  | .tryInsert place name datum =>
      workspace.keep place ((workspace.context place).tryInsert name datum)
  | .set place name value =>
      (workspace.put place ((workspace.context place).set name value), .done)
  | .setObject place name host =>
      (workspace.put place ((workspace.context place).setObject name host), .done)
  | .extend place source =>
      let extended := (workspace.context place).extend (workspace.context source)
      ((workspace.drop source).put place extended, .done)
  | .erase place name =>
      let present := workspace.context place
      (workspace.put place (present.erase name), .found (present.get? name))
  | .ofValue place value => workspace.keep place (Context.ofValue value)
  | .ofDatum place datum => workspace.keep place (Context.ofDatum datum)
  | .toValue place => (workspace.drop place, .whole (workspace.context place).toValue)
  | .get place name => (workspace, .found ((workspace.context place).get? name))
  | .has place name => (workspace, .decided ((workspace.context place).has name))

/-- The workspace after some steps. -/
def after (workspace : Workspace) (steps : List Step) : Workspace :=
  steps.foldl (fun workspace step => (workspace.step step).1) workspace

/-- The workspace after the first steps of a program. -/
def run (steps : List Step) : Workspace :=
  start.after steps

@[simp]
theorem context_start (place : String) : start.context place = .empty :=
  rfl

theorem context_put (workspace : Workspace) (place asked : String) (context : Context) :
    (workspace.put place context).context asked =
      if asked = place then context else workspace.context asked := by
  rw [Workspace.context, put, Entries.get?_insert]
  split <;> rfl

theorem context_drop (workspace : Workspace) (place asked : String) :
    (workspace.drop place).context asked =
      if asked = place then .empty else workspace.context asked := by
  rw [Workspace.context, drop, Entries.get?_erase]
  split <;> rfl

end Workspace

end Stencil
