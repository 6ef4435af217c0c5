import Mathlib.Data.List.Induction
import Stencil.Proofs.Value.Conversion
import Stencil.Workspace

/-!
# What names stand for in the contexts of a program

The contexts that a program keeps answer like finite maps: what the last step
that wrote under a name has left there.  A step that fails writes nothing, except
that host data that cannot be converted is inserted as nil.
-/

namespace Stencil

namespace Context

theorem get?_insert (context : Context) (name asked : String) (datum : Datum) :
    (context.insert name datum).get? asked =
      if asked = name then some ((Value.ofDatum datum).toOption.getD .nil)
      else context.get? asked := by
  unfold insert
  cases Value.ofDatum datum <;> exact get?_set context name asked _

theorem get?_extend {context source : Context} (ascending : source.entries.Ascending)
    (name : String) : (context.extend source).get? name = (source.get? name).or (context.get? name) :=
  Entries.get?_merge ascending.nodup name

theorem ascending_of_ofDatum {datum : Datum} {context : Context}
    (made : ofDatum datum = .ok context) : context.entries.Ascending := by
  unfold ofDatum at made
  obtain ⟨value, converted, made⟩ := Except.bind_eq_ok_iff.1 made
  have settled := Value.settled_of_toValue datum value (Value.ofDatum_eq_ok_iff.1 converted)
  cases value with
  | mapping entries =>
      cases made
      exact (settled (.mapping entries) List.mem_cons_self).1
  | _ => cases made

end Context

namespace Workspace

/-! ## Writes -/

namespace Step

/-- What a context that may have been made leaves under a name of its place. -/
def replaced? (name : String) : Except Error Context → Option (Option Value)
  | .ok context => some (context.get? name)
  | .error _ => none

/--
What a step leaves under a name of a place, if it writes there: a value, or
nothing.  What the names have stood for before says what is copied and moved.
-/
def write? (known : String → String → Option Value) (asked name : String) :
    Step → Option (Option Value)
  | .new place | .toValue place => if asked = place then some none else none
  | .copy place source => if asked = place then some (known source name) else none
  | .insert place other datum =>
      if asked = place ∧ name = other then some (some ((Value.ofDatum datum).toOption.getD .nil))
      else none
  | .tryInsert place other datum =>
      if asked = place ∧ name = other then (Value.ofDatum datum).toOption.map some else none
  | .set place other value =>
      if asked = place ∧ name = other then some (some value) else none
  | .setObject place other host =>
      if asked = place ∧ name = other then some (some (.object host)) else none
  | .extend place source =>
      if asked = place then (known source name).map some
      else if asked = source then some none else none
  | .erase place other => if asked = place ∧ name = other then some none else none
  | .ofValue place value => if asked = place then replaced? name (Context.ofValue value) else none
  | .ofDatum place datum => if asked = place then replaced? name (Context.ofDatum datum) else none
  | .get _ _ | .has _ _ => none

/-- What the names stand for after a step. -/
def record (known : String → String → Option Value) (step : Step) (asked name : String) :
    Option Value :=
  (step.write? known asked name).getD (known asked name)

/-- The names of a mapping that a step makes a context of are ascending. -/
def Ordered : Step → Prop
  | .ofValue _ value => value.NamesAscend
  | _ => True

end Step

/-- What the last of some steps that writes under a name leaves there.  The latest step is first. -/
def lastWrite : List Step → String → String → Option Value
  | [], _, _ => none
  | step :: older, place, name => step.record (lastWrite older) place name

/-! ## What steps leave -/

/-- What the names stand for in the contexts of a workspace. -/
structure Records (workspace : Workspace) (known : String → String → Option Value) : Prop where
  answers : ∀ place name, (workspace.context place).get? name = known place name
  ascending : ∀ place, (workspace.context place).entries.Ascending

theorem records_start : Records start fun _ _ => none where
  answers _ _ := rfl
  ascending _ := Entries.ascending_nil

namespace Records

variable {workspace : Workspace} {known next : String → String → Option Value}

theorem of_eq (records : Records workspace known)
    (same : ∀ place name, known place name = next place name) : Records workspace next where
  answers place name := (records.answers place name).trans (same place name)
  ascending := records.ascending

/-- A context that is put replaces all that the names of its place have stood for. -/
theorem put (records : Records workspace known) {context : Context}
    (ascending : context.entries.Ascending) (place : String) :
    Records (workspace.put place context) fun asked name =>
      (if asked = place then some (context.get? name) else none).getD (known asked name) where
  answers asked name := by
    rw [context_put]
    split
    · rfl
    · exact records.answers asked name
  ascending asked := by
    rw [context_put]
    split
    · exact ascending
    · exact records.ascending asked

theorem drop (records : Records workspace known) (place : String) :
    Records (workspace.drop place) fun asked name =>
      (if asked = place then some none else none).getD (known asked name) where
  answers asked name := by
    rw [context_drop]
    split
    · rfl
    · exact records.answers asked name
  ascending asked := by
    rw [context_drop]
    split
    · exact Entries.ascending_nil
    · exact records.ascending asked

theorem keep (records : Records workspace known) (place : String) {made : Except Error Context}
    (ascending : ∀ context, made = .ok context → context.entries.Ascending) :
    Records (workspace.keep place made).1 fun asked name =>
      (if asked = place then Step.replaced? name made else none).getD (known asked name) := by
  cases made with
  | error error => exact records.of_eq fun asked name => by rw [Step.replaced?, ite_self]; rfl
  | ok context => exact records.put (ascending context rfl) place

/-- A context is put that differs from the one of its place under a single name. -/
theorem putEntry (records : Records workspace known) {context : Context} {place name : String}
    {written : Option Value} (ascending : context.entries.Ascending)
    (answers : ∀ asked, context.get? asked =
      if asked = name then written else (workspace.context place).get? asked) :
    Records (workspace.put place context) fun asked other =>
      (if asked = place ∧ other = name then some written else none).getD (known asked other) := by
  refine (records.put ascending place).of_eq fun asked other => ?_
  by_cases here : asked = place
  · subst here
    rw [if_pos rfl, answers, records.answers]
    by_cases same : other = name <;> simp [same]
  · simp [here]

/-- A step leaves what it records. -/
theorem step (records : Records workspace known) {step : Step} (ordered : step.Ordered) :
    Records (workspace.step step).1 (step.record known) := by
  cases step with
  | new place => exact records.put Entries.ascending_nil place
  | copy place source =>
      refine (records.put (records.ascending source) place).of_eq fun asked name => ?_
      rw [records.answers]
      rfl
  | insert place name datum =>
      refine records.putEntry ?_ fun asked => Context.get?_insert _ name asked datum
      unfold Context.insert
      split <;> exact (records.ascending place).insert name _
  | tryInsert place name datum =>
      cases converted : Value.ofDatum datum with
      | error error =>
          have kept : (workspace.context place).tryInsert name datum = .error error := by
            rw [Context.tryInsert, converted]
            rfl
          rw [Workspace.step, kept]
          exact records.of_eq fun asked other => by simp [Step.record, Step.write?, converted]
      | ok value =>
          have kept : (workspace.context place).tryInsert name datum =
              .ok ((workspace.context place).set name value) := by
            rw [Context.tryInsert, converted]
            rfl
          rw [Workspace.step, kept]
          refine (records.putEntry ((records.ascending place).insert name value) fun asked =>
            Context.get?_set _ name asked value).of_eq fun asked other => ?_
          simp [Step.record, Step.write?, converted]
  | set place name value =>
      exact records.putEntry ((records.ascending place).insert name value) fun asked =>
        Context.get?_set _ name asked value
  | setObject place name host =>
      exact records.putEntry ((records.ascending place).insert name _) fun asked =>
        Context.get?_set _ name asked _
  | extend place source =>
      have ascending := (records.ascending place).merge (workspace.context source).entries
      refine ((records.drop source).put ascending place).of_eq fun asked name => ?_
      rw [Step.record, Step.write?]
      by_cases here : asked = place
      · subst here
        rw [if_pos rfl, if_pos rfl]
        refine (Context.get?_extend (records.ascending source) name).trans ?_
        rw [records.answers, records.answers]
        cases known source name <;> rfl
      · rw [if_neg here, if_neg here]
        rfl
  | erase place name =>
      exact records.putEntry ((records.ascending place).erase name) fun asked =>
        Context.get?_erase _ name asked
  | ofValue place value =>
      refine records.keep place fun context made => ?_
      cases value with
      | mapping entries =>
          cases made
          exact ordered
      | _ => cases made
  | ofDatum place datum =>
      exact records.keep place fun context made => Context.ascending_of_ofDatum made
  | toValue place => exact records.drop place
  | get place name => exact records
  | has place name => exact records

end Records

theorem run_concat (steps : List Step) (step : Step) :
    run (steps ++ [step]) = ((run steps).step step).1 := by
  rw [run, after, List.foldl_concat]
  rfl

/-- What a run leaves is what its last writes have left. -/
theorem records_run (steps : List Step) (ordered : ∀ step ∈ steps, step.Ordered) :
    Records (run steps) (lastWrite steps.reverse) := by
  induction steps using List.reverseRecOn with
  | nil => exact records_start
  | append_singleton steps step ih =>
      rw [List.forall_mem_append, List.forall_mem_singleton] at ordered
      rw [run_concat, List.reverse_concat]
      exact (ih ordered.1).step ordered.2

/-! ## Steps that fail -/

theorem keep_of_failed {workspace : Workspace} {place : String} {made : Except Error Context}
    {error : Error} (failed : (workspace.keep place made).2 = .failed error) :
    (workspace.keep place made).1 = workspace := by
  cases made with
  | ok context => cases failed
  | error _ => rfl

/-- A step that fails leaves all contexts as they are. -/
theorem step_of_failed {workspace : Workspace} {step : Step} {error : Error}
    (failed : (workspace.step step).2 = .failed error) : (workspace.step step).1 = workspace := by
  cases step with
  | tryInsert | ofValue | ofDatum => exact keep_of_failed failed
  | _ => cases failed

/-- A context that has been moved out as a value and made of it again is as it was. -/
theorem context_ofValue_toValue (workspace : Workspace) (place other : String) :
    (((workspace.step (.toValue place)).1.step
      (.ofValue place (workspace.context place).toValue)).1.context other) =
      workspace.context other := by
  refine (context_put _ place other _).trans ?_
  split
  · next here =>
      subst here
      rfl
  · next elsewhere =>
      refine (context_drop workspace place other).trans ?_
      rw [if_neg elsewhere]

/--
After any steps, the contexts answer with what the last write under a name has
left there.  Host data that cannot be converted fails to be inserted, and to
become a context, with the error of its conversion; a step that fails leaves all
contexts as they are.  Where data has to be inserted at any rate, just its name
stands for nil then.  A context that is moved out as a value is the one that is made of it.
-/
theorem run_answers (steps : List Step) (ordered : ∀ step ∈ steps, step.Ordered) :
    (∀ place name,
      ((run steps).step (.get place name)).2 = .found (lastWrite steps.reverse place name) ∧
      ((run steps).step (.has place name)).2 =
        .decided (lastWrite steps.reverse place name).isSome) ∧
    (∀ step error, ((run steps).step step).2 = .failed error →
      ((run steps).step step).1 = run steps) ∧
    (∀ place name datum error, Value.ofDatum datum = .error error →
      ((run steps).step (.tryInsert place name datum)).2 = .failed error ∧
      ((run steps).step (.ofDatum place datum)).2 = .failed error ∧
      ∀ other asked, (((run steps).step (.insert place name datum)).1.context other).get? asked =
        if other = place ∧ asked = name then some .nil
        else ((run steps).context other).get? asked) ∧
    (∀ place, ∃ value moved,
      (run steps).step (.toValue place) = (moved, .whole value) ∧
      (moved.step (.ofValue place value)).2 = .done ∧
      ∀ other, (moved.step (.ofValue place value)).1.context other =
        (run steps).context other) := by
  have records := records_run steps ordered
  refine ⟨fun place name => ?_, fun step error => step_of_failed, ?_, fun place => ?_⟩
  · rw [← records.answers place name]
    exact ⟨rfl, rfl⟩
  · intro place name datum error refused
    refine ⟨?_, ?_, fun other asked => ?_⟩
    · rw [Workspace.step, Context.tryInsert, refused]
      rfl
    · rw [Workspace.step, Context.ofDatum, refused]
      rfl
    · have ordered : (Step.insert place name datum).Ordered := trivial
      rw [(records.step ordered).answers, records.answers, Step.record, Step.write?, refused]
      split <;> rfl
  · exact ⟨_, _, rfl, rfl, context_ofValue_toValue (run steps) place⟩

/-- A write that fails on a name that has a value, between others that go on. -/
theorem run_answers_shared :
    let refused : Datum := .refusal "no"
    let one := Value.number (.integer 1 (by decide))
    let entries := [("b", Value.string "x"), ("d", Value.bool true)]
    let steps : List Step :=
      [.set "target" "a" one, .set "target" "b" one, .tryInsert "target" "a" refused,
        .insert "target" "b" refused, .insert "target" "c" refused,
        .ofValue "source" (.mapping entries), .extend "target" "source", .ofDatum "target" refused]
    let answer (place name : String) := ((run steps).step (.get place name)).2
    (∀ step ∈ steps, step.Ordered) ∧
      answer "target" "a" = .found (some one) ∧ answer "target" "b" = .found (some (.string "x")) ∧
      answer "target" "c" = .found (some .nil) ∧ answer "target" "d" = .found (some (.bool true)) ∧
      answer "source" "b" = .found none ∧
      ((run steps).step (.tryInsert "target" "a" refused)).1 = run steps := by
  intro refused one entries steps answer
  have ascending : Entries.Ascending entries :=
    List.pairwise_pair.2 (show "b" < "d" by decide)
  have ordered : ∀ step ∈ steps, step.Ordered := by
    simp [steps, Step.Ordered, Value.NamesAscend, ascending]
  obtain ⟨answers, unchanged, refusals, -⟩ := run_answers steps ordered
  have reason : Value.ofDatum refused = .error (.conversion (Reason.report "no")) := rfl
  exact ⟨ordered, (answers "target" "a").1, (answers "target" "b").1, (answers "target" "c").1,
    (answers "target" "d").1, (answers "source" "b").1,
    unchanged _ _ (refusals "target" "a" refused _ reason).1⟩

end Workspace

end Stencil
