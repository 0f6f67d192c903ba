import GraphMapper.Proofs.RunLog.Writing
import GraphMapper.Proofs.Schema.Plan
import GraphMapper.Proofs.Schema.Recording

/-!
# The order of a migration

A migration makes its calls in the order of a plan, and the first call that raises a fault is the
last one. Which drops are planned is known only in the course of the migration, from what the server
has answered.

## Main definitions

* `Schema.Task` — a planned request, and the step that it belongs to
* `Schema.Follows` — calls that follow a plan up to the first fault
* `Schema.Obeys` — an act whose calls follow a plan
* `Schema.Migrator.plan` — the plan of a migration, given the constraints and indexes on the server

## Main results

* `Migrator.exists_runStep` — a step does its work, and reports a fault under its name
* `Obeys.bind` — plans are put together as the acts are that obey them
* `Migrator.exists_obeys_runSteps` — the steps of a migration follow the plan
-/

namespace GraphMapper.Schema

/-! ### Plans and calls -/

/-- A request that is planned. -/
structure Task where
  /-- The step that it belongs to. -/
  step : Step
  /-- All statements of that step; none if it asks for the live schema. -/
  planned : List String
  /-- The request. -/
  request : Request

/-- The fault of a migration whose task raised a fault. -/
def Task.failed (t : Task) (fault : Fault) : Fault := .migration t.step t.planned fault

/-- The tasks of a step that runs statements. -/
def tasks (step : Step) (statements : List String) : List Task :=
  statements.map fun text => ⟨step, statements, .execute text .null⟩

/-- The calls ask for what is planned, one after the other, until one raises a fault or all is
done. The migration then ends in the fault of that task, or in none. -/
inductive Follows : List Task → List Call → Option Fault → Prop
  | done : Follows [] [] none
  | next {t : Task} {c : Call} {plan : List Task} {calls : List Call} {failure? : Option Fault} :
      c.request = t.request → c.fault? = none → Follows plan calls failure? →
      Follows (t :: plan) (c :: calls) failure?
  | fail {t : Task} {c : Call} {fault : Fault} (plan : List Task) :
      c.request = t.request → c.fault? = some fault →
      Follows (t :: plan) [c] (some (t.failed fault))

namespace Follows

variable {plan plan' : List Task} {calls calls' : List Call} {failure? : Option Fault}
  {fault : Fault}

/-- A plan that was done is followed by the next one. -/
theorem append (first : Follows plan calls none) (next : Follows plan' calls' failure?) :
    Follows (plan ++ plan') (calls ++ calls') failure? := by
  -- the induction needs an end that is a variable; that it is none rules the last case out
  generalize ended : (none : Option Fault) = end? at first
  induction first with
  | done => exact next
  | next asked fine _ ih => exact .next asked fine (ih ended)
  | fail => cases ended

/-- After a fault it does not matter what else was planned. -/
theorem stop (first : Follows plan calls (some fault)) (plan' : List Task) :
    Follows (plan ++ plan') calls (some fault) := by
  generalize ended : some fault = end? at first
  induction first with
  | done => cases ended
  | next asked fine _ ih => exact .next asked fine (ih ended)
  | fail plan asked raised => exact .fail (plan ++ plan') asked raised

theorem isPrefix (followed : Follows plan calls failure?) :
    calls.map Call.request <+: plan.map Task.request := by
  induction followed with
  | done => exact List.nil_prefix
  | next asked _ _ ih => exact List.cons_prefix_cons.2 ⟨asked, ih⟩
  | fail plan asked _ => exact List.cons_prefix_cons.2 ⟨asked, List.nil_prefix⟩

/-- Without a fault all is done, and no call has raised any. -/
theorem complete (followed : Follows plan calls failure?) (fine : failure? = none) :
    calls.map Call.request = plan.map Task.request ∧ ∀ c ∈ calls, c.fault? = none := by
  induction followed with
  | done => exact ⟨rfl, List.forall_mem_nil _⟩
  | next asked answered _ ih =>
    obtain ⟨same, others⟩ := ih fine
    exact ⟨List.cons_eq_cons.2 ⟨asked, same⟩, List.forall_mem_cons.2 ⟨answered, others⟩⟩
  | fail => cases fine

/-- A call that raises a fault is the last one, and its fault is reported by its task. -/
theorem failed (followed : Follows plan calls failure?) {before after : List Call} {c : Call}
    (made : calls = before ++ c :: after) (raised : c.fault? = some fault) :
    after = [] ∧ ∃ t, plan[before.length]? = some t ∧ failure? = some (t.failed fault) := by
  induction followed generalizing before with
  | done => exact absurd made (by simp)
  | @next t first plan calls failure? asked fine _ ih =>
    cases before with
    | nil =>
      cases made
      rw [fine] at raised
      cases raised
    | cons earlier before =>
      cases made
      exact ih rfl
  | @fail t first fault' plan asked found =>
    cases before with
    | nil =>
      cases made
      rw [found] at raised
      cases raised
      exact ⟨rfl, t, rfl, rfl⟩
    | cons earlier before => exact absurd (List.cons.inj made).2 (by simp)

/-- If there is a fault in the end, it is reported by a task for the fault of the last call. -/
theorem exists_raised (followed : Follows plan calls (some fault)) :
    ∃ t ∈ plan, ∃ c ∈ calls.getLast?, ∃ cause, c.fault? = some cause ∧ fault = t.failed cause := by
  generalize ended : some fault = end? at followed
  induction followed with
  | done => cases ended
  | @next t c plan calls _ _ _ followed ih =>
    obtain ⟨t', planned, last, found, raised⟩ := ih ended
    refine ⟨t', List.mem_cons_of_mem t planned, last, ?_, raised⟩
    rw [List.getLast?_cons, Option.mem_def.1 found]
    rfl
  | @fail t c cause plan asked found =>
    cases ended
    exact ⟨t, List.mem_cons_self, c, rfl, cause, found, rfl⟩

/-- If there is a fault in the end, the last call has raised one. -/
theorem exists_getLast? (followed : Follows plan calls (some fault)) :
    ∃ c ∈ calls.getLast?, c.fault? ≠ none := by
  obtain ⟨t, -, c, last, cause, raised, -⟩ := followed.exists_raised
  exact ⟨c, last, by simp [raised]⟩

end Follows

/-! ### Portions of the live schema -/

variable {σ α : Type}

namespace Portion

/-- The step that fetches a portion. -/
def fetchStep : Portion → Step
  | .constraints => .constraintFetch
  | .indexes => .indexFetch

/-- The step that drops what is in a portion. -/
def dropStep : Portion → Step
  | .constraints => .constraintDrop
  | .indexes => .indexDrop

/-- Asks for a portion. -/
def ask (i : Inspector σ) : Portion → Act σ (List LiveEntry)
  | .constraints => i.constraints
  | .indexes => i.indexes

/-- What is reported of a portion; nothing if no report is given. -/
def reported (i : Inspector σ) (server : σ) (portion : Portion) : List LiveEntry :=
  ((portion.ask i).perform server).1.toOption.getD []

/-- What is reported if the constraints are asked for in one state and the indexes in a later
one. -/
def reports (i : Inspector σ) (server later : σ) : Portion → List LiveEntry
  | .constraints => reported i server .constraints
  | .indexes => reported i later .indexes

/-- The statements that drop what is in a portion, as they are planned. -/
def drops (labels : List Value) (live : List LiveEntry) : Portion → Except ShapeFault (List String)
  | .constraints => constraintDrops live labels
  | .indexes => indexDrops live labels

/-- The statements that drop what is in a portion, if all labels in it are texts or null. -/
def plannedDrops (labels : List String) (live : List LiveEntry) : Portion → List String
  | .constraints => plannedConstraintDrops labels live
  | .indexes => plannedIndexDrops labels live

theorem drops_eq {labels : List String} {live : List LiveEntry}
    (labelled : ∀ e ∈ live, e.Labelled) (portion : Portion) :
    portion.drops (labels.map .text) live = .ok (portion.plannedDrops labels live) := by
  cases portion with
  | constraints => exact constraintDrops_eq labelled
  | indexes => exact indexDrops_eq labelled

end Portion

/-- Whatever is reported, its labels are texts or null. -/
def Labelled (i : Inspector σ) : Prop :=
  ∀ (portion : Portion) server live, ((portion.ask i).perform server).1 = .ok live →
    ∀ e ∈ live, e.Labelled

/-- What is reported has labels that are texts or null, whether a report is given or not. -/
theorem labelled_reported {i : Inspector σ} (labelled : Labelled i) (portion : Portion)
    (server : σ) : ∀ e ∈ portion.reported i server, e.Labelled := by
  rw [Portion.reported]
  cases asked : ((portion.ask i).perform server).1 with
  | error fault => exact List.forall_mem_nil _
  | ok answer => exact labelled portion server answer asked

/-- A report among the calls is the one that is given. -/
def Call.Reports (live : Portion → List LiveEntry) : Call → Prop
  | .report portion (.ok answer) => answer = live portion
  | _ => True

/-! ### Steps -/

/-- The run log can be written, if one is kept. -/
def Writable (log? : Option RunLog) : Prop := ∀ log ∈ log?, log.Writable

namespace Migrator

variable (m : Migrator σ) {server : σ} {log? : Option RunLog}

/-- Telling a log that can be written succeeds and leaves the server alone. -/
theorem exists_tell (writable : Writable log?) {a : Instant → Act RunLog α} {post : α → Prop}
    (takes : ∀ now, RunLog.Takes (a now) post) (server : σ) :
    ∃ x? log?', (m.tell a).perform ⟨server, log?⟩ = (.ok x?, ⟨server, log?'⟩) ∧ Writable log?' ∧
      ∀ x ∈ x?, post x := by
  cases log? with
  | none => exact ⟨none, none, rfl, writable, fun _ none => nomatch none⟩
  | some log =>
    obtain ⟨x, log', told, writable', result⟩ := takes (m.clock server) log (writable log rfl)
    refine ⟨some x, some log', ?_, ?_, ?_⟩
    · simp [tell, told, Except.map]
    · rintro _ ⟨⟩
      exact writable'
    · rintro _ ⟨⟩
      exact result

/-- Telling how a step ended succeeds and leaves the server alone. -/
theorem exists_finish (writable : Writable log?) {span? : Option RunLog.Span}
    {a : Instant → Act (RunLog.Span × RunLog) Unit}
    (takes : ∀ span ∈ span?, ∀ now, RunLog.Takes (RunLog.ofSpan span (a now)) fun _ => True)
    (server : σ) :
    ∃ log?', (m.finish span? a).perform ⟨server, log?⟩ = (.ok (), ⟨server, log?'⟩) ∧
      Writable log?' := by
  cases span? with
  | none => exact ⟨log?, rfl, writable⟩
  | some span =>
    obtain ⟨x?, log?', told, writable', -⟩ := m.exists_tell writable (takes span rfl) server
    refine ⟨log?', ?_, writable'⟩
    change Act.perform (m.tell (fun now => RunLog.ofSpan span (a now)) >>= fun _ => pure ()) _ = _
    rw [Act.perform_bind, told]
    rfl

theorem writable_counted {step : Step} {span : RunLog.Span} (writable : span.Writable)
    (count : Nat) : (counted step count span).Writable := by
  refine ⟨writable.step, Json.writable_int count, ?_⟩
  rw [counted]
  split
  · exact Json.writable_int count
  · exact writable.created

/-- A step does its work and reports a fault under its name, with the statements that were planned.
A step without statements only has to do nothing. -/
theorem exists_runStep (writable : Writable log?) (step : Step) (planned : Option (List String))
    (work : Act σ (List α)) (server : σ)
    (idle : planned = some [] → ∃ items, (work.perform server).1 = .ok items) :
    ∃ log?', (m.runStep step planned work).perform ⟨server, log?⟩ =
        ((work.perform server).1.mapError (.migration step (planned.getD [])),
          ⟨(work.perform server).2, log?'⟩) ∧
      Writable log?' := by
  rw [runStep]
  split
  · next none =>
    obtain ⟨items, done⟩ := idle none
    obtain ⟨_, log?', told, writable', -⟩ := m.exists_tell writable
      (fun now => RunLog.takes_stepSkipped now (Json.writable_text step.name)
        (Json.writable_text "Nothing to execute")) server
    refine ⟨log?', ?_, writable'⟩
    rw [Act.perform_bind, told]
    simp only [onServer, Act.perform_on, done]
    rfl
  · obtain ⟨span?, log₁?, told, writable₁, open'⟩ := m.exists_tell writable
      (fun now => RunLog.takes_spanStart now (Json.writable_text step.name) Json.writable_null)
      server
    rw [Act.perform_bind, told]
    simp only [Act.perform_bind, Act.perform_attempt, onServer, Act.perform_on]
    rcases work.perform server with ⟨fault | items, server'⟩
    · obtain ⟨log?', finished, writable'⟩ := m.exists_finish writable₁
        (fun span known now => RunLog.takes_spanError now (open' span known)
          (Json.writable_text fault.message) Json.writable_null) server'
      refine ⟨log?', ?_, writable'⟩
      simp only [Act.perform_bind]
      rw [finished]
      rfl
    · have takes : ∀ span ∈ span?.map (counted step items.length), ∀ now,
          RunLog.Takes (RunLog.ofSpan span (RunLog.Span.complete now .null)) fun _ => True := by
        intro span known now
        obtain ⟨span₀, known₀, rfl⟩ := Option.map_eq_some_iff.1 known
        exact RunLog.takes_spanComplete now (writable_counted (open' span₀ known₀) _)
          Json.writable_null
      obtain ⟨log?', finished, writable'⟩ := m.exists_finish writable₁ takes server'
      refine ⟨log?', ?_, writable'⟩
      simp only [Act.perform_bind]
      rw [finished]
      rfl

/-! ### Acts that obey a plan -/

/-- Every call that is made is added to a trace that the server keeps, together with the answer. -/
structure Traced (trace : σ → List Call) : Prop where
  /-- Statements are traced. -/
  execute : ∀ text params server,
    let answered := (m.executor.execute text params).perform server
    trace answered.2 = trace server ++ [.execute text params answered.1]
  /-- Questions for the live schema are traced. -/
  report : ∀ (portion : Portion) server,
    let answered := (portion.ask m.inspector).perform server
    trace answered.2 = trace server ++ [.report portion answered.1]

theorem traced_recorded : m.recorded.Traced Prod.snd where
  execute _ _ _ := rfl
  report portion _ := by cases portion <;> rfl

end Migrator

/-- What is yielded if there was no fault. -/
def barring {α : Type} (failure? : Option Fault) (x : α) : Except Fault α :=
  match failure? with
  | none => .ok x
  | some fault => .error fault

/-- The act makes calls that follow the plan up to the first fault, and yields `x` if there is none.
What the server reports meanwhile is as given, and the log can still be written afterwards. -/
def Obeys (trace : σ → List Call) (live : Portion → List LiveEntry) (plan : List Task)
    (a : Act (Run σ) α) (x : α) (run : Run σ) : Prop :=
  ∃ calls failure? run', a.perform run = (barring failure? x, run') ∧ Writable run'.log? ∧
    trace run'.server = trace run.server ++ calls ∧ Follows plan calls failure? ∧
    ∀ c ∈ calls, c.Reports live

namespace Obeys

variable {trace : σ → List Call} {live : Portion → List LiveEntry} {plan plan' : List Task}
  {a : Act (Run σ) α} {x : α} {run : Run σ}

protected theorem pure (writable : Writable run.log?) (x : α) :
    Obeys trace live [] (pure x) x run :=
  ⟨[], none, run, rfl, writable, (List.append_nil _).symm, .done, List.forall_mem_nil _⟩

/-- If a plan comes to its end, the next plan is followed; otherwise nothing else happens. -/
protected theorem bind {β : Type} {f : α → Act (Run σ) β} {y : β}
    (first : Obeys trace live plan a x run)
    (next : ∀ run', a.perform run = (.ok x, run') → Writable run'.log? →
      Obeys trace live plan' (f x) y run') :
    Obeys trace live (plan ++ plan') (a >>= f) y run := by
  obtain ⟨calls, failure?, run', done, writable, added, followed, reports⟩ := first
  cases failure? with
  | none =>
    obtain ⟨calls', failure?, run'', done', writable', added', followed', reports'⟩ :=
      next run' done writable
    refine ⟨calls ++ calls', failure?, run'', ?_, writable', ?_, followed.append followed',
      List.forall_mem_append.2 ⟨reports, reports'⟩⟩
    · rw [Act.perform_bind, done]
      exact done'
    · rw [added', added, List.append_assoc]
  | some fault =>
    refine ⟨calls, some fault, run', ?_, writable, added, followed.stop plan', reports⟩
    rw [Act.perform_bind, done]
    rfl

/-- What is made of the result does not concern the server. -/
protected theorem map {β : Type} (done : Obeys trace live plan a x run) (g : α → β) :
    Obeys trace live plan (a >>= fun x => pure (g x)) (g x) run := by
  have whole : Obeys trace live (plan ++ []) (a >>= fun x => pure (g x)) (g x) run :=
    done.bind fun run' _ writable => Obeys.pure writable (g x)
  rwa [List.append_nil] at whole

end Obeys

namespace Migrator

variable {m : Migrator σ} {trace : σ → List Call} {live : Portion → List LiveEntry}
  {run : Run σ}

/-- Statements are run one after the other until one of them fails. -/
theorem exists_executeAll (traced : m.Traced trace) (step : Step) (planned statements : List String)
    (server : σ) :
    ∃ calls failure?,
      let ran := (m.executor.executeAll statements).perform server
      trace ran.2 = trace server ++ calls ∧
      Follows (statements.map fun text => ⟨step, planned, .execute text .null⟩) calls failure? ∧
      ran.1.mapError (.migration step planned) = barring failure? () := by
  induction statements generalizing server with
  | nil => exact ⟨[], none, (List.append_nil _).symm, .done, rfl⟩
  | cons text rest ih =>
    have added := traced.execute text .null server
    rcases ran : (m.executor.execute text .null).perform server with ⟨fault | rows, server'⟩
    · have stopped : (m.executor.executeAll (text :: rest)).perform server =
          (.error fault, server') := by
        simp only [Executor.executeAll, Act.perform_bind, ran]
      rw [ran] at added
      rw [stopped]
      exact ⟨[.execute text .null (.error fault)], some (.migration step planned fault), added,
        .fail _ rfl rfl, rfl⟩
    · have continued : (m.executor.executeAll (text :: rest)).perform server =
          (m.executor.executeAll rest).perform server' := by
        simp only [Executor.executeAll, Act.perform_bind, ran]
      rw [ran] at added
      obtain ⟨calls, failure?, later, followed, result⟩ := ih server'
      rw [continued]
      refine ⟨.execute text .null (.ok rows) :: calls, failure?, ?_, .next rfl rfl followed, result⟩
      rw [later, added, List.append_assoc]
      rfl

theorem reports_of_follows_tasks {step : Step} {statements : List String} {calls : List Call}
    {failure? : Option Fault} (followed : Follows (tasks step statements) calls failure?)
    (live : Portion → List LiveEntry) : ∀ c ∈ calls, c.Reports live := by
  intro c member
  have planned := followed.isPrefix.subset (List.mem_map_of_mem member)
  rw [tasks, List.map_map, List.mem_map] at planned
  obtain ⟨text, -, asked⟩ := planned
  cases c with
  | report portion answer => cases asked
  | execute text params answer => trivial

/-- A step that runs statements follows its tasks. -/
theorem obeys_runPlanned (traced : m.Traced trace) (step : Step) (statements : List String)
    (writable : Writable run.log?) :
    Obeys trace live (tasks step statements) (m.runPlanned step statements) statements run := by
  obtain ⟨calls, failure?, added, followed, result⟩ :=
    exists_executeAll traced step statements statements run.server
  let work : Act σ (List String) := do
    m.executor.executeAll statements
    pure statements
  have worked : work.perform run.server =
      (((m.executor.executeAll statements).perform run.server).1.map fun _ => statements,
        ((m.executor.executeAll statements).perform run.server).2) := by
    rw [Act.perform_bind]
    rcases (m.executor.executeAll statements).perform run.server with ⟨fault | _, server'⟩ <;> rfl
  have idle : some statements = some [] → ∃ items, (work.perform run.server).1 = .ok items := by
    intro none
    cases none
    exact ⟨[], rfl⟩
  obtain ⟨log?', done, writable'⟩ := m.exists_runStep writable step _ work run.server idle
  refine ⟨calls, failure?, ⟨_, log?'⟩, ?_, writable', added, followed,
    reports_of_follows_tasks followed live⟩
  -- the step yields its statements instead of what running them yields
  refine done.trans (Prod.ext ?_ (by rw [worked]))
  rw [worked]
  generalize ((m.executor.executeAll statements).perform run.server).1 = ran at result
  have outcome : (ran.mapError (Fault.migration step statements)).map (fun _ => statements) =
      barring failure? statements := by
    rw [result]
    cases failure? <;> rfl
  rw [← outcome]
  cases ran <;> rfl

/-- The part of a migration that deals with a portion of the live schema. -/
def clear (m : Migrator σ) (labels : List String) (portion : Portion) :
    Act (Run σ) (List String) := do
  let live ← m.runStep portion.fetchStep none (portion.ask m.inspector)
  let planned ← Act.result ((portion.drops (labels.map .text) live).mapError Fault.shape)
  m.runPlanned portion.dropStep planned

theorem drop_eq_clear (m : Migrator σ) (labels : List String) :
    m.drop labels = (do
      let droppedConstraints ← m.clear labels .constraints
      let droppedIndexes ← m.clear labels .indexes
      pure (droppedConstraints, droppedIndexes)) := by
  simp only [drop, clear, bind_assoc]
  rfl

/-- The step that fetches a portion makes one call. -/
theorem obeys_fetch (traced : m.Traced trace) (portion : Portion) (writable : Writable run.log?)
    (known : live portion = portion.reported m.inspector run.server) :
    Obeys trace live [⟨portion.fetchStep, [], .report portion⟩]
      (m.runStep portion.fetchStep none (portion.ask m.inspector)) (live portion) run := by
  have added := traced.report portion run.server
  obtain ⟨log?', fetched, writable'⟩ := m.exists_runStep writable portion.fetchStep none
    (portion.ask m.inspector) run.server (fun none => nomatch none)
  rw [Portion.reported] at known
  rcases asked : (portion.ask m.inspector).perform run.server with ⟨fault | answer, server'⟩
  · rw [asked] at added fetched
    exact ⟨[.report portion (.error fault)], some (.migration portion.fetchStep [] fault),
      ⟨server', log?'⟩, fetched, writable', added, .fail _ rfl rfl, by simp [Call.Reports]⟩
  · rw [asked] at added fetched known
    cases known
    exact ⟨[.report portion (.ok (live portion))], none, ⟨server', log?'⟩, fetched, writable',
      added, .next rfl rfl .done, by simp [Call.Reports]⟩

/-- The tasks that deal with a portion of the live schema. -/
def clearing (labels : List String) (live : Portion → List LiveEntry) (portion : Portion) :
    List Task :=
  ⟨portion.fetchStep, [], .report portion⟩ ::
    tasks portion.dropStep (portion.plannedDrops labels (live portion))

/-- A portion of the live schema is asked for, then what is planned to be dropped is dropped. -/
theorem obeys_clear (traced : m.Traced trace) (labelled : Labelled m.inspector)
    (labels : List String) (portion : Portion) (writable : Writable run.log?)
    (known : live portion = portion.reported m.inspector run.server) :
    Obeys trace live (clearing labels live portion) (m.clear labels portion)
      (portion.plannedDrops labels (live portion)) run := by
  have read : ∀ e ∈ live portion, e.Labelled := by
    rw [known]
    exact labelled_reported labelled portion run.server
  refine (obeys_fetch traced portion writable known).bind fun run' _ writable' => ?_
  rw [portion.drops_eq read]
  exact (Obeys.pure writable' _).bind fun run'' _ writable'' =>
    obeys_runPlanned traced portion.dropStep _ writable''

/-- The tasks of a migration, given what is reported of the live schema. An update only creates. -/
def plan (m : Migrator σ) (mode : Mode) (requirements : List Requirement)
    (live : Portion → List LiveEntry) : List Task :=
  let creation := tasks .create (creates m.enterprise requirements)
  match mode with
  | .updateOnly => creation
  | .fullMigrate =>
    clearing (labelsOf requirements) live .constraints ++
      (clearing (labelsOf requirements) live .indexes ++ creation)

/-- What a migration yields that carries out its plan. -/
def success (m : Migrator σ) (mode : Mode) (requirements : List Requirement)
    (live : Portion → List LiveEntry) : Outcome :=
  let labels := labelsOf requirements
  let dropped (portion : Portion) := portion.plannedDrops labels (live portion)
  let created := creates m.enterprise requirements
  match mode with
  | .updateOnly => ⟨mode, labels, [], [], created⟩
  | .fullMigrate => ⟨mode, labels, dropped .constraints, dropped .indexes, created⟩

/-- The constraints and then the indexes are dealt with. The indexes are those that are reported
once the constraints are dropped. -/
theorem exists_obeys_drop (traced : m.Traced trace) (labelled : Labelled m.inspector)
    (labels : List String) (writable : Writable run.log?) :
    ∃ live, Obeys trace live (clearing labels live .constraints ++ clearing labels live .indexes)
      (m.drop labels) (plannedConstraintDrops labels (live .constraints),
        plannedIndexDrops labels (live .indexes)) run := by
  -- the server is asked for the indexes in the state that dropping the constraints leaves
  let cleared := ((m.clear labels .constraints).perform run).2
  let live := Portion.reports m.inspector run.server cleared.server
  have known : live .constraints = Portion.reported m.inspector run.server .constraints := rfl
  refine ⟨live, ?_⟩
  rw [drop_eq_clear]
  refine (obeys_clear traced labelled labels .constraints writable known).bind
    fun run' done writable' => ?_
  have ended : cleared = run' := congrArg Prod.snd done
  have known' : live .indexes = Portion.reported m.inspector run'.server .indexes := by
    rw [← ended]
    rfl
  exact (obeys_clear traced labelled labels .indexes writable' known').map _

/-- The steps of a migration follow the plan, up to the first fault. -/
theorem exists_obeys_runSteps (traced : m.Traced trace) (labelled : Labelled m.inspector)
    (mode : Mode) (requirements : List Requirement) (writable : Writable run.log?) :
    ∃ live, Obeys trace live (m.plan mode requirements live)
      (m.runSteps mode (labelsOf requirements) requirements) (m.success mode requirements live)
      run := by
  have creation (live : Portion → List LiveEntry) {run : Run σ} (writable : Writable run.log?) :
      Obeys trace live (tasks .create (creates m.enterprise requirements))
        (m.runPlanned .create (creates m.enterprise requirements))
        (creates m.enterprise requirements) run :=
    obeys_runPlanned traced .create _ writable
  cases mode with
  | updateOnly =>
    let live : Portion → List LiveEntry := fun _ => []
    refine ⟨live, ?_⟩
    exact (Obeys.pure writable ([], [])).bind fun run' _ writable' =>
      (creation live writable').map _
  | fullMigrate =>
    obtain ⟨live, dropped⟩ := exists_obeys_drop traced labelled (labelsOf requirements) writable
    refine ⟨live, ?_⟩
    rw [plan, ← List.append_assoc]
    exact dropped.bind fun run' _ writable' => (creation live writable').map _

end Migrator

end GraphMapper.Schema
