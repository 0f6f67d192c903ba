import GraphMapper.Proofs.Act.Rules
import GraphMapper.Schema.Migration

/-!
# Recording what a migration asks for

A migration deals with the server through its executor and its inspector only. A rule by which these
abide holds for the migration as a whole, and the run log has no part in it. Both can be made to
record every call together with the answer to it. The recorded migration does to the server and to
the run log what the migration does, so the calls in the record are the calls of the migration.

## Main definitions

* `Schema.Request`, `Schema.Call` — what the server is asked, and its answer
* `Schema.Run.rule` — a rule for the server as a rule for runs
* `Schema.Migrator.Abides` — a migrator whose calls abide by a rule
* `Schema.Migrator.recorded` — a migrator that records its calls

## Main results

* `Migrator.Abides.migrate` — a migration abides by the rule by which its calls abide
* `Migrator.perform_migrate_recorded` — recording the calls of a migration does not change it
-/

namespace GraphMapper

open Act (Rule Records)

namespace Schema

/-! ### Calls -/

/-- The portions of the live schema, which are reported one by one. -/
inductive Portion where
  /-- The constraints. -/
  | constraints
  /-- The indexes. -/
  | indexes

/-- What a migration asks of a server. -/
inductive Request where
  /-- To report a portion of the live schema. -/
  | report (portion : Portion)
  /-- To run a statement with parameters. -/
  | execute (text : String) (params : Value)

/-- The statement that is to be run. -/
def Request.statement? : Request → Option String
  | .report _ => none
  | .execute text _ => some text

/-- A request and the answer to it. -/
inductive Call where
  /-- A portion of the live schema was asked for. -/
  | report (portion : Portion) (answer : Except Fault (List LiveEntry))
  /-- A statement was to be run. -/
  | execute (text : String) (params : Value) (answer : Except Fault Value)

namespace Call

/-- What was asked. -/
def request : Call → Request
  | .report portion _ => .report portion
  | .execute text params _ => .execute text params

/-- The fault that a call raised. -/
def fault? : Call → Option Fault
  | .report _ (.error fault) | .execute _ _ (.error fault) => some fault
  | _ => none

end Call

/-! ### Rules for migrations -/

variable {σ τ α κ : Type}

/-- The run on the part of the server that `f` picks. -/
def Run.onPart (f : τ → σ) (run : Run τ) : Run σ := ⟨f run.server, run.log?⟩

/-- The run on a server that keeps a record. -/
def Run.keeping (keep : σ → List κ → τ) (run : Run σ) (record : List κ) : Run τ :=
  ⟨keep run.server record, run.log?⟩

/-- A rule for the server as a rule for runs. -/
def Run.rule (rule : Rule σ τ κ) : Rule (Run σ) (Run τ) κ where
  keep := keeping rule.keep
  valid run := rule.valid run.server
  allows := rule.allows

namespace Migrator

/-- What is recorded on the server is recorded in a run. -/
theorem records_onServer {keep : σ → List κ → τ} {a : Act σ α} {a' : Act τ α} {run : Run σ}
    {entries : List κ} {outcome : Except Fault α} {server : σ}
    (done : Records keep a a' run.server entries outcome server) :
    Records (Run.keeping keep) (onServer a) (onServer a') run entries outcome
      { run with server := server } where
  plain := by rw [onServer, Act.perform_on, done.plain]
  recorded before := by
    rw [onServer, Act.perform_on]
    exact congrArg (fun p => (p.1, (⟨p.2, run.log?⟩ : Run τ))) (done.recorded before)

/-- The calls of the first migrator, whose copies the second one makes, abide by the rule. -/
structure Abides (rule : Rule σ τ κ) (m : Migrator σ) (m' : Migrator τ) : Prop where
  /-- Running a statement does. -/
  execute : ∀ text params,
    Act.Abides rule (m.executor.execute text params) (m'.executor.execute text params)
  /-- Reporting the constraints does. -/
  constraints : Act.Abides rule m.inspector.constraints m'.inspector.constraints
  /-- Reporting the indexes does. -/
  indexes : Act.Abides rule m.inspector.indexes m'.inspector.indexes
  /-- It is the same time. -/
  clock : ∀ s record, m'.clock (rule.keep s record) = m.clock s
  /-- The server has the same kinds of constraints. -/
  enterprise : m'.enterprise = m.enterprise

namespace Abides

variable {rule : Rule σ τ κ} {m : Migrator σ} {m' : Migrator τ}

theorem onServer {a : Act σ α} {a' : Act τ α} (done : Act.Abides rule a a') :
    Act.Abides (Run.rule rule) (onServer a) (onServer a') := by
  intro run valid
  obtain ⟨entries, outcome, server, records, allowed, valid'⟩ := done run.server valid
  exact ⟨entries, outcome, _, records_onServer records, allowed, valid'⟩

theorem executeAll (abides : Abides rule m m') (statements : List String) :
    Act.Abides rule (m.executor.executeAll statements) (m'.executor.executeAll statements) := by
  induction statements with
  | nil => exact .pure ()
  | cons text rest ih => exact (abides.execute text .null).bind fun _ => ih

theorem tell (abides : Abides rule m m') (a : Instant → Act RunLog α) :
    Act.Abides (Run.rule rule) (m.tell a) (m'.tell a) := by
  rintro ⟨server, _ | log⟩ valid
  · exact ⟨[], _, _, .of_nothing rfl fun _ => rfl, nofun, valid⟩
  · rcases told : (a (m.clock server)).perform log with ⟨r, log'⟩
    refine ⟨[], r.map some, ⟨server, some log'⟩, ⟨?_, fun before => ?_⟩, nofun, valid⟩
    · simp only [Migrator.tell, Act.perform_of, told]
    · simp only [Migrator.tell, Run.rule, Run.keeping, Act.perform_of, abides.clock, told,
        List.append_nil]

theorem finish (abides : Abides rule m m') (span? : Option RunLog.Span)
    (a : Instant → Act (RunLog.Span × RunLog) Unit) :
    Act.Abides (Run.rule rule) (m.finish span? a) (m'.finish span? a) := by
  cases span? with
  | none => exact .pure ()
  | some span => exact (abides.tell _).bind fun _ => .pure ()

theorem runStep (abides : Abides rule m m') (step : Step) (planned : Option (List String))
    {work : Act σ (List α)} {work' : Act τ (List α)} (done : Act.Abides rule work work') :
    Act.Abides (Run.rule rule) (m.runStep step planned work) (m'.runStep step planned work') := by
  rw [Migrator.runStep, Migrator.runStep]
  split
  · exact (abides.tell _).bind fun _ => onServer done
  · refine (abides.tell _).bind fun span? => (onServer done).attempt.bind fun r => ?_
    cases r with
    | error fault => exact (abides.finish _ _).bind fun _ => .result _
    | ok items => exact (abides.finish _ _).bind fun _ => .pure items

theorem runPlanned (abides : Abides rule m m') (step : Step) (statements : List String) :
    Act.Abides (Run.rule rule) (m.runPlanned step statements) (m'.runPlanned step statements) :=
  abides.runStep step _ ((abides.executeAll statements).bind fun _ => .pure statements)

theorem drop (abides : Abides rule m m') (labels : List String) :
    Act.Abides (Run.rule rule) (m.drop labels) (m'.drop labels) := by
  refine (abides.runStep _ _ abides.constraints).bind fun constraints => ?_
  refine (Act.Abides.result _).bind fun planned => ?_
  refine (abides.runPlanned _ planned).bind fun droppedConstraints => ?_
  refine (abides.runStep _ _ abides.indexes).bind fun indexes => ?_
  refine (Act.Abides.result _).bind fun planned => ?_
  exact (abides.runPlanned _ planned).bind fun droppedIndexes => .pure _

theorem runSteps (abides : Abides rule m m') (mode : Mode) (labels : List String)
    (requirements : List Requirement) :
    Act.Abides (Run.rule rule) (m.runSteps mode labels requirements)
      (m'.runSteps mode labels requirements) := by
  have created := abides.runPlanned .create (creates m.enterprise requirements)
  cases mode with
  | updateOnly =>
    rw [Migrator.runSteps, Migrator.runSteps, abides.enterprise]
    exact (Act.Abides.pure _).bind fun _ => created.bind fun _ => .pure _
  | fullMigrate =>
    rw [Migrator.runSteps, Migrator.runSteps, abides.enterprise]
    exact (abides.drop labels).bind fun _ => created.bind fun _ => .pure _

/-- A migration abides by the rule by which its calls abide. -/
theorem migrate (abides : Abides rule m m') (mode : Mode) (models : List Model) :
    Act.Abides (Run.rule rule) (m.migrate mode models) (m'.migrate mode models) := by
  refine (Act.Abides.result _).bind fun requirements => ?_
  refine (abides.tell _).bind fun _ => (abides.runSteps _ _ _).attempt.bind fun r => ?_
  cases r with
  | ok outcome => exact (abides.tell _).bind fun _ => .pure outcome
  | error fault =>
    dsimp only
    split
    · exact (abides.tell _).bind fun _ => .result _
    · exact .result _

end Abides

/-! ### Recorded migrations -/

/-- The migrator that records its calls. -/
def recorded (m : Migrator σ) : Migrator (σ × List Call) where
  executor :=
    { name := m.executor.name
      execute := fun text params => (m.executor.execute text params).recorded (.execute text params)
      inspector? := none }
  inspector :=
    { constraints := m.inspector.constraints.recorded (.report .constraints)
      indexes := m.inspector.indexes.recorded (.report .indexes) }
  clock := fun s => m.clock s.1
  enterprise := m.enterprise

theorem abides_recorded (m : Migrator σ) : Abides (.free Prod.mk) m m.recorded where
  execute text params := Act.abides_recorded (Call.execute text params) _
  constraints := Act.abides_recorded (Call.report .constraints) _
  indexes := Act.abides_recorded (Call.report .indexes) _
  clock _ _ := rfl
  enterprise := rfl

/-- Recording the calls of a migration changes neither its outcome nor what it does to the server
and to the run log. -/
theorem perform_migrate_recorded (m : Migrator σ) (mode : Mode) (models : List Model)
    (server : σ) (calls : List Call) (log? : Option RunLog) :
    (m.migrate mode models).perform ⟨server, log?⟩ =
      (((m.recorded.migrate mode models).perform ⟨(server, calls), log?⟩).1,
        ((m.recorded.migrate mode models).perform ⟨(server, calls), log?⟩).2.onPart Prod.fst) := by
  obtain ⟨entries, outcome, run, records, -, -⟩ :=
    m.abides_recorded.migrate mode models ⟨server, log?⟩ trivial
  have recorded : (m.recorded.migrate mode models).perform ⟨(server, calls), log?⟩ =
      (outcome, ⟨(run.server, calls ++ entries), run.log?⟩) := records.recorded calls
  rw [records.plain, recorded]
  rfl

end Migrator

end Schema

end GraphMapper
