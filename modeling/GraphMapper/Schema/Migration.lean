import GraphMapper.Executor
import GraphMapper.RunLog.Span
import GraphMapper.Schema.Plan

/-!
# Migrations

A full migration asks for the constraints, drops those on the labels of the models, asks for the
indexes, drops those on the labels, and creates what the models require. The index of a constraint
goes away with the constraint, so the indexes are asked for after the constraints are dropped. An
update only creates. The first failure ends the migration, and nothing is undone.

## Main definitions

* `Schema.Migrator` — what a migration works with
* `Schema.Migrator.migrate` — a migration
* `Schema.Outcome` — the statements that it has run
-/

namespace GraphMapper.Schema

/-- What a migration has done. -/
structure Outcome where
  /-- How far it went. -/
  mode : Mode
  /-- The labels of the models. -/
  labels : List String
  /-- The statements that dropped constraints. -/
  droppedConstraints : List String := []
  /-- The statements that dropped indexes. -/
  droppedIndexes : List String := []
  /-- The statements that created constraints and indexes. -/
  created : List String := []

namespace Outcome

/-- All statements in the order in which they were run. -/
def statements (o : Outcome) : List String := o.droppedConstraints ++ o.droppedIndexes ++ o.created

/-- The labels of an outcome and the numbers of its statements. -/
def summary (o : Outcome) : Value :=
  .map [(.text "mode", .text o.mode.name), (.text "labels", .list (o.labels.map .text)),
    (.text "dropped_constraints", .int o.droppedConstraints.length),
    (.text "dropped_indexes", .int o.droppedIndexes.length),
    (.text "created", .int o.created.length), (.text "success", .bool true)]

end Outcome

/-- What a migration works with, on a server with states of type `σ`. -/
structure Migrator (σ : Type) where
  /-- What runs the statements. -/
  executor : Executor σ
  /-- What reports the live schema. -/
  inspector : Inspector σ
  /-- The time. -/
  clock : σ → Instant
  /-- The server has constraints that a property is there. -/
  enterprise : Bool

/-- The state of a migration: the server, and the run log if one is kept. -/
structure Run (σ : Type) where
  /-- The server. -/
  server : σ
  /-- The run log. -/
  log? : Option RunLog

namespace Migrator

variable {σ α : Type}

/-- An act on the server. -/
def onServer (a : Act σ α) : Act (Run σ) α := a.on (·.server) fun s run => { run with server := s }

/-- An act on the run log at the present time, if a log is kept. -/
def tell (m : Migrator σ) (a : Instant → Act RunLog α) : Act (Run σ) (Option α) :=
  Act.of fun run =>
    match run.log? with
    | none => (.ok none, run)
    | some log =>
      let (r, log) := (a (m.clock run.server)).perform log
      (r.map some, { run with log? := some log })

/-- Tells the run log how a step ended, if a log is kept. -/
def finish (m : Migrator σ) (span? : Option RunLog.Span)
    (a : Instant → Act (RunLog.Span × RunLog) Unit) : Act (Run σ) Unit := do
  match span? with
  | none => pure ()
  | some span =>
    let _ ← m.tell fun now => Act.on (fun log => (span, log)) (fun s _ => s.2) (a now)

/-- The span with the numbers of the items that a step has gone through and created. -/
def counted (step : Step) (count : Nat) (span : RunLog.Span) : RunLog.Span :=
  { span with
    processed := .int count
    created := if step = .create then .int count else span.created }

/-- Does the work of a step that yields items, and tells the run log of it. A step whose planned
statements are none is skipped. -/
def runStep (m : Migrator σ) (step : Step) (planned : Option (List String))
    (work : Act σ (List α)) : Act (Run σ) (List α) := do
  if planned = some [] then
    let _ ← m.tell fun now =>
      RunLog.stepSkipped now (.text step.name) (.text "Nothing to execute")
    onServer work
  else
    let span? ← m.tell fun now => RunLog.Span.start now (.text step.name) .null
    match ← (onServer work).attempt with
    | .error fault =>
      m.finish span? fun now => RunLog.Span.error now (.text fault.message) .null
      Act.fail (.migration step (planned.getD []) fault)
    | .ok items =>
      m.finish (span?.map (counted step items.length)) fun now => RunLog.Span.complete now .null
      pure items

/-- Runs planned statements as a step. -/
def runPlanned (m : Migrator σ) (step : Step) (statements : List String) :
    Act (Run σ) (List String) :=
  m.runStep step (some statements) do
    m.executor.executeAll statements
    pure statements

/-- Drops the constraints on the labels, then the indexes, and yields the statements that did so. -/
def drop (m : Migrator σ) (labels : List String) : Act (Run σ) (List String × List String) := do
  let targets := labels.map Value.text
  let constraints ← m.runStep .constraintFetch none m.inspector.constraints
  let planned ← Act.result ((constraintDrops constraints targets).mapError Fault.shape)
  let droppedConstraints ← m.runPlanned .constraintDrop planned
  -- Asked for only now: the indexes of dropped constraints are gone.
  let indexes ← m.runStep .indexFetch none m.inspector.indexes
  let planned ← Act.result ((indexDrops indexes targets).mapError Fault.shape)
  let droppedIndexes ← m.runPlanned .indexDrop planned
  pure (droppedConstraints, droppedIndexes)

/-- The steps of a mode for the given requirements. -/
def runSteps (m : Migrator σ) (mode : Mode) (labels : List String)
    (requirements : List Requirement) : Act (Run σ) Outcome := do
  let (droppedConstraints, droppedIndexes) ←
    match mode with
    | .fullMigrate => m.drop labels
    | .updateOnly => pure ([], [])
  let created ← m.runPlanned .create (creates m.enterprise requirements)
  pure ⟨mode, labels, droppedConstraints, droppedIndexes, created⟩

/-- The labels of some requirements, each once. -/
def labelsOf (requirements : List Requirement) : List String :=
  (requirements.map (·.label)).eraseDups

/-- Brings the constraints and indexes on the labels of the models in line with the models. -/
def migrate (m : Migrator σ) (mode : Mode) (models : List Model) : Act (Run σ) Outcome := do
  let requirements ← Act.result (Schema.requirements models)
  let labels := labelsOf requirements
  let _ ← m.tell fun now => RunLog.runStart now
    (.text ("Schema " ++ mode.name ++ " for " ++ ", ".intercalate labels))
  match ← (m.runSteps mode labels requirements).attempt with
  | .ok outcome =>
    let _ ← m.tell fun now => RunLog.runComplete now .null outcome.summary
    pure outcome
  | .error fault =>
    -- A fault outside the steps ends the migration without a line in the log.
    if fault.kind = .migration then
      let _ ← m.tell fun now => RunLog.runError now (.text fault.message) .null
    Act.fail fault

end Migrator

end GraphMapper.Schema
