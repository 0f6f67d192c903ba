import GraphMapper.Proofs.Schema.Pipeline
import Mathlib.Data.List.Basic

/-!
# The first fault ends a migration

A migration makes the calls of its plan in order. It makes all of them unless one raises a fault.
That call is then the last one, and the migration fails with the step of the call, the statements
that were planned for that step, and the fault.

## Main definitions

* `Schema.AbortingRun` — what becomes of a plan that is carried out up to the first fault

## Main results

* `Migrator.exists_obeys_migrate` — a migration follows its plan
* `Migrator.abortingRun_migrate` — it does so up to the first fault, and reports that fault
-/

namespace GraphMapper.Schema

/-- The calls that were made, and what came of them, given what was planned. -/
structure AbortingRun (plan : List Task) (calls : List Call) (success : Outcome)
    (outcome : Except Fault Outcome) : Prop where
  /-- The calls ask for what was planned, in its order and from the beginning. -/
  isPrefix : calls.map Call.request <+: plan.map Task.request
  /-- A fault was raised if and only if not all was asked for or the last call failed. -/
  raises_iff : (∃ c ∈ calls, c.fault? ≠ none) ↔
    calls.length < plan.length ∨ ∃ c ∈ calls.getLast?, c.fault? ≠ none
  /-- A call that raised a fault is the last one. The fault is reported with the step of the call
  and all statements that were planned for it. -/
  failed : ∀ before c after fault, calls = before ++ c :: after → c.fault? = some fault →
    after = [] ∧ ∃ t, plan[before.length]? = some t ∧
      outcome = .error (.migration t.step t.planned fault)
  /-- Without a fault all was done, and the outcome lists the statements that were run. -/
  succeeded : (∀ c ∈ calls, c.fault? = none) →
    outcome = .ok success ∧ success.statements = calls.filterMap (·.request.statement?)

/-- No call before another one has raised a fault. -/
theorem AbortingRun.fine_before {plan : List Task} {calls before after : List Call}
    {success : Outcome} {outcome : Except Fault Outcome} {c : Call}
    (run : AbortingRun plan calls success outcome) (made : calls = before ++ c :: after) :
    ∀ c' ∈ before, c'.fault? = none := by
  intro c' member
  by_contra raised
  obtain ⟨fault, raised⟩ := Option.ne_none_iff_exists'.1 raised
  obtain ⟨first, rest, rfl⟩ := List.append_of_mem member
  -- a call that raised a fault would be the last one
  have last := (run.failed first c' (rest ++ c :: after) fault (by simp [made]) raised).1
  simp at last

/-! ### What is planned -/

theorem filterMap_statement?_tasks (step : Step) (statements : List String) :
    (tasks step statements).filterMap (·.request.statement?) = statements := by
  simp [tasks, List.filterMap_map, Request.statement?]

namespace Migrator

variable {σ : Type} {m : Migrator σ} {mode : Mode} {requirements : List Requirement}
  {live : Portion → List LiveEntry}

theorem filterMap_statement?_clearing (labels : List String) (portion : Portion) :
    (clearing labels live portion).filterMap (·.request.statement?) =
      portion.plannedDrops labels (live portion) := by
  rw [clearing, List.filterMap_cons_none rfl, filterMap_statement?_tasks]

/-- The statements of a plan are those that a migration lists which carries it out. -/
theorem statements_success :
    (m.success mode requirements live).statements =
      (m.plan mode requirements live).filterMap (·.request.statement?) := by
  cases mode with
  | updateOnly => simp [success, plan, Outcome.statements, filterMap_statement?_tasks]
  | fullMigrate =>
    simp [success, plan, Outcome.statements, filterMap_statement?_tasks,
      filterMap_statement?_clearing]

/-- Calls that follow a plan are made up to the first fault. -/
theorem abortingRun_of_follows {calls : List Call} {failure? : Option Fault}
    (followed : Follows (m.plan mode requirements live) calls failure?) :
    AbortingRun (m.plan mode requirements live) calls (m.success mode requirements live)
      (barring failure? (m.success mode requirements live)) where
  isPrefix := followed.isPrefix
  raises_iff := by
    cases failure? with
    | none =>
      obtain ⟨same, fine⟩ := followed.complete rfl
      have length : calls.length = (m.plan mode requirements live).length := by
        simpa using congrArg List.length same
      constructor
      · rintro ⟨c, member, raised⟩
        exact absurd (fine c member) raised
      · rintro (short | ⟨c, last, raised⟩)
        · omega
        · exact absurd (fine c (List.mem_of_getLast? last)) raised
    | some fault =>
      obtain ⟨c, last, raised⟩ := followed.exists_getLast?
      exact ⟨fun _ => .inr ⟨c, last, raised⟩, fun _ => ⟨c, List.mem_of_getLast? last, raised⟩⟩
  failed := by
    intro before c after fault made raised
    obtain ⟨none, t, place, rfl⟩ := followed.failed made raised
    exact ⟨none, t, place, rfl⟩
  succeeded := by
    intro fine
    cases failure? with
    | none =>
      obtain ⟨same, -⟩ := followed.complete rfl
      refine ⟨rfl, ?_⟩
      have statements := congrArg (List.filterMap Request.statement?) same
      rw [List.filterMap_map, List.filterMap_map] at statements
      rw [statements_success]
      exact statements.symm
    | some fault =>
      obtain ⟨c, last, raised⟩ := followed.exists_getLast?
      exact absurd (fine c (List.mem_of_getLast? last)) raised

/-! ### The whole migration -/

variable {trace : σ → List Call} {log? : Option RunLog} {models : List Model}

theorem writable_summary (o : Outcome) : Json.Writable o.summary := by
  refine Json.writable_map ?_
  simp

/-- A migration follows its plan up to the first fault, whether it keeps a log or not. -/
theorem exists_obeys_migrate (traced : m.Traced trace) (labelled : Labelled m.inspector)
    (writable : Writable log?) (mode : Mode)
    (computed : Schema.requirements models = .ok requirements) (server : σ) :
    ∃ live, Obeys trace live (m.plan mode requirements live) (m.migrate mode models)
      (m.success mode requirements live) ⟨server, log?⟩ := by
  obtain ⟨x?, log₁?, began, writable₁, -⟩ := m.exists_tell writable (fun now =>
    RunLog.takes_runStart now (Json.writable_text ("Schema " ++ mode.name ++ " for " ++
      ", ".intercalate (labelsOf requirements)))) server
  obtain ⟨live, steps⟩ : ∃ live, Obeys trace live (m.plan mode requirements live)
      (m.runSteps mode (labelsOf requirements) requirements) (m.success mode requirements live)
      ⟨server, log₁?⟩ := exists_obeys_runSteps traced labelled mode requirements writable₁
  obtain ⟨calls, failure?, ⟨server', log₂?⟩, ran, writable₂, followed⟩ := steps
  rw [migrate, computed]
  cases failure? with
  | none =>
    obtain ⟨y?, log?', ended, writable', -⟩ := m.exists_tell writable₂ (fun now =>
      RunLog.takes_runComplete now Json.writable_null
        (writable_summary (m.success mode requirements live))) server'
    refine ⟨live, calls, none, ⟨server', log?'⟩, ?_, writable', followed⟩
    simp only [Act.perform_bind, Act.perform_result, began, Act.perform_attempt, ran, barring,
      ended]
    rfl
  | some fault =>
    obtain ⟨y?, log?', ended, writable', -⟩ := m.exists_tell writable₂ (fun now =>
      RunLog.takes_runError now (Json.writable_text fault.message) Json.writable_null) server'
    -- a line is written for the fault of a step, but the fault is the outcome in any case
    by_cases kind : fault.kind = .migration
    · refine ⟨live, calls, some fault, ⟨server', log?'⟩, ?_, writable', followed⟩
      simp only [Act.perform_bind, Act.perform_result, began, Act.perform_attempt, ran, barring,
        if_pos kind, ended]
      rfl
    · refine ⟨live, calls, some fault, ⟨server', log₂?⟩, ?_, writable₂, followed⟩
      simp only [Act.perform_bind, Act.perform_result, began, Act.perform_attempt, ran, barring,
        if_neg kind]
      rfl

theorem report_notMem_tasks (portion : Portion) (step : Step) (statements : List String) :
    Request.report portion ∉ (tasks step statements).map Task.request := by
  simp [tasks]

/-- The indexes are asked for behind the constraints and their drops, and nowhere else. -/
theorem before_report_indexes {before after : List Call} {answer : Except Fault (List LiveEntry)}
    (ordered : (before ++ .report .indexes answer :: after).map Call.request <+:
      (m.plan mode requirements live).map Task.request) :
    before.map Call.request =
      (clearing (labelsOf requirements) live .constraints).map Task.request := by
  obtain ⟨rest, whole⟩ := ordered
  rw [List.map_append, List.map_cons, List.append_assoc, List.cons_append] at whole
  cases mode with
  | updateOnly =>
    have asked : Request.report .indexes ∈
        (m.plan .updateOnly requirements live).map Task.request := by
      rw [← whole]
      simp [Call.request]
    exact absurd asked (report_notMem_tasks _ _ _)
  | fullMigrate =>
    -- this request is planned once, so what is in front of it is determined
    have laid : (m.plan .fullMigrate requirements live).map Task.request =
        (clearing (labelsOf requirements) live .constraints).map Task.request ++
          .report .indexes :: ((tasks .indexDrop
            (plannedIndexDrops (labelsOf requirements) (live .indexes))).map Task.request ++
              (tasks .create (creates m.enterprise requirements)).map Task.request) := by
      simp [plan, clearing, Portion.dropStep, Portion.plannedDrops]
    rw [laid] at whole
    refine ((List.append_cons_inj_of_notMem ?_ ?_).1 whole.symm).1.symm
    · rw [clearing, List.map_cons, List.mem_cons]
      rintro (same | asked)
      · cases same
      · exact report_notMem_tasks _ _ _ asked
    · rw [List.mem_append]
      rintro (asked | asked) <;> exact report_notMem_tasks _ _ _ asked

/-- What is reported to a copy that keeps a record has the same labels. -/
theorem Abides.labelled {m' : Migrator (σ × List Call)} (abides : Abides (.free Prod.mk) m m')
    (labelled : Labelled m.inspector) : Labelled m'.inspector := by
  rintro portion ⟨server, calls⟩ answer found
  have asked : Act.Abides (.free Prod.mk) (portion.ask m.inspector) (portion.ask m'.inspector) := by
    cases portion
    · exact abides.constraints
    · exact abides.indexes
  obtain ⟨entries, outcome, server', records, -⟩ := asked server trivial
  have same : outcome = .ok answer := by
    rw [← found]
    exact (congrArg Prod.fst (records.recorded calls)).symm
  refine labelled portion server answer ?_
  rw [records.plain, same]

theorem labelled_recorded (labelled : Labelled m.inspector) : Labelled m.recorded.inspector :=
  m.abides_recorded.labelled labelled

/-- The step in which a migration failed, and the statements that were planned for it. -/
def failedStep? : Except Fault Outcome → Option (Step × List String)
  | .error (.migration step planned _) => some (step, planned)
  | _ => none

/-- A migration of models whose requirements are known makes the calls of its plan in order, up to
the first fault. If a call raises one, the migration fails with the step of that call, all
statements planned for the step and the fault; otherwise it lists the statements it has run. The
indexes are asked for only after all planned constraints have been dropped. -/
theorem abortingRun_migrate (m : Migrator σ) (mode : Mode) (server : σ)
    (computed : Schema.requirements models = .ok requirements) (labelled : Labelled m.inspector)
    (writable : Writable log?) :
    ∃ live calls outcome server' log?',
      (m.recorded.migrate mode models).perform ⟨(server, []), log?⟩ =
        (outcome, ⟨(server', calls), log?'⟩) ∧
      (m.migrate mode models).perform ⟨server, log?⟩ = (outcome, ⟨server', log?'⟩) ∧
      (∀ c ∈ calls, c.Reports live) ∧
      AbortingRun (m.plan mode requirements live) calls (m.success mode requirements live)
        outcome ∧
      ∀ before answer after, calls = before ++ .report .indexes answer :: after →
        before.map Call.request = .report .constraints ::
          (plannedConstraintDrops (labelsOf requirements) (live .constraints)).map
            (.execute · .null) ∧
        ∀ c ∈ before, c.fault? = none := by
  obtain ⟨live, calls, failure?, ⟨⟨server', trace⟩, log?'⟩, migrated, -, added, followed,
    reports⟩ := exists_obeys_migrate m.traced_recorded (labelled_recorded labelled) writable mode
      computed (server, [])
  cases added
  have run : AbortingRun (m.plan mode requirements live) calls (m.success mode requirements live)
      (barring failure? (m.success mode requirements live)) := abortingRun_of_follows followed
  refine ⟨live, calls, _, server', log?', migrated, ?_, reports, run, ?_⟩
  · rw [m.perform_migrate_recorded mode models server [] log?, migrated]
    rfl
  · intro before answer after made
    refine ⟨?_, run.fine_before made⟩
    rw [before_report_indexes (made ▸ run.isPrefix)]
    simp [clearing, tasks, Portion.plannedDrops]

/-- A server that refuses to drop an index: the call that asks for it is the last one, and the
migration fails with the statements of the step that drops indexes. -/
theorem abortingRun_migrate_refused :
    let constraint : LiveEntry :=
      ⟨.text "user_email", .text "User", [.text "email"], .uniqueConstraint, false⟩
    let index : LiveEntry := ⟨.text "user_age", .text "User", [.text "age"], .index, false⟩
    let lookup : LiveEntry := ⟨.text "lookup", .null, [], .index, false⟩
    let refused := "DROP INDEX user_age IF EXISTS"
    let m : Migrator Unit :=
      { executor := ⟨"server", fun text _ =>
          if text = refused then Act.fail (.reported .runtime "locked") else pure .null, none⟩
        inspector := ⟨pure [constraint], pure [lookup, index]⟩
        clock := fun _ => 0
        enterprise := false }
    let models : List Model := [{ name := "User" }]
    let log : RunLog := ⟨.text "run", "logs", 0, none, 0, none⟩
    ∃ calls before last fault log?',
      (m.recorded.migrate .fullMigrate models).perform ⟨((), []), some log⟩ =
        (.error (.migration .indexDrop [refused] fault), ⟨((), calls), log?'⟩) ∧
      calls = before ++ [last] ∧ last.fault? = some fault ∧ ∀ c ∈ before, c.fault? = none := by
  intro constraint index lookup refused m models log
  obtain ⟨requirements, computed⟩ : ∃ rs, Schema.requirements models = .ok rs := ⟨_, rfl⟩
  have labelled : Labelled m.inspector := by
    rintro (_ | _) server live ⟨⟩
    · simp [LiveEntry.Labelled, constraint]
    · simp [LiveEntry.Labelled, index, lookup]
  have writable : Writable (some log) := by
    rintro _ ⟨⟩
    exact ⟨by decide +kernel, Json.writable_text "run"⟩
  have stopped : failedStep? ((m.migrate .fullMigrate models).perform ⟨(), some log⟩).1 =
      some (.indexDrop, [refused]) := by
    decide +kernel
  obtain ⟨live, calls, outcome, ⟨⟩, log?', recorded, migrated, -, run, -⟩ :=
    abortingRun_migrate m .fullMigrate () computed labelled writable
  rw [migrated] at stopped
  have raised : ∃ c ∈ calls, c.fault? ≠ none := by
    by_contra fine
    rw [(run.succeeded (by simpa using fine)).1] at stopped
    cases stopped
  obtain ⟨last, member, raised⟩ := raised
  obtain ⟨fault, raised⟩ := Option.ne_none_iff_exists'.1 raised
  obtain ⟨before, after, made⟩ := List.append_of_mem member
  obtain ⟨rfl, t, -, rfl⟩ := run.failed before last after fault made raised
  obtain ⟨step, planned⟩ := Prod.mk.inj (Option.some.inj stopped)
  rw [step, planned] at recorded
  exact ⟨calls, before, last, fault, log?', recorded, made, raised, run.fine_before made⟩

end Migrator

end GraphMapper.Schema
