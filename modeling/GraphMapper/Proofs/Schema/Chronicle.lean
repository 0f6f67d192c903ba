import GraphMapper.Proofs.Schema.Abort
import GraphMapper.Proofs.Schema.Transcript

/-!
# The log of a migration

Each step of a migration writes a block of entries and counts itself, and does to the server what it
does without a log. So the blocks of a migration can be put together as its calls are.

## Main definitions

* `Schema.Chronicles` — an act that does its duties and writes a block for each of them
* `Schema.Migrator.duties` — the duties of a migration

## Main results

* `Migrator.exists_told_runStep` — what a step adds to the log
* `Migrator.chronicles_runStep` — a step does its duty and writes a block about it
* `Chronicles.bind` — duties are put together as the acts are that do them
* `Migrator.log_migrate` — the log of a migration is well-formed
-/

namespace GraphMapper.Schema

open RunLog (Entry Told)

/-! ### Steps -/

variable {σ α : Type}

/-- How a step ends whose work has the given outcome. -/
def ending (planned? : Option (List String)) (outcome : Except Fault (List α)) : Ending :=
  if planned? = some [] then .skipped
  else match outcome with
    | .ok items => .completed items.length
    | .error fault => .failed fault

theorem ending_of_ne {planned? : Option (List String)} (planned : planned? ≠ some [])
    (outcome : Except Fault (List α)) :
    ending planned? outcome = match outcome with
      | .ok items => .completed items.length
      | .error fault => .failed fault :=
  if_neg planned

/-- A duty whose tasks are followed is kept, with the block of the outcome. -/
theorem Kept.of_follows {live : Portion → List LiveEntry} {d : Duty} {calls : List Call}
    {failure? : Option Fault} {items : List α} {r : Except Fault (List α)}
    (followed : Follows d.tasks calls failure?) (reports : ∀ c ∈ calls, c.Reports live)
    (counted : items.length = d.count live)
    (result : r.mapError (.migration d.step (d.planned?.getD [])) = barring failure? items)
    (idle : d.planned? = some [] → ∃ items, r = .ok items) :
    Kept [d] [⟨d.step, ending d.planned? r⟩] calls failure? := by
  cases failure? with
  | none =>
    cases r with
    | error cause => cases result
    | ok yielded =>
      cases result
      by_cases planned : d.planned? = some []
      · cases d with
        | fetch portion => cases planned
        | run step statements =>
          cases planned
          cases followed
          exact .skipped step .done
      · have done : d.DoneBy calls items.length := by
          rw [counted]
          exact Duty.doneBy_of_follows followed reports
        rw [ending_of_ne planned, ← List.append_nil calls]
        exact .completed planned done .done
  | some fault =>
    cases r with
    | ok yielded => cases result
    | error cause =>
      cases result
      have planned : d.planned? ≠ some [] := by
        intro none
        obtain ⟨items, fine⟩ := idle none
        cases fine
      rw [ending_of_ne planned]
      exact .failed [] followed

namespace Migrator

variable {m : Migrator σ} {log : RunLog}

/-- Telling a log adds what there is to tell, and leaves the server alone. -/
theorem exists_perform_tell {a : Instant → Act RunLog α} {x : Instant → α} {e : Instant → Entry}
    {sequence : Nat} (adds : ∀ now, RunLog.Adds (a now) log (x now) (e now) sequence) (server : σ) :
    ∃ log', (m.tell a).perform ⟨server, some log⟩ =
        (.ok (some (x (m.clock server))), ⟨server, some log'⟩) ∧
      log'.sequence = sequence ∧ Told log log' [(e (m.clock server)).timeless] := by
  obtain ⟨log', told, number, added⟩ := (adds (m.clock server)).exists_told
  refine ⟨log', ?_, number, added⟩
  simp [tell, told, Except.map]

/-- Telling how a step ended adds what there is to tell, and leaves the server alone. -/
theorem exists_perform_finish {span : RunLog.Span}
    {a : Instant → Act (RunLog.Span × RunLog) Unit} {e : Instant → Entry} {sequence : Nat}
    (adds : ∀ now, RunLog.Adds (RunLog.ofSpan span (a now)) log () (e now) sequence) (server : σ) :
    ∃ log', (m.finish (some span) a).perform ⟨server, some log⟩ =
        (.ok (), ⟨server, some log'⟩) ∧
      log'.sequence = sequence ∧ Told log log' [(e (m.clock server)).timeless] := by
  obtain ⟨log', told, number, added⟩ := m.exists_perform_tell adds server
  refine ⟨log', ?_, number, added⟩
  change Act.perform (m.tell (fun now => RunLog.ofSpan span (a now)) >>= fun _ => pure ()) _ = _
  rw [Act.perform_bind, told]
  rfl

/-- A step without statements writes one entry. -/
theorem exists_told_skipped (writable : log.Writable) (step : Step) (work : Act σ (List α))
    (server : σ) :
    ∃ log', ((m.runStep step (some []) work).perform ⟨server, some log⟩).2 =
        ⟨(work.perform server).2, some log'⟩ ∧
      log'.sequence = log.sequence + 1 ∧
      Told log log' ((Block.mk step .skipped).entries log.runId (log.sequence + 1)) := by
  obtain ⟨log', told, number, added⟩ := m.exists_perform_tell (fun now =>
    RunLog.adds_stepSkipped now writable (Json.writable_text step.name)
      (Json.writable_text "Nothing to execute")) server
  refine ⟨log', ?_, number, added⟩
  rw [runStep, if_pos rfl, Act.perform_bind, told]
  rfl

/-- Another step writes one entry before its work and one after it. -/
theorem exists_told_worked (writable : log.Writable) (step : Step)
    {planned? : Option (List String)} (planned : planned? ≠ some []) (work : Act σ (List α))
    (server : σ) :
    ∃ log', ((m.runStep step planned? work).perform ⟨server, some log⟩).2 =
        ⟨(work.perform server).2, some log'⟩ ∧
      log'.sequence = log.sequence + 1 ∧
      Told log log' ((Block.mk step (match (work.perform server).1 with
        | .ok items => .completed items.length
        | .error fault => .failed fault)).entries log.runId (log.sequence + 1)) := by
  have named : Json.Writable (.text step.name) := Json.writable_text step.name
  obtain ⟨log₁, told, number, added⟩ := m.exists_perform_tell (fun now =>
    RunLog.adds_spanStart now writable named Json.writable_null) server
  have writable₁ : log₁.Writable := writable.of_runId_eq added.runId
  have open' : RunLog.Span.Writable
      ⟨.text step.name, log.sequence + 1, m.clock server, .int 0, .int 0, false⟩ :=
    ⟨named, Json.writable_int 0, Json.writable_int 0⟩
  rw [runStep, if_neg planned, Act.perform_bind, told]
  simp only [Act.perform_bind, Act.perform_attempt, onServer, Act.perform_on]
  -- the second entry is written by the span that the first one has opened, so it has its number
  rcases work.perform server with ⟨fault | items, server'⟩
  · obtain ⟨log', finished, number', added'⟩ := m.exists_perform_finish (fun now =>
      RunLog.adds_spanError now writable₁ open' (Json.writable_text fault.message)
        Json.writable_null) server'
    refine ⟨log', ?_, number'.trans number, ?_⟩
    · simp only [Act.perform_bind]
      rw [finished]
      rfl
    · have both := added.trans added'
      simp only [RunLog.stepEntry, Entry.timeless, added.runId] at both
      exact both
  · obtain ⟨log', finished, number', added'⟩ := m.exists_perform_finish (fun now =>
      RunLog.adds_spanComplete now writable₁ (writable_counted open' items.length)
        Json.writable_null) server'
    refine ⟨log', ?_, number'.trans number, ?_⟩
    · simp only [Option.map_some, Act.perform_bind]
      rw [finished]
      rfl
    · have both := added.trans added'
      simp only [RunLog.stepEntry, Entry.timeless, added.runId, counted] at both
      exact both

/-- A step writes a block about itself, and counts itself. -/
theorem exists_told_runStep (writable : log.Writable) (step : Step)
    (planned? : Option (List String)) (work : Act σ (List α)) (server : σ) :
    ∃ log', ((m.runStep step planned? work).perform ⟨server, some log⟩).2 =
        ⟨(work.perform server).2, some log'⟩ ∧
      log'.sequence = log.sequence + 1 ∧
      Told log log' ((Block.mk step (ending planned? (work.perform server).1)).entries log.runId
        (log.sequence + 1)) := by
  by_cases planned : planned? = some []
  · rw [planned]
    exact exists_told_skipped writable step work server
  · have worked := m.exists_told_worked writable step planned work server
    rwa [← ending_of_ne planned] at worked

end Migrator

/-! ### Acts that write blocks -/

/-- The act does its duties one after the other up to the first fault, and yields `x` if there is
none. It writes a block for each duty that it gets to, and counts the blocks. -/
def Chronicles (trace : σ → List Call) (live : Portion → List LiveEntry) (duties : List Duty)
    (a : Act (Run σ) α) (x : α) (server : σ) (log : RunLog) : Prop :=
  ∃ blocks calls failure? server' log',
    a.perform ⟨server, some log⟩ = (barring failure? x, ⟨server', some log'⟩) ∧
    trace server' = trace server ++ calls ∧ (∀ c ∈ calls, c.Reports live) ∧
    Kept duties blocks calls failure? ∧ log'.sequence = log.sequence + blocks.length ∧
    Told log log' (entriesFrom log.runId (log.sequence + 1) blocks)

namespace Chronicles

variable {trace : σ → List Call} {live : Portion → List LiveEntry} {duties duties' : List Duty}
  {a : Act (Run σ) α} {x : α} {server : σ} {log : RunLog}

protected theorem pure (x : α) : Chronicles trace live [] (pure x) x server log :=
  ⟨[], [], none, server, log, rfl, (List.append_nil _).symm, List.forall_mem_nil _, .done, rfl,
    .refl log⟩

/-- If all duties are done, the next ones are turned to; otherwise nothing else happens. -/
protected theorem bind {β : Type} {f : α → Act (Run σ) β} {y : β}
    (first : Chronicles trace live duties a x server log)
    (next : ∀ server' log', a.perform ⟨server, some log⟩ = (.ok x, ⟨server', some log'⟩) →
      log'.runId = log.runId → Chronicles trace live duties' (f x) y server' log') :
    Chronicles trace live (duties ++ duties') (a >>= f) y server log := by
  obtain ⟨blocks, calls, failure?, server', log', done, added, reports, kept, number, told⟩ := first
  cases failure? with
  | none =>
    -- the next act starts with the log that is left, so its blocks are numbered from there on
    obtain ⟨blocks', calls', failure?, server'', log'', done', added', reports', kept', number',
      told'⟩ := next server' log' done told.runId
    refine ⟨blocks ++ blocks', calls ++ calls', failure?, server'', log'', ?_, ?_,
      List.forall_mem_append.2 ⟨reports, reports'⟩, kept.append kept', ?_, ?_⟩
    · rw [Act.perform_bind, done]
      exact done'
    · rw [added', added, List.append_assoc]
    · rw [number', number, List.length_append, Nat.add_assoc]
    · rw [told.runId, number, Nat.add_right_comm] at told'
      rw [entriesFrom_append]
      exact told.trans told'
  | some fault =>
    -- the next act is not reached
    refine ⟨blocks, calls, some fault, server', log', ?_, added, reports, kept.stop duties', number,
      told⟩
    rw [Act.perform_bind, done]
    rfl

/-- What is made of the result does not concern the log. -/
protected theorem map {β : Type} (done : Chronicles trace live duties a x server log) (g : α → β) :
    Chronicles trace live duties (a >>= fun x => pure (g x)) (g x) server log := by
  have whole : Chronicles trace live (duties ++ []) (a >>= fun x => pure (g x)) (g x) server log :=
    done.bind fun _ _ _ _ => Chronicles.pure (g x)
  rwa [List.append_nil] at whole

end Chronicles

namespace Migrator

variable {m : Migrator σ} {trace : σ → List Call} {live : Portion → List LiveEntry}
  {server : σ} {log : RunLog}

theorem writable_some (writable : log.Writable) : Writable (some log) := by
  rintro _ ⟨⟩
  exact writable

/-- A step that obeys the tasks of its duty writes a block about it. -/
theorem chronicles_runStep (writable : log.Writable) (d : Duty) {work : Act σ (List α)}
    {items : List α} (counted : items.length = d.count live)
    (idle : d.planned? = some [] → ∃ items, (work.perform server).1 = .ok items)
    (obeys : Obeys trace live d.tasks (m.runStep d.step d.planned? work) items
      ⟨server, some log⟩) :
    Chronicles trace live [d] (m.runStep d.step d.planned? work) items server log := by
  obtain ⟨calls, failure?, run', done, -, added, followed, reports⟩ := obeys
  obtain ⟨log', left, number, told⟩ := m.exists_told_runStep writable d.step d.planned? work server
  rw [done] at left
  cases left
  -- the outcome of the step is that of its work
  obtain ⟨_, done', -⟩ :=
    m.exists_runStep (writable_some writable) d.step d.planned? work server idle
  have result : (work.perform server).1.mapError (Fault.migration d.step (d.planned?.getD [])) =
      barring failure? items := (congrArg Prod.fst done').symm.trans (congrArg Prod.fst done)
  refine ⟨[_], calls, failure?, _, log', done, added, reports,
    .of_follows followed reports counted result idle, number, ?_⟩
  rw [entriesFrom, entriesFrom, List.append_nil]
  exact told

/-- A step that fetches a portion writes its block. -/
theorem chronicles_fetch (traced : m.Traced trace) (portion : Portion) (writable : log.Writable)
    (known : live portion = portion.reported m.inspector server) :
    Chronicles trace live [.fetch portion]
      (m.runStep portion.fetchStep none (portion.ask m.inspector)) (live portion) server log := by
  have obeys : Obeys trace live (Duty.fetch portion).tasks
      (m.runStep portion.fetchStep none (portion.ask m.inspector)) (live portion)
      ⟨server, some log⟩ := obeys_fetch traced portion (writable_some writable) known
  exact chronicles_runStep writable (.fetch portion) rfl (fun none => nomatch none) obeys

/-- A step that runs statements writes its block. -/
theorem chronicles_runPlanned (traced : m.Traced trace) (step : Step) (statements : List String)
    (writable : log.Writable) :
    Chronicles trace live [.run step statements] (m.runPlanned step statements) statements
      server log := by
  have obeys : Obeys trace live (Duty.run step statements).tasks (m.runPlanned step statements)
      statements ⟨server, some log⟩ := obeys_runPlanned traced step statements
        (writable_some writable)
  refine chronicles_runStep writable (.run step statements) rfl ?_ obeys
  rintro ⟨⟩
  exact ⟨[], rfl⟩

/-- The duties that deal with a portion of the live schema. -/
def clearingDuties (labels : List String) (live : Portion → List LiveEntry) (portion : Portion) :
    List Duty :=
  [.fetch portion, .run portion.dropStep (portion.plannedDrops labels (live portion))]

/-- A portion of the live schema is asked for, then what is planned to be dropped is dropped. -/
theorem chronicles_clear (traced : m.Traced trace) (labelled : Labelled m.inspector)
    (labels : List String) (portion : Portion) (writable : log.Writable)
    (known : live portion = portion.reported m.inspector server) :
    Chronicles trace live (clearingDuties labels live portion) (m.clear labels portion)
      (portion.plannedDrops labels (live portion)) server log := by
  have read : ∀ e ∈ live portion, e.Labelled := by
    rw [known]
    exact labelled_reported labelled portion server
  refine (chronicles_fetch traced portion writable known).bind fun server' log' _ same => ?_
  rw [portion.drops_eq read]
  exact (Chronicles.pure _).bind fun _ _ _ same' =>
    chronicles_runPlanned traced portion.dropStep _ (writable.of_runId_eq (same'.trans same))

/-- The duties of a migration, given what is reported of the live schema. An update only creates. -/
def duties (m : Migrator σ) (mode : Mode) (requirements : List Requirement)
    (live : Portion → List LiveEntry) : List Duty :=
  let creation : List Duty := [.run .create (creates m.enterprise requirements)]
  match mode with
  | .updateOnly => creation
  | .fullMigrate =>
    clearingDuties (labelsOf requirements) live .constraints ++
      clearingDuties (labelsOf requirements) live .indexes ++ creation

/-- Every step of a mode has one duty. -/
theorem map_step_duties (mode : Mode) (requirements : List Requirement) :
    (m.duties mode requirements live).map Duty.step = mode.steps := by
  cases mode <;> rfl

/-- The constraints and then the indexes are dealt with. The indexes are those that are reported
once the constraints are dropped. -/
theorem exists_chronicles_drop (traced : m.Traced trace) (labelled : Labelled m.inspector)
    (labels : List String) (writable : log.Writable) :
    ∃ live, Chronicles trace live
      (clearingDuties labels live .constraints ++ clearingDuties labels live .indexes)
      (m.drop labels) (plannedConstraintDrops labels (live .constraints),
        plannedIndexDrops labels (live .indexes)) server log := by
  -- the server is asked for the indexes in the state that dropping the constraints leaves
  let cleared := ((m.clear labels .constraints).perform ⟨server, some log⟩).2
  let live := Portion.reports m.inspector server cleared.server
  have known : live .constraints = Portion.reported m.inspector server .constraints := rfl
  refine ⟨live, ?_⟩
  rw [drop_eq_clear]
  refine (chronicles_clear traced labelled labels .constraints writable known).bind
    fun server' log' done same => ?_
  have ended : cleared = ⟨server', some log'⟩ := congrArg Prod.snd done
  have known' : live .indexes = Portion.reported m.inspector server' .indexes := by
    rw [show live = Portion.reports m.inspector server cleared.server from rfl, ended]
    rfl
  exact (chronicles_clear traced labelled labels .indexes (writable.of_runId_eq same)
    known').map _

/-- The steps of a migration do their duties, up to the first fault. -/
theorem exists_chronicles_runSteps (traced : m.Traced trace) (labelled : Labelled m.inspector)
    (mode : Mode) (requirements : List Requirement) (writable : log.Writable) :
    ∃ live, Chronicles trace live (m.duties mode requirements live)
      (m.runSteps mode (labelsOf requirements) requirements) (m.success mode requirements live)
      server log := by
  cases mode with
  | updateOnly =>
    let live : Portion → List LiveEntry := fun _ => []
    refine ⟨live, ?_⟩
    exact (Chronicles.pure ([], [])).bind fun server' log' _ same =>
      (chronicles_runPlanned traced .create _ (writable.of_runId_eq same)).map _
  | fullMigrate =>
    obtain ⟨live, dropped⟩ := exists_chronicles_drop traced labelled (labelsOf requirements)
      writable
    refine ⟨live, ?_⟩
    exact dropped.bind fun server' log' _ same =>
      (chronicles_runPlanned traced .create _ (writable.of_runId_eq same)).map _

variable {models : List Model} {requirements : List Requirement}

/-- The entries that a migration writes begin and end with one for the whole run, and have one block
for each step that it gets to, numbered from 1 on. A step is skipped if nothing is planned for it;
otherwise its block tells how it ended and with how many items it had to do. The migration returns
if and only if all steps are there and none has failed, and the last entry tells which it is. -/
theorem log_migrate (m : Migrator σ) (mode : Mode) (server : σ)
    (computed : Schema.requirements models = .ok requirements) (labelled : Labelled m.inspector)
    (writable : log.Writable) :
    ∃ live calls blocks outcome server' log',
      (m.recorded.migrate mode models).perform ⟨(server, []), some log⟩ =
        (outcome, ⟨(server', calls), some log'⟩) ∧
      (m.migrate mode models).perform ⟨server, some log⟩ = (outcome, ⟨server', some log'⟩) ∧
      (∀ c ∈ calls, c.Reports live) ∧
      Told log log' (transcript log.runId mode (labelsOf requirements) blocks outcome) ∧
      Chronicle mode (m.duties mode requirements live) blocks calls outcome := by
  let message := "Schema " ++ mode.name ++ " for " ++ ", ".intercalate (labelsOf requirements)
  have nonempty : message ≠ "" := by simp [message]
  obtain ⟨log₁, began, zero, opened⟩ := m.recorded.exists_perform_tell (fun now =>
    RunLog.adds_runStart now writable (Json.writable_text message)) (server, [])
  have writable₁ : log₁.Writable := writable.of_runId_eq opened.runId
  obtain ⟨live, steps⟩ : ∃ live, Chronicles Prod.snd live (m.duties mode requirements live)
      (m.recorded.runSteps mode (labelsOf requirements) requirements)
      (m.success mode requirements live) (server, []) log₁ :=
    exists_chronicles_runSteps m.traced_recorded (labelled_recorded labelled) mode requirements
      writable₁
  obtain ⟨blocks, calls, failure?, ⟨server', trace⟩, log₂, ran, added, reports, kept, number,
    told⟩ := steps
  cases added
  have writable₂ : log₂.Writable := writable₁.of_runId_eq told.runId
  let outcome := barring failure? (m.success mode requirements live)
  -- whether a step has failed or not, one entry is written after the blocks
  obtain ⟨log', recorded, closed⟩ : ∃ log',
      (m.recorded.migrate mode models).perform ⟨(server, []), some log⟩ =
        (outcome, ⟨(server', calls), some log'⟩) ∧
      Told log₂ log' [closing log₂.runId outcome] := by
    rw [migrate, computed]
    cases failure? with
    | none =>
      obtain ⟨log', ended, -, closed⟩ := m.recorded.exists_perform_tell (fun now =>
        RunLog.adds_runComplete now writable₂ Json.writable_null
          (writable_summary (m.success mode requirements live))) (server', calls)
      refine ⟨log', ?_, closed⟩
      simp only [Act.perform_bind, Act.perform_result, message, began, Act.perform_attempt, ran,
        barring, ended]
      rfl
    | some fault =>
      obtain ⟨log', ended, -, closed⟩ := m.recorded.exists_perform_tell (fun now =>
        RunLog.adds_runError now writable₂ (Json.writable_text fault.message)
          Json.writable_null) (server', calls)
      obtain ⟨-, step, planned, cause, -, -, rfl, -⟩ := kept.raised
      have kind : (Fault.migration step planned cause).kind = .migration := rfl
      refine ⟨log', ?_, closed⟩
      simp only [Act.perform_bind, Act.perform_result, message, began, Act.perform_attempt, ran,
        barring, if_pos kind, ended]
      rfl
  refine ⟨live, calls, blocks, outcome, server', log', recorded, ?_, reports, ?_,
    kept.chronicle (m.map_step_duties mode requirements) _⟩
  · rw [m.perform_migrate_recorded mode models server [] (some log), recorded]
    rfl
  · -- all entries carry the run of the log, and the first block the number 1
    rw [zero, opened.runId] at told
    rw [told.runId, opened.runId] at closed
    have whole := opened.trans (told.trans closed)
    rw [RunLog.orText_text nonempty] at whole
    exact whole

/-- A fresh log, and a server that refuses to drop an index: the fourth block is the last one and
tells of the failure, and so does the last entry. -/
theorem log_migrate_refused :
    let index : LiveEntry := ⟨.text "user_age", .text "User", [.text "age"], .index, false⟩
    let refused := "DROP INDEX user_age IF EXISTS"
    let m : Migrator Unit :=
      { executor := ⟨"server", fun text _ =>
          if text = refused then Act.fail (.reported .runtime "locked") else pure .null, none⟩
        inspector := ⟨pure [], pure [index]⟩
        clock := fun _ => 0
        enterprise := false }
    let models : List Model := [{ name := "User" }]
    let log := (RunLog.start "logs" (.text "run") 0 Supply.counting).1
    ∃ before cause log', ((m.migrate .fullMigrate models).perform ⟨(), some log⟩).2 =
        ⟨(), some log'⟩ ∧
      Told log log' (transcript (.text "run") .fullMigrate ["User"]
        (before ++ [⟨.indexDrop, .failed cause⟩])
        (.error (.migration .indexDrop [refused] cause))) ∧
      before.map Block.step = [.constraintFetch, .constraintDrop, .indexFetch] ∧
      ∀ b ∈ before, ¬ b.HasFailed := by
  intro index refused m models log
  obtain ⟨requirements, computed, labels⟩ : ∃ rs, Schema.requirements models = .ok rs ∧
      labelsOf rs = ["User"] := ⟨_, rfl, rfl⟩
  have labelled : Labelled m.inspector := by
    rintro (_ | _) server live ⟨⟩
    · simp
    · simp [LiveEntry.Labelled, index]
  have writable : log.Writable :=
    RunLog.writable_start "logs" (.inr ⟨"run", rfl, by decide⟩) 0 (by decide +kernel)
  have stopped : failedStep? ((m.migrate .fullMigrate models).perform ⟨(), some log⟩).1 =
      some (.indexDrop, [refused]) := by
    decide +kernel
  obtain ⟨live, calls, blocks, outcome, ⟨⟩, log', -, migrated, -, told, chronicle⟩ :=
    log_migrate m .fullMigrate () computed labelled writable
  rw [migrated] at stopped
  rw [labels] at told
  cases outcome with
  | ok done => cases stopped
  | error fault =>
    obtain ⟨before, step, planned, cause, rfl, fine, rfl, -⟩ := chronicle.raised fault rfl
    obtain ⟨rfl, rfl⟩ := Prod.mk.inj (Option.some.inj stopped)
    refine ⟨before, cause, log', congrArg Prod.snd migrated, told, ?_, fine⟩
    obtain ⟨later, whole⟩ := chronicle.isPrefix
    rw [List.map_append, List.append_assoc] at whole
    -- the step that failed is one of the mode once, so what is in front of it is known
    have split : [.constraintFetch, .constraintDrop, .indexFetch] ++ .indexDrop :: [.create] =
        before.map Block.step ++ .indexDrop :: later := whole.symm
    exact ((List.append_cons_inj_of_notMem (by decide) (by decide)).1 split).1.symm

end Migrator

end GraphMapper.Schema
