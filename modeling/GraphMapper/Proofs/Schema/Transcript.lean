import GraphMapper.Proofs.Schema.Pipeline
import Mathlib.Data.List.Basic

/-!
# What a log tells of a migration

A log has a block of entries for each step that a migration gets to: one entry if there was nothing
to do, otherwise two, one when the step began and one when it ended. Blocks are numbered from 1 on.
The log begins and ends with an entry for the whole run.

What a step has to do is its duty. Duties are done one after the other until a call raises a fault,
and each of them that was turned to has a block.

## Main definitions

* `Schema.Block` — how a step went, as the log tells it
* `Schema.transcript` — the entries of a whole run
* `Schema.Duty` — what a step has to do
* `Schema.Kept` — blocks and calls that belong to some duties
* `Schema.Chronicle` — what the blocks of a migration tell

## Main results

* `Kept.append`, `Kept.stop` — duties that are turned to one after the other
* `Kept.tellsOf` — every block tells how its duty went
* `Kept.chronicle` — kept duties are told of in the right way
-/

namespace GraphMapper.Schema

open RunLog (Entry Level Status Told)

/-! ### Blocks of entries -/

/-- How a step ended. -/
inductive Ending where
  /-- There was nothing to do. -/
  | skipped
  /-- It went through so many items. -/
  | completed (count : Nat)
  /-- A fault was raised. -/
  | failed (fault : Fault)

/-- How a step went. -/
structure Block where
  /-- The step. -/
  step : Step
  /-- How it ended. -/
  ending : Ending

/-- The entry about a step with a number, without what depends on the time. -/
def stepTold (runId : Value) (step : Step) (sequence : Nat) (status : Status) (message : String) :
    Entry :=
  { level := Level.step.value, runId := runId, status := status.value, timestamp := .null,
    message := .text message, step := .text step.name, sequence := .int sequence }

/-- The entry about a run, without what depends on the time. -/
def runTold (runId : Value) (status : Status) (message : String) : Entry :=
  { level := Level.run.value, runId := runId, status := status.value, timestamp := .null,
    message := .text message }

/-- The entries of a block. Only a step that creates has created the items that it went through. -/
def Block.entries (runId : Value) (sequence : Nat) (b : Block) : List Entry :=
  match b.ending with
  | .skipped => [stepTold runId b.step sequence .skipped "Nothing to execute"]
  | .completed count =>
    [stepTold runId b.step sequence .started ("Starting " ++ b.step.name),
      { stepTold runId b.step sequence .completed ("Completed " ++ b.step.name) with
        processed := .int count
        created := if b.step = .create then .int count else .int 0 }]
  | .failed fault =>
    [stepTold runId b.step sequence .started ("Starting " ++ b.step.name),
      { stepTold runId b.step sequence .error ("Error in " ++ b.step.name) with
        error := .text fault.message }]

/-- The entries of blocks that are numbered from `sequence` on. -/
def entriesFrom (runId : Value) : Nat → List Block → List Entry
  | _, [] => []
  | sequence, b :: bs => b.entries runId sequence ++ entriesFrom runId (sequence + 1) bs

/-- The entry at the end of a run. -/
def closing (runId : Value) : Except Fault Outcome → Entry
  | .ok outcome => { runTold runId .completed "Completed schema migration" with
      stats := outcome.summary }
  | .error fault => { runTold runId .error "Schema migration failed" with
      error := .text fault.message }

/-- The entries of a whole run. -/
def transcript (runId : Value) (mode : Mode) (labels : List String) (blocks : List Block)
    (outcome : Except Fault Outcome) : List Entry :=
  runTold runId .started ("Schema " ++ mode.name ++ " for " ++ ", ".intercalate labels) ::
    (entriesFrom runId 1 blocks ++ [closing runId outcome])

theorem entriesFrom_append (runId : Value) (sequence : Nat) (bs bs' : List Block) :
    entriesFrom runId sequence (bs ++ bs') =
      entriesFrom runId sequence bs ++ entriesFrom runId (sequence + bs.length) bs' := by
  induction bs generalizing sequence with
  | nil => rfl
  | cons b bs ih =>
    rw [List.cons_append, entriesFrom, entriesFrom, ih, List.append_assoc, List.length_cons]
    congr 3
    omega

/-! ### Duties -/

/-- What a step has to do. -/
inductive Duty where
  /-- To ask for a portion of the live schema. -/
  | fetch (portion : Portion)
  /-- To run statements. -/
  | run (step : Step) (statements : List String)

namespace Duty

/-- The step that has to do it. -/
def step : Duty → Step
  | .fetch portion => portion.fetchStep
  | .run step _ => step

/-- The statements that are planned; none if the step asks for the live schema. -/
def planned? : Duty → Option (List String)
  | .fetch _ => none
  | .run _ statements => some statements

/-- The tasks that it consists of. -/
def tasks : Duty → List Task
  | .fetch portion => [⟨portion.fetchStep, [], .report portion⟩]
  | .run step statements => Schema.tasks step statements

/-- The number of the items that it has to do with, given what is reported. -/
def count (live : Portion → List LiveEntry) : Duty → Nat
  | .fetch portion => (live portion).length
  | .run _ statements => statements.length

/-- The calls do it, and it has to do with so many items: those that were reported, or the
statements. -/
def DoneBy (made : List Call) (count : Nat) : Duty → Prop
  | .fetch portion => ∃ answer, made = [.report portion (.ok answer)] ∧ count = answer.length
  | .run _ statements => made.map Call.request = statements.map (.execute · .null) ∧
      (∀ c ∈ made, c.fault? = none) ∧ count = statements.length

/-- Calls that follow the tasks to their end do the duty. -/
theorem doneBy_of_follows {live : Portion → List LiveEntry} {d : Duty} {made : List Call}
    (followed : Follows d.tasks made none) (reports : ∀ c ∈ made, c.Reports live) :
    d.DoneBy made (d.count live) := by
  obtain ⟨asked, fine⟩ := followed.complete rfl
  cases d with
  | fetch portion =>
    obtain ⟨c, rfl, request⟩ : ∃ c, made = [c] ∧ c.request = .report portion := by
      simpa [tasks, List.map_eq_singleton_iff] using asked
    have answered := fine c List.mem_cons_self
    have reported := reports c List.mem_cons_self
    cases c with
    | execute => cases request
    | report portion' answer =>
      cases request
      cases answer with
      | error fault => cases answered
      | ok answer =>
        cases reported
        exact ⟨_, rfl, rfl⟩
  | run step statements =>
    refine ⟨?_, fine, rfl⟩
    rw [asked]
    simp [tasks, Schema.tasks]

end Duty

/-- The blocks tell of duties that were done one after the other by some calls, until one of them
raised a fault or all was done. -/
inductive Kept : List Duty → List Block → List Call → Option Fault → Prop
  | done : Kept [] [] [] none
  | skipped {duties : List Duty} {blocks : List Block} {calls : List Call}
      {failure? : Option Fault} (step : Step) :
      Kept duties blocks calls failure? →
      Kept (.run step [] :: duties) (⟨step, .skipped⟩ :: blocks) calls failure?
  | completed {d : Duty} {duties : List Duty} {blocks : List Block} {made calls : List Call}
      {count : Nat} {failure? : Option Fault} :
      d.planned? ≠ some [] → d.DoneBy made count → Kept duties blocks calls failure? →
      Kept (d :: duties) (⟨d.step, .completed count⟩ :: blocks) (made ++ calls) failure?
  | failed {d : Duty} {calls : List Call} {cause : Fault} (later : List Duty) :
      Follows d.tasks calls (some (.migration d.step (d.planned?.getD []) cause)) →
      Kept (d :: later) [⟨d.step, .failed cause⟩] calls
        (some (.migration d.step (d.planned?.getD []) cause))

namespace Kept

variable {duties duties' : List Duty} {blocks blocks' : List Block} {calls calls' : List Call}
  {failure? : Option Fault} {fault : Fault}

/-- Duties that were done are followed by the next ones. -/
theorem append (first : Kept duties blocks calls none)
    (next : Kept duties' blocks' calls' failure?) :
    Kept (duties ++ duties') (blocks ++ blocks') (calls ++ calls') failure? := by
  -- by induction on the first part, whose end is generalized: it is the same for all of its tails
  generalize ended : (none : Option Fault) = end? at first
  induction first with
  | done => exact next
  | skipped step _ ih => exact .skipped step (ih ended)
  | completed planned done _ ih =>
    rw [List.append_assoc]
    exact .completed planned done (ih ended)
  | failed => cases ended

/-- After a fault it does not matter what else there was to do. -/
theorem stop (first : Kept duties blocks calls (some fault)) (duties' : List Duty) :
    Kept (duties ++ duties') blocks calls (some fault) := by
  generalize ended : some fault = end? at first
  induction first with
  | done => cases ended
  | skipped step _ ih => exact .skipped step (ih ended)
  | completed planned done _ ih => exact .completed planned done (ih ended)
  | failed later followed => exact .failed (later ++ duties') followed

theorem isPrefix (kept : Kept duties blocks calls failure?) :
    blocks.map Block.step <+: duties.map Duty.step := by
  induction kept with
  | done => exact List.nil_prefix
  | skipped step _ ih => exact List.cons_prefix_cons.2 ⟨rfl, ih⟩
  | completed _ _ _ ih => exact List.cons_prefix_cons.2 ⟨rfl, ih⟩
  | failed later _ => exact List.cons_prefix_cons.2 ⟨rfl, List.nil_prefix⟩

end Kept

/-- The block tells how a duty went that was done by some of the calls. -/
structure Block.TellsOf (b : Block) (d : Duty) (calls : List Call) : Prop where
  /-- It is about the step that has the duty. -/
  step : b.step = d.step
  /-- The step was skipped if and only if no statements were planned. -/
  skipped_iff : b.ending = .skipped ↔ d.planned? = some []
  /-- If the step was completed, its calls did the duty, and its items were counted. -/
  completed : ∀ count, b.ending = .completed count → ∃ made, made <:+: calls ∧ d.DoneBy made count

theorem Block.TellsOf.mono {b : Block} {d : Duty} {calls calls' : List Call}
    (tells : b.TellsOf d calls) (part : calls <:+: calls') : b.TellsOf d calls' where
  step := tells.step
  skipped_iff := tells.skipped_iff
  completed count ended := by
    obtain ⟨made, inside, done⟩ := tells.completed count ended
    exact ⟨made, inside.trans part, done⟩

/-- The step has failed. -/
def Block.HasFailed (b : Block) : Prop := ∃ cause, b.ending = .failed cause

namespace Kept

variable {duties : List Duty} {blocks : List Block} {calls : List Call} {failure? : Option Fault}
  {fault : Fault}

/-- Every block tells how its duty went. -/
theorem tellsOf (kept : Kept duties blocks calls failure?) :
    ∀ p ∈ blocks.zip duties, p.1.TellsOf p.2 calls := by
  induction kept with
  | done => exact List.forall_mem_nil _
  | skipped step _ ih =>
    rw [List.zip_cons_cons, List.forall_mem_cons]
    exact ⟨⟨rfl, iff_of_true rfl rfl, fun _ ended => nomatch ended⟩, ih⟩
  | @completed d duties blocks made calls count failure? planned done _ ih =>
    rw [List.zip_cons_cons, List.forall_mem_cons]
    constructor
    · refine ⟨rfl, iff_of_false (by simp) planned, ?_⟩
      rintro _ ⟨⟩
      exact ⟨made, (List.prefix_append made calls).isInfix, done⟩
    · intro p member
      exact (ih p member).mono (List.suffix_append made calls).isInfix
  | @failed d calls cause later followed =>
    -- without statements there would be no call that could have raised the fault
    have planned : d.planned? ≠ some [] := by
      intro none
      cases d with
      | fetch portion => cases none
      | run step statements =>
        cases none
        cases followed
    rw [List.zip_cons_cons, List.forall_mem_cons, List.zip_nil_left]
    exact ⟨⟨rfl, iff_of_false (by simp) planned, fun _ ended => nomatch ended⟩,
      List.forall_mem_nil _⟩

/-- If there is no fault in the end, there is a block for every duty, and no step has failed. -/
theorem returned (kept : Kept duties blocks calls failure?) (fine : failure? = none) :
    blocks.map Block.step = duties.map Duty.step ∧ ∀ b ∈ blocks, ¬ b.HasFailed := by
  induction kept with
  | done => exact ⟨rfl, List.forall_mem_nil _⟩
  | skipped step _ ih =>
    obtain ⟨same, others⟩ := ih fine
    refine ⟨List.cons_eq_cons.2 ⟨rfl, same⟩, List.forall_mem_cons.2 ⟨?_, others⟩⟩
    rintro ⟨cause, ⟨⟩⟩
  | completed _ _ _ ih =>
    obtain ⟨same, others⟩ := ih fine
    refine ⟨List.cons_eq_cons.2 ⟨rfl, same⟩, List.forall_mem_cons.2 ⟨?_, others⟩⟩
    rintro ⟨cause, ⟨⟩⟩
  | failed => cases fine

/-- If there is a fault in the end, the last step has failed with the fault of the last call, and no
other step has failed. -/
theorem raised (kept : Kept duties blocks calls (some fault)) :
    ∃ before step planned cause, blocks = before ++ [⟨step, .failed cause⟩] ∧
      (∀ b ∈ before, ¬ b.HasFailed) ∧ fault = .migration step planned cause ∧
      ∃ c ∈ calls.getLast?, c.fault? = some cause := by
  generalize ended : some fault = end? at kept
  induction kept with
  | done => cases ended
  | skipped step _ ih =>
    obtain ⟨before, last, planned, cause, rfl, others, reported⟩ := ih ended
    refine ⟨_ :: before, last, planned, cause, rfl, List.forall_mem_cons.2 ⟨?_, others⟩, reported⟩
    rintro ⟨cause, ⟨⟩⟩
  | completed _ _ _ ih =>
    obtain ⟨before, last, planned, cause, rfl, others, reported, c, found, raised⟩ := ih ended
    refine ⟨_ :: before, last, planned, cause, rfl, List.forall_mem_cons.2 ⟨?_, others⟩, reported,
      c, List.mem_getLast?_append_of_mem_getLast? found, raised⟩
    rintro ⟨cause, ⟨⟩⟩
  | @failed d calls cause later followed =>
    cases ended
    obtain ⟨t, -, c, found, cause', raised, same⟩ := followed.exists_raised
    obtain ⟨-, -, rfl⟩ := Fault.migration.inj same
    exact ⟨[], d.step, _, cause, rfl, List.forall_mem_nil _, rfl, c, found, raised⟩

end Kept

/-- The blocks tell of a run that had these duties, made these calls and came to this outcome. -/
structure Chronicle (mode : Mode) (duties : List Duty) (blocks : List Block) (calls : List Call)
    (outcome : Except Fault Outcome) : Prop where
  /-- The blocks are about the steps of the mode, in their order and from the first. -/
  isPrefix : blocks.map Block.step <+: mode.steps
  /-- Every block tells how the duty of its step went. -/
  tellsOf : ∀ p ∈ blocks.zip duties, p.1.TellsOf p.2 calls
  /-- If the migration returned, all steps have blocks, and none has failed. -/
  returned : ∀ done, outcome = .ok done →
    blocks.map Block.step = mode.steps ∧ ∀ b ∈ blocks, ¬ b.HasFailed
  /-- If it did not, the last block is the only one that tells of a failure. The fault is that of
  the last call, and the migration has failed with the step and the fault. -/
  raised : ∀ fault, outcome = .error fault → ∃ before step planned cause,
    blocks = before ++ [⟨step, .failed cause⟩] ∧ (∀ b ∈ before, ¬ b.HasFailed) ∧
      fault = .migration step planned cause ∧ ∃ c ∈ calls.getLast?, c.fault? = some cause

/-- Kept duties of the steps of a mode are told of in the right way. -/
theorem Kept.chronicle {mode : Mode} {duties : List Duty} {blocks : List Block} {calls : List Call}
    {failure? : Option Fault} (kept : Kept duties blocks calls failure?)
    (steps : duties.map Duty.step = mode.steps) (success : Outcome) :
    Chronicle mode duties blocks calls (barring failure? success) where
  isPrefix := by
    rw [← steps]
    exact kept.isPrefix
  tellsOf := kept.tellsOf
  returned := by
    intro done returned
    cases failure? with
    | none =>
      rw [← steps]
      exact kept.returned rfl
    | some fault => cases returned
  raised := by
    intro fault raised
    cases failure? with
    | none => cases raised
    | some fault' =>
      cases raised
      exact kept.raised

end GraphMapper.Schema
