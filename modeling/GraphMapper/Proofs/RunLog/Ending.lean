import GraphMapper.Proofs.Act.Outcomes
import GraphMapper.Proofs.RunLog.Writing

/-!
# How a step ends

While a step is in the making the log may be told that it has come to its end or has failed, any
number of times, and each time one entry is added. When the step is left the log is told of a
failure in any case, but of a success only if it has not been told of an end before. So a step has
exactly one entry about its end unless the log is told of it twice, or is told of it and the step
then fails.

## Main definitions

* `Span.Move` — what may be done with a step in the making
* `Span.body` — several moves with the outcome at the end
* `Span.block` — a step with what is done in it
* `Entry.ends` — an entry about the end of a step
* `Span.told`, `Span.parting` — what is told by moves, and when a step is left

## Main results

* `Span.exists_perform_within` — what a step adds to the log until it is left
* `Span.ends_once_iff` — when a step has exactly one entry about its end
-/

namespace GraphMapper.RunLog

/-- The entry tells that the step with a number has come to its end or has failed. -/
def Entry.ends (step : String) (number : Int) (e : Entry) : Bool :=
  e.step.equals (.text step) && e.sequence.equals (.int number) &&
    (e.status.equals Status.completed.value || e.status.equals Status.error.value)

namespace Span

/-- The entry that tells that a step has come to its end. -/
def completion (log : RunLog) (span : Span) (now : Instant) (message : Value) : Entry :=
  { log.stepEntry now .completed span.step (.int span.sequence)
      (orText message ("Completed " ++ span.step.display)) with
    duration := .int (span.started.elapsed now), processed := span.processed,
    created := span.created }

/-- The entry that tells that a step has failed. -/
def failure (log : RunLog) (span : Span) (now : Instant) (text message : Value) : Entry :=
  { log.stepEntry now .error span.step (.int span.sequence)
      (orText message ("Error in " ++ span.step.display)) with
    duration := .int (span.started.elapsed now), error := text }

/-- What may be done with a step in the making. -/
inductive Move where
  /-- Noting how many items were gone through and created. -/
  | count (processed created : Int)
  /-- Telling that the step has come to its end. -/
  | complete (now : Instant) (message : String)
  /-- Telling that the step has failed. -/
  | error (now : Instant) (text message : String)

namespace Move

/-- Carries out a move. -/
def act : Move → Act (Span × RunLog) Unit
  | .count processed created => modify fun (span, log) =>
      ({ span with processed := .int processed, created := .int created }, log)
  | .complete now message => Span.complete now (.text message)
  | .error now text message => Span.error now (.text text) (.text message)

/-- The move tells the log of an end. -/
def tells : Move → Bool
  | .count _ _ => false
  | _ => true

/-- The step after a move. -/
def next (span : Span) : Move → Span
  | .count processed created =>
    { span with processed := .int processed, created := .int created }
  | _ => { span with ended := true }

/-- The entries that a move adds. -/
def entries (log : RunLog) (span : Span) : Move → List Entry
  | .count _ _ => []
  | .complete now message => [completion log span now (.text message)]
  | .error now text message => [failure log span now (.text text) (.text message)]

end Move

/-- Moves one after the other, and how it ends. -/
def body : List Move → Except Fault Unit → Act (Span × RunLog) Unit
  | [], outcome => Act.result outcome
  | move :: rest, outcome => do
    move.act
    body rest outcome

/-- A step in which something is done, from its beginning until it is left. -/
def block (begun left : Instant) (step message : String) (inside : Act (Span × RunLog) Unit) :
    Act RunLog Unit := do
  let span ← start begun (.text step) (.text message)
  ofSpan span (within left inside)

/-- The step after several moves. -/
def after (span : Span) (moves : List Move) : Span := moves.foldl Move.next span

/-- The entries that moves add one after the other. -/
def told (log : RunLog) : Span → List Move → List Entry
  | _, [] => []
  | span, move :: rest => move.entries log span ++ told log (move.next span) rest

/-- The entries that are added when a step is left. -/
def parting (log : RunLog) (left : Instant) (span : Span) : Except Fault Unit → List Entry
  | .error fault => [failure log span left (.text fault.message) .null]
  | .ok () => if span.ended then [] else [completion log span left .null]

/-! ### What is added to the log -/

variable {log log' : RunLog} {span : Span} {moves : List Move} {outcome : Except Fault Unit}

/-- An act on a span and its log is known by what becomes of either. -/
theorem perform_eq_of_ofSpan {a : Act (Span × RunLog) Unit} {r : Except Fault Unit} {span' : Span}
    (done : (ofSpan span a).perform log = (r, log'))
    (kept : (a.perform (span, log)).2.1 = span') : a.perform (span, log) = (r, (span', log')) := by
  rw [ofSpan, Act.perform_on, Prod.mk.injEq] at done
  exact Prod.ext done.1 (Prod.ext kept done.2)

theorem exists_perform_complete (writable : log.Writable) (known : span.Writable) (now : Instant)
    {message : Value} (written : Json.Writable message) :
    ∃ log', (complete now message).perform (span, log) =
        (.ok (), ({ span with ended := true }, log')) ∧
      Gains log log' [completion log span now message] := by
  obtain ⟨log', done, -, gains⟩ := (adds_spanComplete now writable known written).exists_gains
  exact ⟨log', perform_eq_of_ofSpan done rfl, gains⟩

theorem exists_perform_error (writable : log.Writable) (known : span.Writable) (now : Instant)
    {text message : Value} (failed : Json.Writable text) (written : Json.Writable message) :
    ∃ log', (error now text message).perform (span, log) =
        (.ok (), ({ span with ended := true }, log')) ∧
      Gains log log' [failure log span now text message] := by
  obtain ⟨log', done, -, gains⟩ :=
    (adds_spanError now writable known failed written).exists_gains
  exact ⟨log', perform_eq_of_ofSpan done rfl, gains⟩

/-- A move adds its entries. -/
theorem exists_perform_move (writable : log.Writable) (known : span.Writable) (move : Move) :
    ∃ log', move.act.perform (span, log) = (.ok (), (move.next span, log')) ∧
      Gains log log' (move.entries log span) := by
  cases move with
  | count processed created => exact ⟨log, rfl, .refl log⟩
  | complete now message =>
    exact exists_perform_complete writable known now (Json.writable_text message)
  | error now text message =>
    exact exists_perform_error writable known now (Json.writable_text text)
      (Json.writable_text message)

theorem Writable.next (known : span.Writable) (move : Move) : (move.next span).Writable := by
  cases move with
  | count processed created =>
    exact ⟨known.step, Json.writable_int processed, Json.writable_int created⟩
  | _ => exact ⟨known.step, known.processed, known.created⟩

theorem Writable.after (known : span.Writable) (moves : List Move) :
    (span.after moves).Writable := by
  induction moves generalizing span with
  | nil => exact known
  | cons move rest ih => exact ih (known.next move)

/-- What moves tell depends on the run of the log only. -/
theorem told_eq_of_runId_eq (same : log'.runId = log.runId) (span : Span) (moves : List Move) :
    told log' span moves = told log span moves := by
  induction moves generalizing span with
  | nil => rfl
  | cons move rest ih =>
    rw [told, told, ih]
    cases move <;> simp only [Move.entries, completion, failure, stepEntry, same]

theorem parting_eq_of_runId_eq (same : log'.runId = log.runId) (left : Instant) (span : Span)
    (outcome : Except Fault Unit) :
    parting log' left span outcome = parting log left span outcome := by
  cases outcome <;> simp only [parting, completion, failure, stepEntry, same]

/-- Moves add their entries one after the other. -/
theorem exists_perform_body (writable : log.Writable) (known : span.Writable) (moves : List Move)
    (outcome : Except Fault Unit) :
    ∃ log', (body moves outcome).perform (span, log) = (outcome, (span.after moves, log')) ∧
      Gains log log' (told log span moves) := by
  induction moves generalizing span log with
  | nil => exact ⟨log, rfl, .refl log⟩
  | cons move rest ih =>
    obtain ⟨log₁, first, gains⟩ := exists_perform_move writable known move
    obtain ⟨log', others, gains'⟩ := ih (writable.of_runId_eq gains.runId) (known.next move)
    refine ⟨log', ?_, ?_⟩
    · rw [body, Act.perform_bind, first]
      exact others
    · rw [told_eq_of_runId_eq gains.runId] at gains'
      exact gains.trans gains'

/-- Leaving a step adds an entry about a failure, or about a success that was not told before. -/
theorem exists_perform_leave (writable : log.Writable) (known : span.Writable) (left : Instant)
    (outcome : Except Fault Unit) :
    ∃ span' log', (leave left outcome).perform (span, log) = (outcome, (span', log')) ∧
      Gains log log' (parting log left span outcome) := by
  cases outcome with
  | error fault =>
    obtain ⟨log', done, gains⟩ := exists_perform_error writable known left
      (Json.writable_text fault.message) Json.writable_null
    refine ⟨{ span with ended := true }, log', ?_, gains⟩
    rw [leave, Act.perform_bind, done]
    rfl
  | ok _ =>
    rw [leave, Act.perform_get_bind, parting]
    by_cases ended : span.ended = true
    · rw [if_pos ended]
      exact ⟨span, log, by simp only [ended]; rfl, .refl log⟩
    · rw [if_neg ended]
      obtain ⟨log', done, gains⟩ := exists_perform_complete writable known left Json.writable_null
      exact ⟨{ span with ended := true }, log', by simp only [ended]; exact done, gains⟩

/-- What a step adds to the log until it is left. -/
theorem exists_perform_within (writable : log.Writable) (known : span.Writable) (left : Instant)
    (moves : List Move) (outcome : Except Fault Unit) :
    ∃ span' log', (within left (body moves outcome)).perform (span, log) =
        (outcome, (span', log')) ∧
      Gains log log' (told log span moves ++ parting log left (span.after moves) outcome) := by
  obtain ⟨log₁, done, gains⟩ := exists_perform_body writable known moves outcome
  obtain ⟨span', log', left', gains'⟩ := exists_perform_leave
    (writable.of_runId_eq gains.runId) (known.after moves) left outcome
  refine ⟨span', log', ?_, ?_⟩
  · rw [within, Act.perform_bind, Act.perform_attempt, done]
    exact left'
  · rw [parting_eq_of_runId_eq gains.runId] at gains'
    exact gains.trans gains'

/-! ### Entries about the end -/

theorem step_after (span : Span) (moves : List Move) : (span.after moves).step = span.step := by
  induction moves generalizing span with
  | nil => rfl
  | cons move rest ih =>
    refine (ih (move.next span)).trans ?_
    cases move <;> rfl

theorem sequence_after (span : Span) (moves : List Move) :
    (span.after moves).sequence = span.sequence := by
  induction moves generalizing span with
  | nil => rfl
  | cons move rest ih =>
    refine (ih (move.next span)).trans ?_
    cases move <;> rfl

/-- After moves the log has been told of an end if it had been before or if one of them tells. -/
theorem ended_after (span : Span) (moves : List Move) :
    (span.after moves).ended = (span.ended || moves.any Move.tells) := by
  induction moves generalizing span with
  | nil => exact (Bool.or_false _).symm
  | cons move rest ih =>
    refine (ih (move.next span)).trans ?_
    cases move <;> simp [Move.next, Move.tells]

theorem length_told (log : RunLog) (span : Span) (moves : List Move) :
    (told log span moves).length = moves.countP Move.tells := by
  induction moves generalizing span with
  | nil => rfl
  | cons move rest ih =>
    rw [told, List.length_append, ih, List.countP_cons]
    cases move <;> simp [Move.entries, Move.tells, Nat.add_comm]

/-- What is told by moves and when a step is left is about the end of that step. -/
theorem ends_of_mem {step : String} (name : span.step = .text step) {e : Entry} {left : Instant}
    (member : e ∈ told log span moves ++ parting log left (span.after moves) outcome) :
    e.ends step span.sequence = true := by
  have completes (span : Span) (name : span.step = .text step) (now : Instant) (message : Value) :
      (completion log span now message).ends step span.sequence = true := by
    simp [Entry.ends, completion, stepEntry, name, Value.equals, Status.value, Value.number?,
      Value.equalNumbers]
  have fails (span : Span) (name : span.step = .text step) (now : Instant) (text message : Value) :
      (failure log span now text message).ends step span.sequence = true := by
    simp [Entry.ends, failure, stepEntry, name, Value.equals, Status.value, Value.number?,
      Value.equalNumbers]
  rcases List.mem_append.1 member with within | last
  · clear member
    induction moves generalizing span with
    | nil => cases within
    | cons move rest ih =>
      rcases List.mem_append.1 within with first | later
      · cases move with
        | count processed created => cases first
        | complete now message =>
          rw [List.mem_singleton.1 first]
          exact completes span name now (.text message)
        | error now text message =>
          rw [List.mem_singleton.1 first]
          exact fails span name now (.text text) (.text message)
      · have kept : (move.next span).sequence = span.sequence := by cases move <;> rfl
        rw [← kept]
        exact ih (by cases move <;> exact name) later
  · have name' : (span.after moves).step = .text step := (step_after span moves).trans name
    rw [← sequence_after span moves]
    cases outcome with
    | error fault =>
      rw [List.mem_singleton.1 last]
      exact fails _ name' left (.text fault.message) .null
    | ok _ =>
      rw [parting] at last
      split at last
      · cases last
      · rw [List.mem_singleton.1 last]
        exact completes _ name' left .null

/-- A step adds an entry about its beginning and then those about its end: one each time that the
log is told of it, and one more if it fails or the log has not been told. So there is exactly one
unless the log is told twice, or is told and the step then fails. -/
theorem ends_once_iff (writable : log.Writable) (begun left : Instant) (step message : String)
    (moves : List Move) (outcome : Except Fault Unit) :
    let span : Span := ⟨.text step, log.sequence + 1, begun, .int 0, .int 0, false⟩
    let ends := told log span moves ++ parting log left (span.after moves) outcome
    ∃ log' entries, (block begun left step message (body moves outcome)).perform log =
        (outcome, log') ∧
      Gains log log' entries ∧
      entries.filter (Entry.ends step (log.sequence + 1)) = ends ∧
      (ends.length = 1 ↔ moves.countP Move.tells = 0 ∨
        moves.countP Move.tells = 1 ∧ outcome = .ok ()) := by
  intro span ends
  have named : Json.Writable (.text step) := Json.writable_text step
  obtain ⟨log₁, started, -, gains⟩ :=
    (adds_spanStart begun writable named (Json.writable_text message)).exists_gains
  have writable₁ : log₁.Writable := writable.of_runId_eq gains.runId
  have known : span.Writable := ⟨named, Json.writable_int 0, Json.writable_int 0⟩
  obtain ⟨span', log', done, gains'⟩ := exists_perform_within writable₁ known left moves outcome
  rw [told_eq_of_runId_eq gains.runId, parting_eq_of_runId_eq gains.runId] at gains'
  refine ⟨log', _, ?_, gains.trans gains', ?_, ?_⟩
  · rw [block, Act.perform_bind, started]
    simp only [ofSpan, Act.perform_on]
    rw [done]
  · -- the beginning is no end, all other entries are
    rw [List.singleton_append, List.filter_cons_of_neg, List.filter_eq_self]
    · exact fun e member => ends_of_mem rfl member
    · simp [Entry.ends, stepEntry, Value.equals, Status.value]
  · rw [List.length_append, length_told]
    cases outcome with
    | error fault => simp [parting]
    | ok _ =>
      have ended : (span.after moves).ended = moves.any Move.tells := ended_after span moves
      rw [parting, ended]
      by_cases none : moves.countP Move.tells = 0
      · have silent : moves.any Move.tells = false := by
          rw [List.any_eq_false]
          exact fun move member => List.countP_eq_zero.1 none move member
        simp [none, silent]
      · have spoken : moves.any Move.tells = true := by
          rw [List.any_eq_true]
          exact List.countP_pos_iff.1 (Nat.pos_of_ne_zero none)
        simp [none, spoken]

/-- A step that was completed and then fails has an entry about each. -/
theorem ends_once_iff_failed :
    let log : RunLog := { runId := .text "abc", directory := "logs", opened := 0 }
    let fault : Fault := .reported .runtime "bad"
    ∃ log' entries, (block 0 0 "create" "" (body [.complete 0 "done"] (.error fault))).perform log =
        (.error fault, log') ∧
      Gains log log' entries ∧ (entries.filter (Entry.ends "create" 1)).length = 2 := by
  intro log fault
  have writable : log.Writable := ⟨by decide +kernel, Json.writable_text "abc"⟩
  obtain ⟨log', entries, done, gains, ends, -⟩ :=
    ends_once_iff writable 0 0 "create" "" [.complete 0 "done"] (.error fault)
  exact ⟨log', entries, done, gains, congrArg List.length ends⟩

end Span

end GraphMapper.RunLog
