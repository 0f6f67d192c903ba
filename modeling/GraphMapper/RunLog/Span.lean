import GraphMapper.RunLog.Basic

/-!
# Spans

A span is a step in the making. It knows when the step began, and tells the log how it ended.

## Main definitions

* `RunLog.Span` — a step in the making
* `RunLog.Span.start` — beginning a step
* `RunLog.Span.complete`, `RunLog.Span.error` — ending it
* `RunLog.Span.leave` — ending it according to the outcome of what was done in it
-/

namespace GraphMapper.RunLog

/-- A step in the making. -/
structure Span where
  /-- The step. -/
  step : Value
  /-- Its number. -/
  sequence : Nat
  /-- When it began. -/
  started : Instant
  /-- How many items were gone through. -/
  processed : Value := .int 0
  /-- How many items were created. -/
  created : Value := .int 0
  /-- The log has been told of an end. -/
  ended : Bool := false

namespace Span

/-- Begins a step. -/
def start (now : Instant) (step message : Value) : Act RunLog Span := do
  stepStart now step message
  let log ← get
  pure ⟨step, log.sequence, now, .int 0, .int 0, false⟩

/-- An act on the log beside a span. -/
def telling (a : Act RunLog Unit) : Act (Span × RunLog) Unit :=
  a.on (·.2) fun log s => (s.1, log)

/-- The span with its end told. -/
def close : Act (Span × RunLog) Span := do
  modify fun (span, log) => ({ span with ended := true }, log)
  return (← get).1

/-- Tells that the step has come to its end. -/
def complete (now : Instant) (message : Value) : Act (Span × RunLog) Unit := do
  let span ← close
  telling (stepComplete now span.step (.int span.sequence) message span.processed span.created
    (.int (span.started.elapsed now)))

/-- Tells that the step has failed. -/
def error (now : Instant) (error message : Value) : Act (Span × RunLog) Unit := do
  let span ← close
  telling (stepError now span.step (.int span.sequence) error message
    (.int (span.started.elapsed now)))

/-- Ends the step after something was done in it. If that failed, the step has failed, and the
failure stands; otherwise it has come to its end, unless the log has been told of an end. -/
def leave (now : Instant) (outcome : Except Fault Unit) : Act (Span × RunLog) Unit := do
  match outcome with
  | .error fault =>
    error now (.text fault.message) .null
    Act.fail fault
  | .ok () =>
    let (span, _) ← get
    if span.ended then pure () else complete now .null

/-- Does something in the step and ends it. -/
def within (now : Instant) (body : Act (Span × RunLog) Unit) : Act (Span × RunLog) Unit := do
  let outcome ← body.attempt
  leave now outcome

end Span

end GraphMapper.RunLog
