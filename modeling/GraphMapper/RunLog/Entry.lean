import GraphMapper.Json.Writer
import GraphMapper.Value.Arguments

/-!
# Entries of a run log

An entry tells of a whole run or of one of its steps. It is written as one JSON object, without the
fields that are null.

## Main definitions

* `RunLog.Level`, `RunLog.Status` — what an entry is about
* `RunLog.Entry` — an entry
* `RunLog.Entry.dict`, `RunLog.Entry.json` — its fields and its line
-/

namespace GraphMapper.RunLog

/-- What an entry tells of. -/
inductive Level where
  /-- A whole run. -/
  | run
  /-- A step of a run. -/
  | step
  deriving DecidableEq, Repr

/-- The number of a level. -/
def Level.value : Level → Value
  | .run => .int 1
  | .step => .int 2

/-- What has happened to a run or a step. -/
inductive Status where
  /-- It has begun. -/
  | started
  /-- It has come to its end. -/
  | completed
  /-- It has failed. -/
  | error
  /-- There was nothing to do. -/
  | skipped
  deriving DecidableEq, Repr

/-- The word for a status. -/
def Status.value : Status → Value
  | .started => .text "started"
  | .completed => .text "completed"
  | .error => .text "error"
  | .skipped => .text "skipped"

/-- An entry of a run log. -/
structure Entry where
  /-- The number of its level. -/
  level : Value
  /-- The run that it belongs to. -/
  runId : Value
  /-- The word for its status. -/
  status : Value
  /-- When it was written. -/
  timestamp : Value
  /-- What it says. -/
  message : Value
  /-- The step that it tells of. -/
  step : Value := .null
  /-- The number of that step in the run. -/
  sequence : Value := .null
  /-- How many milliseconds it took. -/
  duration : Value := .null
  /-- How many items were gone through. -/
  processed : Value := .null
  /-- How many items were created. -/
  created : Value := .null
  /-- A summary of the run. -/
  stats : Value := .null
  /-- What went wrong. -/
  error : Value := .null

namespace Entry

/-- The fields of an entry under their names. -/
def fields (e : Entry) : Value.Entries :=
  [(.text "level", e.level), (.text "run_id", e.runId), (.text "status", e.status),
   (.text "timestamp", e.timestamp), (.text "message", e.message), (.text "step", e.step),
   (.text "sequence", e.sequence), (.text "duration_ms", e.duration),
   (.text "items_processed", e.processed), (.text "items_created", e.created),
   (.text "stats", e.stats), (.text "error", e.error)]

/-- The fields of an entry that are not null. -/
def dict (e : Entry) : Value := .map (e.fields.filter fun f => !f.2.isNull)

/-- The line of an entry. -/
def json (e : Entry) : Except ShapeFault String := Json.write e.dict

/-- The fields that an entry is made from. The first five have to be given. -/
def parameters : List Parameter :=
  ["level", "run_id", "status", "timestamp", "message"].map (Parameter.mk · none)
    ++ ["step", "sequence", "duration_ms", "items_processed", "items_created", "stats",
      "error"].map (Parameter.mk · (some .null))

/-- The entry with the given fields. -/
def ofArguments (a : Arguments) : Except ShapeFault Entry :=
  match a.fit parameters with
  | .ok [level, runId, status, timestamp, message, step, sequence, duration, processed, created,
      stats, error] =>
    .ok ⟨level, runId, status, timestamp, message, step, sequence, duration, processed, created,
      stats, error⟩
  | .ok _ => .error .wrongArguments
  | .error fault => .error fault

end Entry

end GraphMapper.RunLog
