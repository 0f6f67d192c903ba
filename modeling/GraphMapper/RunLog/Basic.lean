import GraphMapper.Calendar.Instant
import GraphMapper.Query.Naming
import GraphMapper.RunLog.Entry
import GraphMapper.RunLog.Reading

/-!
# Run logs

A run log is a file with one line for each entry, which is there once the first entry is written.
Its name tells when the run began and which run it is. Steps are numbered from 1 on in each run.

## Main definitions

* `RunLog` — a run log
* `RunLog.path`, `RunLog.content` — its file
* `RunLog.runStart`, `RunLog.runComplete`, `RunLog.runError` — telling of the run
* `RunLog.stepStart`, `RunLog.stepComplete`, `RunLog.stepError`, `RunLog.stepSkipped` — telling of
  its steps
* `RunLog.entries` — reading the log
-/

namespace GraphMapper

/-- A run log. -/
structure RunLog where
  /-- The identifier of the run. -/
  runId : Value
  /-- The directory of the file. -/
  directory : String
  /-- When the log was opened. -/
  opened : Instant
  /-- When the run began, unless it has come to its end. -/
  runStarted? : Option Instant := none
  /-- The number of the last step. -/
  sequence : Nat := 0
  /-- The lines of the file, if it is there. -/
  lines? : Option (List String) := none

namespace RunLog

/-- A log in a directory. A run without an identifier gets the first twelve digits of a fresh one.
Making the directory is no effect here: a log only knows where its file is. -/
def start (directory : String) (runId : Value) (now : Instant) (supply : Supply) :
    RunLog × Supply :=
  if runId.truthy then (⟨runId, directory, now, none, 0, none⟩, supply)
  else
    (⟨.text (String.ofList (supply.current.toList.take 12)), directory, now, none, 0, none⟩,
      supply.advance)

/-- The name of the file. -/
def fileName (log : RunLog) : String :=
  "migration_" ++ log.opened.stamp ++ "_" ++ log.runId.display ++ ".jsonl"

/-- The path of the file, without empty parts and parts that name the directory they are in. -/
def path (log : RunLog) : String :=
  let parts := (log.directory.splitOn "/").filter fun part => part != "" && part != "."
  (if log.directory.startsWith "/" then "/" else "") ++ "/".intercalate (parts ++ [log.fileName])

/-- The text of the file, if it is there. -/
def content (log : RunLog) : Option String :=
  log.lines?.map fun lines => String.join (lines.map (· ++ "\n"))

/-- The identifier of the run names a directory, which is not there. -/
def isMisplaced (log : RunLog) : Bool := log.runId.display.toList.contains '/'

/-- The log with a line at its end. -/
def addLine (log : RunLog) (line : String) : RunLog :=
  { log with lines? := some (log.lines?.getD [] ++ [line]) }

/-- The log with its file in place. -/
def touch (log : RunLog) : RunLog := { log with lines? := some (log.lines?.getD []) }

/-- Writes an entry. The file is there even if the entry has no written form. -/
def write (e : Entry) : Act RunLog Unit := Act.of fun log =>
  if log.isMisplaced then (.error (.fileMissing log.path), log)
  else
    match e.json with
    | .ok line => (.ok (), log.addLine line)
    | .error fault => (.error (.shape fault), log.touch)

/-- A message, or the text that stands where none is given. -/
def orText (message : Value) (text : String) : Value :=
  if message.truthy then message else .text text

/-! ### The run -/

/-- The entry that tells of a run. -/
def runEntry (log : RunLog) (now : Instant) (status : Status) (message : Value) : Entry :=
  ⟨Level.run.value, log.runId, status.value, .text now.iso, message, .null, .null, .null, .null,
    .null, .null, .null⟩

/-- How long the run has been going on, if it has begun. -/
def runDuration (log : RunLog) (now : Instant) : Value :=
  match log.runStarted? with
  | some began => .int (began.elapsed now)
  | none => .null

/-- Tells that the run begins. Its steps are numbered anew. -/
def runStart (now : Instant) (message : Value) : Act RunLog Unit := do
  modify fun log => { log with runStarted? := some now, sequence := 0 }
  let log ← get
  write (log.runEntry now .started (orText message "Starting schema migration"))

/-- Tells that the run has come to its end. -/
def runComplete (now : Instant) (message stats : Value) : Act RunLog Unit := do
  let log ← get
  write { log.runEntry now .completed (orText message "Completed schema migration") with
    duration := log.runDuration now, stats := stats }
  modify fun log => { log with runStarted? := none }

/-- Tells that the run has failed. -/
def runError (now : Instant) (error message : Value) : Act RunLog Unit := do
  let log ← get
  write { log.runEntry now .error (orText message "Schema migration failed") with
    duration := log.runDuration now, error := error }
  modify fun log => { log with runStarted? := none }

/-! ### The steps -/

/-- The entry that tells of a step. -/
def stepEntry (log : RunLog) (now : Instant) (status : Status) (step sequence message : Value) :
    Entry :=
  ⟨Level.step.value, log.runId, status.value, .text now.iso, message, step, sequence, .null, .null,
    .null, .null, .null⟩

/-- The log with one more step counted. -/
def nextStep (log : RunLog) : RunLog := { log with sequence := log.sequence + 1 }

/-- Tells that a step begins. -/
def stepStart (now : Instant) (step message : Value) : Act RunLog Unit := do
  modify nextStep
  let log ← get
  write (log.stepEntry now .started step (.int log.sequence)
    (orText message ("Starting " ++ step.display)))

/-- Tells that a step has come to its end. -/
def stepComplete (now : Instant) (step sequence message processed created duration : Value) :
    Act RunLog Unit := do
  let log ← get
  write { log.stepEntry now .completed step sequence
      (orText message ("Completed " ++ step.display)) with
    duration := duration, processed := processed, created := created }

/-- Tells that a step has failed. -/
def stepError (now : Instant) (step sequence error message duration : Value) :
    Act RunLog Unit := do
  let log ← get
  write { log.stepEntry now .error step sequence (orText message ("Error in " ++ step.display)) with
    duration := duration, error := error }

/-- Tells that a step was left out. -/
def stepSkipped (now : Instant) (step message : Value) : Act RunLog Unit := do
  modify nextStep
  let log ← get
  write (log.stepEntry now .skipped step (.int log.sequence)
    (orText message ("Skipped " ++ step.display)))

/-- The entries of the log, or those of a level. -/
def entries (log : RunLog) (level : Value) : Except Fault (List Value) := read level log.content

end RunLog

end GraphMapper
