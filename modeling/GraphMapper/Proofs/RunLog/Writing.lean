import GraphMapper.RunLog.Span

/-!
# Writing a run log

A run log takes every entry that has a JSON text, unless its file cannot be made. The entries that
tell of a migration are made of texts and numbers, apart from the identifier of the run, so all of
them are taken if that identifier has a JSON text. Each act of telling adds one line.

## Main definitions

* `Json.Writable` — a value that has a JSON text
* `RunLog.Writable` — a log whose file can be made and whose run has a written identifier
* `RunLog.Adds` — an act of telling that adds one entry to a log
* `RunLog.Takes` — an act of telling that succeeds on every log that can be written
* `RunLog.Gains`, `RunLog.Told` — a log to which several entries have been added

## Main results

* `RunLog.adds_runStart`, `RunLog.adds_runComplete`, `RunLog.adds_runError`,
  `RunLog.adds_stepStart`, `RunLog.adds_stepComplete`, `RunLog.adds_stepError`,
  `RunLog.adds_stepSkipped` — what each act of telling adds
* `RunLog.adds_spanStart`, `RunLog.adds_spanComplete`, `RunLog.adds_spanError` — and what it adds
  through a step in the making
* `RunLog.takes_runStart`, `RunLog.takes_runComplete`, `RunLog.takes_runError`,
  `RunLog.takes_stepSkipped`, `RunLog.takes_spanStart`, `RunLog.takes_spanComplete`,
  `RunLog.takes_spanError` — what a migration tells is taken
-/

namespace GraphMapper

namespace Json

/-- The value has a JSON text. -/
def Writable (v : Value) : Prop := ∃ text, write v = .ok text

@[simp] theorem writable_null : Writable .null := ⟨_, rfl⟩

@[simp] theorem writable_bool (b : Bool) : Writable (.bool b) := ⟨_, rfl⟩

@[simp] theorem writable_int (n : Int) : Writable (.int n) := ⟨_, rfl⟩

@[simp] theorem writable_text (s : String) : Writable (.text s) := ⟨_, rfl⟩

theorem exists_writeItems {items : List Value} (each : ∀ v ∈ items, Writable v) :
    ∃ parts, writeItems items = .ok parts := by
  induction items with
  | nil => exact ⟨[], rfl⟩
  | cons v vs ih =>
    obtain ⟨one, first⟩ := each v List.mem_cons_self
    obtain ⟨rest, later⟩ := ih fun w member => each w (List.mem_cons_of_mem v member)
    refine ⟨one :: rest, ?_⟩
    rw [writeItems, first, later]
    rfl

@[simp] theorem writable_texts (texts : List String) : Writable (.list (texts.map .text)) := by
  have each : ∀ v ∈ texts.map Value.text, Writable v := by simp
  obtain ⟨parts, written⟩ := exists_writeItems each
  refine ⟨"[" ++ ", ".intercalate parts ++ "]", ?_⟩
  rw [write, written]
  rfl

theorem exists_writeEntries {entries : List (Value × Value)}
    (each : ∀ e ∈ entries, (∃ key, e.1 = .text key) ∧ Writable e.2) :
    ∃ parts, writeEntries entries = .ok parts := by
  induction entries with
  | nil => exact ⟨[], rfl⟩
  | cons e es ih =>
    obtain ⟨key, v⟩ := e
    obtain ⟨⟨name, rfl⟩, one, first⟩ := each _ List.mem_cons_self
    obtain ⟨rest, later⟩ := ih fun e member => each e (List.mem_cons_of_mem _ member)
    refine ⟨(writeText name ++ ": " ++ one) :: rest, ?_⟩
    simp only [writeEntries, keyText, first, later]
    rfl

theorem writable_map {entries : List (Value × Value)}
    (each : ∀ e ∈ entries, (∃ key, e.1 = .text key) ∧ Writable e.2) : Writable (.map entries) := by
  obtain ⟨parts, written⟩ := exists_writeEntries each
  refine ⟨"\x7b" ++ ", ".intercalate parts ++ "\x7d", ?_⟩
  rw [write, written]
  rfl

end Json

open Json

namespace RunLog

/-- The file of the log can be made, and the identifier of its run has a JSON text. -/
def Writable (log : RunLog) : Prop := log.isMisplaced = false ∧ Json.Writable log.runId

/-- A fresh log can be written if neither the identifier of the run nor the one that stands in for
it names a directory. -/
theorem writable_start (directory : String) {runId : Value}
    (named : runId = .null ∨ ∃ name, runId = .text name ∧ '/' ∉ name.toList) (now : Instant)
    {supply : Supply} (drawn : '/' ∉ supply.current.toList) :
    (start directory runId now supply).1.Writable := by
  rw [start]
  by_cases given : runId.truthy = true
  · rw [if_pos given]
    rcases named with rfl | ⟨name, rfl, plain⟩
    · cases given
    · exact ⟨by simpa [isMisplaced] using plain, Json.writable_text name⟩
  · rw [if_neg given]
    -- without an identifier the run is named by the first characters of what is drawn
    have plain : '/' ∉ supply.current.toList.take 12 := fun member =>
      drawn (List.mem_of_mem_take member)
    exact ⟨by simpa [isMisplaced] using plain, Json.writable_text _⟩

@[simp] theorem writable_level (l : Level) : Json.Writable l.value := by
  cases l <;> exact ⟨_, rfl⟩

@[simp] theorem writable_status (s : Status) : Json.Writable s.value := by
  cases s <;> exact ⟨_, rfl⟩

@[simp] theorem writable_runDuration (log : RunLog) (now : Instant) :
    Json.Writable (log.runDuration now) := by
  rw [runDuration]
  split
  · exact writable_int _
  · exact writable_null

theorem writable_orText {message : Value} (written : Json.Writable message) (text : String) :
    Json.Writable (orText message text) := by
  rw [orText]
  split
  · exact written
  · exact writable_text text

theorem orText_text {s : String} (nonempty : s ≠ "") (text : String) :
    orText (.text s) text = .text s := by
  have truthy : (Value.text s).truthy = true := by simpa [Value.truthy] using nonempty
  rw [orText, if_pos truthy]

/-- The fields that an entry takes over from its log, and those that are only texts and numbers. -/
structure Entry.Written (log : RunLog) (e : Entry) : Prop where
  /-- It belongs to the run of the log. -/
  runId : e.runId = log.runId
  /-- Its other fields have JSON texts. -/
  others : ∀ v ∈ [e.level, e.status, e.timestamp, e.message, e.step, e.sequence, e.duration,
    e.processed, e.created, e.stats, e.error], Json.Writable v

variable {log : RunLog} {e : Entry}

theorem Entry.exists_json (writable : log.Writable) (written : e.Written log) :
    ∃ line, e.json = .ok line := by
  refine writable_map fun f member => ?_
  have member := (List.mem_filter.1 member).1
  have run : Json.Writable e.runId := written.runId ▸ writable.2
  have others := written.others
  simp only [List.forall_mem_cons, List.not_mem_nil, false_implies, implies_true, and_true]
    at others
  simp only [Entry.fields, List.mem_cons, List.not_mem_nil, or_false] at member
  rcases member with rfl | rfl | rfl | rfl | rfl | rfl | rfl | rfl | rfl | rfl | rfl | rfl <;>
    simp [run, others]

/-- The lines of the file; none if it is not there. -/
def lines (log : RunLog) : List String := log.lines?.getD []

/-- Whether a log can be written depends on its run only. -/
theorem Writable.of_runId_eq {log' : RunLog} (writable : log.Writable)
    (same : log'.runId = log.runId) : log'.Writable := by
  rw [Writable, isMisplaced, same]
  exact writable

/-- A log takes an entry of its own, as the last line. -/
theorem exists_write (writable : log.Writable) (written : e.Written log) :
    ∃ line, e.json = .ok line ∧ (write e).perform log = (.ok (), log.addLine line) := by
  obtain ⟨line, found⟩ := e.exists_json writable written
  refine ⟨line, found, ?_⟩
  rw [write, Act.perform_of, writable.1, found]
  rfl

/-- Telling yields `x`, adds the entry to the log of the same run, and leaves the number of its last
step at `sequence`. -/
def Adds {α : Type} (a : Act RunLog α) (log : RunLog) (x : α) (e : Entry) (sequence : Nat) : Prop :=
  ∃ log', a.perform log = (.ok x, log') ∧ log'.runId = log.runId ∧ log'.sequence = sequence ∧
    ∃ line, e.json = .ok line ∧ log'.lines = log.lines ++ [line]

/-- Telling succeeds on every log that can be written, the log can be written again, and what the
act yields has the property. -/
def Takes {α : Type} (a : Act RunLog α) (post : α → Prop) : Prop :=
  ∀ log : RunLog, log.Writable →
    ∃ x log', a.perform log = (.ok x, log') ∧ log'.Writable ∧ post x

/-- An act that adds an entry to every log that can be written is taken by all of them. -/
theorem takes_of_adds {α : Type} {a : Act RunLog α} {post : α → Prop}
    (adds : ∀ log : RunLog, log.Writable → ∃ x e sequence, Adds a log x e sequence ∧ post x) :
    Takes a post := by
  intro log writable
  obtain ⟨x, e, sequence, ⟨log', told, same, -, -⟩, result⟩ := adds log writable
  exact ⟨x, log', told, writable.of_runId_eq same, result⟩

variable (now : Instant)

/-! ### The run -/

theorem adds_runStart (writable : log.Writable) {message : Value}
    (written : Json.Writable message) :
    Adds (runStart now message) log ()
      (log.runEntry now .started (orText message "Starting schema migration")) 0 := by
  -- the entry is written by a log that has begun to count its steps anew
  let log₁ : RunLog := { log with runStarted? := some now, sequence := 0 }
  let e := log₁.runEntry now .started (orText message "Starting schema migration")
  have entry : e.Written log₁ := ⟨rfl, by simp [e, runEntry, writable_orText written]⟩
  have writable₁ : log₁.Writable := writable
  obtain ⟨line, found, done⟩ := exists_write writable₁ entry
  exact ⟨log₁.addLine line, done, rfl, rfl, line, found, rfl⟩

theorem takes_runStart {message : Value} (written : Json.Writable message) :
    Takes (runStart now message) fun _ => True :=
  takes_of_adds fun _ writable => ⟨(), _, _, adds_runStart now writable written, trivial⟩

theorem adds_runComplete (writable : log.Writable) {message stats : Value}
    (written : Json.Writable message) (summed : Json.Writable stats) :
    Adds (runComplete now message stats) log ()
      { log.runEntry now .completed (orText message "Completed schema migration") with
        duration := log.runDuration now, stats := stats } log.sequence := by
  let e : Entry :=
    { log.runEntry now .completed (orText message "Completed schema migration") with
      duration := log.runDuration now, stats := stats }
  have entry : e.Written log := ⟨rfl, by simp [e, runEntry, writable_orText written, summed]⟩
  obtain ⟨line, found, done⟩ := exists_write writable entry
  refine ⟨{ log.addLine line with runStarted? := none }, ?_, rfl, rfl, line, found, rfl⟩
  change Act.perform (write e >>= fun _ => modify _) log = _
  rw [Act.perform_bind, done]
  rfl

theorem takes_runComplete {message stats : Value} (written : Json.Writable message)
    (summed : Json.Writable stats) : Takes (runComplete now message stats) fun _ => True :=
  takes_of_adds fun _ writable =>
    ⟨(), _, _, adds_runComplete now writable written summed, trivial⟩

theorem adds_runError (writable : log.Writable) {error message : Value}
    (failed : Json.Writable error) (written : Json.Writable message) :
    Adds (runError now error message) log ()
      { log.runEntry now .error (orText message "Schema migration failed") with
        duration := log.runDuration now, error := error } log.sequence := by
  let e : Entry :=
    { log.runEntry now .error (orText message "Schema migration failed") with
      duration := log.runDuration now, error := error }
  have entry : e.Written log := ⟨rfl, by simp [e, runEntry, writable_orText written, failed]⟩
  obtain ⟨line, found, done⟩ := exists_write writable entry
  refine ⟨{ log.addLine line with runStarted? := none }, ?_, rfl, rfl, line, found, rfl⟩
  change Act.perform (write e >>= fun _ => modify _) log = _
  rw [Act.perform_bind, done]
  rfl

theorem takes_runError {error message : Value} (failed : Json.Writable error)
    (written : Json.Writable message) : Takes (runError now error message) fun _ => True :=
  takes_of_adds fun _ writable => ⟨(), _, _, adds_runError now writable failed written, trivial⟩

/-! ### Its steps -/

theorem adds_stepStart (writable : log.Writable) {step message : Value}
    (named : Json.Writable step) (written : Json.Writable message) :
    Adds (stepStart now step message) log ()
      (log.stepEntry now .started step (.int (log.sequence + 1 : Nat))
        (orText message ("Starting " ++ step.display))) (log.sequence + 1) := by
  let log₁ := log.nextStep
  let e := log₁.stepEntry now .started step (.int log₁.sequence)
    (orText message ("Starting " ++ step.display))
  have entry : e.Written log₁ := ⟨rfl, by simp [e, stepEntry, writable_orText written, named]⟩
  have writable₁ : log₁.Writable := writable
  obtain ⟨line, found, done⟩ := exists_write writable₁ entry
  exact ⟨log₁.addLine line, done, rfl, rfl, line, found, rfl⟩

theorem adds_stepComplete (writable : log.Writable)
    {step sequence message processed created duration : Value} (named : Json.Writable step)
    (numbered : Json.Writable sequence) (written : Json.Writable message)
    (counted : Json.Writable processed) (counted' : Json.Writable created)
    (timed : Json.Writable duration) :
    Adds (stepComplete now step sequence message processed created duration) log ()
      { log.stepEntry now .completed step sequence
          (orText message ("Completed " ++ step.display)) with
        duration := duration, processed := processed, created := created } log.sequence := by
  let e : Entry :=
    { log.stepEntry now .completed step sequence
        (orText message ("Completed " ++ step.display)) with
      duration := duration, processed := processed, created := created }
  have entry : e.Written log :=
    ⟨rfl, by
      simp [e, stepEntry, writable_orText written, named, numbered, counted, counted', timed]⟩
  obtain ⟨line, found, done⟩ := exists_write writable entry
  exact ⟨log.addLine line, done, rfl, rfl, line, found, rfl⟩

theorem adds_stepError (writable : log.Writable) {step sequence error message duration : Value}
    (named : Json.Writable step) (numbered : Json.Writable sequence)
    (failed : Json.Writable error) (written : Json.Writable message)
    (timed : Json.Writable duration) :
    Adds (stepError now step sequence error message duration) log ()
      { log.stepEntry now .error step sequence
          (orText message ("Error in " ++ step.display)) with
        duration := duration, error := error } log.sequence := by
  let e : Entry :=
    { log.stepEntry now .error step sequence
        (orText message ("Error in " ++ step.display)) with
      duration := duration, error := error }
  have entry : e.Written log :=
    ⟨rfl, by simp [e, stepEntry, writable_orText written, named, numbered, failed, timed]⟩
  obtain ⟨line, found, done⟩ := exists_write writable entry
  exact ⟨log.addLine line, done, rfl, rfl, line, found, rfl⟩

theorem adds_stepSkipped (writable : log.Writable) {step message : Value}
    (named : Json.Writable step) (written : Json.Writable message) :
    Adds (stepSkipped now step message) log ()
      (log.stepEntry now .skipped step (.int (log.sequence + 1 : Nat))
        (orText message ("Skipped " ++ step.display))) (log.sequence + 1) := by
  let log₁ := log.nextStep
  let e := log₁.stepEntry now .skipped step (.int log₁.sequence)
    (orText message ("Skipped " ++ step.display))
  have entry : e.Written log₁ := ⟨rfl, by simp [e, stepEntry, writable_orText written, named]⟩
  have writable₁ : log₁.Writable := writable
  obtain ⟨line, found, done⟩ := exists_write writable₁ entry
  exact ⟨log₁.addLine line, done, rfl, rfl, line, found, rfl⟩

theorem takes_stepSkipped {step message : Value} (named : Json.Writable step)
    (written : Json.Writable message) : Takes (stepSkipped now step message) fun _ => True :=
  takes_of_adds fun _ writable => ⟨(), _, _, adds_stepSkipped now writable named written, trivial⟩

/-- What a span tells the log besides texts and numbers of its own has JSON texts. -/
structure Span.Writable (span : Span) : Prop where
  /-- The step. -/
  step : Json.Writable span.step
  /-- The number of the items that were gone through. -/
  processed : Json.Writable span.processed
  /-- The number of the items that were created. -/
  created : Json.Writable span.created

theorem adds_spanStart (writable : log.Writable) {step message : Value}
    (named : Json.Writable step) (written : Json.Writable message) :
    Adds (Span.start now step message) log ⟨step, log.sequence + 1, now, .int 0, .int 0, false⟩
      (log.stepEntry now .started step (.int (log.sequence + 1 : Nat))
        (orText message ("Starting " ++ step.display))) (log.sequence + 1) := by
  obtain ⟨log', done, same, number, added⟩ := adds_stepStart now writable named written
  refine ⟨log', ?_, same, number, added⟩
  rw [Span.start, Act.perform_bind, done, ← number]
  rfl

theorem takes_spanStart {step message : Value} (named : Json.Writable step)
    (written : Json.Writable message) : Takes (Span.start now step message) Span.Writable :=
  takes_of_adds fun _ writable =>
    ⟨_, _, _, adds_spanStart now writable named written, named, writable_int 0, writable_int 0⟩

/-- An act on a span and its log, as an act on the log. -/
def ofSpan {α : Type} (span : Span) (a : Act (Span × RunLog) α) : Act RunLog α :=
  Act.on (fun log => (span, log)) (fun s _ => s.2) a

variable {span : Span}

theorem adds_spanComplete (writable : log.Writable) (known : span.Writable) {message : Value}
    (written : Json.Writable message) :
    Adds (ofSpan span (Span.complete now message)) log ()
      { log.stepEntry now .completed span.step (.int span.sequence)
          (orText message ("Completed " ++ span.step.display)) with
        duration := .int (span.started.elapsed now), processed := span.processed,
        created := span.created } log.sequence := by
  obtain ⟨log', done, rest⟩ := adds_stepComplete now writable known.step (writable_int _) written
    known.processed known.created (writable_int _)
  exact ⟨log', congrArg (fun told => (told.1, told.2)) done, rest⟩

theorem takes_spanComplete (known : span.Writable) {message : Value}
    (written : Json.Writable message) :
    Takes (ofSpan span (Span.complete now message)) fun _ => True :=
  takes_of_adds fun _ writable =>
    ⟨(), _, _, adds_spanComplete now writable known written, trivial⟩

theorem adds_spanError (writable : log.Writable) (known : span.Writable) {error message : Value}
    (failed : Json.Writable error) (written : Json.Writable message) :
    Adds (ofSpan span (Span.error now error message)) log ()
      { log.stepEntry now .error span.step (.int span.sequence)
          (orText message ("Error in " ++ span.step.display)) with
        duration := .int (span.started.elapsed now), error := error } log.sequence := by
  obtain ⟨log', done, rest⟩ := adds_stepError now writable known.step (writable_int _) failed
    written (writable_int _)
  exact ⟨log', congrArg (fun told => (told.1, told.2)) done, rest⟩

theorem takes_spanError (known : span.Writable) {error message : Value}
    (failed : Json.Writable error) (written : Json.Writable message) :
    Takes (ofSpan span (Span.error now error message)) fun _ => True :=
  takes_of_adds fun _ writable =>
    ⟨(), _, _, adds_spanError now writable known failed written, trivial⟩

/-! ### What a log has been told -/

/-- The log of the same run has more lines: those of some entries. -/
structure Gains (log log' : RunLog) (entries : List Entry) : Prop where
  /-- It is the same run. -/
  runId : log'.runId = log.runId
  /-- The lines of the entries have been added. -/
  added : ∃ lines, entries.mapM Entry.json = .ok lines ∧ log'.lines = log.lines ++ lines

namespace Gains

variable {log' log'' : RunLog} {entries entries' : List Entry}

theorem refl (log : RunLog) : Gains log log [] :=
  ⟨rfl, [], rfl, (List.append_nil _).symm⟩

theorem trans (first : Gains log log' entries) (next : Gains log' log'' entries') :
    Gains log log'' (entries ++ entries') := by
  obtain ⟨same, lines, written, added⟩ := first
  obtain ⟨same', lines', written', added'⟩ := next
  refine ⟨same'.trans same, lines ++ lines', ?_, ?_⟩
  · rw [List.mapM_append, written, written']
    rfl
  · rw [added', added, List.append_assoc]

end Gains

/-- A log to which an entry has been added has gained it. -/
theorem Adds.exists_gains {α : Type} {a : Act RunLog α} {x : α} {sequence : Nat}
    (adds : Adds a log x e sequence) :
    ∃ log', a.perform log = (.ok x, log') ∧ log'.sequence = sequence ∧ Gains log log' [e] := by
  obtain ⟨log', done, same, number, line, found, added⟩ := adds
  refine ⟨log', done, number, same, [line], ?_, added⟩
  rw [List.mapM_cons, found]
  rfl

/-- The entry without what depends on the time. -/
def Entry.timeless (e : Entry) : Entry := { e with timestamp := .null, duration := .null }

/-- The log of the same run has more lines: those of some entries, which are as given apart from
what depends on the time. -/
structure Told (log log' : RunLog) (told : List Entry) : Prop where
  /-- It is the same run. -/
  runId : log'.runId = log.runId
  /-- The lines of the entries have been added. -/
  added : ∃ (entries : List Entry) (lines : List String), entries.map Entry.timeless = told ∧
    entries.mapM Entry.json = .ok lines ∧ log'.lines = log.lines ++ lines

namespace Told

variable {log' log'' : RunLog} {told told' : List Entry}

theorem refl (log : RunLog) : Told log log [] :=
  ⟨rfl, [], [], rfl, rfl, (List.append_nil _).symm⟩

theorem trans (first : Told log log' told) (next : Told log' log'' told') :
    Told log log'' (told ++ told') := by
  obtain ⟨same, entries, lines, rfl, written, added⟩ := first
  obtain ⟨same', entries', lines', rfl, written', added'⟩ := next
  refine ⟨same'.trans same, entries ++ entries', lines ++ lines', List.map_append, ?_, ?_⟩
  · rw [List.mapM_append, written, written']
    rfl
  · rw [added', added, List.append_assoc]

end Told

/-- A log to which an entry has been added has been told the entry. -/
theorem Adds.exists_told {α : Type} {a : Act RunLog α} {x : α} {sequence : Nat}
    (adds : Adds a log x e sequence) :
    ∃ log', a.perform log = (.ok x, log') ∧ log'.sequence = sequence ∧
      Told log log' [e.timeless] := by
  obtain ⟨log', done, number, same, lines, written, added⟩ := adds.exists_gains
  exact ⟨log', done, number, same, [e], lines, rfl, written, added⟩

end RunLog

end GraphMapper
