import GraphMapper.Proofs.Act.Outcomes
import GraphMapper.Proofs.Json.Values
import GraphMapper.Proofs.Results
import GraphMapper.Proofs.RunLog.Writing
import GraphMapper.Proofs.Text.Trim

/-!
# Reading a run log back

Each call that tells a log of something adds one entry, and with it one line to the file. Whatever
texts the call is given, the line has no line end in it and no blank at its ends, so the lines of
the file are the lines that were written, and each of them is read as the fields of its entry.

## Main definitions

* `RunLog.Entry.Faithful` — an entry that is read as it was written
* `RunLog.Call` — a call that tells a log of something
* `RunLog.Call.act`, `RunLog.Call.entry` — what it does, and the entry that it tells
* `RunLog.after`, `RunLog.written` — the log after several calls, and the entries they have written

## Main results

* `Text.lines_join` — texts without line ends are the lines of the text that they make up
* `RunLog.read_join` — entries are read as they were written
* `RunLog.reads_back` — a log reads back what it was told
-/

namespace GraphMapper

namespace Text

variable {cs : List Char}

/-- Characters that are no line ends are part of one line. -/
theorem linesFrom_append (unbroken : ∀ c ∈ cs, c ≠ '\n' ∧ c ≠ '\r') (line rest : List Char) :
    linesFrom line (cs ++ rest) = linesFrom (cs.reverse ++ line) rest := by
  induction cs generalizing line with
  | nil => rfl
  | cons c cs ih =>
    obtain ⟨⟨feed, carriage⟩, others⟩ := List.forall_mem_cons.1 unbroken
    rw [List.cons_append, linesFrom, ih others, List.reverse_cons, List.append_assoc]
    · rfl
    · rintro more same _
      exact carriage same
    · exact carriage
    · exact feed

/-- Texts without line ends are the lines of the text in which a line end follows each of them. -/
theorem lines_join {texts : List String}
    (unbroken : ∀ text ∈ texts, ∀ c ∈ text.toList, c ≠ '\n' ∧ c ≠ '\r') :
    lines (String.join (texts.map (· ++ "\n"))) = texts ++ [""] := by
  induction texts with
  | nil => rfl
  | cons text texts ih =>
    obtain ⟨first, others⟩ := List.forall_mem_cons.1 unbroken
    have rest := ih others
    rw [lines] at rest ⊢
    have split : (String.join ((text :: texts).map (· ++ "\n"))).toList =
        text.toList ++ '\n' :: (String.join (texts.map (· ++ "\n"))).toList := by
      simp
    rw [split, linesFrom_append first, linesFrom, List.map_cons, rest]
    simp

end Text

namespace RunLog

open Json (Representable Reads)

/-! ### Entries -/

/-- An entry has a level, and JSON represents its fields. -/
structure Entry.Faithful (e : Entry) : Prop where
  /-- The level is there. -/
  level : e.level.isNull = false
  /-- JSON represents the fields. -/
  fields : ∀ f ∈ e.fields, Representable f.2

/-- An entry is asked for if no level is given or its level is the given one. -/
def Entry.isAsked (level : Value) (e : Entry) : Bool := level.isNull || e.level.equals level

variable {e : Entry} {level : Value}

theorem Entry.nodup_fields (e : Entry) : (e.fields.map (·.1)).Nodup := by
  simp [Entry.fields]

/-- JSON represents the fields of the entry that are not null. -/
theorem Entry.Faithful.representable (faithful : e.Faithful) : Representable e.dict := by
  refine .map (fun f member => ?_) ?_ fun f member => ?_
  · have named : ∀ f ∈ e.fields, ∃ key, f.1 = .text key := by simp [Entry.fields]
    exact named f (List.mem_filter.1 member).1
  · exact e.nodup_fields.sublist (List.filter_sublist.map _)
  · exact faithful.fields f (List.mem_filter.1 member).1

/-- The line of an entry is read as its fields. -/
theorem Entry.Faithful.exists_json (faithful : e.Faithful) :
    ∃ line, e.json = .ok line ∧ Reads e.dict line.toList :=
  faithful.representable.exists_write

/-- The level is among the fields. -/
theorem Entry.Faithful.isWanted (faithful : e.Faithful) (level : Value) :
    isWanted level e.dict = .ok (e.isAsked level) := by
  rw [RunLog.isWanted, Entry.isAsked]
  cases level.isNull with
  | true => rfl
  | false =>
    have kept : e.fields.filter (fun f => !f.2.isNull) =
        (.text "level", e.level) :: e.fields.tail.filter fun f => !f.2.isNull := by
      rw [Entry.fields, List.filter_cons_of_pos (by simp [faithful.level])]
      rfl
    have found : e.dict.member "level" = .ok e.level := by
      rw [Entry.dict, kept, Value.member, Value.getD, Value.get?, Value.lookup?_cons,
        if_pos (Value.equals_text_iff.2 rfl)]
      rfl
    simp [found]

/-! ### Lines -/

/-- The line of an entry is an object, so it has no blank at its ends. -/
theorem isTrimmed_json {line : String} (written : e.json = .ok line) : Text.IsTrimmed line := by
  obtain ⟨inside, rfl⟩ : ∃ inside, line = "\x7b" ++ inside ++ "\x7d" := by
    rw [Entry.json, Entry.dict, Json.write] at written
    cases parts : Json.writeEntries (e.fields.filter fun f => !f.2.isNull) with
    | error fault =>
      rw [parts] at written
      cases written
    | ok texts =>
      rw [parts] at written
      exact ⟨_, (Except.ok.inj written).symm⟩
  have first : ("\x7b" ++ inside ++ "\x7d").toList.head? = some '\x7b' := by simp
  have last : ("\x7b" ++ inside ++ "\x7d").toList.getLast? = some '\x7d' := by
    rw [String.toList_append]
    exact List.getLast?_concat
  refine ⟨by simp, ?_, ?_⟩
  · rw [first]
    rintro c ⟨⟩
    decide
  · rw [last]
    rintro c ⟨⟩
    decide

/-- No line end is in the line of a value that JSON represents. -/
theorem unbroken_of_reads {v : Value} {line : String} (reads : Reads v line.toList) :
    ∀ c ∈ line.toList, c ≠ '\n' ∧ c ≠ '\r' := by
  intro c member
  have plain := reads.plain c member
  constructor <;>
  · rintro rfl
    exact absurd plain (by decide)

/-- The line of an entry is read as its fields, if it is asked for. -/
theorem Entry.Faithful.readLine_json (faithful : e.Faithful) {line : String}
    (written : e.json = .ok line) (level : Value) :
    readLine level line = .ok (if e.isAsked level then some e.dict else none) := by
  have trimmed := isTrimmed_json written
  have filled : line.isEmpty = false := by simpa using trimmed.ne_empty
  have value : Json.read line = .ok e.dict := faithful.representable.read_write written
  rw [readLine, trimmed.trim_eq, filled, if_neg Bool.false_ne_true, value]
  simp only [faithful.isWanted level]
  rfl

variable {entries : List Entry} {lines : List String}

/-- The lines of entries are read as their fields. -/
theorem readLines_json (faithful : ∀ e ∈ entries, e.Faithful)
    (written : entries.mapM Entry.json = .ok lines) (level : Value) :
    readLines level (lines ++ [""]) =
      .ok ((entries.filter (Entry.isAsked level)).map Entry.dict) := by
  have pairs := mapM_eq_ok_iff.1 written
  clear written
  induction pairs with
  | nil => rfl
  | cons first _ ih =>
    obtain ⟨faithful, others⟩ := List.forall_mem_cons.1 faithful
    rw [List.cons_append, readLines, faithful.readLine_json first, ih others, List.filter_cons]
    split <;> rfl

/-- Entries are read as they were written. -/
theorem read_join (faithful : ∀ e ∈ entries, e.Faithful)
    (written : entries.mapM Entry.json = .ok lines) (level : Value) :
    Text.lines (String.join (lines.map (· ++ "\n"))) = lines ++ [""] ∧
      read level (some (String.join (lines.map (· ++ "\n")))) =
        .ok ((entries.filter (Entry.isAsked level)).map Entry.dict) := by
  have unbroken : ∀ line ∈ lines, ∀ c ∈ line.toList, c ≠ '\n' ∧ c ≠ '\r' := by
    intro line member
    obtain ⟨e, told, json⟩ := exists_of_mem_mapM written member
    obtain ⟨line', json', reads⟩ := (faithful e told).exists_json
    obtain rfl := Except.ok.inj (json'.symm.trans json)
    exact unbroken_of_reads reads
  have split := Text.lines_join unbroken
  refine ⟨split, ?_⟩
  rw [read, split]
  exact readLines_json faithful written level

/-! ### Calls -/

/-- A number that may be missing. -/
def number : Option Int → Value
  | some n => .int n
  | none => .null

/-- A call that tells a log of something. -/
inductive Call where
  /-- The run begins. -/
  | runStart (message : String)
  /-- The run has come to its end. -/
  | runComplete (message : String) (stats : {v : Value // Representable v})
  /-- The run has failed. -/
  | runError (error message : String)
  /-- A step begins. -/
  | stepStart (step message : String)
  /-- A step has come to its end. -/
  | stepComplete (step : String) (sequence : Int) (message : String) (processed created : Int)
    (duration : Option Int)
  /-- A step has failed. -/
  | stepError (step : String) (sequence : Int) (error message : String) (duration : Option Int)
  /-- A step was left out. -/
  | stepSkipped (step message : String)

namespace Call

/-- Carries out a call. -/
def act (now : Instant) : Call → Act RunLog Unit
  | .runStart message => RunLog.runStart now (.text message)
  | .runComplete message stats => RunLog.runComplete now (.text message) stats
  | .runError error message => RunLog.runError now (.text error) (.text message)
  | .stepStart step message => RunLog.stepStart now (.text step) (.text message)
  | .stepComplete step sequence message processed created duration =>
    RunLog.stepComplete now (.text step) (.int sequence) (.text message) (.int processed)
      (.int created) (number duration)
  | .stepError step sequence error message duration =>
    RunLog.stepError now (.text step) (.int sequence) (.text error) (.text message)
      (number duration)
  | .stepSkipped step message => RunLog.stepSkipped now (.text step) (.text message)

/-- The entry that a call tells a log. -/
def entry (log : RunLog) (now : Instant) : Call → Entry
  | .runStart message =>
    log.runEntry now .started (orText (.text message) "Starting schema migration")
  | .runComplete message stats =>
    { log.runEntry now .completed (orText (.text message) "Completed schema migration") with
      duration := log.runDuration now, stats := stats }
  | .runError error message =>
    { log.runEntry now .error (orText (.text message) "Schema migration failed") with
      duration := log.runDuration now, error := .text error }
  | .stepStart step message =>
    log.stepEntry now .started (.text step) (.int (log.sequence + 1 : Nat))
      (orText (.text message) ("Starting " ++ step))
  | .stepComplete step sequence message processed created duration =>
    { log.stepEntry now .completed (.text step) (.int sequence)
        (orText (.text message) ("Completed " ++ step)) with
      duration := number duration, processed := .int processed, created := .int created }
  | .stepError step sequence error message duration =>
    { log.stepEntry now .error (.text step) (.int sequence)
        (orText (.text message) ("Error in " ++ step)) with
      duration := number duration, error := .text error }
  | .stepSkipped step message =>
    log.stepEntry now .skipped (.text step) (.int (log.sequence + 1 : Nat))
      (orText (.text message) ("Skipped " ++ step))

end Call

/-- The log after several calls, whether they succeed or fail. -/
def after (log : RunLog) : List (Instant × Call) → RunLog
  | [] => log
  | (now, call) :: rest => ((call.act now).perform log).2.after rest

/-- The entries that several calls have written: one for each call that succeeds. -/
def written (log : RunLog) : List (Instant × Call) → List Entry
  | [] => []
  | (now, call) :: rest =>
    match (call.act now).perform log with
    | (.ok _, log') => call.entry log now :: log'.written rest
    | (.error _, log') => log'.written rest

variable {log : RunLog}

theorem writable_number (n : Option Int) : Json.Writable (number n) := by
  cases n with
  | some n => exact Json.writable_int n
  | none => exact Json.writable_null

theorem representable_number (n : Option Int) : Representable (number n) := by
  cases n with
  | some n => exact .int n
  | none => exact .null

/-- A call adds its entry, if the log can be written. -/
theorem Call.exists_adds (writable : log.Writable) (now : Instant) (call : Call) :
    ∃ sequence, Adds (call.act now) log () (call.entry log now) sequence := by
  have text (s : String) : Json.Writable (.text s) := Json.writable_text s
  cases call with
  | runStart message => exact ⟨_, adds_runStart now writable (text message)⟩
  | runComplete message stats =>
    obtain ⟨summary, found, -⟩ := stats.2.exists_write
    exact ⟨_, adds_runComplete now writable (text message) ⟨summary, found⟩⟩
  | runError error message => exact ⟨_, adds_runError now writable (text error) (text message)⟩
  | stepStart step message => exact ⟨_, adds_stepStart now writable (text step) (text message)⟩
  | stepComplete step sequence message processed created duration =>
    exact ⟨_, adds_stepComplete now writable (text step) (Json.writable_int sequence)
      (text message) (Json.writable_int processed) (Json.writable_int created)
      (writable_number duration)⟩
  | stepError step sequence error message duration =>
    exact ⟨_, adds_stepError now writable (text step) (Json.writable_int sequence) (text error)
      (text message) (writable_number duration)⟩
  | stepSkipped step message =>
    exact ⟨_, adds_stepSkipped now writable (text step) (text message)⟩

/-- A call fails if the file cannot be made, and leaves what is in it alone. -/
theorem Call.exists_perform_of_misplaced (misplaced : log.isMisplaced = true) (now : Instant)
    (call : Call) :
    ∃ fault log', (call.act now).perform log = (.error fault, log') ∧
      log'.runId = log.runId ∧ log'.lines = log.lines := by
  have refused (log' : RunLog) (same : log'.runId = log.runId) (e : Entry) :
      (write e).perform log' = (.error (.fileMissing log'.path), log') := by
    have misplaced' : log'.isMisplaced = true := by rwa [isMisplaced, same]
    rw [write, Act.perform_of, misplaced']
    rfl
  cases call with
  | runStart message =>
    exact ⟨_, _, refused { log with runStarted? := some now, sequence := 0 } rfl _, rfl, rfl⟩
  | runComplete message stats =>
    refine ⟨.fileMissing log.path, log, ?_, rfl, rfl⟩
    rw [act, RunLog.runComplete, Act.perform_get_bind, Act.perform_bind, refused log rfl]
  | runError error message =>
    refine ⟨.fileMissing log.path, log, ?_, rfl, rfl⟩
    rw [act, RunLog.runError, Act.perform_get_bind, Act.perform_bind, refused log rfl]
  | stepStart step message => exact ⟨_, _, refused log.nextStep rfl _, rfl, rfl⟩
  | stepComplete step sequence message processed created duration =>
    exact ⟨_, _, refused log rfl _, rfl, rfl⟩
  | stepError step sequence error message duration =>
    exact ⟨_, _, refused log rfl _, rfl, rfl⟩
  | stepSkipped step message => exact ⟨_, _, refused log.nextStep rfl _, rfl, rfl⟩

/-- The entry of a call is read as it was written. -/
theorem Call.faithful_entry (named : Representable log.runId) (now : Instant) (call : Call) :
    (call.entry log now).Faithful := by
  have levels (l : Level) : Representable l.value := by cases l <;> exact .int _
  have statuses (s : Status) : Representable s.value := by cases s <;> exact .text _
  have messages (message text : String) : Representable (orText (.text message) text) := by
    rw [orText]
    split <;> exact .text _
  have durations : Representable (log.runDuration now) := by
    rw [runDuration]
    split
    · exact .int _
    · exact .null
  cases call with
  | runComplete message stats =>
    refine ⟨rfl, ?_⟩
    simp [entry, runEntry, Entry.fields, levels, statuses, messages, named, durations, stats.2,
      Representable.null, Representable.text]
  | _ =>
    refine ⟨rfl, ?_⟩
    simp [entry, runEntry, stepEntry, Entry.fields, levels, statuses, messages, named, durations,
      representable_number, Representable.null, Representable.text, Representable.int]

/-- Calls write their entries one after the other. If the file cannot be made all of them fail. -/
theorem gains_after (named : Representable log.runId) (calls : List (Instant × Call)) :
    Gains log (log.after calls) (log.written calls) ∧
      (∀ e ∈ log.written calls, e.Faithful) ∧
      (log.written calls).length = if log.isMisplaced then 0 else calls.length := by
  induction calls generalizing log with
  | nil => exact ⟨.refl log, by simp [written], by simp [written]⟩
  | cons step rest ih =>
    obtain ⟨now, call⟩ := step
    cases misplaced : log.isMisplaced with
    | true =>
      obtain ⟨fault, log', done, same, kept⟩ := call.exists_perform_of_misplaced misplaced now
      have misplaced' : log'.isMisplaced = true := by rwa [isMisplaced, same]
      obtain ⟨⟨same', lines, json, added⟩, faithful, length⟩ := ih (same ▸ named)
      rw [misplaced'] at length
      simp only [after, written, done]
      exact ⟨⟨same'.trans same, lines, json, added.trans (kept ▸ rfl)⟩, faithful, length⟩
    | false =>
      obtain ⟨text, json, -⟩ := named.exists_write
      obtain ⟨sequence, adds⟩ := call.exists_adds ⟨misplaced, text, json⟩ now
      obtain ⟨log', done, -, gains⟩ := adds.exists_gains
      have placed : log'.isMisplaced = false := by rwa [isMisplaced, gains.runId]
      obtain ⟨gains', faithful, length⟩ := ih (gains.runId ▸ named)
      rw [placed] at length
      simp only [after, written, done]
      exact ⟨gains.trans gains',
        List.forall_mem_cons.2 ⟨call.faithful_entry named now, faithful⟩,
        by rw [List.length_cons, length]; rfl⟩

/-- The run of a fresh log is named by a text. -/
theorem exists_runId_start (directory : String) (runId : Option String) (opened : Instant)
    (supply : Supply) :
    ∃ name, (start directory (runId.elim .null .text) opened supply).1 =
      ⟨.text name, directory, opened, none, 0, none⟩ := by
  rw [start]
  split
  · next given =>
    cases runId with
    | none => cases given
    | some name => exact ⟨name, rfl⟩
  · exact ⟨_, rfl⟩

/-- A fresh log reads back what it has been told, whatever the calls were: the lines of its file are
those of the entries that were written, in that order, each of them is read as the fields of its
entry that are not null, and if a level is given only the entries of that level are read. Every call
writes an entry unless the identifier of the run keeps the file from being made. -/
theorem reads_back (directory : String) (runId : Option String) (opened : Instant)
    (supply : Supply) (calls : List (Instant × Call)) :
    let log := (start directory (runId.elim .null .text) opened supply).1
    let told := log.written calls
    let log' := log.after calls
    (∃ lines, told.mapM Entry.json = .ok lines ∧
      Text.lines (log'.content.getD "") = lines ++ [""]) ∧
    log'.entries .null = .ok (told.map Entry.dict) ∧
    (∀ level, log'.entries level = .ok ((told.filter (Entry.isAsked level)).map Entry.dict)) ∧
    told.length = if log.isMisplaced then 0 else calls.length := by
  intro log told log'
  obtain ⟨name, fresh⟩ := exists_runId_start directory runId opened supply
  have runId : log.runId = .text name := congrArg RunLog.runId fresh
  have empty : log.lines = [] := congrArg RunLog.lines fresh
  obtain ⟨⟨-, lines, json, added⟩, faithful, length⟩ :=
    gains_after (runId ▸ .text name : Representable log.runId) calls
  rw [empty, List.nil_append] at added
  have reading : Text.lines (log'.content.getD "") = lines ++ [""] ∧ ∀ level,
      log'.entries level = .ok ((told.filter (Entry.isAsked level)).map Entry.dict) := by
    have joined := read_join faithful json
    cases file : log'.lines? with
    | none =>
      -- no file is there, because nothing has been written
      have none : lines = [] := by rw [← added, RunLog.lines, file]; rfl
      rw [none] at json
      have nothing : told = [] := List.forall₂_nil_right_iff.1 (mapM_eq_ok_iff.1 json)
      simp only [entries, content, file, none, nothing]
      exact ⟨rfl, fun level => rfl⟩
    | some written =>
      have same : written = lines := by rw [← added, RunLog.lines, file]; rfl
      simp only [entries, content, file, same]
      exact ⟨(joined .null).1, fun level => (joined level).2⟩
  have all : told.filter (Entry.isAsked .null) = told :=
    List.filter_eq_self.2 fun e member => rfl
  refine ⟨⟨lines, json, reading.1⟩, ?_, reading.2, length⟩
  rw [reading.2, all]

end RunLog

end GraphMapper
