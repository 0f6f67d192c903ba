import GraphMapper.Proofs.Schema.Catalogue

/-!
# A server in memory

A server may keep its catalogue as a list. It reads the words of a statement, carries out the
command that they stand for, and refuses what stands for no command. Its reports are made from the
list, with an index for every unique constraint.

## Main definitions

* `Schema.Command.read?` — the command that a statement stands for
* `Schema.Command.run` — what a command does to a list of objects
* `Schema.Memory.rows` — the report of a list of objects
* `Schema.Memory.migrator` — a migrator on a server that keeps a list of objects

## Main results

* `Command.read?_text` — the text of a command is read as the command
* `Memory.lists_rows` — the report of a list lists the catalogue
* `Memory.keeps_migrator` — a list of objects is kept as a catalogue
-/

namespace GraphMapper.Schema

open Query (isIdentifier isWordChar)

/-! ### Reading statements -/

/-- What stands between two texts. -/
def between? (before after word : String) : Option String :=
  ((word.toList.dropPrefix? before.toList).bind (·.dropSuffix? after.toList)).map String.ofList

theorem between?_append (before after s : String) :
    between? before after (before ++ s ++ after) = some s := by
  have front : (before ++ s ++ after).toList.dropPrefix? before.toList =
      some (s.toList ++ after.toList) := by
    rw [List.dropPrefix?_eq_some_iff]
    exact ⟨before.toList, by simp [String.toList_append], beq_self_eq_true _⟩
  have back : (s.toList ++ after.toList).dropSuffix? after.toList = some s.toList := by
    rw [List.dropSuffix?_eq_some_iff]
    exact ⟨after.toList, rfl, beq_self_eq_true _⟩
  rw [between?, front, Option.bind_some, back, Option.map_some, String.ofList_toList]

namespace Command

/-- The words of a statement. -/
def wordsOf (text : String) : List String := (text.toList.splitOn ' ').map String.ofList

/-- The command to create an object that is given by a word for its label and one for its property.
What the words have around the names is given, too. -/
def creating? (name label property : String) (purpose : Purpose) (before after : String) :
    Option Command := do
  let label ← between? "(n:" ")" label
  let property ← between? before after property
  some (.create name ⟨label, property, purpose⟩)

/-- The command that the words of a statement stand for. -/
def ofWords? : List String → Option Command
  | ["DROP", "CONSTRAINT", name, "IF", "EXISTS"] => some (.drop .constraints name)
  | ["DROP", "INDEX", name, "IF", "EXISTS"] => some (.drop .indexes name)
  | ["CREATE", "CONSTRAINT", name, "IF", "NOT", "EXISTS", "FOR", label, "REQUIRE", property, "IS",
      "UNIQUE"] => creating? name label property .unique "n." ""
  | ["CREATE", "INDEX", name, "IF", "NOT", "EXISTS", "FOR", label, "ON", property] =>
    creating? name label property .index "(n." ")"
  | ["CREATE", "CONSTRAINT", name, "IF", "NOT", "EXISTS", "FOR", label, "REQUIRE", property, "IS",
      "NOT", "NULL"] => creating? name label property .existence "n." ""
  | _ => none

/-- The command that a statement stands for. -/
def read? (text : String) : Option Command := ofWords? (wordsOf text)

theorem creating?_append (name : String) (i : Item) (before after : String) :
    creating? name ("(n:" ++ i.label ++ ")") (before ++ i.property ++ after) i.purpose before
      after = some (.create name i) := by
  simp [creating?, between?_append]

theorem ofWords?_words (command : Command) : ofWords? command.words = some command := by
  cases command with
  | drop portion name => cases portion <;> rfl
  | create name item =>
    obtain ⟨label, property, purpose⟩ := item
    cases purpose with
    | unique =>
      have read := creating?_append name ⟨label, property, .unique⟩ "n." ""
      rwa [String.append_empty] at read
    | index => exact creating?_append name ⟨label, property, .index⟩ "(n." ")"
    | existence =>
      have read := creating?_append name ⟨label, property, .existence⟩ "n." ""
      rwa [String.append_empty] at read

variable {foreign : Char → Bool} {command : Command}

theorem blank_notMem_of_isIdentifier {name : String}
    (proper : isIdentifier foreign name.toList = true) : ' ' ∉ name.toList := by
  intro member
  have letter : isWordChar foreign ' ' = true := Query.isWordChar_of_isIdentifier proper member
  have blank : isWordChar foreign ' ' = false := rfl
  rw [blank] at letter
  cases letter

theorem blank_notMem_words (proper : command.IsProper foreign) :
    ∀ word ∈ command.words, ' ' ∉ word.toList := by
  cases command with
  | drop portion name =>
    have named := blank_notMem_of_isIdentifier proper
    cases portion <;> simp [words, named, Portion.word]
  | create name item =>
    obtain ⟨label, property, purpose⟩ := item
    have named := blank_notMem_of_isIdentifier proper.1
    have labelled := blank_notMem_of_isIdentifier proper.2.1
    have placed := blank_notMem_of_isIdentifier proper.2.2
    cases purpose <;> simp [words, named, labelled, placed, String.toList_append]

theorem wordsOf_text (proper : command.IsProper foreign) :
    wordsOf command.text = command.words := by
  have apart : ∀ cs ∈ command.words.map String.toList, ' ' ∉ cs := by
    simpa using blank_notMem_words proper
  have nonempty : command.words.map String.toList ≠ [] := by
    rcases command with _ | ⟨name, label, property, _ | _ | _⟩ <;> simp [words]
  have blank : " ".toList = [' '] := rfl
  rw [wordsOf, text, String.toList_intercalate, blank, List.splitOn_intercalate ' ' apart nonempty,
    List.map_map, String.ofList_comp_toList, List.map_id]

/-- The text of a command is read as the command. -/
theorem read?_text (proper : command.IsProper foreign) : read? command.text = some command := by
  rw [read?, wordsOf_text proper, ofWords?_words]

end Command

/-! ### Lists of objects -/

instance (o : Object) (portion : Portion) : Decidable (o.IsIn portion) :=
  match portion with
  | .constraints => inferInstanceAs (Decidable (o.kind ≠ .required .index))
  | .indexes => inferInstanceAs (Decidable (o.kind = .required .index))

/-- What a command does to a list of objects. -/
def Command.run : Command → List Object → List Object
  | .drop portion name, os => os.filter fun o => ¬(o.IsIn portion ∧ o.name = name)
  | .create name item, os =>
    if os.any (·.name = name) then os else os ++ [{ item.object with name := name }]

/-- A list of objects is changed as the catalogue of its members is. -/
theorem Command.mem_run_iff {command : Command} {os : List Object} {o : Object} :
    o ∈ command.run os ↔ o ∈ command.apply {o | o ∈ os} := by
  cases command with
  | drop portion name =>
    rw [run, List.mem_filter, decide_eq_true_iff]
    rfl
  | create name item =>
    rw [run, mem_create_iff]
    by_cases taken : ∃ o' ∈ os, o'.name = name
    · have found : os.any (·.name = name) = true := by simpa using taken
      rw [if_pos found]
      constructor
      · exact .inl
      · rintro (there | ⟨free, -⟩)
        · exact there
        · obtain ⟨o', there, same⟩ := taken
          exact absurd same (free o' there)
    · have free : ∀ o' ∈ {o | o ∈ os}, o'.name ≠ name := by simpa using taken
      rw [if_neg (by simpa using taken), List.mem_append, List.mem_singleton]
      exact or_congr_right (and_iff_right free).symm

namespace Memory

/-- The type under which an object is reported among the constraints. -/
def typeOf (o : Object) : String :=
  match o.kind with
  | .required .unique => "UNIQUENESS"
  | .required .existence => "NODE_PROPERTY_EXISTENCE"
  | .required .index => "RANGE"
  | .other type => type.text

/-- The row for an object, or for the index that it owns. -/
def rowOf (type : String) (owner? : Option String) (o : Object) : Row :=
  ⟨o.name, type, some [o.label], some o.properties, owner?⟩

/-- The row for an index, or for the index that a unique constraint owns. -/
def indexRow? (o : Object) : Option Row :=
  match o.kind with
  | .required .unique => some (rowOf "RANGE" (some o.name) o)
  | .required .index => some (rowOf "RANGE" none o)
  | _ => none

/-- The report of a portion of a list of objects. -/
def rows (os : List Object) : Portion → List Row
  | .constraints => (os.filter (·.IsIn .constraints)).map fun o => rowOf (typeOf o) none o
  | .indexes => os.filterMap indexRow?

/-- The objects in a list. -/
def catalogue (os : List Object) : Set Object := {o | o ∈ os}

theorem hasType_typeOf {o : Object} (constraint : o.IsIn .constraints) : o.HasType (typeOf o) := by
  obtain ⟨name, label, properties, (_ | _ | _) | type⟩ := o
  · exact .inl rfl
  · exact absurd rfl constraint
  · rfl
  · rfl

/-- The report of a list lists the catalogue of its members. -/
theorem lists_rows (os : List Object) (portion : Portion) :
    Lists (catalogue os) portion (rows os portion) := by
  cases portion with
  | constraints =>
    constructor
    · intro r member
      obtain ⟨o, there, rfl⟩ := List.mem_map.1 member
      obtain ⟨there, constraint⟩ := List.mem_filter.1 there
      exact ⟨o, there, rfl, rfl, rfl, hasType_typeOf (of_decide_eq_true constraint)⟩
    · intro o there constraint
      refine ⟨rowOf (typeOf o) none o, ?_, rfl, rfl, rfl, hasType_typeOf constraint⟩
      exact List.mem_map_of_mem (List.mem_filter.2 ⟨there, decide_eq_true constraint⟩)
  | indexes =>
    constructor
    · intro r member
      obtain ⟨o, there, row⟩ := List.mem_filterMap.1 member
      refine ⟨o, there, ?_⟩
      obtain ⟨name, label, properties, (_ | _ | _) | type⟩ := o <;> cases row <;>
        exact ⟨rfl, rfl, rfl, rfl⟩
    · intro o there index
      refine ⟨rowOf "RANGE" none o, List.mem_filterMap.2 ⟨o, there, ?_⟩, rfl, rfl, rfl, ?_⟩
      · obtain ⟨name, label, properties, kind⟩ := o
        cases index
        rfl
      · obtain ⟨name, label, properties, kind⟩ := o
        cases index
        rfl

/-- Runs a statement on a list of objects. -/
def execute (text : String) : Act (List Object) Value :=
  Act.of fun os =>
    match Command.read? text with
    | some command => (.ok .null, command.run os)
    | none => (.error (.reported .execution "not a command"), os)

/-- Reports a portion of a list of objects. -/
def report (portion : Portion) : Act (List Object) (List LiveEntry) :=
  Act.of fun os =>
    ((((rows os portion).map (·.record portion)).mapM portion.read).mapError Fault.shape, os)

/-- A migrator on a server that keeps a list of objects, where it is always the same time. -/
def migrator (enterprise : Bool) : Migrator (List Object) where
  executor := ⟨"memory", fun text _ => execute text, none⟩
  inspector := ⟨report .constraints, report .indexes⟩
  clock _ := 0
  enterprise := enterprise

/-- A list of objects is kept as a catalogue. -/
theorem keeps_migrator (enterprise : Bool) (foreign : Char → Bool) :
    (migrator enterprise).Keeps foreign catalogue where
  reports := by
    intro portion os live os' asked
    have asked : (report portion).perform os = (.ok live, os') := by
      cases portion <;> exact asked
    rw [report, Act.perform_of, portion.mapM_read_records] at asked
    cases asked
    exact ⟨rfl, rows os portion, portion.mapM_read_records _, lists_rows os portion⟩
  executes := by
    intro command proper os answer os' ran
    have ran : (execute command.text).perform os = (.ok answer, os') := ran
    rw [execute, Act.perform_of, Command.read?_text proper] at ran
    cases ran
    ext o
    exact Command.mem_run_iff

end Memory

end GraphMapper.Schema
