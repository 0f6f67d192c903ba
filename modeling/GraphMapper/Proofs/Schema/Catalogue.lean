import GraphMapper.Proofs.Query.Tokens
import GraphMapper.Proofs.Schema.Items
import GraphMapper.Proofs.Schema.Rows
import Mathlib.Data.Set.Basic

/-!
# What a server keeps

A server keeps a catalogue of constraints and free-standing indexes, which share one set of names. A
constraint may own an index of its name. It is reported with the other indexes, and goes away with
the constraint. Commands drop what has a name, or create an object unless its name is taken.

## Main definitions

* `Schema.Object` — a constraint or a free-standing index
* `Schema.Lists` — rows that report a portion of a catalogue
* `Schema.Command` — what a server can be told to do
* `Schema.Command.text`, `Schema.Command.apply` — how it is told, and what it then does
* `Schema.Migrator.Keeps` — a server that keeps a catalogue in this way

## Main results

* `Command.text_create`, `Command.text_drop` — planned statements are the texts of commands
* `Command.mem_applyAll_drop_iff`, `Command.mem_applyAll_create_iff` — what lists of commands do to
  a catalogue
-/

namespace GraphMapper.Schema

open Query (isIdentifier)

/-! ### Objects -/

/-- A type of constraints that no model requires. -/
structure OtherType where
  /-- The type as it is reported. -/
  text : String
  /-- It does not mean that the values of a property are unique. -/
  apart : Text.upper text ≠ "UNIQUENESS" ∧ Text.upper text ≠ "NODE_PROPERTY_UNIQUENESS"
  deriving DecidableEq

/-- The kinds of objects on a server. -/
inductive ObjectKind where
  /-- What a model may require. -/
  | required (purpose : Purpose)
  /-- A constraint of another type. -/
  | other (type : OtherType)
  deriving DecidableEq

/-- A constraint or a free-standing index. -/
structure Object where
  /-- Its name. -/
  name : String
  /-- The label that it is on. -/
  label : String
  /-- The properties that it covers. -/
  properties : List String
  /-- Its kind. -/
  kind : ObjectKind
  deriving DecidableEq

/-- The object that an item requires. -/
def Item.object (i : Item) : Object := ⟨i.name, i.label, [i.property], .required i.purpose⟩

/-- What is dropped of a portion of the live schema: unique constraints and indexes. -/
def Portion.purpose : Portion → Purpose
  | .constraints => .unique
  | .indexes => .index

namespace Object

/-- The object is in a portion: every object is a constraint or an index. -/
def IsIn (o : Object) : Portion → Prop
  | .constraints => o.kind ≠ .required .index
  | .indexes => o.kind = .required .index

/-- The object is dropped with its portion if its label is a target. -/
def IsTarget (o : Object) (portion : Portion) (labels : List String) : Prop :=
  o.kind = .required portion.purpose ∧ o.label ∈ labels

/-- The type under which a constraint is reported. -/
def HasType (o : Object) (type : String) : Prop :=
  match o.kind with
  | .required .unique => type = "UNIQUENESS" ∨ type = "NODE_PROPERTY_UNIQUENESS"
  | .required .existence => type = "NODE_PROPERTY_EXISTENCE"
  | .required .index => False
  | .other t => type = t.text

/-- The owner with which an index is reported. A free-standing index has none, and the index of a
constraint has the constraint. -/
def HasOwner (o : Object) (owner? : Option String) : Prop :=
  match o.kind with
  | .required .unique => owner? = some o.name
  | .required .existence => False
  | .required .index => owner? = none
  | .other _ => owner? = some o.name

/-- The row reports the object, or the index that it owns, in a portion. -/
def IsReportedBy (o : Object) (portion : Portion) (r : Row) : Prop :=
  r.name = o.name ∧ r.labels? = some [o.label] ∧ r.properties? = some o.properties ∧
    match portion with
    | .constraints => o.HasType r.type
    | .indexes => o.HasOwner r.owner?

end Object

/-- The rows report everything in a portion of a catalogue, and nothing else. -/
structure Lists (c : Set Object) (portion : Portion) (rows : List Row) : Prop where
  /-- Every row reports an object of the catalogue. -/
  sound : ∀ r ∈ rows, ∃ o ∈ c, o.IsReportedBy portion r
  /-- Every object in the portion is reported. -/
  complete : ∀ o ∈ c, o.IsIn portion → ∃ r ∈ rows, o.IsReportedBy portion r

/-! ### Commands -/

/-- What a server can be told to do. -/
inductive Command where
  /-- To drop what has the given name in a portion of the schema. -/
  | drop (portion : Portion) (name : String)
  /-- To create an object under a name. -/
  | create (name : String) (item : Item)

namespace Command

/-- The words in which a server is told. -/
def words : Command → List String
  | .drop portion name => ["DROP", portion.word, name, "IF", "EXISTS"]
  | .create name ⟨label, property, .unique⟩ =>
    ["CREATE", "CONSTRAINT", name, "IF", "NOT", "EXISTS", "FOR", "(n:" ++ label ++ ")", "REQUIRE",
      "n." ++ property, "IS", "UNIQUE"]
  | .create name ⟨label, property, .index⟩ =>
    ["CREATE", "INDEX", name, "IF", "NOT", "EXISTS", "FOR", "(n:" ++ label ++ ")", "ON",
      "(n." ++ property ++ ")"]
  | .create name ⟨label, property, .existence⟩ =>
    ["CREATE", "CONSTRAINT", name, "IF", "NOT", "EXISTS", "FOR", "(n:" ++ label ++ ")", "REQUIRE",
      "n." ++ property, "IS", "NOT", "NULL"]

/-- The statement that tells a server. -/
def text (command : Command) : String := " ".intercalate command.words

/-- What the command does to a catalogue. A name that is not there is not dropped, and nothing is
created under a name that is taken. -/
def apply : Command → Set Object → Set Object
  | .drop portion name, c => {o | o ∈ c ∧ ¬(o.IsIn portion ∧ o.name = name)}
  | .create name item, c =>
    {o | o ∈ c ∨ (∀ o' ∈ c, o'.name ≠ name) ∧ o = { item.object with name := name }}

/-- All names in the command are identifiers. What counts as a letter beyond ASCII is left open. -/
def IsProper (foreign : Char → Bool) : Command → Prop
  | .drop _ name => isIdentifier foreign name.toList = true
  | .create name item =>
    isIdentifier foreign name.toList = true ∧ isIdentifier foreign item.label.toList = true ∧
      isIdentifier foreign item.property.toList = true

theorem text_drop (portion : Portion) (name : String) :
    (drop portion name).text = portion.dropStatement name := by
  have first : "DROP " = "DROP" ++ " " := by decide
  have last : " IF EXISTS" = " " ++ "IF" ++ " " ++ "EXISTS" := by decide
  rw [text, words, Portion.dropStatement, first, last]
  simp only [String.intercalate_cons_cons, String.intercalate_singleton, String.append_assoc]

theorem text_create (i : Item) : (create i.name i).text = i.statement := by
  -- the fixed parts of the statements are cut into words
  have constraint : "CREATE CONSTRAINT " = "CREATE" ++ " " ++ "CONSTRAINT" ++ " " := by decide
  have index : "CREATE INDEX " = "CREATE" ++ " " ++ "INDEX" ++ " " := by decide
  have guard : " IF NOT EXISTS FOR (n:" =
      " " ++ "IF" ++ " " ++ "NOT" ++ " " ++ "EXISTS" ++ " " ++ "FOR" ++ " " ++ "(n:" := by decide
  have demand : ") REQUIRE n." = ")" ++ " " ++ "REQUIRE" ++ " " ++ "n." := by decide
  have place : ") ON (n." = ")" ++ " " ++ "ON" ++ " " ++ "(n." := by decide
  have unique : "IS UNIQUE" = "IS" ++ " " ++ "UNIQUE" := by decide
  have there : "IS NOT NULL" = "IS" ++ " " ++ "NOT" ++ " " ++ "NULL" := by decide
  obtain ⟨label, property, purpose⟩ := i
  cases purpose with
  | unique =>
    unfold Item.statement createConstraint
    simp only [text, words, Item.name, Purpose.suffix, constraint, guard, demand, unique,
      String.intercalate_cons_cons, String.intercalate_singleton, String.append_assoc]
  | index =>
    unfold Item.statement createIndex
    simp only [text, words, Item.name, Purpose.suffix, index, guard, place,
      String.intercalate_cons_cons, String.intercalate_singleton, String.append_assoc]
  | existence =>
    unfold Item.statement createConstraint
    simp only [text, words, Item.name, Purpose.suffix, constraint, guard, demand, there,
      String.intercalate_cons_cons, String.intercalate_singleton, String.append_assoc]

variable {c : Set Object} {o : Object}

@[simp] theorem mem_drop_iff {portion : Portion} {name : String} :
    o ∈ (drop portion name).apply c ↔ o ∈ c ∧ ¬(o.IsIn portion ∧ o.name = name) :=
  Iff.rfl

@[simp] theorem mem_create_iff {name : String} {item : Item} :
    o ∈ (create name item).apply c ↔
      o ∈ c ∨ (∀ o' ∈ c, o'.name ≠ name) ∧ o = { item.object with name := name } :=
  Iff.rfl

/-- Commands are carried out one after the other. -/
def applyAll (commands : List Command) (c : Set Object) : Set Object :=
  commands.foldl (fun c command => command.apply c) c

@[simp] theorem applyAll_nil (c : Set Object) : applyAll [] c = c := rfl

@[simp] theorem applyAll_cons (command : Command) (commands : List Command) (c : Set Object) :
    applyAll (command :: commands) c = applyAll commands (command.apply c) := rfl

/-- Dropping names one after the other leaves what has none of the names. -/
theorem mem_applyAll_drop_iff {portion : Portion} {names : List String} :
    o ∈ applyAll (names.map (drop portion)) c ↔ o ∈ c ∧ ¬(o.IsIn portion ∧ o.name ∈ names) := by
  induction names generalizing c with
  | nil => simp
  | cons name names ih =>
    rw [List.map_cons, applyAll_cons, ih, mem_drop_iff, List.mem_cons]
    tauto

/-- An item whose name is taken by its own object or by none has its object in the catalogue
afterwards. -/
theorem mem_create_object_iff {i : Item} (free : ∀ o ∈ c, o.name = i.name → o = i.object) :
    o ∈ (create i.name i).apply c ↔ o ∈ c ∨ o = i.object := by
  rw [mem_create_iff]
  by_cases taken : i.object ∈ c
  · -- nothing is created, but the object is there
    constructor
    · rintro (there | ⟨-, rfl⟩)
      · exact .inl there
      · exact .inr rfl
    · rintro (there | rfl)
      · exact .inl there
      · exact .inl taken
  · -- what has the name would be the object, so the name is free
    have untaken : ∀ o' ∈ c, o'.name ≠ i.name := by
      intro o' there same
      exact taken (free o' there same ▸ there)
    exact or_congr_right (and_iff_right untaken)

/-- Items with names of their own are created one after the other, whether they are there or not. -/
theorem mem_applyAll_create_iff {wanted : List Item}
    (apart : ∀ i ∈ wanted, ∀ j ∈ wanted, i.name = j.name → i = j)
    (free : ∀ o ∈ c, ∀ i ∈ wanted, o.name = i.name → o = i.object) :
    o ∈ applyAll (wanted.map fun i => create i.name i) c ↔ o ∈ c ∨ ∃ i ∈ wanted, o = i.object := by
  induction wanted generalizing c with
  | nil => simp
  | cons i wanted ih =>
    have created (o : Object) := mem_create_object_iff (o := o)
      fun o' there => free o' there i List.mem_cons_self
    have apart' : ∀ j ∈ wanted, ∀ k ∈ wanted, j.name = k.name → j = k := by
      intro j member k member'
      exact apart j (List.mem_cons_of_mem i member) k (List.mem_cons_of_mem i member')
    -- what has just been created can only be in the way of an item that is the same
    have free' : ∀ o ∈ (create i.name i).apply c, ∀ j ∈ wanted, o.name = j.name → o = j.object := by
      intro o there j member same
      rcases (created o).1 there with old | rfl
      · exact free o old j (List.mem_cons_of_mem i member) same
      · rw [apart i List.mem_cons_self j (List.mem_cons_of_mem i member) same]
    rw [List.map_cons, applyAll_cons, ih apart' free', created]
    simp only [List.exists_mem_cons_iff, or_assoc]

end Command

/-! ### Servers -/

/-- A server that keeps a catalogue. Its reports list the catalogue and leave it alone, and a
statement that succeeds does what the command says whose text it is. -/
structure Migrator.Keeps {σ : Type} (m : Migrator σ) (foreign : Char → Bool)
    (catalogue : σ → Set Object) : Prop where
  /-- A report lists a portion of the catalogue. -/
  reports : ∀ (portion : Portion) server live server',
    (portion.ask m.inspector).perform server = (.ok live, server') →
      catalogue server' = catalogue server ∧
        ∃ rows, (rows.map (·.record portion)).mapM portion.read = .ok live ∧
          Lists (catalogue server) portion rows
  /-- A command is carried out. -/
  executes : ∀ command : Command, command.IsProper foreign → ∀ server answer server',
    (m.executor.execute command.text .null).perform server = (.ok answer, server') →
      catalogue server' = command.apply (catalogue server)

end GraphMapper.Schema
