import GraphMapper.Proofs.Schema.Pipeline

/-!
# Rows of the live schema

A server reports its constraints and indexes as rows. A row may list several labels, but only the
first one is looked at when drops are planned. So what is dropped is on a target label, and may
serve other labels too.

## Main definitions

* `Schema.Row` — a row that reports a constraint or an index
* `Schema.Row.record` — the row as a mapping from columns to values
* `Schema.Portion.chosen` — the rows whose objects are to be dropped

## Main results

* `Portion.mapM_read_records` — every row can be read
* `Portion.drops_entries` — what is planned for the rows that have been read
* `serves_only_targets_iff` — when everything that is dropped serves target labels only
-/

namespace GraphMapper.Schema

/-- A row that reports a constraint or an index. -/
structure Row where
  /-- The name of the object. -/
  name : String
  /-- Its type. -/
  type : String
  /-- The labels that it serves, or null. -/
  labels? : Option (List String)
  /-- The properties that it covers, or null. -/
  properties? : Option (List String)
  /-- The constraint that an index belongs to, or null. -/
  owner? : Option String

namespace Row

/-- The labels that the object serves. -/
def labels (r : Row) : List String := r.labels?.getD []

/-- A list of texts, or null. -/
def texts : Option (List String) → Value
  | none => .null
  | some ts => .list (ts.map .text)

/-- A text, or null. -/
def textOrNull : Option String → Value
  | none => .null
  | some t => .text t

/-- The columns of a row. -/
def record (r : Row) : Portion → Value
  | .constraints =>
    .map [(.text "name", .text r.name), (.text "type", .text r.type),
      (.text "labelsOrTypes", texts r.labels?), (.text "properties", texts r.properties?)]
  | .indexes =>
    .map [(.text "name", .text r.name), (.text "type", .text r.type),
      (.text "labelsOrTypes", texts r.labels?), (.text "properties", texts r.properties?),
      (.text "owningConstraint", textOrNull r.owner?)]

/-- The first label, or null. -/
def firstLabel (r : Row) : Value := textOrNull r.labels.head?

/-- The constraint or index that a row reports. -/
def entry (r : Row) : Portion → LiveEntry
  | .constraints =>
    ⟨.text r.name, r.firstLabel, (r.properties?.getD []).map .text,
      LiveEntry.kindOfType (.text r.type), false⟩
  | .indexes =>
    ⟨.text r.name, r.firstLabel, (r.properties?.getD []).map .text, .index,
      (textOrNull r.owner?).truthy⟩

theorem firstLabel_texts (r : Row) :
    LiveEntry.firstLabel (texts r.labels?) = .ok r.firstLabel := by
  rw [firstLabel, labels]
  rcases r.labels? with _ | _ | ⟨l, rest⟩ <;> rfl

theorem keysOf_texts (r : Row) :
    LiveEntry.keysOf (texts r.properties?) = .ok ((r.properties?.getD []).map .text) := by
  rcases r.properties? with _ | _ | ⟨p, rest⟩ <;> rfl

theorem labelled_entry (r : Row) (portion : Portion) : (r.entry portion).Labelled := by
  have first : r.firstLabel = .null ∨ ∃ l, r.firstLabel = .text l := by
    rw [firstLabel]
    cases r.labels.head? with
    | none => exact .inl rfl
    | some l => exact .inr ⟨l, rfl⟩
  cases portion <;> exact first

theorem isOn_entry (r : Row) (portion : Portion) (labels : List String) :
    (r.entry portion).isOn labels = r.labels.head?.any labels.contains := by
  have on : (r.entry portion).label = textOrNull r.labels.head? := by cases portion <;> rfl
  rw [LiveEntry.isOn, on]
  cases r.labels.head? <;> rfl

end Row

namespace Portion

/-- Reads the record of a row. -/
def read : Portion → Value → Except ShapeFault LiveEntry
  | .constraints => LiveEntry.ofConstraint
  | .indexes => LiveEntry.ofIndex

theorem read_record (portion : Portion) (r : Row) :
    portion.read (r.record portion) = .ok (r.entry portion) := by
  cases portion with
  | constraints =>
    simp only [read, LiveEntry.ofConstraint, Row.record, Value.require, Value.get?, Value.getD,
      Value.lookup?, List.find?, Value.equals]
    simp [r.firstLabel_texts, r.keysOf_texts, bind, Except.bind, Row.entry]
  | indexes =>
    simp only [read, LiveEntry.ofIndex, Row.record, Value.require, Value.member, Value.get?,
      Value.getD, Value.lookup?, List.find?, Value.equals]
    simp [r.firstLabel_texts, r.keysOf_texts, bind, Except.bind, Row.entry]

/-- Every row can be read. -/
theorem mapM_read_records (portion : Portion) (rows : List Row) :
    (rows.map (·.record portion)).mapM portion.read = .ok (rows.map (·.entry portion)) := by
  induction rows with
  | nil => rfl
  | cons r rows ih =>
    rw [List.map_cons, List.mapM_cons, portion.read_record, ih]
    rfl

/-- A row is of the sort that is dropped: a unique constraint, or an index of its own. -/
def concerns : Portion → Row → Bool
  | .constraints, r => LiveEntry.uniqueTypes.contains (Text.upper r.type)
  | .indexes, r => !(Row.textOrNull r.owner?).truthy

/-- The rows whose objects are to be dropped. Only their first label is looked at. -/
def chosen (portion : Portion) (labels : List String) (rows : List Row) : List Row :=
  rows.filter fun r => portion.concerns r && r.labels.head?.any labels.contains

/-- The word for what is in a portion. -/
def word : Portion → String
  | .constraints => "CONSTRAINT"
  | .indexes => "INDEX"

/-- The statement that drops what has the given name. -/
def dropStatement (portion : Portion) (name : String) : String :=
  "DROP " ++ portion.word ++ " " ++ name ++ " IF EXISTS"

variable {portion : Portion} {labels : List String} {rows : List Row} {r : Row}

theorem plannedDrops_entries (portion : Portion) (labels : List String) (rows : List Row) :
    portion.plannedDrops labels (rows.map (·.entry portion)) =
      (portion.chosen labels rows).map fun r => portion.dropStatement r.name := by
  cases portion with
  | constraints =>
    have kind (r : Row) : decide ((r.entry .constraints).kind = .uniqueConstraint) =
        concerns .constraints r := by
      rw [Row.entry, LiveEntry.kindOfType, concerns, Value.display_text]
      cases LiveEntry.uniqueTypes.contains (Text.upper r.type) <;> rfl
    simp only [plannedDrops, plannedConstraintDrops, List.filter_map, List.map_map, chosen]
    refine congrArg _ (List.filter_congr fun r _ => ?_)
    rw [Function.comp_apply, kind, r.isOn_entry]
  | indexes =>
    simp only [plannedDrops, plannedIndexDrops, List.filter_map, List.map_map, chosen]
    refine congrArg _ (List.filter_congr fun r _ => ?_)
    rw [Function.comp_apply, r.isOn_entry, Bool.and_right_comm]
    exact congrArg (· && _) (Bool.true_and _)

/-- Planning drops the objects of the chosen rows, in the order of the report. -/
theorem drops_entries (portion : Portion) (labels : List String) (rows : List Row) :
    portion.drops (labels.map .text) (rows.map (·.entry portion)) =
      .ok ((portion.chosen labels rows).map fun r => portion.dropStatement r.name) := by
  have labelled : ∀ e ∈ rows.map (·.entry portion), e.Labelled := by
    intro e member
    obtain ⟨r, -, rfl⟩ := List.mem_map.1 member
    exact r.labelled_entry portion
  rw [portion.drops_eq labelled, portion.plannedDrops_entries]

theorem mem_chosen_iff : r ∈ portion.chosen labels rows ↔
    r ∈ rows ∧ portion.concerns r = true ∧ ∃ l ∈ labels, r.labels.head? = some l := by
  rw [chosen, List.mem_filter, Bool.and_eq_true, Option.any_eq_true]
  simp only [List.contains_iff_mem]
  constructor
  · rintro ⟨member, sort, l, first, target⟩
    exact ⟨member, sort, l, target, first⟩
  · rintro ⟨member, sort, l, target, first⟩
    exact ⟨member, sort, l, first, target⟩

end Portion

/-- The rows that a server reports can be read, and what is planned to be dropped is on a target
label. It serves target labels only if this holds of all labels behind the first one, too. -/
theorem serves_only_targets_iff (portion : Portion) (labels : List String) (rows : List Row) :
    ∃ live, (rows.map (·.record portion)).mapM portion.read = .ok live ∧
      portion.drops (labels.map .text) live =
        .ok ((portion.chosen labels rows).map fun r => portion.dropStatement r.name) ∧
      (∀ r ∈ portion.chosen labels rows, ∃ l ∈ labels, r.labels.head? = some l) ∧
      ((∀ r ∈ portion.chosen labels rows, ∀ l ∈ r.labels, l ∈ labels) ↔
        ∀ r ∈ rows, portion.concerns r = true → ∀ l ∈ labels, ∀ others, r.labels = l :: others →
          ∀ l' ∈ others, l' ∈ labels) := by
  refine ⟨_, portion.mapM_read_records rows, portion.drops_entries labels rows, ?_, ?_⟩
  · intro r member
    exact (Portion.mem_chosen_iff.1 member).2.2
  · -- a row is chosen for its first label, so only the labels behind it are in question
    constructor
    · intro only r member sort l target others served l' other
      have chosen : r ∈ portion.chosen labels rows :=
        Portion.mem_chosen_iff.2 ⟨member, sort, l, target, by rw [served]; rfl⟩
      exact only r chosen l' (by rw [served]; exact List.mem_cons_of_mem l other)
    · intro others r member l served
      obtain ⟨reported, sort, first, target, head⟩ := Portion.mem_chosen_iff.1 member
      obtain ⟨rest, list⟩ := List.head?_eq_some_iff.1 head
      rw [list] at served
      rcases List.mem_cons.1 served with rfl | other
      · exact target
      · exact others r reported sort first target rest list l other

/-- An index that serves two labels is dropped if the first of them is a target. -/
example : (Portion.indexes.chosen ["User"]
    [⟨"people", "FULLTEXT", some ["User", "Account"], some ["name"], none⟩]).map (·.name) =
      ["people"] := by
  decide +kernel

end GraphMapper.Schema
