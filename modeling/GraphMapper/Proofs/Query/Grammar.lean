import GraphMapper.Proofs.Query.Reading

/-!
# The grammar of where conditions

Which where conditions are read is told by their shape alone. What stands under the name of a
connective is a list of mappings whose entries have the shape again. What stands under any other key
is no mapping, or a mapping of operators of which only the first is looked at: if it is known, its
operand has to fit. Whatever is read is in normal form: no group is empty, and the leaves are the
conditions on fields, each in its place.

## Main definitions

* `Query.Comparison.Takes` — the operands that fit an operator
* `Query.EntryShape`, `Query.WhereShape` — the shape of an entry and of a where condition
* `Query.Predicate.Grouped` — a predicate in which no group is empty
* `Query.FieldCondition.ReadAs` — the leaf that a condition on a field is read as

## Main results

* `Predicate.exists_ofWhere_iff` — a where condition is read exactly if it has the shape
* `Predicate.grouped_of_ofWhere` — no group is empty in what is read
* `Predicate.ofWhere_normal` — what has the shape is read in normal form, and nothing else is read
-/

namespace GraphMapper.Query

/-! ### Shapes -/

/-- The operand fits the operator: a range has two ends, a membership test has some items, and a
pattern is anything that is written as one text. -/
def Comparison.Takes (operand : Value) : Comparison → Prop
  | .between => ∃ low high, operand = .list [low, high] ∨ operand = .tuple [low, high]
  | .isIn | .notIn =>
    ∃ items, operand = .list items ∨ operand = .tuple items ∨ operand = .set items
  | .like | .notLike =>
    operand.isNull = false ∧ operand.isMap = false ∧ operand.sequence? = none
  | .eq | .neq | .gt | .gte | .lt | .lte | .isNull => True

/-- The shape of a condition on a field. -/
inductive FieldShape (strict : Bool) : Value → Prop
  /-- Null, or a value to be compared with. -/
  | bare {v : Value} : v.isMap = false → FieldShape strict v
  /-- Operators, of which the first takes its operand if it is known. -/
  | operators {name operand : Value} {rest : Value.Entries} : (strict = true → rest = []) →
      (∀ op, Comparison.ofName? (Text.lower name.display) = some op → op.Takes operand) →
      FieldShape strict (.map ((name, operand) :: rest))

/-- The shape of an entry: what may stand under a key. -/
inductive EntryShape (strict : Bool) : String → Value → Prop
  /-- A condition on a field. -/
  | field {key : String} {v : Value} : Connective.ofKey? (Text.lower key) = none →
      FieldShape strict v → EntryShape strict key v
  /-- A list of mappings under the name of a connective. -/
  | group {key : String} {op : Connective} {v : Value} {conditions : List Value.Entries} :
      Connective.ofKey? (Text.lower key) = some op →
      v.sequence? = some (conditions.map .map) →
      (∀ c ∈ conditions, ∀ e ∈ c, EntryShape strict e.1.display e.2) → EntryShape strict key v

/-- The shape of a where condition. -/
inductive WhereShape (strict : Bool) : Value → Prop
  /-- There is no condition. -/
  | null : WhereShape strict .null
  /-- A mapping. -/
  | entries {entries : Value.Entries} :
      (∀ e ∈ entries, EntryShape strict e.1.display e.2) → WhereShape strict (.map entries)

/-- The leaf that a condition on a field is read as: a test that asks for what the condition asks
for, or an operator without a counterpart. -/
def FieldCondition.ReadAs (c : FieldCondition) (leaf : Predicate) : Prop :=
  match c.operator? with
  | some (op, operand) => ∃ op' operand' asked, leaf = .test c.field op' operand' ∧
      op'.demand operand' = .ok asked ∧ op.demand operand = .ok asked
  | none => ∃ name operand, leaf = .unsupported c.field name operand

namespace Predicate

variable {strict : Bool} {field key : String} {v : Value}

/-! ### Conditions on fields -/

theorem exists_ofOperator_iff {name : String} {op : Comparison} {operand : Value} :
    (∃ p, ofOperator field name op operand = .ok p) ↔ op.Takes operand := by
  cases op with
  | eq | neq | gt | gte | lt | lte | isNull => simp [ofOperator, Comparison.Takes]
  | between =>
    rw [ofOperator, Comparison.Takes]
    constructor
    · rintro ⟨p, read⟩
      split at read
      · next low high ends =>
        refine ⟨low, high, ?_⟩
        cases operand <;> cases ends
        · exact .inl rfl
        · exact .inr rfl
      · cases read
    · rintro ⟨low, high, rfl | rfl⟩ <;> exact ⟨_, rfl⟩
  | isIn | notIn => cases operand <;> simp [ofOperator, Comparison.Takes]
  | like | notLike =>
    cases operand <;> simp [ofOperator, Comparison.Takes, Value.isNull, Value.isMap,
      Value.sequence?]

/-- A condition on a field is read exactly if it has the shape of one. -/
theorem exists_ofCondition_iff :
    (∃ p, ofCondition strict field v = .ok p) ↔ FieldShape strict v := by
  constructor
  · rintro ⟨p, read⟩
    cases v with
    | map operators =>
      cases operators with
      | nil => cases read
      | cons first rest =>
        -- operators behind the first one count only if there must be none
        obtain ⟨name, operand⟩ := first
        rw [ofCondition, ofOperators] at read
        split at read
        · cases read
        · next single =>
          refine .operators (fun on => by simpa [on] using single) fun op known => ?_
          rw [known] at read
          exact exists_ofOperator_iff.1 ⟨p, read⟩
    | _ => exact .bare rfl
  · intro shape
    cases shape with
    | bare plain => cases v <;> first | exact ⟨_, rfl⟩ | cases plain
    | @operators name operand rest single fits =>
      have several : (strict && !rest.isEmpty) = false := by
        cases strict with
        | false => rfl
        | true => simp [single rfl]
      rw [ofCondition, ofOperators, if_neg (by simp [several])]
      cases known : Comparison.ofName? (Text.lower name.display) with
      | none => exact ⟨_, rfl⟩
      | some op => exact exists_ofOperator_iff.2 (fits op known)

/-! ### Groups and mappings -/

theorem exists_ofEntries {es : Value.Entries}
    (each : ∀ e ∈ es, ∃ p, ofEntry strict e.1.display e.2 = .ok p) :
    ∃ ps, ofEntries strict es = .ok ps := by
  induction es with
  | nil => exact ⟨[], by rw [ofEntries]⟩
  | cons e rest ih =>
    rw [List.forall_mem_cons] at each
    obtain ⟨p, first⟩ := each.1
    obtain ⟨others, later⟩ := ih each.2
    exact ⟨p.toList ++ others, by rw [ofEntries, first, later]; rfl⟩

theorem exists_ofConditions {conditions : List Value.Entries}
    (each : ∀ c ∈ conditions, ∀ e ∈ c, ∃ p, ofEntry strict e.1.display e.2 = .ok p) :
    ∃ ps, ofConditions strict key (conditions.map .map) = .ok ps := by
  induction conditions with
  | nil => exact ⟨[], by rw [List.map_nil, ofConditions]⟩
  | cons c rest ih =>
    rw [List.forall_mem_cons] at each
    obtain ⟨nodes, first⟩ := exists_ofEntries each.1
    obtain ⟨others, later⟩ := ih each.2
    exact ⟨(conjunction nodes).toList ++ others, by
      rw [List.map_cons, ofConditions, first, later]; rfl⟩

/-- An entry that has the shape is read. -/
theorem exists_ofEntry_of_shape (shape : EntryShape strict key v) :
    ∃ p, ofEntry strict key v = .ok p := by
  -- the induction is on the shape, which says of a group that each of its entries has it
  induction shape with
  | @field key v known shape =>
    obtain ⟨p, read⟩ := exists_ofCondition_iff.2 shape
    exact ⟨some p, by rw [ofEntry_of_field v known, read]; rfl⟩
  | @group key op v conditions known sequence _ ih =>
    obtain ⟨ps, read⟩ := exists_ofConditions ih
    exact ⟨groupOf op ps, by rw [ofEntry_of_connective known sequence, read]; rfl⟩

/-- What is read has the shape. -/
theorem shape_of_ofEntries {es : Value.Entries} {ps : List Predicate}
    (read : ofEntries strict es = .ok ps) : ∀ e ∈ es, EntryShape strict e.1.display e.2 := by
  -- entries, conditions and mappings are read by each other, so one induction is for all three
  let motive : ReadingMotive :=
    { entry := fun key v _ => EntryShape strict key v
      conditions := fun _ vs _ => ∃ conditions : List Value.Entries, vs = conditions.map .map ∧
        ∀ c ∈ conditions, ∀ e ∈ c, EntryShape strict e.1.display e.2
      entries := fun es _ => ∀ e ∈ es, EntryShape strict e.1.display e.2 }
  have step : motive.Inductive strict := by
    refine ⟨?field, ?group, fun _ => ⟨[], rfl, by simp⟩, ?condition, by simp [motive], ?oneEntry⟩
    case field =>
      exact fun key v p known read => .field known (exists_ofCondition_iff.1 ⟨p, read⟩)
    case group =>
      rintro key op v _ ps known sequence ⟨conditions, rfl, each⟩
      exact .group known sequence each
    case condition =>
      rintro key entries _ nodes others first ⟨conditions, rfl, later⟩
      exact ⟨entries :: conditions, rfl, List.forall_mem_cons.2 ⟨first, later⟩⟩
    case oneEntry =>
      exact fun key v rest p others first later => List.forall_mem_cons.2 ⟨first, later⟩
  exact ofEntries_induction step es read

/-- A where condition is read exactly if it has the shape. -/
theorem exists_ofWhere_iff {w : Value} :
    (∃ p, ofWhere strict w = .ok p) ↔ WhereShape strict w := by
  constructor
  · rintro ⟨p, read⟩
    cases w with
    | null => exact .null
    | map entries =>
      obtain ⟨ps, found, -⟩ := Except.map_eq_ok_iff.1 read
      exact .entries (shape_of_ofEntries found)
    | _ => cases read
  · intro shape
    cases shape with
    | null => exact ⟨none, rfl⟩
    | entries each =>
      obtain ⟨ps, found⟩ := exists_ofEntries fun e member => exists_ofEntry_of_shape (each e member)
      exact ⟨conjunction ps, by rw [ofWhere, found]; rfl⟩

/-! ### The normal form -/

/-- No group in the predicate is empty, and there is nothing in it but predicates. -/
inductive Grouped : Predicate → Prop
  | group (op : Connective) {children : List Predicate} : children ≠ [] →
      (∀ p ∈ children, Grouped p) → Grouped (.group op children)
  | test (field : String) (op : Comparison) (operand : Value) : Grouped (.test field op operand)
  | unsupported (field name : String) (operand : Value) : Grouped (.unsupported field name operand)

theorem Grouped.leaves_ne_nil {p : Predicate} (grouped : p.Grouped) : p.leaves ≠ [] := by
  induction grouped with
  | @group op children nonempty _ ih =>
    obtain ⟨p, member⟩ := List.exists_mem_of_ne_nil children nonempty
    obtain ⟨l, leaf⟩ := List.exists_mem_of_ne_nil _ (ih p member)
    exact List.ne_nil_of_mem (mem_leavesAll.2 ⟨p, member, leaf⟩)
  | test | unsupported => exact List.cons_ne_nil _ _

theorem grouped_of_readAs {c : FieldCondition} {p : Predicate} (read : c.ReadAs p) :
    p.Grouped := by
  rw [FieldCondition.ReadAs] at read
  split at read
  · obtain ⟨op, operand, -, rfl, -⟩ := read
    exact .test c.field op operand
  · obtain ⟨name, operand, rfl⟩ := read
    exact .unsupported c.field name operand

theorem grouped_groupOf (op : Connective) {ps : List Predicate} (each : ∀ p ∈ ps, p.Grouped) :
    ∀ q ∈ groupOf op ps, q.Grouped := by
  cases ps with
  | nil => simp
  | cons p ps =>
    rintro q ⟨⟩
    exact .group op (List.cons_ne_nil p ps) each

theorem grouped_conjunction {ps : List Predicate} (each : ∀ p ∈ ps, p.Grouped) :
    ∀ q ∈ conjunction ps, q.Grouped := by
  match ps with
  | [] => simp
  | [p] =>
    rintro q ⟨⟩
    exact each p List.mem_cons_self
  | p :: p' :: rest => exact grouped_groupOf .and each

theorem grouped_toList_append {p : Option Predicate} {ps : List Predicate}
    (first : ∀ q ∈ p, q.Grouped) (later : ∀ q ∈ ps, q.Grouped) :
    ∀ q ∈ p.toList ++ ps, q.Grouped := by
  intro q member
  rcases List.mem_append.1 member with one | other
  · exact first q (Option.mem_toList.1 one)
  · exact later q other

/-- No group is empty in what is read: a group of which nothing is left is left out itself. -/
theorem grouped_of_ofWhere {w : Value} {p : Option Predicate} (read : ofWhere strict w = .ok p) :
    ∀ q ∈ p, q.Grouped := by
  let motive : ReadingMotive :=
    { entry := fun _ _ p => ∀ q ∈ p, q.Grouped
      conditions := fun _ _ ps => ∀ q ∈ ps, q.Grouped
      entries := fun _ ps => ∀ q ∈ ps, q.Grouped }
  have step : motive.Inductive strict := by
    refine ⟨?field, ?group, by simp [motive], ?condition, by simp [motive], ?oneEntry⟩
    case field =>
      rintro key v p known read q ⟨⟩
      exact grouped_of_readAs (leaf_of_ofCondition (c := ⟨key, v⟩) read)
    case group => exact fun key op v items ps known sequence each => grouped_groupOf op each
    case condition =>
      exact fun key entries rest nodes others first later =>
        grouped_toList_append (grouped_conjunction first) later
    case oneEntry => exact fun key v rest p others first later => grouped_toList_append first later
  cases w with
  | null =>
    cases read
    simp
  | map entries =>
    obtain ⟨ps, found, rfl⟩ := Except.map_eq_ok_iff.1 read
    exact grouped_conjunction (ofEntries_induction step entries found)
  | _ => cases read

/-- Every condition on a field is a leaf of what is read, in its place, and nothing else is. -/
theorem forall₂_readAs_of_ofWhere {w : Value} {p : Option Predicate}
    (read : ofWhere strict w = .ok p) :
    List.Forall₂ FieldCondition.ReadAs (FieldCondition.ofWhere w) (leaves? p) :=
  (forall₂_leaves_of_ofWhere read).imp fun _ _ => leaf_of_ofCondition

/-- Nothing is left of a where condition exactly if there is no condition on a field in it. -/
theorem eq_none_iff_of_ofWhere {w : Value} {p : Option Predicate}
    (read : ofWhere strict w = .ok p) : p = none ↔ FieldCondition.ofWhere w = [] := by
  have count := (forall₂_leaves_of_ofWhere read).length_eq
  rw [← List.length_eq_zero_iff, count, List.length_eq_zero_iff]
  cases p with
  | none => simp
  | some p => simpa using (grouped_of_ofWhere read p rfl).leaves_ne_nil

/-- A where condition of the right shape is read as a predicate in normal form: no group is empty,
the leaves are the conditions on fields in the order in which they are written, and there is no
predicate exactly if there is no condition on a field. Any other where condition is reported as one
that cannot be compiled. -/
theorem ofWhere_normal (strict : Bool) (w : Value) :
    match Filter.liftIssue (ofWhere strict w) with
    | .ok p => WhereShape strict w ∧ (∀ q ∈ p, q.Grouped) ∧
        List.Forall₂ FieldCondition.ReadAs (FieldCondition.ofWhere w) (leaves? p) ∧
        (p = none ↔ FieldCondition.ofWhere w = [])
    | .error fault => ¬ WhereShape strict w ∧ fault.kind = .compile := by
  cases read : ofWhere strict w with
  | ok p =>
    exact ⟨exists_ofWhere_iff.1 ⟨p, read⟩, grouped_of_ofWhere read,
      forall₂_readAs_of_ofWhere read, eq_none_iff_of_ofWhere read⟩
  | error issue =>
    refine ⟨fun shape => ?_, rfl⟩
    obtain ⟨p, found⟩ := exists_ofWhere_iff.2 shape
    rw [read] at found
    cases found

/-- A group with a range, an empty mapping and an empty group in it, next to an operator without a
counterpart. With two operators on one field the same condition is refused if operators are
strict. -/
theorem ofWhere_normal_nested :
    let range : Value := .map [(.text "Between", .tuple [.int 18, .int 65])]
    let w (tag : Value.Entries) : Value := .map
      [(.text "OR", .list [.map [(.text "age", range)], .map [], .map [(.text "not", .list [])]]),
        (.text "tag", .map tag)]
    let near : Value × Value := (.text "near", .int 1)
    WhereShape true (w [near]) ∧ ¬ WhereShape true (w [near, near]) ∧
      ∃ p : Predicate, ofWhere true (w [near]) = .ok (some p) ∧ p.Grouped ∧
        p.leaves = [.test "age" .between (.tuple [.int 18, .int 65]),
          .unsupported "tag" "near" (.int 1)] := by
  intro range w near
  have read : ofWhere true (w [near]) = .ok (some (.group .and
      [.group .or [.test "age" .between (.tuple [.int 18, .int 65])],
        .unsupported "tag" "near" (.int 1)])) := by
    with_unfolding_all rfl
  have refused : ofWhere true (w [near, near]) =
      .error (.severalOperators "tag" ["near", "near"]) := by
    with_unfolding_all rfl
  have normal := ofWhere_normal true (w [near])
  have failed := ofWhere_normal true (w [near, near])
  rw [read] at normal
  rw [refused] at failed
  exact ⟨normal.1, failed.1, _, read, normal.2.1 _ rfl, rfl⟩

end Predicate

end GraphMapper.Query
