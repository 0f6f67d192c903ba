import GraphMapper.Proofs.Query.Layout
import Mathlib.Data.List.Forall2

/-!
# Reading where conditions

A where condition is read entry by entry: what stands under the name of a connective is a list of
where conditions, whatever stands under another key is a condition on that field. So a property of
everything that is read holds as soon as it holds of what conditions on fields are read as, and is
kept by groups and conjunctions.

## Main definitions

* `Query.FieldCondition` — a condition on a field, as it stands in a where condition
* `Query.FieldCondition.ofWhere` — the conditions on fields in a where condition, at all depths
* `Query.Predicate.leaves` — what is left of a predicate without its groups

## Main results

* `Predicate.ofEntries_induction` — the induction over everything that is read
* `Predicate.forall₂_leaves_of_ofWhere` — every condition on a field is read, and nothing else is
-/

namespace GraphMapper.Query

/-! ### Conditions on fields -/

/-- A condition on a field, as it stands in a where condition. -/
structure FieldCondition where
  /-- The field. -/
  field : String
  /-- The condition. -/
  condition : Value

namespace FieldCondition

mutual

/-- The conditions on fields in what stands under a key. -/
def ofEntry (key : String) : Value → List FieldCondition
  | .list items =>
    match Connective.ofKey? (Text.lower key) with
    | some _ => ofConditions items
    | none => [⟨key, .list items⟩]
  | .tuple items =>
    match Connective.ofKey? (Text.lower key) with
    | some _ => ofConditions items
    | none => [⟨key, .tuple items⟩]
  | v =>
    match Connective.ofKey? (Text.lower key) with
    | some _ => []
    | none => [⟨key, v⟩]

/-- The conditions on fields in a list of where conditions. -/
def ofConditions : List Value → List FieldCondition
  | [] => []
  | .map entries :: rest => ofEntries entries ++ ofConditions rest
  | _ :: rest => ofConditions rest

/-- The conditions on fields in the entries of a where condition. -/
def ofEntries : List (Value × Value) → List FieldCondition
  | [] => []
  | (key, v) :: rest => ofEntry key.display v ++ ofEntries rest

end

/-- The conditions on fields in a where condition, at all depths and in the order in which they are
written. -/
def ofWhere : Value → List FieldCondition
  | .map entries => ofEntries entries
  | _ => []

/-- The operator that a condition on a field is stated with, and its operand: null asks for a
missing value, any other value that is no mapping for that value, and of a mapping the first
operator counts, if it is known. -/
def operator? (c : FieldCondition) : Option (Comparison × Value) :=
  match c.condition with
  | .null => some (.isNull, .null)
  | .map [] => none
  | .map ((name, operand) :: _) =>
    (Comparison.ofName? (Text.lower name.display)).map fun op => (op, operand)
  | v => some (.eq, v)

theorem ofEntry_of_connective {key : String} {op : Connective} {v : Value} {items : List Value}
    (known : Connective.ofKey? (Text.lower key) = some op) (sequence : v.sequence? = some items) :
    ofEntry key v = ofConditions items := by
  cases v <;> cases sequence <;> simp only [ofEntry, known]

theorem ofEntry_of_field {key : String} (v : Value)
    (field : Connective.ofKey? (Text.lower key) = none) : ofEntry key v = [⟨key, v⟩] := by
  cases v <;> simp only [ofEntry, field]

end FieldCondition

theorem Filter.liftIssue_eq_ok_iff {α : Type} {x : Except Issue α} {a : α} :
    liftIssue x = .ok a ↔ x = .ok a := by
  cases x <;> simp [liftIssue]

namespace Predicate

/-! ### The entries of a where condition -/

section

variable {strict : Bool} {key : String}

theorem ofEntry_of_connective {op : Connective} {v : Value} {items : List Value}
    (known : Connective.ofKey? (Text.lower key) = some op) (sequence : v.sequence? = some items) :
    ofEntry strict key v = (ofConditions strict key items).map (groupOf op) := by
  cases v <;> cases sequence <;> simp only [ofEntry, known]

theorem ofEntry_of_field (v : Value) (field : Connective.ofKey? (Text.lower key) = none) :
    ofEntry strict key v = (ofCondition strict key v).map some := by
  cases v <;> simp only [ofEntry, field]

end

/-! ### Induction over what is read -/

/-- What is read from the entries of where conditions: `entry` holds of a key with what stands under
it and of the predicate read from it, `conditions` of the where conditions in a group and of what is
read from them, `entries` of the entries of a where condition and of what is read from them. -/
structure ReadingMotive where
  /-- What holds of an entry. -/
  entry : String → Value → Option Predicate → Prop
  /-- What holds of the where conditions in a group under a key. -/
  conditions : String → List Value → List Predicate → Prop
  /-- What holds of the entries of a where condition. -/
  entries : List (Value × Value) → List Predicate → Prop

/-- What is read from a condition on a field has the property, and the property is kept by every
step of reading. -/
structure ReadingMotive.Inductive (strict : Bool) (motive : ReadingMotive) : Prop where
  /-- It holds of a condition on a field. -/
  field : ∀ key v p, Connective.ofKey? (Text.lower key) = none →
    ofCondition strict key v = .ok p → motive.entry key v (some p)
  /-- It is kept by a group. -/
  group : ∀ key op v items ps, Connective.ofKey? (Text.lower key) = some op →
    v.sequence? = some items → motive.conditions key items ps → motive.entry key v (groupOf op ps)
  /-- It holds where there is no condition. -/
  noConditions : ∀ key, motive.conditions key [] []
  /-- It is kept by one more condition, of which the conjunction is taken. -/
  condition : ∀ key entries rest nodes others, motive.entries entries nodes →
    motive.conditions key rest others →
    motive.conditions key (.map entries :: rest) ((conjunction nodes).toList ++ others)
  /-- It holds where there is no entry. -/
  noEntries : motive.entries [] []
  /-- It is kept by one more entry. -/
  oneEntry : ∀ key v rest p others, motive.entry (Value.display key) v p →
    motive.entries rest others → motive.entries ((key, v) :: rest) (p.toList ++ others)

section

variable {strict : Bool} {motive : ReadingMotive} (step : motive.Inductive strict)

include step

-- the recursion follows a where condition, its entries and lists of conditions in turn
mutual

theorem ofEntry_induction {key : String} :
    ∀ (v : Value) {p : Option Predicate}, ofEntry strict key v = .ok p → motive.entry key v p
  | v, p, read => by
    cases known : Connective.ofKey? (Text.lower key) with
    | none =>
      rw [ofEntry_of_field v known] at read
      obtain ⟨q, found, rfl⟩ := Except.map_eq_ok_iff.1 read
      exact step.field key v q known found
    | some op =>
      match v with
      | .list items | .tuple items =>
        rw [ofEntry_of_connective known rfl] at read
        obtain ⟨ps, found, rfl⟩ := Except.map_eq_ok_iff.1 read
        exact step.group key op _ items ps known rfl (ofConditions_induction items found)
      | .null | .bool _ | .int _ | .float _ | .text _ | .set _ | .map _ | .datetime _ | .date _ =>
        simp [ofEntry, known] at read

theorem ofConditions_induction {key : String} :
    ∀ (vs : List Value) {ps : List Predicate}, ofConditions strict key vs = .ok ps →
      motive.conditions key vs ps
  | [], ps, read => by
    cases read
    exact step.noConditions key
  | .map entries :: rest, ps, read => by
    rw [ofConditions] at read
    obtain ⟨nodes, first, read⟩ := Except.bind_eq_ok_iff.1 read
    obtain ⟨others, later, read⟩ := Except.bind_eq_ok_iff.1 read
    cases read
    exact step.condition key entries rest nodes others (ofEntries_induction entries first)
      (ofConditions_induction rest later)

theorem ofEntries_induction :
    ∀ (es : List (Value × Value)) {ps : List Predicate}, ofEntries strict es = .ok ps →
      motive.entries es ps
  | [], ps, read => by
    cases read
    exact step.noEntries
  | (key, v) :: rest, ps, read => by
    rw [ofEntries] at read
    obtain ⟨node, first, read⟩ := Except.bind_eq_ok_iff.1 read
    obtain ⟨others, later, read⟩ := Except.bind_eq_ok_iff.1 read
    cases read
    exact step.oneEntry key v rest node others (ofEntry_induction v first)
      (ofEntries_induction rest later)

end

end

/-! ### Leaves -/

mutual

/-- What is left of a predicate without its groups, from the first to the last. -/
def leaves : Predicate → List Predicate
  | .group _ children => leavesAll children
  | p => [p]

/-- What is left of some predicates without their groups. -/
def leavesAll : List Predicate → List Predicate
  | [] => []
  | p :: ps => p.leaves ++ leavesAll ps

end

/-- The predicate is a test of a field. -/
def isTest : Predicate → Bool
  | .test _ _ _ => true
  | _ => false

/-- The leaves of an optional predicate. -/
def leaves? (p : Option Predicate) : List Predicate := p.elim [] leaves

@[simp] theorem leaves?_none : leaves? none = [] := rfl

@[simp] theorem leaves?_some (p : Predicate) : leaves? (some p) = p.leaves := rfl

@[simp] theorem leavesAll_append (ps qs : List Predicate) :
    leavesAll (ps ++ qs) = leavesAll ps ++ leavesAll qs := by
  induction ps with
  | nil => rfl
  | cons p ps ih => simp [leavesAll, ih]

@[simp] theorem leavesAll_toList (p : Option Predicate) : leavesAll p.toList = leaves? p := by
  cases p <;> simp [leavesAll]

@[simp] theorem leaves?_conjunction (ps : List Predicate) :
    leaves? (conjunction ps) = leavesAll ps := by
  match ps with
  | [] => rfl
  | [p] => simp [leavesAll]
  | p :: q :: ps => rfl

@[simp] theorem leaves?_groupOf (op : Connective) (ps : List Predicate) :
    leaves? (groupOf op ps) = leavesAll ps := by
  cases ps <;> rfl

theorem mem_leavesAll {l : Predicate} {ps : List Predicate} :
    l ∈ leavesAll ps ↔ ∃ p ∈ ps, l ∈ p.leaves := by
  induction ps with
  | nil => simp [leavesAll]
  | cons p ps ih => simp [leavesAll, ih]

/-- However the operand of an operator is read, the test asks for the same. -/
theorem exists_test_of_ofOperator {field name : String} {op : Comparison} {operand : Value}
    {p : Predicate} (read : ofOperator field name op operand = .ok p) :
    ∃ op' operand' asked, p = .test field op' operand' ∧ op'.demand operand' = .ok asked ∧
      op.demand operand = .ok asked := by
  cases op with
  | neq | gt | gte | lt | lte | isNull =>
    cases read
    exact ⟨_, _, _, rfl, rfl, rfl⟩
  | eq =>
    cases read
    cases null : operand.isNull with
    | true => exact ⟨.isNull, .null, _, rfl, rfl, by simp [Comparison.demand, null]⟩
    | false => exact ⟨.eq, operand, _, rfl, rfl, rfl⟩
  | between =>
    rw [ofOperator] at read
    split at read
    · next low high sequence =>
      cases read
      refine ⟨.between, _, (false, .range low high), rfl, rfl, ?_⟩
      cases operand <;> cases sequence <;> rfl
    · cases read
  | isIn | notIn | like | notLike => cases operand <;> cases read <;> exact ⟨_, _, _, rfl, rfl, rfl⟩

/-- A condition on a field is read as a test if its operator is known, and as an operator without a
counterpart if not. -/
theorem leaf_of_ofCondition {strict : Bool} {c : FieldCondition} {p : Predicate}
    (read : ofCondition strict c.field c.condition = .ok p) :
    match c.operator? with
    | some (op, operand) => ∃ op' operand' asked, p = .test c.field op' operand' ∧
        op'.demand operand' = .ok asked ∧ op.demand operand = .ok asked
    | none => ∃ name operand, p = .unsupported c.field name operand := by
  obtain ⟨field, condition⟩ := c
  cases condition with
  | map operators =>
    cases operators with
    | nil => cases read
    | cons first rest =>
      obtain ⟨name, operand⟩ := first
      rw [ofCondition, ofOperators] at read
      split at read
      · cases read
      · cases known : Comparison.ofName? (Text.lower name.display) with
        | none =>
          simp only [known] at read
          cases read
          simp [FieldCondition.operator?, known]
        | some op =>
          simp only [known] at read
          simpa [FieldCondition.operator?, known] using exists_test_of_ofOperator read
  | _ =>
    cases read
    exact ⟨_, _, _, rfl, rfl, rfl⟩

/-- A condition on a field is read without any groups. -/
theorem leaves_of_ofCondition {strict : Bool} {c : FieldCondition} {p : Predicate}
    (read : ofCondition strict c.field c.condition = .ok p) : p.leaves = [p] := by
  have leaf := leaf_of_ofCondition read
  split at leaf
  · obtain ⟨op, operand, asked, rfl, -⟩ := leaf
    rfl
  · obtain ⟨name, operand, rfl⟩ := leaf
    rfl

/-- Every condition on a field is read, in its place, and nothing else is. -/
theorem forall₂_leaves_of_ofWhere {strict : Bool} {w : Value} {p : Option Predicate}
    (read : ofWhere strict w = .ok p) :
    List.Forall₂ (fun c l => ofCondition strict c.field c.condition = .ok l)
      (FieldCondition.ofWhere w) (leaves? p) := by
  let reads (c : FieldCondition) (l : Predicate) : Prop :=
    ofCondition strict c.field c.condition = .ok l
  let motive : ReadingMotive :=
    { entry := fun key v p => List.Forall₂ reads (FieldCondition.ofEntry key v) (leaves? p)
      conditions := fun _ vs ps =>
        List.Forall₂ reads (FieldCondition.ofConditions vs) (leavesAll ps)
      entries := fun es ps => List.Forall₂ reads (FieldCondition.ofEntries es) (leavesAll ps) }
  have step : motive.Inductive strict := by
    refine ⟨?field, ?group, fun _ => .nil, ?condition, .nil, ?oneEntry⟩
    case field =>
      intro key v p known read
      have alone := leaves_of_ofCondition (c := ⟨key, v⟩) read
      simp only [motive, FieldCondition.ofEntry_of_field v known, leaves?_some, alone]
      exact .cons read .nil
    case group =>
      intro key op v items ps known sequence inner
      simp only [motive, FieldCondition.ofEntry_of_connective known sequence, leaves?_groupOf]
      exact inner
    case condition =>
      intro key entries rest nodes others first later
      simp only [motive, FieldCondition.ofConditions, leavesAll_append, leavesAll_toList,
        leaves?_conjunction]
      exact List.rel_append first later
    case oneEntry =>
      intro key v rest p others first later
      simp only [motive, FieldCondition.ofEntries, leavesAll_append, leavesAll_toList]
      exact List.rel_append first later
  cases w with
  | null =>
    cases read
    exact .nil
  | map entries =>
    obtain ⟨ps, found, rfl⟩ := Except.map_eq_ok_iff.1 read
    rw [leaves?_conjunction]
    exact ofEntries_induction step entries found
  | _ => cases read

/-- Of lists that are related item by item, every item of the second is related to one of the
first. -/
theorem exists_of_mem_forall₂ {α β : Type} {R : α → β → Prop} {as : List α} {bs : List β}
    (related : List.Forall₂ R as bs) {b : β} (member : b ∈ bs) : ∃ a ∈ as, R a b := by
  induction related with
  | nil => cases member
  | @cons a _ as _ first _ ih =>
    rcases List.mem_cons.1 member with rfl | later
    · exact ⟨a, List.mem_cons_self, first⟩
    · obtain ⟨a', known, found⟩ := ih later
      exact ⟨a', List.mem_cons_of_mem a known, found⟩

section

variable {strict : Bool} {w : Value} {p : Option Predicate} (read : ofWhere strict w = .ok p)

include read

/-- Every leaf was read from a condition on a field. -/
theorem exists_condition_of_mem_leaves {l : Predicate} (leaf : l ∈ leaves? p) :
    ∃ c ∈ FieldCondition.ofWhere w, ofCondition strict c.field c.condition = .ok l :=
  exists_of_mem_forall₂ (forall₂_leaves_of_ofWhere read) leaf

/-- Every condition on a field was read. -/
theorem exists_leaf_of_mem_conditions {c : FieldCondition}
    (condition : c ∈ FieldCondition.ofWhere w) :
    ∃ l ∈ leaves? p, ofCondition strict c.field c.condition = .ok l :=
  exists_of_mem_forall₂ (forall₂_leaves_of_ofWhere read).flip condition

end

end Predicate

end GraphMapper.Query
