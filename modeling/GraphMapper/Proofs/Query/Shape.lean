import GraphMapper.Proofs.Query.Conditions

/-!
# Inputs of the same shape

Two inputs have the same shape if they differ in values only: the same keys in the same order, the
same nesting, the same operators, lists of the same length, and values that are null at the same
places. What is read from inputs of the same shape has the same shape again.

## Main definitions

* `Query.Predicate.SameShape` — two predicates differ in values only
* `Query.SameWhere`, `Query.SameFilter` — two where conditions, two filters differ in values only
* `Query.Operation.SameShape` — two operations differ in values only

## Main results

* `Predicate.sameShape_of_ofWhere`, `Search.sameShape_of_read` — where conditions and filters of the
  same shape are read as predicates and filters of the same shape
-/

namespace GraphMapper.Query

/-- Two operands of an operator that are null, or as long as each other, at the same time. -/
def Comparison.Agree (x y : Value) : Comparison → Prop
  | .eq | .neq => x.isNull = y.isNull
  | .isIn | .notIn => x.items.toOption.map List.length = y.items.toOption.map List.length
  | .gt | .gte | .lt | .lte | .between | .like | .notLike | .isNull => True

namespace Predicate

mutual

/-- Two predicates differ in values only. -/
def SameShape : Predicate → Predicate → Prop
  | .group op ps, .group op' qs => op = op' ∧ AllSameShape ps qs
  | .test field op x, .test field' op' y => field = field' ∧ op = op' ∧ op.Agree x y
  | .unsupported _ _ _, .unsupported _ _ _ => True
  | .foreign _, .foreign _ => True
  | _, _ => False

/-- Two lists of predicates differ in values only. -/
def AllSameShape : List Predicate → List Predicate → Prop
  | [], [] => True
  | p :: ps, q :: qs => p.SameShape q ∧ AllSameShape ps qs
  | _, _ => False

end

/-- Two optional predicates differ in values only. -/
def SameShape? : Option Predicate → Option Predicate → Prop
  | none, none => True
  | some p, some q => p.SameShape q
  | _, _ => False

end Predicate

/-! ### Where conditions -/

/-- Two conditions on a field differ in values only: both are null, both are bare values, or both
state the same operators, of which the first has operands that agree. -/
inductive SameTest : Value → Value → Prop
  | null : SameTest .null .null
  | bare {v w : Value} : v.isNull = false → v.isMap = false → w.isNull = false → w.isMap = false →
      SameTest v w
  | operators {ops ops' : Value.Entries} : ops.map (·.1.display) = ops'.map (·.1.display) →
      (∀ first ∈ ops.head?, ∀ first' ∈ ops'.head?, ∀ op,
        Comparison.ofName? (Text.lower first.1.display) = some op → op.Agree first.2 first'.2) →
      SameTest (.map ops) (.map ops')

/-- Operands of one known operator that agree. -/
theorem SameTest.operator {name x y : Value} {op : Comparison}
    (known : Comparison.ofName? (Text.lower name.display) = some op) (agree : op.Agree x y) :
    SameTest (.map [(name, x)]) (.map [(name, y)]) := by
  refine .operators rfl fun first member first' member' op' found => ?_
  cases member
  cases member'
  cases known.symm.trans found
  exact agree

mutual

/-- Two conditions under a key differ in values only: lists of conditions under a key that names a
connective, conditions on a field under any other. -/
def SameCondition (key : String) : Value → Value → Prop
  | .list items, w =>
    match Connective.ofKey? (Text.lower key) with
    | some _ => ∃ others, w.sequence? = some others ∧ SameConditions items others
    | none => SameTest (.list items) w
  | .tuple items, w =>
    match Connective.ofKey? (Text.lower key) with
    | some _ => ∃ others, w.sequence? = some others ∧ SameConditions items others
    | none => SameTest (.tuple items) w
  | v, w =>
    match Connective.ofKey? (Text.lower key) with
    | some _ => False
    | none => SameTest v w

/-- Two lists of conditions differ in values only. -/
def SameConditions : List Value → List Value → Prop
  | [], [] => True
  | .map entries :: rest, .map entries' :: rest' =>
    SameEntries entries entries' ∧ SameConditions rest rest'
  | _, _ => False

/-- The entries of two where conditions differ in values only. -/
def SameEntries : List (Value × Value) → List (Value × Value) → Prop
  | [], [] => True
  | (key, v) :: rest, (key', w) :: rest' =>
    key.display = key'.display ∧ SameCondition key.display v w ∧ SameEntries rest rest'
  | _, _ => False

end

/-- Two where conditions differ in values only. -/
def SameWhere (v w : Value) : Prop :=
  (v = .null ∧ w = .null) ∨ ∃ entries entries', v = .map entries ∧ w = .map entries' ∧
    SameEntries entries entries'

namespace Predicate

variable {strict : Bool} {field : String} {p q : Predicate} {ps ps' qs qs' : List Predicate}

theorem AllSameShape.append (first : AllSameShape ps qs) (later : AllSameShape ps' qs') :
    AllSameShape (ps ++ ps') (qs ++ qs') := by
  induction ps generalizing qs with
  | nil =>
    cases qs with
    | nil => exact later
    | cons q qs => exact first.elim
  | cons p ps ih =>
    cases qs with
    | nil => exact first.elim
    | cons q qs => exact ⟨first.1, ih first.2⟩

theorem SameShape?.toList {p q : Option Predicate} (same : SameShape? p q) :
    AllSameShape p.toList q.toList := by
  match p, q with
  | none, none => trivial
  | some p, some q => exact ⟨same, trivial⟩

theorem AllSameShape.conjunction (same : AllSameShape ps qs) :
    SameShape? (conjunction ps) (conjunction qs) := by
  match ps, qs with
  | [], [] => trivial
  | [p], [q] => exact same.1
  | p :: p' :: ps, q :: q' :: qs => exact ⟨rfl, same⟩
  | [p], q :: q' :: qs => exact same.2.elim
  | p :: p' :: ps, [q] => exact same.2.elim

theorem AllSameShape.groupOf (op : Connective) (same : AllSameShape ps qs) :
    SameShape? (groupOf op ps) (groupOf op qs) := by
  match ps, qs with
  | [], [] => trivial
  | p :: ps, q :: qs => exact ⟨rfl, same⟩

theorem sameShape_of_ofOperator {name name' : String} {op : Comparison} {x y : Value}
    (agree : op.Agree x y) (read : ofOperator field name op x = .ok p)
    (read' : ofOperator field name' op y = .ok q) : p.SameShape q := by
  cases op with
  | neq | gt | gte | lt | lte | isNull =>
    cases read
    cases read'
    exact ⟨rfl, rfl, agree⟩
  | eq =>
    cases read
    cases read'
    have same : x.isNull = y.isNull := agree
    rw [same]
    -- a test for null has no operand any more
    cases null : y.isNull with
    | true => exact ⟨rfl, rfl, trivial⟩
    | false => exact ⟨rfl, rfl, agree⟩
  | between =>
    rw [ofOperator] at read read'
    split at read
    · split at read'
      · cases read
        cases read'
        exact ⟨rfl, rfl, trivial⟩
      · cases read'
    · cases read
  | isIn | notIn =>
    cases x <;> cases read <;> cases y <;> cases read' <;> exact ⟨rfl, rfl, agree⟩
  | like | notLike =>
    cases x <;> cases read <;> cases y <;> cases read' <;> exact ⟨rfl, rfl, trivial⟩

theorem sameShape_of_ofCondition {v w : Value} (same : SameTest v w)
    (read : ofCondition strict field v = .ok p) (read' : ofCondition strict field w = .ok q) :
    p.SameShape q := by
  cases same with
  | null =>
    cases read
    cases read'
    exact ⟨rfl, rfl, trivial⟩
  | bare some bare some' bare' =>
    have equal {v : Value} {p : Predicate} (some : v.isNull = false) (bare : v.isMap = false)
        (read : ofCondition strict field v = .ok p) : p = .test field .eq v := by
      cases v <;> simp_all [ofCondition, Value.isNull, Value.isMap]
    rw [equal some bare read, equal some' bare' read']
    exact ⟨rfl, rfl, some.trans some'.symm⟩
  | @operators ops ops' names agree =>
    rw [ofCondition] at read read'
    cases ops with
    | nil => cases read
    | cons first rest =>
      cases ops' with
      | nil => cases read'
      | cons first' rest' =>
        rw [ofOperators] at read read'
        have name_eq : first.1.display = first'.1.display := (List.cons.inj names).1
        split at read
        · cases read
        · split at read'
          · cases read'
          · rw [← name_eq] at read'
            cases known : Comparison.ofName? (Text.lower first.1.display) with
            | none =>
              simp only [known] at read read'
              cases read
              cases read'
              trivial
            | some op =>
              simp only [known] at read read'
              exact sameShape_of_ofOperator (agree first rfl first' rfl op known) read read'

theorem sameCondition_iff_sameTest {key : String} {v w : Value}
    (field : Connective.ofKey? (Text.lower key) = none) :
    SameCondition key v w ↔ SameTest v w := by
  cases v <;> simp only [SameCondition, field]

theorem sameShape_of_field {key : String} {v w : Value} {p q : Option Predicate}
    (field : Connective.ofKey? (Text.lower key) = none) (same : SameCondition key v w)
    (read : ofEntry strict key v = .ok p) (read' : ofEntry strict key w = .ok q) :
    SameShape? p q := by
  rw [ofEntry_of_field v field] at read
  rw [ofEntry_of_field w field] at read'
  obtain ⟨p, found, rfl⟩ := Except.map_eq_ok_iff.1 read
  obtain ⟨q, found', rfl⟩ := Except.map_eq_ok_iff.1 read'
  exact sameShape_of_ofCondition ((sameCondition_iff_sameTest field).1 same) found found'

-- the recursion follows the first of two where conditions, entries and lists of conditions in turn
mutual

theorem sameShape_of_ofEntry {strict : Bool} {key : String} :
    ∀ (v : Value) {w : Value} {p q : Option Predicate}, SameCondition key v w →
      ofEntry strict key v = .ok p → ofEntry strict key w = .ok q → SameShape? p q
  | v, w, p, q, same, read, read' => by
    cases known : Connective.ofKey? (Text.lower key) with
    | none => exact sameShape_of_field known same read read'
    | some op =>
      match v with
      | .list items | .tuple items =>
        obtain ⟨others, sequence, same⟩ : ∃ others, w.sequence? = some others ∧
            SameConditions items others := by
          simpa only [SameCondition, known] using same
        rw [ofEntry_of_connective known rfl] at read
        rw [ofEntry_of_connective known sequence] at read'
        obtain ⟨ps, found, rfl⟩ := Except.map_eq_ok_iff.1 read
        obtain ⟨qs, found', rfl⟩ := Except.map_eq_ok_iff.1 read'
        exact (sameShape_of_ofConditions items same found found').groupOf op
      | .null | .bool _ | .int _ | .float _ | .text _ | .set _ | .map _ | .datetime _ | .date _ =>
        simp [SameCondition, known] at same

theorem sameShape_of_ofConditions {strict : Bool} {key : String} :
    ∀ (vs : List Value) {ws : List Value} {ps qs : List Predicate}, SameConditions vs ws →
      ofConditions strict key vs = .ok ps → ofConditions strict key ws = .ok qs →
      AllSameShape ps qs
  | [], [], ps, qs, same, read, read' => by
    cases read
    cases read'
    trivial
  | .map entries :: rest, .map entries' :: rest', ps, qs, same, read, read' => by
    rw [ofConditions] at read read'
    obtain ⟨nodes, first, read⟩ := Except.bind_eq_ok_iff.1 read
    obtain ⟨others, later, read⟩ := Except.bind_eq_ok_iff.1 read
    obtain ⟨nodes', first', read'⟩ := Except.bind_eq_ok_iff.1 read'
    obtain ⟨others', later', read'⟩ := Except.bind_eq_ok_iff.1 read'
    cases read
    cases read'
    have head := (sameShape_of_ofEntries entries same.1 first first').conjunction
    exact head.toList.append (sameShape_of_ofConditions rest same.2 later later')

theorem sameShape_of_ofEntries {strict : Bool} :
    ∀ (es : List (Value × Value)) {es' : List (Value × Value)} {ps qs : List Predicate},
      SameEntries es es' → ofEntries strict es = .ok ps → ofEntries strict es' = .ok qs →
      AllSameShape ps qs
  | [], [], ps, qs, same, read, read' => by
    cases read
    cases read'
    trivial
  | (key, v) :: rest, (key', w) :: rest', ps, qs, same, read, read' => by
    rw [ofEntries] at read read'
    obtain ⟨node, first, read⟩ := Except.bind_eq_ok_iff.1 read
    obtain ⟨others, later, read⟩ := Except.bind_eq_ok_iff.1 read
    obtain ⟨node', first', read'⟩ := Except.bind_eq_ok_iff.1 read'
    obtain ⟨others', later', read'⟩ := Except.bind_eq_ok_iff.1 read'
    cases read
    cases read'
    rw [← same.1] at first'
    have head := sameShape_of_ofEntry v same.2.1 first first'
    exact head.toList.append (sameShape_of_ofEntries rest same.2.2 later later')

end

/-- Where conditions of the same shape are read as predicates of the same shape. -/
theorem sameShape_of_ofWhere {v w : Value} {p q : Option Predicate} (same : SameWhere v w)
    (read : ofWhere strict v = .ok p) (read' : ofWhere strict w = .ok q) : SameShape? p q := by
  rcases same with ⟨rfl, rfl⟩ | ⟨entries, entries', rfl, rfl, same⟩
  · cases read
    cases read'
    trivial
  · obtain ⟨ps, found, rfl⟩ := Except.map_eq_ok_iff.1 read
    obtain ⟨qs, found', rfl⟩ := Except.map_eq_ok_iff.1 read'
    exact (sameShape_of_ofEntries entries same found found').conjunction

end Predicate

/-! ### Filters and operations -/

/-- Two counts are left out at the same time, once they are read. -/
def SameCount (name : String) (v w : Value) : Prop :=
  ∀ x y, Filter.count name v = .ok x → Filter.count name w = .ok y → x.truthy = y.truthy

/-- Two filters that have been read differ in values only. -/
structure Filter.SameShape (f g : Filter) : Prop where
  /-- The predicates differ in values only. -/
  condition : Predicate.SameShape? f.where? g.where?
  /-- The fields to return are the same. -/
  fields : f.fields = g.fields
  /-- The sort orders are the same. -/
  order : f.order = g.order
  /-- The numbers of nodes to skip are left out at the same time. -/
  skip : f.skip.truthy = g.skip.truthy
  /-- The numbers of nodes to return are left out at the same time. -/
  limit : f.limit.truthy = g.limit.truthy

/-- Two filters still to be read differ in values only. -/
structure SameFilter (entries entries' : Value.Entries) : Prop where
  /-- The where conditions differ in values only. -/
  condition : SameWhere (Value.getD entries "where") (Value.getD entries' "where")
  /-- The projections are the same. -/
  fields : Value.getD entries "fields" = Value.getD entries' "fields"
  /-- The sort orders are the same. -/
  order : Value.getD entries "order" = Value.getD entries' "order"
  /-- The numbers of nodes to skip are left out at the same time. -/
  skip : SameCount "skip" (Value.getD entries "skip") (Value.getD entries' "skip")
  /-- The numbers of nodes to return are left out at the same time. -/
  limit : SameCount "limit" (Value.getD entries "limit") (Value.getD entries' "limit")

/-- Two conditions differ in values only. -/
def Condition.SameShape : Condition → Condition → Prop
  | .value v, .value w => SameWhere v w
  | .predicate p, .predicate q => p.SameShape q
  | _, _ => False

/-- Two searches differ in values only. -/
def Search.SameShape : Search → Search → Prop
  | .value .null, .value .null => True
  | .value (.map entries), .value (.map entries') => SameFilter entries entries'
  | .filter f, .filter g => f.SameShape g
  | _, _ => False

/-- Two operations differ in values only; ids and property maps may be any. -/
def Operation.SameShape : Operation → Operation → Prop
  | .find s, .find s' | .findOne s, .findOne s' => s.SameShape s'
  | .count c, .count c' | .destroyAll c, .destroyAll c' | .updateAll c _, .updateAll c' _ =>
    c.SameShape c'
  | .findById _, .findById _ | .exists _, .exists _ | .destroy _, .destroy _
  | .create _, .create _ | .save _, .save _ | .updateOrCreate _, .updateOrCreate _
  | .updateAttributes _ _, .updateAttributes _ _ => True
  | _, _ => False

theorem Filter.SameShape.single {f g : Filter} (same : f.SameShape g) :
    f.single.SameShape g.single :=
  ⟨same.condition, same.fields, same.order, same.skip, rfl⟩

theorem Condition.sameShape_of_read {o : Options} {c c' : Condition} {p q : Option Predicate}
    (same : c.SameShape c') (read : c.read o = .ok p) (read' : c'.read o = .ok q) :
    Predicate.SameShape? p q := by
  match c, c' with
  | .value v, .value w =>
    exact Predicate.sameShape_of_ofWhere same (Filter.liftIssue_eq_ok_iff.1 read)
      (Filter.liftIssue_eq_ok_iff.1 read')
  | .predicate p, .predicate q =>
    cases read
    cases read'
    exact same

theorem SameFilter.sameShape {o : Options} {entries entries' : Value.Entries} {f g : Filter}
    (same : SameFilter entries entries') (read : Filter.ofValue o (.map entries) = .ok f)
    (read' : Filter.ofValue o (.map entries') = .ok g) : f.SameShape g := by
  rw [Filter.ofValue] at read read'
  obtain ⟨p, condition, read⟩ := Except.bind_eq_ok_iff.1 read
  obtain ⟨fields, projected, read⟩ := Except.bind_eq_ok_iff.1 read
  obtain ⟨order, sorted, read⟩ := Except.bind_eq_ok_iff.1 read
  obtain ⟨skip, skipped, read⟩ := Except.bind_eq_ok_iff.1 read
  obtain ⟨limit, limited, read⟩ := Except.bind_eq_ok_iff.1 read
  obtain ⟨p', condition', read'⟩ := Except.bind_eq_ok_iff.1 read'
  obtain ⟨fields', projected', read'⟩ := Except.bind_eq_ok_iff.1 read'
  obtain ⟨order', sorted', read'⟩ := Except.bind_eq_ok_iff.1 read'
  obtain ⟨skip', skipped', read'⟩ := Except.bind_eq_ok_iff.1 read'
  obtain ⟨limit', limited', read'⟩ := Except.bind_eq_ok_iff.1 read'
  cases read
  cases read'
  rw [← same.fields, projected] at projected'
  rw [← same.order, sorted] at sorted'
  exact ⟨Predicate.sameShape_of_ofWhere same.condition (Filter.liftIssue_eq_ok_iff.1 condition)
      (Filter.liftIssue_eq_ok_iff.1 condition'), Except.ok.inj projected', Except.ok.inj sorted',
    same.skip _ _ skipped skipped', same.limit _ _ limited limited'⟩

/-- Searches of the same shape are read as filters of the same shape. -/
theorem Search.sameShape_of_read {o : Options} {s s' : Search} {f g : Filter}
    (same : s.SameShape s') (read : s.read o = .ok f) (read' : s'.read o = .ok g) :
    f.SameShape g := by
  unfold SameShape at same
  split at same
  · cases read
    cases read'
    exact ⟨trivial, rfl, rfl, rfl, rfl⟩
  · exact same.sameShape read read'
  · cases read
    cases read'
    exact same
  · exact same.elim

end GraphMapper.Query
