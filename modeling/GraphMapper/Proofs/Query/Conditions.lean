import GraphMapper.Proofs.Query.Reading

/-!
# What is read from where conditions

Reading a where condition refuses every operand that its operator has no use for. What is left for
the compiler to refuse are operators without a counterpart, and it only refuses these if operators
are strict.

## Main definitions

* `Query.Predicate.Statable` — every operand of a predicate fits its operator

## Main results

* `Predicate.statable_of_ofWhere` — what was read from a where condition can be stated
* `Predicate.exists_express` — what can be stated has an expression, unless operators are strict
* `Predicate.exists_mem_leaves_of_express` — nothing is refused but operators without a counterpart
-/

namespace GraphMapper.Query.Predicate

/-- Every operand of the predicate fits its operator, and there is nothing in it but predicates. -/
inductive Statable : Predicate → Prop
  | group (op : Connective) {children : List Predicate} : (∀ p ∈ children, Statable p) →
      Statable (.group op children)
  | test (field : String) {op : Comparison} {operand : Value} {asked : Bool × Demand} :
      op.demand operand = .ok asked → Statable (.test field op operand)
  | unsupported (field name : String) (operand : Value) :
      Statable (.unsupported field name operand)

variable {strict : Bool} {field : String} {p : Predicate} {ps : List Predicate}

/-! ### Reading -/

theorem statable_of_ofCondition {c : FieldCondition}
    (read : ofCondition strict c.field c.condition = .ok p) : p.Statable := by
  have leaf := leaf_of_ofCondition read
  split at leaf
  · obtain ⟨op, operand, asked, rfl, same, -⟩ := leaf
    exact .test c.field same
  · obtain ⟨name, operand, rfl⟩ := leaf
    exact .unsupported c.field name operand

/-- A predicate can be stated if its leaves can. -/
theorem statable_of_leaves (known : ∀ l ∈ p.leaves, l.Statable) : p.Statable := by
  induction p with
  | group op children ih =>
    refine .group op fun q member => ih q member fun l leaf => known l ?_
    exact mem_leavesAll.2 ⟨q, member, leaf⟩
  | test | unsupported | «foreign» => exact known _ List.mem_cons_self

/-- What was read from a where condition can be stated. -/
theorem statable_of_ofWhere {w : Value} {p : Option Predicate}
    (read : ofWhere strict w = .ok p) : ∀ q ∈ p, q.Statable := by
  rintro q rfl
  refine statable_of_leaves fun l leaf => ?_
  -- every leaf was read from a condition on a field
  obtain ⟨c, -, found⟩ := exists_condition_of_mem_leaves read leaf
  exact statable_of_ofCondition found

/-! ### Expressing -/

theorem exists_expressAll {o : Options} (each : ∀ p ∈ ps, ∀ n, ∃ e n', express o p n = (.ok e, n'))
    (n : Namer) : ∃ es n', expressAll o ps n = (.ok es, n') := by
  induction ps generalizing n with
  | nil => exact ⟨[], n, rfl⟩
  | cons p ps ih =>
    rw [List.forall_mem_cons] at each
    obtain ⟨e, n₁, first⟩ := each.1 n
    obtain ⟨es, n₂, later⟩ := ih each.2 n₁
    exact ⟨e :: es, n₂, expressAll_cons_eq_ok_iff.2 ⟨e, n₁, es, first, later, rfl⟩⟩

/-- What can be stated has an expression, unless operators are strict and there is one without a
counterpart. -/
theorem exists_express_of_forall_mem_leaves {o : Options} (statable : p.Statable)
    (allowed : o.strictOperators = true →
      ∀ field name operand, .unsupported field name operand ∉ p.leaves) (n : Namer) :
    ∃ e n', express o p n = (.ok e, n') := by
  induction statable generalizing n with
  | group op _ ih =>
    have each (p : Predicate) (member : p ∈ _) := ih p member fun strict field name operand leaf =>
      allowed strict field name operand (mem_leavesAll.2 ⟨p, member, leaf⟩)
    obtain ⟨es, n', all⟩ := exists_expressAll each n
    exact ⟨_, n', express_group_eq_ok_iff.2 ⟨es, all, rfl⟩⟩
  | test field asked =>
    exact ⟨_, _, express_test_eq_ok_iff.2 ⟨_, _, asked, rfl, rfl⟩⟩
  | unsupported field name operand =>
    have loose : o.strictOperators = false :=
      eq_false_of_ne_true fun strict => allowed strict field name operand List.mem_cons_self
    exact ⟨none, n, express_unsupported_eq_ok_iff.2 ⟨loose, rfl, rfl⟩⟩

/-- What can be stated has an expression, unless operators are strict. -/
theorem exists_express {o : Options} (loose : o.strictOperators = false)
    (statable : p.Statable) (n : Namer) : ∃ e n', express o p n = (.ok e, n') :=
  exists_express_of_forall_mem_leaves statable (fun strict => by simp [loose] at strict) n

/-- An operator without a counterpart has no expression if operators are strict. -/
theorem notMem_leaves_of_express {o : Options} {n n' : Namer} {e : Option (Expression Slot)}
    (strict : o.strictOperators = true) (done : express o p n = (.ok e, n')) (field name : String)
    (operand : Value) : .unsupported field name operand ∉ p.leaves := by
  refine express_induction
    (motive := fun p _ _ _ => .unsupported field name operand ∉ p.leaves)
    ?group ?test ?unsupported ?foreign done
  case group =>
    intro op children n es n' chained
    rw [leaves]
    induction chained with
    | nil => simp [leavesAll]
    | cons first _ ih => simpa [leavesAll] using ⟨first, ih⟩
  case test => simp [leaves]
  case unsupported => simp [strict]
  case foreign => simp [leaves]

theorem exists_express_eq_error {o : Options} {n n' : Namer} {fault : Fault}
    (failed : expressAll o ps n = (.error fault, n')) :
    ∃ p ∈ ps, ∃ n₁ n₂, express o p n₁ = (.error fault, n₂) := by
  induction ps generalizing n with
  | nil => cases failed
  | cons p ps ih =>
    rw [expressAll] at failed
    rcases first : express o p n with ⟨first' | e, n₁⟩
    · rw [first] at failed
      cases failed
      exact ⟨p, List.mem_cons_self, n, _, first⟩
    · rw [first] at failed
      rcases later : expressAll o ps n₁ with ⟨later' | es, n₂⟩
      · simp only [later] at failed
        cases failed
        obtain ⟨q, member, found⟩ := ih later
        exact ⟨q, List.mem_cons_of_mem p member, found⟩
      · simp [later] at failed

/-- Of what can be stated, nothing is refused but an operator without a counterpart. -/
theorem exists_mem_leaves_of_express {o : Options} {n n' : Namer} {fault : Fault}
    (statable : p.Statable) (failed : express o p n = (.error fault, n')) :
    o.strictOperators = true ∧ ∃ field name operand, .unsupported field name operand ∈ p.leaves ∧
      fault = .compile (.unsupportedOperator name field) := by
  induction statable generalizing n n' with
  | @group op children _ ih =>
    rw [express] at failed
    rcases all : expressAll o children n with ⟨fault' | es, n₁⟩
    · rw [all] at failed
      cases failed
      obtain ⟨p, member, n₁, n₂, failed⟩ := exists_express_eq_error all
      obtain ⟨strict, field, name, operand, leaf, same⟩ := ih p member failed
      exact ⟨strict, field, name, operand, mem_leavesAll.2 ⟨p, member, leaf⟩, same⟩
    · simp [all] at failed
  | test field asked => simp [express, expressTest, asked] at failed
  | unsupported field name operand =>
    rw [express] at failed
    split at failed
    · next strict =>
      cases failed
      exact ⟨strict, field, name, operand, List.mem_cons_self, rfl⟩
    · simp at failed

end GraphMapper.Query.Predicate
