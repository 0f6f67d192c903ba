import GraphMapper.Proofs.Query.Conditions

/-!
# The atoms of a condition

The text of a condition is put together from atoms, one for each test in the predicate, in the order
of the tests. What stands between the atoms are parentheses and the words that negate and join
expressions. If operators are strict there is an atom for every condition on a field that was
written: nothing is left out without a word.

## Main definitions

* `Query.Demand.StatedBy`, `Query.FieldCondition.StatedBy` — the atom of a demand and of a condition
  on a field
* `Query.Composed` — a text that is put together from atoms

## Main results

* `Predicate.exists_atoms_of_express` — the text of an expression has an atom for each test
* `Predicate.compiles_unless_unsupported` — what is read from a where condition is compiled unless
  an operator is refused, and with strict operators nothing of it is left out
-/

namespace GraphMapper.Query

open Fragment (placeholder)

/-! ### Atoms -/

/-- The text states a demand on a property, with parameters of some names for the values. -/
inductive Demand.StatedBy (property : String) : Demand → String → Prop
  | absent : StatedBy property .absent (property ++ " IS NULL")
  | present : StatedBy property .present (property ++ " IS NOT NULL")
  | relation (r : Relation) (value : Value) (name : String) :
      StatedBy property (.relation r value)
        (property ++ " " ++ r.symbol ++ " " ++ placeholder name)
  | range (low high : Value) (lowName highName : String) :
      StatedBy property (.range low high)
        ("(" ++ property ++ " > " ++ placeholder lowName ++ " AND " ++ property ++ " < "
          ++ placeholder highName ++ ")")
  | membership {items : List Value} {names : List String} : names.length = items.length →
      StatedBy property (.membership items)
        (property ++ " IN [" ++ ", ".intercalate (names.map placeholder) ++ "]")

/-- The text is the atom of an operator: what the operator asks for, or the negation of it. -/
def Comparison.StatedBy (property : String) (op : Comparison) (operand : Value) (atom : String) :
    Prop :=
  ∃ negate d text, op.demand operand = .ok (negate, d) ∧ d.StatedBy property text ∧
    atom = if negate then "NOT " ++ text else text

/-- The text is the atom of a test. -/
def Predicate.StatedBy (node : String) : Predicate → String → Prop
  | .test field op operand, atom => op.StatedBy (node ++ "." ++ field) operand atom
  | _, _ => False

/-- The text is the atom of a condition on a field. -/
def FieldCondition.StatedBy (node : String) (c : FieldCondition) (atom : String) : Prop :=
  ∃ op operand, c.operator? = some (op, operand) ∧
    op.StatedBy (node ++ "." ++ c.field) operand atom

/-- The text is put together from the atoms, in their order. There is nothing else in it but
parentheses, negations and the words that join expressions. -/
inductive Composed : List String → String → Prop
  | atom (a : String) : Composed [a] a
  | paren {atoms : List String} {text : String} : Composed atoms text →
      Composed atoms ("(" ++ text ++ ")")
  | negation {atoms : List String} {text : String} : Composed atoms text →
      Composed atoms ("NOT " ++ text)
  | join (op : Junction) {atoms atoms' : List String} {text text' : String} :
      Composed atoms text → Composed atoms' text' →
      Composed (atoms ++ atoms') (text ++ " " ++ op.word ++ " " ++ text')

namespace Composed

/-- Texts joined by one word are put together from the atoms of all of them. -/
theorem intercalate (op : Junction) {parts : List (List String)} {texts : List String}
    (composed : List.Forall₂ Composed parts texts) (nonempty : texts ≠ []) :
    Composed parts.flatten ((" " ++ op.word ++ " ").intercalate texts) := by
  induction composed with
  | nil => exact absurd rfl nonempty
  | @cons part text parts texts first later ih =>
    cases later with
    | nil => simpa using first
    | cons next rest =>
      have both := first.join op (ih (List.cons_ne_nil _ _))
      simpa [String.intercalate_cons_cons, String.append_assoc] using both

theorem joinText (op : Connective) {parts : List (List String)} {texts : List String}
    (composed : List.Forall₂ Composed parts texts) (nonempty : texts ≠ []) :
    Composed parts.flatten (Fragment.joinText op (texts.map fun text => "(" ++ text ++ ")")) := by
  have parenthesised : List.Forall₂ Composed parts (texts.map fun text => "(" ++ text ++ ")") :=
    List.forall₂_map_right_iff.2 (composed.imp fun _ _ part => part.paren)
  have joined := (intercalate op.junction parenthesised (by simpa using nonempty)).paren
  have keyword : Fragment.keyword op = " " ++ op.junction.word ++ " " := by cases op <;> decide
  rw [Fragment.joinText, keyword]
  split
  · exact joined.negation
  · exact joined

theorem ne_nil {atoms : List String} {text : String} (composed : Composed atoms text) :
    atoms ≠ [] := by
  induction composed with
  | atom a => exact List.cons_ne_nil a []
  | paren _ ih | negation _ ih => exact ih
  | join _ _ _ ih _ => exact List.append_ne_nil_of_left_ne_nil ih _

end Composed

/-- The expression of a demand, or its negation, is written as an atom. -/
theorem Comparison.statedBy_draw (o : Options) (field : String) (n : Namer) {op : Comparison}
    {operand : Value} {negate : Bool} {d : Demand} (asked : op.demand operand = .ok (negate, d)) :
    op.StatedBy (o.nodeName ++ "." ++ field) operand
      ((d.draw o field n).1.negatedIf negate).template.text := by
  let property := o.nodeName ++ "." ++ field
  have drawn {d : Demand} {text : String} (written : text = (d.draw o field n).1.template.text)
      (stated : d.StatedBy property text) :
      d.StatedBy property (d.draw o field n).1.template.text := written ▸ stated
  have positive : d.StatedBy property (d.draw o field n).1.template.text := by
    cases d with
    | absent =>
      refine drawn ?_ .absent
      simp [property, Demand.draw, Expression.template, Test.template, String.append_assoc]
    | present =>
      refine drawn ?_ .present
      simp [property, Demand.draw, Expression.template, Test.template, String.append_assoc]
    | relation r value =>
      exact drawn (congrArg (fun made => made.1.text) (Fragment.ofRelation_eq o field r value n))
        (.relation r value _)
    | range low high =>
      exact drawn (congrArg Fragment.text (Fragment.ofRange_eq o field low high n))
        (.range low high _ _)
    | membership items =>
      have count : (Fragment.numbered (n.fresh field) items).names.length = items.length := by
        simp [Fragment.numbered, Bindings.names]
      exact drawn (congrArg Fragment.text (Fragment.ofMembership_eq o field items n))
        (.membership count)
  refine ⟨negate, d, _, asked, positive, ?_⟩
  cases negate <;> simp [Expression.negatedIf, Expression.template]

namespace Predicate

variable {o : Options} {n n' : Namer} {p : Predicate} {ps : List Predicate}
  {es : List (Option (Expression Slot))}

/-- The text of an optional expression is put together from the atoms; without an expression there
are none. -/
def Atomic (atoms : List String) : Option (Expression Slot) → Prop
  | none => atoms = []
  | some e => Composed atoms e.template.text

theorem exists_atoms_of_chained
    (chained : Chained (fun p _ e _ => ∃ atoms, Atomic atoms e ∧
      List.Forall₂ (StatedBy o.nodeName) (p.leaves.filter isTest) atoms) ps n es n') :
    ∃ parts, List.Forall₂ (fun atoms e => Composed atoms e.template.text) parts es.reduceOption ∧
      List.Forall₂ (StatedBy o.nodeName) ((leavesAll ps).filter isTest) parts.flatten := by
  induction chained with
  | nil => exact ⟨[], .nil, .nil⟩
  | @cons p ps n n₁ n' e es first _ ih =>
    obtain ⟨atoms, atomic, stated⟩ := first
    obtain ⟨parts, composed, others⟩ := ih
    rw [leavesAll, List.filter_append]
    cases e with
    | none =>
      -- what has no expression has no atoms
      cases atomic
      exact ⟨parts, composed, List.rel_append stated others⟩
    | some e => exact ⟨atoms :: parts, .cons atomic composed, List.rel_append stated others⟩

/-- The text of an expression has one atom for each test in the predicate, in the order of the
tests. -/
theorem exists_atoms_of_express {e : Option (Expression Slot)}
    (done : express o p n = (.ok e, n')) :
    ∃ atoms, Atomic atoms e ∧
      List.Forall₂ (StatedBy o.nodeName) (p.leaves.filter isTest) atoms := by
  refine express_induction (motive := fun p _ e _ => ∃ atoms, Atomic atoms e ∧
      List.Forall₂ (StatedBy o.nodeName) (p.leaves.filter isTest) atoms)
    ?group ?test ?unsupported ?foreign done
  case group =>
    intro op children n es n' chained
    obtain ⟨parts, composed, stated⟩ := exists_atoms_of_chained chained
    refine ⟨parts.flatten, ?_, stated⟩
    cases left : es.reduceOption with
    | nil =>
      rw [left] at composed
      cases composed
      rfl
    | cons first rest =>
      rw [left] at composed
      have texts := List.forall₂_map_right_iff.2 composed
      have whole := Composed.joinText op texts (by rw [List.map_cons]; exact List.cons_ne_nil _ _)
      rw [List.map_map] at whole
      change Composed parts.flatten (Expression.group op (first :: rest)).template.text
      rw [Expression.text_group]
      exact whole
  case test =>
    intro field op operand n negate demand asked
    exact ⟨_, .atom _, .cons (op.statedBy_draw o field n asked) .nil⟩
  case unsupported => exact fun _ _ _ _ _ => ⟨[], rfl, .nil⟩
  case foreign => exact fun _ _ _ => ⟨[], rfl, .nil⟩

theorem exists_atoms_of_express? {p : Option Predicate} {e : Option (Expression Slot)}
    (done : express? o p n = (.ok e, n')) :
    ∃ atoms, Atomic atoms e ∧
      List.Forall₂ (StatedBy o.nodeName) ((leaves? p).filter isTest) atoms := by
  cases p with
  | none =>
    cases done
    exact ⟨[], rfl, .nil⟩
  | some p => exact exists_atoms_of_express done

/-- What a condition on a field was read as has the atom of the condition. -/
theorem statedBy_of_ofCondition {strict : Bool} {node : String} {c : FieldCondition}
    {l : Predicate} {atom : String} (read : ofCondition strict c.field c.condition = .ok l)
    (stated : l.StatedBy node atom) : c.StatedBy node atom := by
  have leaf := leaf_of_ofCondition read
  split at leaf
  · next op operand known =>
    obtain ⟨op', operand', asked, rfl, same, asked⟩ := leaf
    obtain ⟨negate, d, text, found, stated⟩ := stated
    exact ⟨op, operand, known, negate, d, text, asked.trans (same.symm.trans found), stated⟩
  · obtain ⟨name, operand, rfl⟩ := leaf
    cases stated

/-- If operators are strict, every condition on a field was read as a test. -/
theorem filter_isTest_leaves? {strict : Bool} {w : Value} {p : Option Predicate}
    {e : Option (Expression Slot)} (read : ofWhere strict w = .ok p)
    (refusing : o.strictOperators = true) (done : express? o p n = (.ok e, n')) :
    (leaves? p).filter isTest = leaves? p := by
  rw [List.filter_eq_self]
  intro l leaf
  obtain ⟨c, -, found⟩ := exists_condition_of_mem_leaves read leaf
  have kind := leaf_of_ofCondition found
  split at kind
  · obtain ⟨op, operand, asked, rfl, -⟩ := kind
    rfl
  · obtain ⟨name, operand, rfl⟩ := kind
    cases p with
    | none => cases leaf
    | some p => exact absurd leaf (notMem_leaves_of_express refusing done _ _ _)

/-- If operators are strict, the text of a where condition that was read has an atom for each
condition on a field. -/
theorem exists_atoms_of_ofWhere {strict : Bool} {w : Value} {p : Option Predicate}
    {e : Option (Expression Slot)} (read : ofWhere strict w = .ok p)
    (refusing : o.strictOperators = true) (done : express? o p n = (.ok e, n')) :
    ∃ atoms, Atomic atoms e ∧
      List.Forall₂ (FieldCondition.StatedBy o.nodeName) (FieldCondition.ofWhere w) atoms := by
  obtain ⟨atoms, atomic, stated⟩ := exists_atoms_of_express? done
  rw [filter_isTest_leaves? read refusing done] at stated
  refine ⟨atoms, atomic, ?_⟩
  have reads := forall₂_leaves_of_ofWhere read
  -- the leaf between a condition and an atom is left out
  generalize FieldCondition.ofWhere w = conditions at reads
  generalize leaves? p = leaves at reads stated
  clear atomic
  induction reads generalizing atoms with
  | nil =>
    cases stated
    exact .nil
  | cons first _ ih =>
    cases stated with
    | cons atom later => exact .cons (statedBy_of_ofCondition first atom) (ih _ later)

/-- What is read from a where condition can fail to be compiled for one reason only. -/
theorem compile?_eq_error {strict : Bool} {w : Value} {p : Option Predicate} {fault : Fault}
    (read : ofWhere strict w = .ok p) (failed : (compile? o p n).1 = .error fault) :
    o.strictOperators = true ∧ ∃ field name operand, .unsupported field name operand ∈ leaves? p ∧
      fault = .compile (.unsupportedOperator name field) := by
  cases p with
  | none => cases failed
  | some p =>
    rw [compile?_eq_express?, express?] at failed
    rcases drawn : express o p n with ⟨fault' | e, n'⟩
    · rw [drawn] at failed
      cases failed
      exact exists_mem_leaves_of_express (statable_of_ofWhere read p rfl) drawn
    · simp [drawn, Except.map] at failed

/-- What is read from a where condition is compiled, unless operators are strict and one of them has
no counterpart; nothing else is refused. With strict operators the text has exactly one atom for
each condition on a field that was written, at all depths and in the order of writing. -/
theorem compiles_unless_unsupported (w : Value) (o : Options) (n : Namer) :
    (∀ strict p, ofWhere strict w = .ok p →
      (∀ fault, (compile? o p n).1 = .error fault →
        ∃ field name, fault = .compile (.unsupportedOperator name field)) ∧
      ((∃ fault, (compile? o p n).1 = .error fault) ↔ o.strictOperators = true ∧
        ∃ field name operand, .unsupported field name operand ∈ leaves? p)) ∧
    (o.strictOperators = true → ∀ f n', compileWhere o w n = (.ok f, n') →
      ∃ atoms,
        List.Forall₂ (FieldCondition.StatedBy o.nodeName) (FieldCondition.ofWhere w) atoms ∧
        if atoms = [] then f.text = "" else Composed atoms f.text) := by
  constructor
  · intro strict p read
    refine ⟨fun fault failed => ?_, ⟨?_, ?_⟩⟩
    · obtain ⟨-, field, name, operand, -, same⟩ := compile?_eq_error read failed
      exact ⟨field, name, same⟩
    · rintro ⟨fault, failed⟩
      obtain ⟨refusing, field, name, operand, leaf, -⟩ := compile?_eq_error read failed
      exact ⟨refusing, field, name, operand, leaf⟩
    · rintro ⟨refusing, field, name, operand, leaf⟩
      cases p with
      | none => cases leaf
      | some p =>
        rw [compile?_eq_express?, express?]
        rcases drawn : express o p n with ⟨fault | e, n'⟩
        · exact ⟨fault, rfl⟩
        · exact absurd leaf (notMem_leaves_of_express refusing drawn field name operand)
  · intro refusing f n' compiled
    rw [compileWhere] at compiled
    cases read : ofWhere o.strictOperators w with
    | error issue => simp [read] at compiled
    | ok p =>
      rw [read] at compiled
      simp only [compile?_eq_express?] at compiled
      rcases drawn : express? o p n with ⟨fault | e, n₁⟩
      · simp [drawn, Except.map] at compiled
      · rw [drawn] at compiled
        cases compiled
        obtain ⟨atoms, atomic, stated⟩ := exists_atoms_of_ofWhere read refusing drawn
        refine ⟨atoms, stated, ?_⟩
        cases e with
        | none =>
          cases atomic
          rfl
        | some e =>
          rw [if_neg (Composed.ne_nil atomic)]
          exact atomic

/-- Strict operators: of a group with a missing value, a range and a list in it every condition is
found in the text; an unknown operator next to them, read loosely, is refused by the compiler. -/
theorem compiles_unless_unsupported_nested :
    let o : Options := { strictOperators := true }
    let missing : Value := .map [(.text "name", .null)]
    let range : Value := .map [(.text "age", .map [(.text "between", .list [.int 1, .int 2])])]
    let listed : Value := .map [(.text "id", .map [(.text "nin", .list [])])]
    let near : Value := .map [(.text "place", .map [(.text "near", .int 1)])]
    let except : Value := .map [(.text "not", .list [range])]
    let w : Value := .map [(.text "or", .list [missing, except, listed])]
    let w' : Value := .map [(.text "or", .list [missing, near])]
    (∃ f n a b c, compileWhere o w (.start .counting) = (.ok f, n) ∧ Composed [a, b, c] f.text) ∧
    ∃ p field name, ofWhere false w' = .ok p ∧
      (compile? o p (.start .counting)).1 =
        .error (.compile (.unsupportedOperator name field)) := by
  intro o missing range listed near except w w'
  have compiles : (compileWhere o w (.start .counting)).1.isOk = true := by decide +kernel
  have count : (FieldCondition.ofWhere w).length = 3 := by decide +kernel
  have reads : (ofWhere false w').isOk = true := by decide +kernel
  have fails : ((ofWhere false w').toOption.all fun p =>
      !(compile? o p (.start .counting)).1.isOk) = true := by decide +kernel
  constructor
  · obtain ⟨f, done⟩ := Except.exists_eq_ok_of_isOk compiles
    obtain ⟨atoms, stated, composed⟩ :=
      (compiles_unless_unsupported w o (.start .counting)).2 rfl f _ (Prod.ext done rfl)
    have three := stated.length_eq.symm.trans count
    obtain ⟨a, b, c, rfl⟩ := List.length_eq_three.1 three
    exact ⟨f, _, a, b, c, Prod.ext done rfl, composed⟩
  · obtain ⟨p, read⟩ := Except.exists_eq_ok_of_isOk reads
    have failed : (compile? o p (.start .counting)).1.isOk = false := by
      simpa [read, Except.toOption] using fails
    rcases result : (compile? o p (.start .counting)).1 with fault | f
    · obtain ⟨field, name, rfl⟩ :=
        ((compiles_unless_unsupported w' o (.start .counting)).1 false p read).1 fault result
      exact ⟨p, field, name, read, result⟩
    · rw [result] at failed
      cases failed

end Predicate

end GraphMapper.Query
