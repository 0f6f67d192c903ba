import GraphMapper.Proofs.Query.Conditions
import GraphMapper.Proofs.Query.Logic
import GraphMapper.Proofs.Query.Reader

/-!
# Conditions mean what filters say

A where condition that can be read is compiled, unless operators are strict, and the boolean
expression that its text denotes has, under the parameters bound with it, the truth value of the
predicate, whatever the node and whatever the logic. Groups in groups, negations and tests that are
left out change nothing about how the text is read.

## Main definitions

* `Query.Expression.Means` — an expression has the truth value of a predicate
* `Query.Predicate.boundNames` — the names that the fragment of a predicate binds

## Main results

* `Predicate.means_of_express` — the expression of a predicate means what is left of the predicate
* `Predicate.truth_eq_of_ofWhere` — the text of a fragment has the truth value of what is left of
  the predicate
-/

namespace GraphMapper.Query

/-! ### Demands -/

/-- The truth value of a demand on a value. -/
def Demand.truth (l : Logic) (v : Value) : Demand → Truth
  | .absent => .ofBool v.isNull
  | .present => .ofBool !v.isNull
  | .relation r w => l.compare r v w
  | .range low high => l.join .and (l.less low v) (l.less v high)
  | .membership items => l.isIn v items

/-- A test has the truth value of what it asks for, or the opposite. -/
theorem Comparison.truth_eq {op : Comparison} {operand : Value} {negate : Bool} {d : Demand}
    (asked : op.demand operand = .ok (negate, d)) (l : Logic) (v : Value) :
    op.truth l v operand = l.negateIf negate (d.truth l v) := by
  cases op with
  | isNull | gt | gte | lt | lte | like | notLike =>
    cases asked
    rfl
  | eq | neq =>
    cases null : operand.isNull <;>
      · simp only [demand, null] at asked
        cases asked
        simp [truth, Demand.truth, Logic.negateIf, Logic.compare, null]
  | between =>
    obtain ⟨⟨low, high⟩, ends, same⟩ := Except.map_eq_ok_iff.1 asked
    cases same
    rw [truth, rangeEnds_eq_ok_iff.1 ends]
    rfl
  | isIn | notIn =>
    obtain ⟨items, known, same⟩ := Except.map_eq_ok_iff.1 asked
    cases same
    rw [truth, known]
    rfl

/-- The expression of a demand, or its negation, has the truth value of the demand, or the
opposite. -/
theorem Demand.truth_draw (o : Options) (field : String) (n : Namer) (negate : Bool) (d : Demand)
    (l : Logic) (record : String → String → Value) :
    ((d.draw o field n).1.negatedIf negate).truth l record (fun s => some s.value) =
      some (l.negateIf negate (d.truth l (record o.nodeName field))) := by
  have positive : (d.draw o field n).1.truth l record (fun s => some s.value) =
      some (d.truth l (record o.nodeName field)) := by
    cases d with
    | absent | present | relation | range => rfl
    | membership items =>
      have found : (Slot.drawAll n field items).mapM (fun s => some s.value) =
          some ((Slot.drawAll n field items).map Slot.value) :=
        List.mapM_pure (m := Option) (f := Slot.value)
      rw [Slot.map_value_drawAll] at found
      rw [draw, Expression.truth, Test.truth, found, Option.map_some, truth]
  cases negate with
  | false => exact positive
  | true =>
    rw [Expression.negatedIf, if_pos rfl, Expression.truth, positive]
    rfl

/-- The expression has the truth value of the predicate, if every place holds the value that it was
made for. -/
def Expression.Means (node : String) (e : Expression Slot) (p : Predicate) : Prop :=
  ∀ (l : Logic) (record : String → String → Value),
    e.truth l record (fun s => some s.value) = some (p.truth l (record node))

namespace Predicate

variable {o : Options} {n n' : Namer} {p : Predicate} {ps : List Predicate}
  {es : List (Option (Expression Slot))}

theorem means_of_chained
    (chained : Chained (fun p _ e _ => Option.Rel (Expression.Means o.nodeName) e p.prune?)
      ps n es n') :
    List.Forall₂ (Expression.Means o.nodeName) es.reduceOption (pruneAll ps) := by
  induction chained with
  | nil => exact .nil
  | @cons p ps n n₁ n' e es first _ ih =>
    -- a part is dropped from the text exactly if it is dropped from the predicate
    rw [pruneAll]
    generalize p.prune? = left at first
    cases first with
    | none => exact ih
    | some means => exact .cons means ih

theorem mapM_truth_of_forall₂ {parts : List (Expression Slot)} {left : List Predicate}
    (means : List.Forall₂ (Expression.Means o.nodeName) parts left) (l : Logic)
    (record : String → String → Value) :
    parts.mapM (Expression.truth l record fun s => some s.value) =
      some (left.map (truth l (record o.nodeName))) := by
  induction means with
  | nil => rfl
  | cons first _ ih =>
    rw [List.mapM_cons, first l record, ih]
    rfl

/-- The expression of a predicate, if there is one, means what is left of the predicate. -/
theorem means_of_express {e : Option (Expression Slot)} (done : express o p n = (.ok e, n')) :
    Option.Rel (Expression.Means o.nodeName) e p.prune? := by
  refine express_induction
    (motive := fun p _ e _ => Option.Rel (Expression.Means o.nodeName) e p.prune?)
    ?group ?test ?unsupported ?foreign done
  case group =>
    intro op children n es n' chained
    have parts := means_of_chained chained
    rw [prune?]
    generalize es.reduceOption = kept at parts
    generalize pruneAll children = left at parts
    cases parts with
    | nil => exact .none
    | cons first rest =>
      refine .some fun l record => ?_
      have known := mapM_truth_of_forall₂ (.cons first rest) l record
      rw [Expression.truth_group op (List.cons_ne_nil _ _) known, truth, truths_eq_map]
  case test =>
    intro field op operand n negate demand asked
    refine .some fun l record => ?_
    rw [truth, Comparison.truth_eq asked]
    exact demand.truth_draw o field n negate l record
  case unsupported => exact fun _ _ _ _ _ => .none
  case foreign => exact fun _ _ _ => .none

/-! ### Fragments -/

/-- The names that the fragment of a predicate binds, one for each value. -/
def boundNames (o : Options) (p : Option Predicate) (n : Namer) : List String :=
  match (express? o p n).1 with
  | .ok e => (Expression.slots? e).map Slot.name
  | .error _ => []

/-- A where condition that can be read has a fragment, unless operators are strict. If nothing is
left of the condition, the fragment is empty. If anything is left, the text of the fragment denotes
one expression, which has the truth value of what is left under the parameters of the fragment. -/
theorem truth_eq_of_ofWhere {strict : Bool} {w : Value} {p : Option Predicate}
    {foreign : Char → Bool} (read : ofWhere strict w = .ok p) (loose : o.strictOperators = false)
    (hex : n.supply.Hexadecimal) (node : isIdentifier foreign o.nodeName.toList = true)
    (keys : ∀ q ∈ p, ∀ field ∈ q.fields, isIdentifier foreign field.toList = true)
    (distinct : (boundNames o p n).Nodup) :
    ∃ f n', compile? o p n = (.ok f, n') ∧
      match p.bind prune? with
      | none => f = .empty
      | some t => ∃ e, Expression.read foreign f.text = some e ∧ ∀ l record,
        e.truth l record f.params.value? = some (t.truth l (record o.nodeName)) := by
  cases p with
  | none => exact ⟨.empty, n, rfl, rfl⟩
  | some p =>
    obtain ⟨e, n', done⟩ := exists_express loose (statable_of_ofWhere read p rfl) n
    refine ⟨Fragment.ofExpression? e, n', ?_, ?_⟩
    · rw [compile?_eq_express?, express?, done]
      rfl
    · rw [Option.bind_some]
      have whole := means_of_express done
      generalize p.prune? = left at whole
      cases whole with
      | none => rfl
      | @some e t means =>
        rw [boundNames, express?, done] at distinct
        have tested : e.Over fun name key =>
            isIdentifier foreign name.toList = true ∧ isIdentifier foreign key.toList = true :=
          (over_of_express done).imp fun name key known =>
            ⟨known.1 ▸ node, keys p rfl key known.2⟩
        have proper (s : Slot) (member : s ∈ e.template.slots) :=
          (draws done).isParameterName_of_mem hex member
        refine ⟨_, Expression.read_text (fits_of_express done) tested proper, fun l record => ?_⟩
        -- every place finds the value that it was made for, since no name is bound twice
        have kept := (Template.keepsValues_iff.2 distinct).2
        rw [Expression.truth_map, ← means l record]
        exact Expression.truth_congr kept

/-- A range, a negated pattern and a negated list, next to tests that are left out: nothing is known
about a node without any of the fields. -/
theorem truth_eq_of_ofWhere_nested :
    let unknown : Value → Value → Truth := fun _ _ => .unknown
    let odd : Value := .map [(.text "odd", .map [(.text "regexp", .int 1)])]
    let person : Value := .map
      [(.text "age", .map [(.text "between", .list [.int 18, .int 65])]),
        (.text "name", .map [(.text "nlike", .text "x")])]
    let untagged : Value := .map [(.text "not", .list
      [.map [(.text "tag", .map [(.text "inq", .list [.text "a", .text "b"])])], odd])]
    let w : Value := .map
      [(.text "or", .list [person, untagged, .map [(.text "and", .list [odd])]])]
    ∃ p f n' e, ofWhere true w = .ok p ∧ compile? {} p (.start .counting) = (.ok f, n') ∧
      Expression.read (fun _ => false) f.text = some e ∧
      e.truth (.usual unknown unknown unknown unknown) (fun _ _ => .null) f.params.value? =
        some .unknown := by
  intro unknown odd person untagged w
  have reads : (ofWhere true w).isOk = true := by decide +kernel
  have names : (ofWhere true w).toOption.map (fun p =>
      (decide (boundNames {} p (.start .counting)).Nodup, p.elim [] fields)) =
        some (true, ["age", "name", "tag"]) := by decide +kernel
  have meaning : (ofWhere true w).toOption.map (fun p =>
      (p.bind prune?).map (truth (.usual unknown unknown unknown unknown) fun _ => .null)) =
        some (some .unknown) := by decide +kernel
  obtain ⟨p, read⟩ := Except.exists_eq_ok_of_isOk reads
  rw [read] at names meaning
  clear_value w
  simp only [Except.toOption, Option.map_some, Option.some.injEq, Prod.mk.injEq,
    decide_eq_true_eq] at names meaning
  have proper : ∀ field ∈ ["age", "name", "tag"],
      isIdentifier (fun _ => false) field.toList = true := by decide
  have keys (q : Predicate) (member : q ∈ p) (field : String) (known : field ∈ q.fields) :
      isIdentifier (fun _ => false) field.toList = true := by
    cases member
    exact proper field (names.2 ▸ known)
  have hex : (Namer.start .counting).supply.Hexadecimal := Supply.hexadecimal_counting
  obtain ⟨f, n', compiled, means⟩ := truth_eq_of_ofWhere read rfl hex (by decide) keys names.1
  cases left : p.bind prune? with
  | none => simp [left] at meaning
  | some t =>
    rw [left] at means meaning
    obtain ⟨e, denoted, truth⟩ := means
    refine ⟨p, f, n', e, read, compiled, denoted, ?_⟩
    rw [truth]
    simpa using meaning

end Predicate

end GraphMapper.Query
