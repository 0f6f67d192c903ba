import GraphMapper.Proofs.Query.Expression
import Mathlib.Data.List.ReduceOption
import Std.Data.String.ToNat

/-!
# Predicates as boolean expressions

Compiling a predicate is translating it to a boolean expression, which draws the names, and then
writing the expression down. A predicate of which nothing is left has no expression.

## Main definitions

* `Query.Demand` — what a test asks of a property, whatever operator it was stated with
* `Query.Predicate.express` — the boolean expression of a predicate
* `Query.Fragment.ofExpression?` — an expression written down

## Main results

* `Predicate.compile_eq_express` — the fragment of a predicate is its expression written down
* `Predicate.fits_of_express` — no expression needs more parentheses than it has
-/

namespace GraphMapper.Query

/-! ### Writing expressions down -/

namespace Fragment

/-- An expression written down. -/
def ofExpression (e : Expression Slot) : Fragment := ⟨e.template.text, e.template.params⟩

/-- An optional expression written down. -/
def ofExpression? : Option (Expression Slot) → Fragment
  | none => .empty
  | some e => ofExpression e

theorem isEmpty_ofExpression {e : Expression Slot} (fits : e.Fits) :
    (ofExpression e).isEmpty = false := by
  simpa [isEmpty, ofExpression, String.isEmpty_eq_false_iff] using fits.text_ne_empty

/-- Merging the parameters of expressions is binding their slots one by one. -/
theorem foldl_merge_params (bindings : Bindings) (es : List (Expression Slot)) :
    (es.map ofExpression).foldl (fun acc f => acc.merge f.params) bindings =
      bindings.merge ((es.flatMap fun e => e.template.slots).map Slot.binding) := by
  induction es generalizing bindings with
  | nil => rfl
  | cons e es ih =>
    rw [List.map_cons, List.foldl_cons, ih, List.flatMap_cons, List.map_append,
      Bindings.merge_append]
    congr 1
    exact Bindings.merge_merge_nil bindings _

end Fragment

/-- The expression of a group of which the given parts are left. -/
def Expression.group? (op : Connective) : List (Expression Slot) → Option (Expression Slot)
  | [] => none
  | es => some (.group op es)

theorem Expression.exists_of_group?_eq_some {op : Connective}
    {es : List (Option (Expression Slot))} {e : Expression Slot}
    (left : group? op es.reduceOption = some e) :
    ∃ parts, parts ≠ [] ∧ group op parts = e ∧ ∀ part ∈ parts, some part ∈ es := by
  cases kept : es.reduceOption with
  | nil => simp [kept, group?] at left
  | cons first rest =>
    refine ⟨first :: rest, List.cons_ne_nil _ _, by simpa [kept, group?] using left, ?_⟩
    intro part member
    rwa [← kept, List.reduceOption_mem_iff] at member

/-- What is left of the fragments of a group, written down. -/
theorem Fragment.join_map_ofExpression? (op : Connective) (es : List (Option (Expression Slot)))
    (fit : ∀ e, some e ∈ es → e.Fits) :
    join op (es.map ofExpression?) = ofExpression? (Expression.group? op es.reduceOption) := by
  have kept : (es.map ofExpression?).filter (!·.isEmpty) = es.reduceOption.map ofExpression := by
    induction es with
    | nil => rfl
    | cons e rest ih =>
      have later := ih fun e member => fit e (List.mem_cons_of_mem _ member)
      cases e with
      | none => simpa [ofExpression?, isEmpty, empty, List.reduceOption_cons_of_none] using later
      | some e =>
        simpa [ofExpression?, isEmpty_ofExpression (fit e List.mem_cons_self),
          List.reduceOption_cons_of_some] using later
  simp only [join, kept, foldl_merge_params]
  cases left : es.reduceOption with
  | nil => rfl
  | cons e rest =>
    simp [Expression.group?, ofExpression?, ofExpression, Expression.text_group, Template.params,
      Expression.slots_group, Function.comp_def]

/-! ### Tests -/

/-- What a test asks of a property. -/
inductive Demand where
  /-- It has no value. -/
  | absent
  /-- It has a value. -/
  | present
  /-- It compares with a value. -/
  | relation (r : Relation) (value : Value)
  /-- It lies between two values. -/
  | range (low high : Value)
  /-- It is one of some values. -/
  | membership (items : List Value)

/-- The expression of a demand on a field, with names for its values. -/
def Demand.draw (o : Options) (field : String) (n : Namer) : Demand → Expression Slot × Namer
  | .absent => (.test o.nodeName field .isNull, n)
  | .present => (.test o.nodeName field .isNotNull, n)
  | .relation r value =>
    (.test o.nodeName field (.relation r (Slot.draw n field value)), (n.name field).2)
  | .range low high =>
    let n' := (n.name field).2
    (.paren (.chain .and
      [.test o.nodeName field (.relation .greater (Slot.draw n field low)),
        .test o.nodeName field (.relation .less (Slot.draw n' field high))]),
      (n'.name field).2)
  | .membership items =>
    (.test o.nodeName field (.isIn (Slot.drawAll n field items)), (n.name field).2)

theorem rangeEnds_eq_ok_iff {operand low high : Value} :
    rangeEnds operand = .ok (low, high) ↔ operand.items = .ok [low, high] := by
  unfold rangeEnds
  split <;> simp_all

/-- What an operator asks for with an operand, and whether it is the opposite that is wanted. -/
def Comparison.demand (operand : Value) : Comparison → Except ShapeFault (Bool × Demand)
  | .isNull => .ok (false, .absent)
  | .eq => .ok (false, if operand.isNull then .absent else .relation .equal operand)
  | .neq => .ok (if operand.isNull then (false, .present) else (true, .relation .equal operand))
  | .gt => .ok (false, .relation .greater operand)
  | .gte => .ok (false, .relation .atLeast operand)
  | .lt => .ok (false, .relation .less operand)
  | .lte => .ok (false, .relation .atMost operand)
  | .between => (rangeEnds operand).map fun ends => (false, .range ends.1 ends.2)
  | .isIn => operand.items.map fun items => (false, .membership items)
  | .notIn => operand.items.map fun items => (true, .membership items)
  | .like => .ok (false, .relation .matching (containing operand))
  | .notLike => .ok (true, .relation .matching (containing operand))

/-- The operator draws its name before it looks at the operand. -/
def Comparison.drawsFirst : Comparison → Bool
  | .isIn | .notIn => true
  | _ => false

namespace Expression

/-- An expression or its negation. -/
def negatedIf (negate : Bool) (e : Expression Slot) : Expression Slot :=
  if negate then .negation e else e

end Expression

namespace Predicate

/-- To prove a property of every predicate, prove it of a group whose children have it. -/
@[induction_eliminator]
theorem inductionOn {motive : Predicate → Prop}
    (group : ∀ op children, (∀ p ∈ children, motive p) → motive (.group op children))
    (test : ∀ field op operand, motive (.test field op operand))
    (unsupported : ∀ field name operand, motive (.unsupported field name operand))
    (foreign : ∀ value, motive (.foreign value)) (p : Predicate) : motive p :=
  @Predicate.rec motive (fun ps => ∀ p ∈ ps, motive p) group test unsupported foreign
    (fun _ member => absurd member List.not_mem_nil)
    (fun _ _ head tail _ member => (List.mem_cons.1 member).elim (fun same => same ▸ head) (tail _))
    p

/-- The expression of a test of one field. -/
def expressTest (o : Options) (field : String) (op : Comparison) (operand : Value) (n : Namer) :
    Except Fault (Expression Slot) × Namer :=
  match op.demand operand with
  | .ok (negate, demand) =>
    (.ok ((demand.draw o field n).1.negatedIf negate), (demand.draw o field n).2)
  | .error fault => (.error (.shape fault), if op.drawsFirst then (n.name field).2 else n)

mutual

/-- The boolean expression of a predicate, if anything of the predicate is left. -/
def express (o : Options) : Predicate → Namer → Except Fault (Option (Expression Slot)) × Namer
  | .group op children, n =>
    match expressAll o children n with
    | (.ok es, n) => (.ok (Expression.group? op es.reduceOption), n)
    | (.error fault, n) => (.error fault, n)
  | .test field op operand, n =>
    match expressTest o field op operand n with
    | (.ok e, n) => (.ok (some e), n)
    | (.error fault, n) => (.error fault, n)
  | .unsupported field name _, n =>
    if o.strictOperators then (.error (.compile (.unsupportedOperator name field)), n)
    else (.ok none, n)
  | .foreign value, n =>
    if value.isNull then (.ok none, n) else (.error (.compile (.notAPredicate value)), n)

/-- The boolean expressions of predicates, from the first to the last. -/
def expressAll (o : Options) :
    List Predicate → Namer → Except Fault (List (Option (Expression Slot))) × Namer
  | [], n => (.ok [], n)
  | p :: ps, n =>
    match express o p n with
    | (.error fault, n) => (.error fault, n)
    | (.ok e, n) =>
      match expressAll o ps n with
      | (.error fault, n) => (.error fault, n)
      | (.ok es, n) => (.ok (e :: es), n)

end

/-- The boolean expression of an optional predicate. -/
def express? (o : Options) (p : Option Predicate) (n : Namer) :
    Except Fault (Option (Expression Slot)) × Namer :=
  match p with
  | none => (.ok none, n)
  | some p => p.express o n

end Predicate

namespace Fragment

theorem ofExpression_negatedIf (negate : Bool) (e : Expression Slot) :
    ofExpression (e.negatedIf negate) = (ofExpression e).negatedIf negate := by
  cases negate
  · rfl
  · simp [ofExpression, negatedIf, negated, Expression.negatedIf, Expression.template,
      Template.params]

theorem ofRelation_eq (o : Options) (field : String) (r : Relation) (value : Value) (n : Namer) :
    ofRelation (o.nodeName ++ "." ++ field) r.symbol value n field =
      (ofExpression ((Demand.relation r value).draw o field n).1,
        ((Demand.relation r value).draw o field n).2) := by
  simp [ofRelation, ofExpression, Demand.draw, Expression.template, Test.template, Template.params,
    Bindings.merge, Slot.binding, Namer.name, String.append_assoc]

/-- The items of a list have names of their own. -/
theorem nodup_names_numbered (base : String) (items : List Value) :
    (numbered base items).names.Nodup := by
  have indexed : (numbered base items).names =
      (List.range items.length).map fun i => base ++ toString i := by
    refine List.ext_getElem? fun i => ?_
    by_cases inside : i < items.length <;> simp [Bindings.names, numbered, inside]
  -- no index is read out of the digits of another one, since all stand behind the same base
  have different : Function.Injective fun i : Nat => base ++ toString i :=
    fun i j same => Nat.repr_injective (by simpa using same)
  rw [indexed]
  exact List.Nodup.map different List.nodup_range

theorem ofMembership_eq (o : Options) (field : String) (items : List Value) (n : Namer) :
    ofMembership (o.nodeName ++ "." ++ field) (n.fresh field) items =
      ofExpression ((Demand.membership items).draw o field n).1 := by
  have slots := Test.slots_template_isIn (Slot.drawAll n field items)
  have text : (Template.joined ", " ((Slot.drawAll n field items).map ([.slot ·]))).text =
      ", ".intercalate ((numbered (n.fresh field) items).names.map placeholder) := by
    rw [Template.text_joined, ← Slot.map_binding_drawAll]
    simp [Bindings.names, Function.comp_def]
  have params : Bindings.merge [] (numbered (n.fresh field) items) =
      numbered (n.fresh field) items :=
    Bindings.merge_of_nodup (nodup_names_numbered _ _)
  simp only [ofMembership, ofExpression, Demand.draw, Expression.template, Template.params,
    Template.slots_words, slots, Slot.map_binding_drawAll, params]
  simp [Test.template, text, String.append_assoc]

theorem ofRange_eq (o : Options) (field : String) (low high : Value) (n : Namer) :
    ofRange (o.nodeName ++ "." ++ field) (n.fresh field) ((n.name field).2.fresh field) low high =
      ofExpression ((Demand.range low high).draw o field n).1 := by
  simp [ofRange, ofExpression, Demand.draw, Expression.template, Test.template, Template.params,
    Template.joined_cons_cons, Junction.word, Relation.symbol, Bindings.merge, Slot.binding,
    String.append_assoc]

end Fragment

namespace Predicate

open Fragment

/-- The fragment of a test is its expression written down. -/
theorem compileTest_eq (o : Options) (field : String) (op : Comparison) (operand : Value)
    (n : Namer) :
    compileTest o field op operand n =
      ((expressTest o field op operand n).1.map Fragment.ofExpression,
        (expressTest o field op operand n).2) := by
  -- the operators make few kinds of fragments, so each kind is compared once
  have isNull : ofExpression (.test o.nodeName field .isNull) =
      ⟨o.nodeName ++ "." ++ field ++ " IS NULL", []⟩ := by
    simp [ofExpression, Expression.template, Test.template, Template.params, String.append_assoc]
  have isNotNull : ofExpression (.test o.nodeName field .isNotNull) =
      ⟨o.nodeName ++ "." ++ field ++ " IS NOT NULL", []⟩ := by
    simp [ofExpression, Expression.template, Test.template, Template.params, String.append_assoc]
  have relation (r : Relation) (value : Value) (negate : Bool) :
      ((ofRelation (o.nodeName ++ "." ++ field) r.symbol value n field).1.negatedIf negate,
        (ofRelation (o.nodeName ++ "." ++ field) r.symbol value n field).2) =
      (ofExpression (((Demand.relation r value).draw o field n).1.negatedIf negate),
        ((Demand.relation r value).draw o field n).2) := by
    rw [ofRelation_eq, ofExpression_negatedIf]
  have membership (items : List Value) (negate : Bool) :
      (ofMembership (o.nodeName ++ "." ++ field) (n.fresh field) items).negatedIf negate =
      ofExpression (((Demand.membership items).draw o field n).1.negatedIf negate) := by
    rw [ofMembership_eq, ofExpression_negatedIf]
  have succeeds {f g : Fragment} {n₁ n₂ : Namer} (same : (f, n₁) = (g, n₂)) :
      ((Except.ok f, n₁) : Except Fault Fragment × Namer) = (.ok g, n₂) := by
    cases same
    rfl
  cases op with
  | isNull => exact succeeds (congrArg (·, n) isNull.symm)
  | eq =>
    by_cases null : operand.isNull
    · simp only [compileTest, expressTest, Comparison.demand, null, ↓reduceIte]
      exact succeeds (congrArg (·, n) isNull.symm)
    · simp only [compileTest, expressTest, Comparison.demand, null]
      exact succeeds (relation .equal operand false)
  | neq =>
    by_cases null : operand.isNull
    · simp only [compileTest, expressTest, Comparison.demand, null, ↓reduceIte]
      exact succeeds (congrArg (·, n) isNotNull.symm)
    · simp only [compileTest, expressTest, Comparison.demand, null]
      exact succeeds (relation .equal operand true)
  | gt => exact succeeds (relation .greater operand false)
  | gte => exact succeeds (relation .atLeast operand false)
  | lt => exact succeeds (relation .less operand false)
  | lte => exact succeeds (relation .atMost operand false)
  | between =>
    simp only [compileTest, expressTest, Comparison.demand]
    cases rangeEnds operand with
    | error fault => rfl
    | ok ends => exact succeeds (congrArg (·, _) (ofRange_eq o field ends.1 ends.2 n))
  | isIn =>
    simp only [compileTest, expressTest, Comparison.demand]
    cases operand.items with
    | error fault => rfl
    | ok items => exact succeeds (congrArg (·, _) (membership items false))
  | notIn =>
    simp only [compileTest, expressTest, Comparison.demand]
    cases operand.items with
    | error fault => rfl
    | ok items => exact succeeds (congrArg (·, _) (membership items true))
  | like => exact succeeds (relation .matching (containing operand) false)
  | notLike => exact succeeds (relation .matching (containing operand) true)

/-! ### Translated predicates -/

section

variable {o : Options} {n n' : Namer} {e : Option (Expression Slot)}

theorem express_group_eq_ok_iff {op : Connective} {children : List Predicate} :
    express o (.group op children) n = (.ok e, n') ↔
      ∃ es, expressAll o children n = (.ok es, n') ∧ Expression.group? op es.reduceOption = e := by
  rw [express]
  rcases expressAll o children n with ⟨_ | es, n₁⟩ <;> simp [and_comm]

theorem express_test_eq_ok_iff {field : String} {op : Comparison} {operand : Value} :
    express o (.test field op operand) n = (.ok e, n') ↔
      ∃ negate demand, op.demand operand = .ok (negate, demand) ∧
        some ((demand.draw o field n).1.negatedIf negate) = e ∧ (demand.draw o field n).2 = n' := by
  rw [express, expressTest]
  rcases op.demand operand with _ | ⟨negate, demand⟩ <;> simp

theorem express_unsupported_eq_ok_iff {field name : String} {operand : Value} :
    express o (.unsupported field name operand) n = (.ok e, n') ↔
      o.strictOperators = false ∧ none = e ∧ n = n' := by
  rw [express]
  split <;> simp_all

theorem express_foreign_eq_ok_iff {value : Value} :
    express o (.foreign value) n = (.ok e, n') ↔ value.isNull = true ∧ none = e ∧ n = n' := by
  rw [express]
  split <;> simp_all

theorem expressAll_nil_eq_ok_iff {es : List (Option (Expression Slot))} :
    expressAll o [] n = (.ok es, n') ↔ [] = es ∧ n = n' := by
  simp [expressAll]

theorem expressAll_cons_eq_ok_iff {p : Predicate} {ps : List Predicate}
    {es : List (Option (Expression Slot))} :
    expressAll o (p :: ps) n = (.ok es, n') ↔
      ∃ e n₁ rest, express o p n = (.ok e, n₁) ∧ expressAll o ps n₁ = (.ok rest, n') ∧
        e :: rest = es := by
  rw [expressAll]
  rcases express o p n with ⟨_ | e, n₁⟩
  · simp
  · rcases others : expressAll o ps n₁ with ⟨_ | rest, n₂⟩ <;> simp [others, and_comm]

end

/-- One expression or none for each predicate, each made with the namer that the one before it
left. -/
inductive Chained (made : Predicate → Namer → Option (Expression Slot) → Namer → Prop) :
    List Predicate → Namer → List (Option (Expression Slot)) → Namer → Prop
  | nil (n : Namer) : Chained made [] n [] n
  | cons {p : Predicate} {ps : List Predicate} {n n₁ n' : Namer} {e : Option (Expression Slot)}
      {es : List (Option (Expression Slot))} :
      made p n e n₁ → Chained made ps n₁ es n' → Chained made (p :: ps) n (e :: es) n'

theorem chained_of_expressAll {o : Options} {ps : List Predicate} {n n' : Namer}
    {es : List (Option (Expression Slot))}
    {made : Predicate → Namer → Option (Expression Slot) → Namer → Prop}
    (implied : ∀ p ∈ ps, ∀ n e n', express o p n = (.ok e, n') → made p n e n')
    (done : expressAll o ps n = (.ok es, n')) : Chained made ps n es n' := by
  induction ps generalizing n es with
  | nil =>
    obtain ⟨rfl, rfl⟩ := expressAll_nil_eq_ok_iff.1 done
    exact .nil n
  | cons p ps ih =>
    obtain ⟨e, n₁, rest, first, others, rfl⟩ := expressAll_cons_eq_ok_iff.1 done
    have later := ih (fun q member => implied q (List.mem_cons_of_mem p member)) others
    exact .cons (implied p List.mem_cons_self _ _ _ first) later

/-- Predicates are expressed one after the other. -/
theorem expressAll_of_chained {o : Options} {ps : List Predicate} {n n' : Namer}
    {es : List (Option (Expression Slot))}
    (chained : Chained (fun p n e n' => express o p n = (.ok e, n')) ps n es n') :
    expressAll o ps n = (.ok es, n') := by
  induction chained with
  | nil n => exact expressAll_nil_eq_ok_iff.2 ⟨rfl, rfl⟩
  | cons first _ ih => exact expressAll_cons_eq_ok_iff.2 ⟨_, _, _, first, ih, rfl⟩

/-- To prove a property of every translation, prove it of a group whose parts have it. -/
theorem express_induction {o : Options}
    {motive : Predicate → Namer → Option (Expression Slot) → Namer → Prop}
    (group : ∀ op children n es n', Chained motive children n es n' →
      motive (.group op children) n (Expression.group? op es.reduceOption) n')
    (test : ∀ field op operand n negate demand, op.demand operand = .ok (negate, demand) →
      motive (.test field op operand) n (some ((demand.draw o field n).1.negatedIf negate))
        (demand.draw o field n).2)
    (unsupported : ∀ field name operand n, o.strictOperators = false →
      motive (.unsupported field name operand) n none n)
    (foreign : ∀ value n, value.isNull = true → motive (.foreign value) n none n)
    {p : Predicate} {n n' : Namer} {e : Option (Expression Slot)}
    (done : express o p n = (.ok e, n')) : motive p n e n' := by
  induction p generalizing n n' e with
  | group op children ih =>
    obtain ⟨es, all, rfl⟩ := express_group_eq_ok_iff.1 done
    exact group _ _ _ _ _ (chained_of_expressAll (fun p member _ _ _ left => ih p member left) all)
  | test field op operand =>
    obtain ⟨negate, demand, asked, rfl, rfl⟩ := express_test_eq_ok_iff.1 done
    exact test _ _ _ _ _ _ asked
  | unsupported field name operand =>
    obtain ⟨loose, rfl, rfl⟩ := express_unsupported_eq_ok_iff.1 done
    exact unsupported _ _ _ _ loose
  | foreign value =>
    obtain ⟨null, rfl, rfl⟩ := express_foreign_eq_ok_iff.1 done
    exact foreign _ _ null

theorem fits_negatedIf_draw (o : Options) (field : String) (n : Namer) (negate : Bool)
    (demand : Demand) : ((demand.draw o field n).1.negatedIf negate).Fits := by
  have positive : (demand.draw o field n).1.Fits := by
    cases demand
    -- a range is a chain, but it is always written in parentheses
    case range =>
      refine .paren (.chain (by simp) ?_ ?_)
      · simp [Expression.Fits.test]
      · simp [Expression.level, Junction.level]
    all_goals exact .test _ _ _
  have tight : (demand.draw o field n).1.level ≤ 1 := by
    cases demand <;> simp [Demand.draw, Expression.level]
  cases negate
  · exact positive
  · exact .negation positive tight

theorem fits_of_chained {ps : List Predicate} {n n' : Namer}
    {es : List (Option (Expression Slot))}
    (chained : Chained (fun _ _ e _ => ∀ e', e = some e' → e'.Fits) ps n es n') :
    ∀ e, some e ∈ es → e.Fits := by
  induction chained with
  | nil => simp
  | cons first _ ih =>
    intro e member
    rcases List.mem_cons.1 member with same | later
    · exact first e same.symm
    · exact ih e later

/-- No expression needs more parentheses than it has. -/
theorem fits_of_express {o : Options} {p : Predicate} {n n' : Namer} {e : Expression Slot}
    (done : express o p n = (.ok (some e), n')) : e.Fits := by
  refine express_induction (motive := fun _ _ e _ => ∀ e', e = some e' → e'.Fits)
    ?group ?test ?unsupported ?foreign done e rfl
  case group =>
    intro op children n es n' chained e left
    obtain ⟨parts, nonempty, rfl, known⟩ := Expression.exists_of_group?_eq_some left
    exact .group nonempty fun part member => fits_of_chained chained part (known part member)
  case test =>
    intro field op operand n negate demand _ e left
    cases left
    exact fits_negatedIf_draw o field n negate demand
  case unsupported => simp
  case foreign => simp

theorem fits_of_expressAll {o : Options} {ps : List Predicate} {n n' : Namer}
    {es : List (Option (Expression Slot))} (done : expressAll o ps n = (.ok es, n')) :
    ∀ e, some e ∈ es → e.Fits :=
  fits_of_chained (chained_of_expressAll (fun _ _ _ _ _ left _ same =>
    fits_of_express (same ▸ left)) done)

mutual

/-- The fragment of a predicate is its expression written down. -/
theorem compile_eq_express (o : Options) :
    ∀ (p : Predicate) (n : Namer),
      compile o p n = ((express o p n).1.map ofExpression?, (express o p n).2)
  | .group op children, n => by
    rw [compile, express, compileAll_eq_expressAll o children n]
    cases drawn : expressAll o children n with
    | mk result n₁ =>
      cases result with
      | error fault => rfl
      | ok es =>
        -- a part counts as left out if its text is empty, which no expression's text is
        have fit := fits_of_expressAll drawn
        simp [Except.map, join_map_ofExpression? op es fit]
  | .test field op operand, n => by
    rw [compile, express, compileTest_eq]
    cases expressTest o field op operand n with
    | mk result n₁ => cases result <;> rfl
  | .unsupported field name operand, n => by
    rw [compile, express]
    split <;> rfl
  | .foreign value, n => by
    rw [compile, express]
    split <;> rfl

theorem compileAll_eq_expressAll (o : Options) :
    ∀ (ps : List Predicate) (n : Namer),
      compileAll o ps n =
        ((expressAll o ps n).1.map (List.map ofExpression?), (expressAll o ps n).2)
  | [], n => rfl
  | p :: ps, n => by
    rw [compileAll, expressAll, compile_eq_express o p n]
    cases express o p n with
    | mk result n₁ =>
      cases result with
      | error fault => rfl
      | ok e =>
        simp only [Except.map, compileAll_eq_expressAll o ps n₁]
        cases expressAll o ps n₁ with
        | mk results n₂ => cases results <;> rfl

end

theorem fits_of_express? {o : Options} {p : Option Predicate} {n n' : Namer}
    {e : Expression Slot} (drawn : express? o p n = (.ok (some e), n')) : e.Fits := by
  cases p with
  | none => cases drawn
  | some p => exact fits_of_express drawn

/-- The fragment of an optional predicate is its expression written down. -/
theorem compile?_eq_express? (o : Options) (p : Option Predicate) (n : Namer) :
    compile? o p n = ((express? o p n).1.map ofExpression?, (express? o p n).2) := by
  cases p with
  | none => rfl
  | some p => exact compile_eq_express o p n

/-! ### The fields of a predicate -/

mutual

/-- The fields that a predicate tests, leaving out tests that cannot be stated. -/
def fields : Predicate → List String
  | .group _ children => fieldsAll children
  | .test field _ _ => [field]
  | .unsupported _ _ _ | .foreign _ => []

/-- The fields that some predicates test. -/
def fieldsAll : List Predicate → List String
  | [] => []
  | p :: ps => p.fields ++ fieldsAll ps

end

theorem over_of_chained {node : String} {ps : List Predicate} {n n' : Namer}
    {es : List (Option (Expression Slot))}
    (chained : Chained (fun p _ e _ =>
      ∀ e', e = some e' → e'.Over fun n key => n = node ∧ key ∈ p.fields) ps n es n') :
    ∀ e, some e ∈ es → e.Over fun n key => n = node ∧ key ∈ fieldsAll ps := by
  induction chained with
  | nil => simp
  | cons first _ ih =>
    intro e member
    rcases List.mem_cons.1 member with same | later
    · exact (first e same.symm).imp fun _ _ known => ⟨known.1, List.mem_append_left _ known.2⟩
    · exact (ih e later).imp fun _ _ known => ⟨known.1, List.mem_append_right _ known.2⟩

/-- An expression tests the node for fields of its predicate only. -/
theorem over_of_express {o : Options} {p : Predicate} {n n' : Namer} {e : Expression Slot}
    (done : express o p n = (.ok (some e), n')) :
    e.Over fun node key => node = o.nodeName ∧ key ∈ p.fields := by
  refine express_induction (motive := fun p _ e _ =>
    ∀ e', e = some e' → e'.Over fun node key => node = o.nodeName ∧ key ∈ p.fields)
    ?group ?test ?unsupported ?foreign done e rfl
  case group =>
    intro op children n es n' chained e left
    obtain ⟨parts, -, rfl, known⟩ := Expression.exists_of_group?_eq_some left
    exact .group fun part member => over_of_chained chained part (known part member)
  case test =>
    intro field op operand n negate demand _ e left
    cases left
    have known : o.nodeName = o.nodeName ∧ field ∈ (test field op operand).fields := by
      simp [fields]
    have positive : (demand.draw o field n).1.Over fun node key =>
        node = o.nodeName ∧ key ∈ (test field op operand).fields := by
      cases demand
      case range => exact .paren (.chain (by simpa using ⟨.test _ known, .test _ known⟩))
      all_goals exact .test _ known
    cases negate
    · exact positive
    · exact .negation positive
  case unsupported => simp
  case foreign => simp

end Predicate

end GraphMapper.Query
