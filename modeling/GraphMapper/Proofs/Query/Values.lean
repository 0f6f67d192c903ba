import GraphMapper.Proofs.Query.Drawing

/-!
# The values of statements

What a statement has to bind can be read off its operation, without looking at how the statement is
put together: the operands of the tests, one by one for a list, then what the operation sets, skips
and returns. The slots of its template hold these values in this order.

## Main definitions

* `Query.Predicate.values` — the values that a predicate compares with
* `Query.Operation.values` — the values that the statement of an operation binds

## Main results

* `Predicate.map_value_slots` — the slots of a predicate hold its values
* `Operation.map_value_slots` — the slots of a statement hold the values of its operation
-/

namespace GraphMapper.Query

/-- The values that an operator compares with. -/
def Comparison.values (operand : Value) : Comparison → List Value
  | .isNull => []
  | .eq | .neq => if operand.isNull then [] else [operand]
  | .gt | .gte | .lt | .lte => [operand]
  | .between | .isIn | .notIn => operand.items.toOption.getD []
  | .like | .notLike => [containing operand]

namespace Predicate

mutual

/-- The values that a predicate compares with. -/
def values : Predicate → List Value
  | .group _ children => valuesAll children
  | .test _ op operand => op.values operand
  | .unsupported _ _ _ | .foreign _ => []

/-- The values that some predicates compare with. -/
def valuesAll : List Predicate → List Value
  | [] => []
  | p :: ps => p.values ++ valuesAll ps

end

/-- The values that an optional predicate compares with. -/
def values? (p : Option Predicate) : List Value := p.elim [] values

end Predicate

/-- The value of a count that is not left out. -/
def countValues (count : Value) : List Value := if count.truthy then [count] else []

/-- The values of a filter. -/
def Filter.values (f : Filter) : List Value :=
  Predicate.values? f.where? ++ (countValues f.skip ++ countValues f.limit)

/-- The values that the statement of an operation binds. -/
def Operation.values (o : Options) (m : Model) : Operation → List Value
  | .find search => (search.read o).toOption.elim [] Filter.values
  | .findOne search => (search.read o).toOption.elim [] fun f => f.single.values
  | .findById id | .exists id | .destroy id => [id]
  | .count condition | .destroyAll condition =>
    (condition.read o).toOption.elim [] Predicate.values?
  | .create data => (properties data).toOption.toList
  | .save data | .updateOrCreate data =>
    (mergeId m data).toOption.toList ++ (properties data).toOption.toList
  | .updateAttributes id data => id :: (properties data).toOption.toList
  | .updateAll condition data =>
    (condition.read o).toOption.elim [] Predicate.values? ++ (properties data).toOption.toList

/-! ### Predicates -/

/-- The values of a demand. -/
def Demand.values : Demand → List Value
  | .absent | .present => []
  | .relation _ value => [value]
  | .range low high => [low, high]
  | .membership items => items

theorem Demand.map_value_slots (o : Options) (field : String) (n : Namer) (negate : Bool)
    (d : Demand) :
    ((d.draw o field n).1.negatedIf negate).template.slots.map Slot.value = d.values := by
  have same : ((d.draw o field n).1.negatedIf negate).template.slots =
      (d.draw o field n).1.template.slots := by
    cases negate <;> rfl
  rw [same]
  cases d with
  | absent | present | relation | range => rfl
  | membership items =>
    rw [draw, Expression.template, Template.slots_words, Test.slots_template_isIn,
      Slot.map_value_drawAll, values]

theorem Comparison.values_demand {op : Comparison} {operand : Value} {negate : Bool} {d : Demand}
    (asked : op.demand operand = .ok (negate, d)) : d.values = op.values operand := by
  cases op with
  | isNull | gt | gte | lt | lte | like | notLike =>
    cases asked
    rfl
  | eq | neq =>
    cases null : operand.isNull <;>
      · simp only [demand, null] at asked
        cases asked
        simp [values, Demand.values, null]
  | between =>
    obtain ⟨⟨low, high⟩, ends, same⟩ := Except.map_eq_ok_iff.1 asked
    cases same
    rw [values, rangeEnds_eq_ok_iff.1 ends]
    rfl
  | isIn | notIn =>
    obtain ⟨items, known, same⟩ := Except.map_eq_ok_iff.1 asked
    cases same
    rw [values, known]
    rfl

namespace Predicate

open Expression (slots? slots?_some slots?_group?)

theorem map_value_of_chained {ps : List Predicate} {n n' : Namer}
    {es : List (Option (Expression Slot))}
    (chained : Chained (fun p _ e _ => (slots? e).map Slot.value = p.values) ps n es n') :
    (es.flatMap slots?).map Slot.value = valuesAll ps := by
  induction chained with
  | nil => rfl
  | cons first _ ih => rw [List.flatMap_cons, List.map_append, first, ih, valuesAll]

/-- The slots of a predicate hold its values. -/
theorem map_value_slots {o : Options} {p : Predicate} {n n' : Namer}
    {e : Option (Expression Slot)} (done : express o p n = (.ok e, n')) :
    (slots? e).map Slot.value = p.values := by
  refine express_induction (motive := fun p _ e _ => (slots? e).map Slot.value = p.values)
    ?group ?test ?unsupported ?foreign done
  case group =>
    intro op children n es n' chained
    rw [slots?_group?, map_value_of_chained chained, values]
  case test =>
    intro field op operand n negate demand asked
    rw [slots?_some, demand.map_value_slots, Comparison.values_demand asked, values]
  case unsupported => exact fun _ _ _ _ _ => rfl
  case foreign => exact fun _ _ _ => rfl

end Predicate

/-! ### Statements -/

section

variable {o : Options} {m : Model} {n : Namer} {supply : Supply} {t : Template}

theorem map_value_of_matching {p : Option Predicate} (done : matching o m p supply = .ok (t, n)) :
    t.slots.map Slot.value = Predicate.values? p := by
  obtain ⟨e, left, rfl⟩ := matching_eq_ok_iff.1 done
  rw [Template.slots_words, slots_whereClause]
  cases p with
  | none =>
    cases left
    rfl
  | some p => exact Predicate.map_value_slots left

theorem map_value_counting (word field : String) (count : Value) (n : Namer) :
    (counting word field count n).1.slots.map Slot.value = countValues count := by
  unfold counting countValues
  split <;> rfl

namespace Operation

theorem map_value_of_nodesTemplate {p : Option Predicate} {rest : String}
    (done : nodesTemplate o m p rest supply = .ok (t, n)) :
    t.slots.map Slot.value = Predicate.values? p := by
  obtain ⟨⟨head, n₁⟩, matched, same⟩ := Except.map_eq_ok_iff.1 done
  cases same
  simpa using map_value_of_matching matched

theorem map_value_of_findTemplate {f : Filter} (done : findTemplate o m f supply = .ok (t, n)) :
    t.slots.map Slot.value = f.values := by
  obtain ⟨⟨head, n₁⟩, matched, same⟩ := Except.map_eq_ok_iff.1 done
  simp only [Prod.mk.injEq] at same
  obtain ⟨rfl, rfl⟩ := same
  simp [map_value_of_matching matched, map_value_counting, Filter.values]

/-- The slots of a statement hold the values of its operation. -/
theorem map_value_slots {op : Operation} (done : op.template o m supply = .ok (t, n)) :
    t.slots.map Slot.value = op.values o m := by
  cases op with
  | find search | findOne search =>
    obtain ⟨f, read, laid⟩ := Except.bind_eq_ok_iff.1 done
    rw [values, read]
    exact map_value_of_findTemplate laid
  | findById id | «exists» id | destroy id =>
    cases done
    rfl
  | count condition | destroyAll condition =>
    obtain ⟨p, read, laid⟩ := Except.bind_eq_ok_iff.1 done
    rw [values, read]
    exact map_value_of_nodesTemplate laid
  | create data =>
    obtain ⟨props, known, laid⟩ := Except.bind_eq_ok_iff.1 done
    cases laid
    rw [values, known]
    rfl
  | save data | updateOrCreate data =>
    obtain ⟨id, found, laid⟩ := Except.bind_eq_ok_iff.1 done
    obtain ⟨props, known, laid⟩ := Except.bind_eq_ok_iff.1 laid
    cases laid
    rw [values, found, known]
    rfl
  | updateAttributes id data =>
    obtain ⟨props, known, laid⟩ := Except.bind_eq_ok_iff.1 done
    cases laid
    rw [values, known]
    rfl
  | updateAll condition data =>
    obtain ⟨p, read, laid⟩ := Except.bind_eq_ok_iff.1 done
    obtain ⟨⟨head, n₁⟩, matched, laid⟩ := Except.bind_eq_ok_iff.1 laid
    obtain ⟨props, known, laid⟩ := Except.bind_eq_ok_iff.1 laid
    cases laid
    rw [Template.slots_append, List.map_append, map_value_of_matching matched, values, read, known]
    rfl

end Operation

end

end GraphMapper.Query
