import GraphMapper.Proofs.Query.Shape

/-!
# Values stay out of statements

A statement with its values blanked out depends on the shape of its operation only. So operations of
the same shape, compiled with the same supply, have the same text and the same parameters with other
values: no value ever decides what a statement says.

## Main definitions

* `Query.Template.blank` — a template with its values blanked out

## Main results

* `Predicate.map_blank_eq_of_sameShape` — predicates of the same shape have the same expression
* `Operation.text_eq_of_sameShape` — operations of the same shape have the same text and the same
  names of parameters
-/

namespace GraphMapper.Query

/-! ### Blanks -/

/-- The slot without its value. -/
def Slot.blank (s : Slot) : Slot := { s with value := .null }

@[simp] theorem Slot.name_blank (s : Slot) : s.blank.name = s.name := rfl

/-- A part without its value. -/
def Part.blank : Part → Part
  | .words w => .words w
  | .slot s => .slot s.blank
  | .reuse s => .reuse s.blank

namespace Template

/-- The template with its values blanked out. -/
def blank (t : Template) : Template := t.map Part.blank

variable {t u : Template}

@[simp] theorem blank_nil : blank [] = [] := rfl

@[simp] theorem blank_words (w : String) (t : Template) :
    blank (.words w :: t) = .words w :: blank t := rfl

@[simp] theorem blank_slot (s : Slot) (t : Template) :
    blank (.slot s :: t) = .slot s.blank :: blank t := rfl

@[simp] theorem blank_reuse (s : Slot) (t : Template) :
    blank (.reuse s :: t) = .reuse s.blank :: blank t := rfl

@[simp] theorem blank_append (t u : Template) : blank (t ++ u) = blank t ++ blank u := by
  simp [blank]

theorem blank_joined (w : String) (ts : List Template) :
    blank (joined w ts) = joined w (ts.map blank) := by
  induction ts with
  | nil => rfl
  | cons t rest ih =>
    cases rest with
    | nil => simp
    | cons u rest =>
      rw [joined_cons_cons, blank_append, blank_words, ih]
      simp [joined_cons_cons]

@[simp] theorem text_blank (t : Template) : text (blank t) = text t := by
  induction t with
  | nil => rfl
  | cons part t ih => cases part <;> simp [ih]

theorem map_name_slots_blank (t : Template) :
    (blank t).slots.map Slot.name = t.slots.map Slot.name := by
  induction t with
  | nil => rfl
  | cons part t ih => cases part <;> simp [ih]

/-- Templates that differ in values only have the same text. -/
theorem text_eq_of_blank_eq (same : blank t = blank u) : text t = text u := by
  rw [← text_blank t, same, text_blank]

/-- Templates that differ in values only have parameters of the same names. -/
theorem names_params_eq_of_blank_eq (same : blank t = blank u) :
    t.params.names = u.params.names := by
  rw [names_params, names_params, ← map_name_slots_blank t, same, map_name_slots_blank]

end Template

theorem Test.template_map_blank (t : Test Slot) :
    (t.map Slot.blank).template = t.template.blank := by
  cases t with
  | isNull | isNotNull | relation => rfl
  | isIn ss =>
    simp [map, template, Template.blank_joined, Function.comp_def]

/-- Blanking out the values of an expression blanks them out where it is written. -/
theorem Expression.template_map_blank (e : Expression Slot) :
    (e.map Slot.blank).template = e.template.blank := by
  induction e with
  | test node key t => simp [map, template, Test.template_map_blank]
  | paren e ih => simp [map, template, ih]
  | negation e ih => simp [map, template, ih]
  | chain op es ih =>
    rw [map, template, template, Template.blank_joined, mapAll_eq_map, templates_eq_map,
      templates_eq_map, List.map_map, List.map_map]
    exact congrArg _ (List.map_congr_left fun e member => ih e member)

/-! ### Predicates -/

/-- Two demands differ in values only. -/
def Demand.SameShape : Demand → Demand → Prop
  | .absent, .absent | .present, .present | .range _ _, .range _ _ => True
  | .relation r _, .relation r' _ => r = r'
  | .membership items, .membership items' => items.length = items'.length
  | _, _ => False

theorem Comparison.sameShape_of_demand {op : Comparison} {x y : Value} {negate negate' : Bool}
    {d d' : Demand} (agree : op.Agree x y) (asked : op.demand x = .ok (negate, d))
    (asked' : op.demand y = .ok (negate', d')) : negate = negate' ∧ d.SameShape d' := by
  cases op with
  | isNull | gt | gte | lt | lte | like | notLike =>
    cases asked
    cases asked'
    exact ⟨rfl, by trivial⟩
  | eq | neq =>
    have same : x.isNull = y.isNull := agree
    cases null : y.isNull <;>
      · simp only [demand, same, null] at asked asked'
        cases asked
        cases asked'
        exact ⟨rfl, by trivial⟩
  | between =>
    obtain ⟨ends, -, same⟩ := Except.map_eq_ok_iff.1 asked
    obtain ⟨ends', -, same'⟩ := Except.map_eq_ok_iff.1 asked'
    cases same
    cases same'
    exact ⟨rfl, trivial⟩
  | isIn | notIn =>
    obtain ⟨items, known, same⟩ := Except.map_eq_ok_iff.1 asked
    obtain ⟨items', known', same'⟩ := Except.map_eq_ok_iff.1 asked'
    cases same
    cases same'
    -- a list of another length would have another number of names
    have lengths : some items.length = some items'.length := by
      simpa [Agree, known, known', Except.toOption] using agree
    exact ⟨rfl, Option.some.inj lengths⟩

theorem Slot.map_blank_drawAll (n : Namer) (field : String) {items items' : List Value}
    (length : items.length = items'.length) :
    (drawAll n field items).map blank = (drawAll n field items').map blank := by
  refine List.ext_getElem (by simp [drawAll, length]) fun i inside inside' => ?_
  simp [drawAll, blank]

theorem Demand.draw_eq_of_sameShape (o : Options) (field : String) (n : Namer) {d d' : Demand}
    (same : d.SameShape d') :
    (d.draw o field n).1.map Slot.blank = (d'.draw o field n).1.map Slot.blank ∧
      (d.draw o field n).2 = (d'.draw o field n).2 := by
  match d, d' with
  | .absent, .absent | .present, .present | .range _ _, .range _ _ => exact ⟨rfl, rfl⟩
  | .relation r _, .relation r' _ =>
    cases same
    exact ⟨rfl, rfl⟩
  | .membership items, .membership items' =>
    refine ⟨?_, rfl⟩
    simp [draw, Expression.map, Test.map, Slot.map_blank_drawAll n field same]

namespace Expression

theorem map_blank_negatedIf (negate : Bool) (e : Expression Slot) :
    (e.negatedIf negate).map Slot.blank = (e.map Slot.blank).negatedIf negate := by
  cases negate <;> rfl

/-- A group of which the parts have their values blanked out. -/
theorem map_blank_group? (op : Connective) (es : List (Option (Expression Slot))) :
    (group? op es.reduceOption).map (map Slot.blank) =
      group? op (es.map (Option.map (map Slot.blank))).reduceOption := by
  rw [List.reduceOption_map]
  cases es.reduceOption with
  | nil => rfl
  | cons e rest => exact congrArg some (map_group Slot.blank op (e :: rest))

end Expression

namespace Predicate

-- the induction is on the first predicate, and carries along that both translations leave the same
-- namer, without which the names behind would drift apart
mutual

/-- Predicates of the same shape have the same expression but for the values in it. -/
theorem map_blank_eq_of_sameShape {o : Options} :
    ∀ (p : Predicate) {q : Predicate} {n n₁ n₂ : Namer} {e e' : Option (Expression Slot)},
      p.SameShape q → express o p n = (.ok e, n₁) → express o q n = (.ok e', n₂) →
      e.map (Expression.map Slot.blank) = e'.map (Expression.map Slot.blank) ∧ n₁ = n₂
  | .group op ps, .group op' qs, n, n₁, n₂, e, e', same, done, done' => by
    obtain ⟨rfl, same⟩ := same
    obtain ⟨es, all, rfl⟩ := express_group_eq_ok_iff.1 done
    obtain ⟨es', all', rfl⟩ := express_group_eq_ok_iff.1 done'
    obtain ⟨parts, rfl⟩ := map_blank_eq_of_allSameShape ps same all all'
    rw [Expression.map_blank_group?, Expression.map_blank_group?, parts]
    exact ⟨rfl, rfl⟩
  | .test field op x, .test field' op' y, n, n₁, n₂, e, e', same, done, done' => by
    obtain ⟨rfl, rfl, agree⟩ := same
    obtain ⟨negate, d, asked, rfl, rfl⟩ := express_test_eq_ok_iff.1 done
    obtain ⟨negate', d', asked', rfl, rfl⟩ := express_test_eq_ok_iff.1 done'
    obtain ⟨rfl, alike⟩ := Comparison.sameShape_of_demand agree asked asked'
    obtain ⟨drawn, left⟩ := Demand.draw_eq_of_sameShape o field n alike
    rw [Option.map_some, Option.map_some, Expression.map_blank_negatedIf,
      Expression.map_blank_negatedIf, drawn]
    exact ⟨rfl, left⟩
  | .unsupported _ _ _, .unsupported _ _ _, n, n₁, n₂, e, e', same, done, done' => by
    obtain ⟨-, rfl, rfl⟩ := express_unsupported_eq_ok_iff.1 done
    obtain ⟨-, rfl, rfl⟩ := express_unsupported_eq_ok_iff.1 done'
    exact ⟨rfl, rfl⟩
  | .foreign _, .foreign _, n, n₁, n₂, e, e', same, done, done' => by
    obtain ⟨-, rfl, rfl⟩ := express_foreign_eq_ok_iff.1 done
    obtain ⟨-, rfl, rfl⟩ := express_foreign_eq_ok_iff.1 done'
    exact ⟨rfl, rfl⟩

theorem map_blank_eq_of_allSameShape {o : Options} :
    ∀ (ps : List Predicate) {qs : List Predicate} {n n₁ n₂ : Namer}
      {es es' : List (Option (Expression Slot))}, AllSameShape ps qs →
      expressAll o ps n = (.ok es, n₁) → expressAll o qs n = (.ok es', n₂) →
      es.map (Option.map (Expression.map Slot.blank)) =
        es'.map (Option.map (Expression.map Slot.blank)) ∧ n₁ = n₂
  | [], [], n, n₁, n₂, es, es', same, done, done' => by
    obtain ⟨rfl, rfl⟩ := expressAll_nil_eq_ok_iff.1 done
    obtain ⟨rfl, rfl⟩ := expressAll_nil_eq_ok_iff.1 done'
    exact ⟨rfl, rfl⟩
  | p :: ps, q :: qs, n, n₁, n₂, es, es', same, done, done' => by
    obtain ⟨e, m, rest, first, others, rfl⟩ := expressAll_cons_eq_ok_iff.1 done
    obtain ⟨e', m', rest', first', others', rfl⟩ := expressAll_cons_eq_ok_iff.1 done'
    obtain ⟨head, rfl⟩ := map_blank_eq_of_sameShape p same.1 first first'
    obtain ⟨tail, rfl⟩ := map_blank_eq_of_allSameShape ps same.2 others others'
    rw [List.map_cons, List.map_cons, head, tail]
    exact ⟨rfl, rfl⟩

end

end Predicate

/-! ### Statements -/

section

variable {o : Options} {m : Model} {supply : Supply} {t u : Template} {n n₁ n₂ : Namer}

theorem blank_eq_of_matching {p q : Option Predicate} (same : Predicate.SameShape? p q)
    (done : matching o m p supply = .ok (t, n₁)) (done' : matching o m q supply = .ok (u, n₂)) :
    t.blank = u.blank ∧ n₁ = n₂ := by
  obtain ⟨e, left, rfl⟩ := matching_eq_ok_iff.1 done
  obtain ⟨e', left', rfl⟩ := matching_eq_ok_iff.1 done'
  have blanked (e : Option (Expression Slot)) : (whereClause e).blank =
      whereClause (e.map (Expression.map Slot.blank)) := by
    cases e with
    | none => rfl
    | some e => simp [whereClause, Expression.template_map_blank]
  have alike : e.map (Expression.map Slot.blank) = e'.map (Expression.map Slot.blank) ∧
      n₁ = n₂ := by
    cases p with
    | none =>
      cases q with
      | none =>
        cases left
        cases left'
        exact ⟨rfl, rfl⟩
      | some q => exact same.elim
    | some p =>
      cases q with
      | none => exact same.elim
      | some q => exact Predicate.map_blank_eq_of_sameShape p same left left'
  refine ⟨?_, alike.2⟩
  rw [Template.blank_words, Template.blank_words, blanked, blanked, alike.1]

theorem blank_counting (word field : String) {count count' : Value}
    (same : count.truthy = count'.truthy) (n : Namer) :
    (counting word field count n).1.blank = (counting word field count' n).1.blank ∧
      (counting word field count n).2 = (counting word field count' n).2 := by
  unfold counting
  rw [same]
  split <;> exact ⟨rfl, rfl⟩

namespace Operation

theorem blank_eq_of_nodesTemplate {p q : Option Predicate} {rest : String}
    (same : Predicate.SameShape? p q) (done : nodesTemplate o m p rest supply = .ok (t, n₁))
    (done' : nodesTemplate o m q rest supply = .ok (u, n₂)) : t.blank = u.blank := by
  obtain ⟨⟨head, n₁⟩, matched, laid⟩ := Except.map_eq_ok_iff.1 done
  obtain ⟨⟨head', n₂⟩, matched', laid'⟩ := Except.map_eq_ok_iff.1 done'
  cases laid
  cases laid'
  rw [Template.blank_append, Template.blank_append, (blank_eq_of_matching same matched matched').1]

theorem blank_eq_of_findTemplate {f g : Filter} (same : f.SameShape g)
    (done : findTemplate o m f supply = .ok (t, n₁))
    (done' : findTemplate o m g supply = .ok (u, n₂)) : t.blank = u.blank := by
  obtain ⟨⟨head, n₁⟩, matched, laid⟩ := Except.map_eq_ok_iff.1 done
  obtain ⟨⟨head', n₂⟩, matched', laid'⟩ := Except.map_eq_ok_iff.1 done'
  simp only [Prod.mk.injEq] at laid laid'
  obtain ⟨rfl, -⟩ := laid
  obtain ⟨rfl, -⟩ := laid'
  obtain ⟨heads, rfl⟩ := blank_eq_of_matching same.condition matched matched'
  -- both counts are drawn with the same namers, since they are left out at the same time
  obtain ⟨skips, left⟩ := blank_counting "SKIP" "skip" same.skip n₁
  obtain ⟨limits, -⟩ := blank_counting "LIMIT" "limit" same.limit
    (counting "SKIP" "skip" f.skip n₁).2
  simp only [Template.blank_append, Template.blank_words, heads, skips, limits, ← left, same.fields,
    same.order]

/-- Operations of the same shape have the same template but for the values in it. -/
theorem blank_eq_of_sameShape : ∀ {op op' : Operation}, op.SameShape op' →
    op.template o m supply = .ok (t, n₁) → op'.template o m supply = .ok (u, n₂) →
    t.blank = u.blank
  | .find s, .find s', same, done, done' => by
    obtain ⟨f, read, laid⟩ := Except.bind_eq_ok_iff.1 done
    obtain ⟨g, read', laid'⟩ := Except.bind_eq_ok_iff.1 done'
    exact blank_eq_of_findTemplate (Search.sameShape_of_read same read read') laid laid'
  | .findOne s, .findOne s', same, done, done' => by
    obtain ⟨f, read, laid⟩ := Except.bind_eq_ok_iff.1 done
    obtain ⟨g, read', laid'⟩ := Except.bind_eq_ok_iff.1 done'
    exact blank_eq_of_findTemplate (Search.sameShape_of_read same read read').single laid laid'
  | .findById id, .findById id', same, done, done'
  | .exists id, .exists id', same, done, done'
  | .destroy id, .destroy id', same, done, done' => by
    cases done
    cases done'
    rfl
  | .count c, .count c', same, done, done'
  | .destroyAll c, .destroyAll c', same, done, done' => by
    obtain ⟨p, read, laid⟩ := Except.bind_eq_ok_iff.1 done
    obtain ⟨q, read', laid'⟩ := Except.bind_eq_ok_iff.1 done'
    exact blank_eq_of_nodesTemplate (Condition.sameShape_of_read same read read') laid laid'
  | .create data, .create data', same, done, done' => by
    obtain ⟨props, -, laid⟩ := Except.bind_eq_ok_iff.1 done
    obtain ⟨props', -, laid'⟩ := Except.bind_eq_ok_iff.1 done'
    cases laid
    cases laid'
    rfl
  | .save data, .save data', same, done, done'
  | .updateOrCreate data, .updateOrCreate data', same, done, done' => by
    obtain ⟨id, -, laid⟩ := Except.bind_eq_ok_iff.1 done
    obtain ⟨props, -, laid⟩ := Except.bind_eq_ok_iff.1 laid
    obtain ⟨id', -, laid'⟩ := Except.bind_eq_ok_iff.1 done'
    obtain ⟨props', -, laid'⟩ := Except.bind_eq_ok_iff.1 laid'
    cases laid
    cases laid'
    rfl
  | .updateAttributes id data, .updateAttributes id' data', same, done, done' => by
    obtain ⟨props, -, laid⟩ := Except.bind_eq_ok_iff.1 done
    obtain ⟨props', -, laid'⟩ := Except.bind_eq_ok_iff.1 done'
    cases laid
    cases laid'
    rfl
  | .updateAll c data, .updateAll c' data', same, done, done' => by
    obtain ⟨p, read, laid⟩ := Except.bind_eq_ok_iff.1 done
    obtain ⟨⟨head, n⟩, matched, laid⟩ := Except.bind_eq_ok_iff.1 laid
    obtain ⟨props, -, laid⟩ := Except.bind_eq_ok_iff.1 laid
    obtain ⟨q, read', laid'⟩ := Except.bind_eq_ok_iff.1 done'
    obtain ⟨⟨head', n'⟩, matched', laid'⟩ := Except.bind_eq_ok_iff.1 laid'
    obtain ⟨props', -, laid'⟩ := Except.bind_eq_ok_iff.1 laid'
    obtain ⟨heads, rfl⟩ := blank_eq_of_matching (Condition.sameShape_of_read same read read')
      matched matched'
    cases laid
    cases laid'
    rw [Template.blank_append, Template.blank_append, heads]
    rfl

/-- Operations of the same shape have the same text, and parameters of the same names. -/
theorem text_eq_of_sameShape {op op' : Operation} {st st' : Statement} {rest rest' : Supply}
    (same : op.SameShape op') (done : op.compile o m supply = .ok (st, rest))
    (done' : op'.compile o m supply = .ok (st', rest')) :
    st.text = st'.text ∧ st.params.names = st'.params.names := by
  obtain ⟨t, n, laid, rfl, -⟩ := exists_template_of_compile done
  obtain ⟨u, n', laid', rfl, -⟩ := exists_template_of_compile done'
  have blanks := blank_eq_of_sameShape same laid laid'
  exact ⟨Template.text_eq_of_blank_eq blanks, Template.names_params_eq_of_blank_eq blanks⟩

/-- A value that reads like a part of a statement stays a value. -/
theorem text_eq_of_sameShape_updateAll :
    let op (age name other : Value) : Operation := .updateAll
      (.value (.map [(.text "or", .list [.map [(.text "age", .map [(.text "gt", age)])],
          .map [(.text "name", .map [(.text "inq", .list [name, other])])]]),
        (.text "note", .null)])) (.map [(.text "name", name)])
    ∃ st rest st' rest',
      (op (.int 3) (.text "Ada") (.text "Eve")).compile {} { name := "Person" } .counting =
        .ok (st, rest) ∧
      (op .null (.text "\x7d) DETACH DELETE n //") (.list [])).compile {} { name := "Person" }
        .counting = .ok (st', rest') ∧
      st.text = st'.text ∧ st.params.names = st'.params.names := by
  intro op
  have compiles : ((op (.int 3) (.text "Ada") (.text "Eve")).compile {} { name := "Person" }
    .counting).isOk = true := by decide +kernel
  have compiles' : ((op .null (.text "\x7d) DETACH DELETE n //") (.list [])).compile {}
    { name := "Person" } .counting).isOk = true := by decide +kernel
  obtain ⟨⟨st, rest⟩, done⟩ := Except.exists_eq_ok_of_isOk compiles
  obtain ⟨⟨st', rest'⟩, done'⟩ := Except.exists_eq_ok_of_isOk compiles'
  have group : Connective.ofKey? (Text.lower "or") = some .or := by decide +kernel
  have age : Connective.ofKey? (Text.lower "age") = none := by decide +kernel
  have name : Connective.ofKey? (Text.lower "name") = none := by decide +kernel
  have note : Connective.ofKey? (Text.lower "note") = none := by decide +kernel
  have greater : Comparison.ofName? (Text.lower "gt") = some .gt := by decide +kernel
  have isIn : Comparison.ofName? (Text.lower "inq") = some .isIn := by decide +kernel
  have same : (op (.int 3) (.text "Ada") (.text "Eve")).SameShape
      (op .null (.text "\x7d) DETACH DELETE n //") (.list [])) := by
    refine Or.inr ⟨_, _, rfl, rfl, rfl, ?alternatives, rfl, ?missing, trivial⟩
    case alternatives =>
      rw [Value.display_text, SameCondition, group]
      refine ⟨_, rfl, ⟨rfl, ?_, trivial⟩, ⟨rfl, ?_, trivial⟩, trivial⟩
      · exact (Predicate.sameCondition_iff_sameTest age).2 (.operator greater trivial)
      · exact (Predicate.sameCondition_iff_sameTest name).2 (.operator isIn rfl)
    case missing => exact (Predicate.sameCondition_iff_sameTest note).2 .null
  exact ⟨st, rest, st', rest', done, done', text_eq_of_sameShape same done done'⟩

end Operation

end

end GraphMapper.Query
