import GraphMapper.Proofs.Query.Layout
import GraphMapper.Proofs.Query.Naming
import Mathlib.Data.Set.Function
import Mathlib.Order.Interval.Set.Basic

/-!
# Drawing names

The slots of a statement are drawn from one supply: a slot of its own identifier for a single value,
one identifier for all items of a list. However a statement is laid out, its slots can be told apart
by identifier and index, and all their identifiers lie between the supply before the statement and
the supply after it.

## Main definitions

* `Query.Draws` — slots that were drawn one after the other

## Main results

* `Draws.nodup_keys` — no identifier is drawn twice with the same index
* `Operation.draws` — the slots of a statement were drawn between its supplies
-/

namespace GraphMapper.Query

/-- The slots were drawn one after the other, while the first namer became the second. -/
inductive Draws : Namer → Namer → List Slot → Prop
  | done (n : Namer) : Draws n n []
  | one {n n' : Namer} {slots : List Slot} (field : String) (value : Value) :
      Draws (n.name field).2 n' slots → Draws n n' (.draw n field value :: slots)
  | all {n n' : Namer} {slots : List Slot} (field : String) (items : List Value) :
      Draws (n.name field).2 n' slots → Draws n n' (Slot.drawAll n field items ++ slots)

namespace Draws

variable {n n₁ n' : Namer} {slots more : List Slot}

theorem single (n : Namer) (field : String) (value : Value) :
    Draws n (n.name field).2 [.draw n field value] :=
  .one field value (.done _)

theorem append (first : Draws n n₁ slots) (later : Draws n₁ n' more) :
    Draws n n' (slots ++ more) := by
  induction first with
  | done => exact later
  | one field value _ ih => exact .one field value (ih later)
  | all field items _ ih =>
    rw [List.append_assoc]
    exact .all field items (ih later)

theorem drawn_le (draws : Draws n n' slots) : n.supply.drawn ≤ n'.supply.drawn := by
  induction draws with
  | done => exact le_rfl
  | one _ _ _ ih | all _ _ _ ih => exact le_trans (by simp) ih

theorem exists_hex_eq (draws : Draws n n' slots) {s : Slot} (member : s ∈ slots) :
    ∃ k ∈ Set.Ico n.supply.drawn n'.supply.drawn, s.hex = n.supply.hex k := by
  induction draws with
  | done => cases member
  | @one n n' slots field value later ih =>
    have below : n.supply.drawn < n'.supply.drawn := later.drawn_le
    rcases List.mem_cons.1 member with rfl | member
    · exact ⟨_, ⟨le_rfl, below⟩, rfl⟩
    · obtain ⟨k, ⟨low, high⟩, same⟩ := ih member
      exact ⟨k, ⟨le_trans (by simp) low, high⟩, same⟩
  | @all n n' slots field items later ih =>
    have below : n.supply.drawn < n'.supply.drawn := later.drawn_le
    rcases List.mem_append.1 member with member | member
    · obtain ⟨i, inside, rfl⟩ := List.mem_mapIdx.1 member
      exact ⟨_, ⟨le_rfl, below⟩, rfl⟩
    · obtain ⟨k, ⟨low, high⟩, same⟩ := ih member
      exact ⟨k, ⟨le_trans (by simp) low, high⟩, same⟩

theorem exists_stem_eq (draws : Draws n n' slots) {s : Slot} (member : s ∈ slots) :
    ∃ field, s.stem = nameBase field := by
  induction draws with
  | done => cases member
  | one field value _ ih =>
    rcases List.mem_cons.1 member with rfl | member
    · exact ⟨field, rfl⟩
    · exact ih member
  | all field items _ ih =>
    rcases List.mem_append.1 member with member | member
    · obtain ⟨i, inside, rfl⟩ := List.mem_mapIdx.1 member
      exact ⟨field, rfl⟩
    · exact ih member

/-- The slots have proper names. -/
theorem isParameterName_of_mem (draws : Draws n n' slots) (hex : n.supply.Hexadecimal) {s : Slot}
    (member : s ∈ slots) : isParameterName s.name = true := by
  obtain ⟨field, stem⟩ := draws.exists_stem_eq member
  obtain ⟨k, -, digits⟩ := draws.exists_hex_eq member
  exact Slot.isParameterName_name stem (digits ▸ (hex k).2)

/-- What is drawn later has other identifiers. -/
theorem hex_ne_current {field : String} (later : Draws (n.name field).2 n' slots)
    (distinct : Set.InjOn n.supply.hex (Set.Ico n.supply.drawn n'.supply.drawn)) {s : Slot}
    (member : s ∈ slots) : s.hex ≠ n.supply.current := by
  intro same
  obtain ⟨k, ⟨low, high⟩, hex⟩ := later.exists_hex_eq member
  -- whatever comes later was drawn after the current identifier
  have after : n.supply.drawn + 1 ≤ k := low
  have equal : n.supply.hex k = n.supply.hex n.supply.drawn := hex.symm.trans same
  have place := distinct ⟨by omega, high⟩ ⟨le_rfl, by omega⟩ equal
  omega

/-- No identifier is drawn twice with the same index. -/
theorem nodup_keys (draws : Draws n n' slots)
    (distinct : Set.InjOn n.supply.hex (Set.Ico n.supply.drawn n'.supply.drawn)) :
    (slots.map fun s => (s.hex, s.index?)).Nodup := by
  induction draws with
  | done => exact List.nodup_nil
  | @one n n' slots field value later ih =>
    have rest := ih (distinct.mono (Set.Ico_subset_Ico_left (Nat.le_succ _)))
    rw [List.map_cons, List.nodup_cons]
    refine ⟨fun known => ?_, rest⟩
    obtain ⟨s, member, same⟩ := List.mem_map.1 known
    exact later.hex_ne_current distinct member (congrArg Prod.fst same)
  | @all n n' slots field items later ih =>
    have rest := ih (distinct.mono (Set.Ico_subset_Ico_left (Nat.le_succ _)))
    -- items share their identifier and differ in their index
    have indexed : (Slot.drawAll n field items).map (fun s => (s.hex, s.index?)) =
        (List.range items.length).map fun i => (n.supply.current, some i) := by
      refine List.ext_getElem? fun i => ?_
      by_cases inside : i < items.length <;> simp [Slot.drawAll, inside]
    have front : ((List.range items.length).map fun i => (n.supply.current, some i)).Nodup :=
      List.Nodup.map (fun i j same => by simpa using same) List.nodup_range
    rw [List.map_append, indexed, List.nodup_append]
    refine ⟨front, rest, fun key early key' known same => ?_⟩
    obtain ⟨i, -, rfl⟩ := List.mem_map.1 early
    obtain ⟨s, member, rfl⟩ := List.mem_map.1 known
    exact later.hex_ne_current distinct member (congrArg Prod.fst same).symm

/-- What is drawn from one supply at two times has different identifiers. -/
theorem hex_ne_of_mem {n₂ : Namer} (first : Draws n n₁ slots) (second : Draws n₂ n' more)
    (same : n₂.supply.hex = n.supply.hex) (later : n₁.supply.drawn ≤ n₂.supply.drawn)
    (distinct : Set.InjOn n.supply.hex (Set.Ico n.supply.drawn n'.supply.drawn)) {a b : Slot}
    (left : a ∈ slots) (right : b ∈ more) : a.hex ≠ b.hex := by
  obtain ⟨i, ⟨low, high⟩, hex⟩ := first.exists_hex_eq left
  obtain ⟨j, ⟨low', high'⟩, hex'⟩ := second.exists_hex_eq right
  rw [same] at hex'
  intro equal
  have drawn : n.supply.hex i = n.supply.hex j := by rw [← hex, ← hex', equal]
  have place := distinct ⟨low, by omega⟩ ⟨by omega, high'⟩ drawn
  omega

end Draws

/-! ### Slots of predicates -/

theorem Demand.draws (o : Options) (field : String) (n : Namer) (d : Demand) (negate : Bool) :
    Draws n (d.draw o field n).2 ((d.draw o field n).1.negatedIf negate).template.slots := by
  have positive : Draws n (d.draw o field n).2 (d.draw o field n).1.template.slots := by
    cases d with
    | absent | present => exact .done n
    | relation r value => exact .single n field value
    | range low high => exact .one field low (.single _ field high)
    | membership items =>
      have slots : ((Demand.membership items).draw o field n).1.template.slots =
          Slot.drawAll n field items ++ [] := by
        simp [Demand.draw, Expression.template, Test.slots_template_isIn]
      rw [slots]
      exact .all field items (.done _)
  cases negate
  · exact positive
  · exact positive

namespace Expression

/-- The slots of an optional expression. -/
def slots? (e : Option (Expression Slot)) : List Slot := e.elim [] fun e => e.template.slots

@[simp] theorem slots?_none : slots? none = [] := rfl

@[simp] theorem slots?_some (e : Expression Slot) : slots? (some e) = e.template.slots := rfl

/-- What is left of a group has the slots of what is left of its parts. -/
theorem slots?_group? (op : Connective) (es : List (Option (Expression Slot))) :
    slots? (group? op es.reduceOption) = es.flatMap slots? := by
  have kept : (es.reduceOption.flatMap fun e => e.template.slots) = es.flatMap slots? := by
    induction es with
    | nil => rfl
    | cons e rest ih =>
      cases e with
      | none => simpa [List.reduceOption_cons_of_none] using ih
      | some e => simpa [List.reduceOption_cons_of_some] using ih
  rw [← kept]
  cases es.reduceOption with
  | nil => rfl
  | cons e rest => exact slots_group op (e :: rest)

end Expression

namespace Predicate

open Expression (slots? slots?_group?)

theorem draws_of_chained {ps : List Predicate} {n n' : Namer}
    {es : List (Option (Expression Slot))}
    (chained : Chained (fun _ n e n' => Draws n n' (slots? e)) ps n es n') :
    Draws n n' (es.flatMap slots?) := by
  induction chained with
  | nil => exact .done _
  | cons first _ ih => exact first.append ih

/-- The slots of a predicate are drawn while its namer becomes the one that is left. -/
theorem draws {o : Options} {p : Predicate} {n n' : Namer} {e : Option (Expression Slot)}
    (done : express o p n = (.ok e, n')) : Draws n n' (slots? e) := by
  refine express_induction (motive := fun _ n e n' => Draws n n' (slots? e))
    ?group ?test ?unsupported ?foreign done
  case group =>
    intro op children n es n' chained
    rw [slots?_group?]
    exact draws_of_chained chained
  case test =>
    intro field op operand n negate demand _
    exact demand.draws o field n negate
  case unsupported => exact fun _ _ _ n _ => .done n
  case foreign => exact fun _ n _ => .done n

theorem draws? {o : Options} {p : Option Predicate} {n n' : Namer}
    {e : Option (Expression Slot)} (done : express? o p n = (.ok e, n')) :
    Draws n n' (slots? e) := by
  cases p with
  | none =>
    cases done
    exact .done n
  | some p => exact draws done

end Predicate

/-! ### Slots of statements -/

section

variable {o : Options} {m : Model} {n : Namer} {supply : Supply} {t : Template}

theorem slots_whereClause (e : Option (Expression Slot)) :
    (whereClause e).slots = Expression.slots? e := by
  cases e <;> rfl

theorem draws_of_matching {p : Option Predicate} (done : matching o m p supply = .ok (t, n)) :
    Draws (Namer.start supply) n t.slots := by
  obtain ⟨e, left, rfl⟩ := matching_eq_ok_iff.1 done
  rw [Template.slots_words, slots_whereClause]
  exact Predicate.draws? left

theorem draws_counting (word field : String) (count : Value) (n : Namer) :
    Draws n (counting word field count n).2 (counting word field count n).1.slots := by
  unfold counting
  split
  · exact .single n field count
  · exact .done n

end

namespace Operation

variable {o : Options} {m : Model} {n : Namer} {supply : Supply} {t : Template}

theorem draws_nodeTemplate (o : Options) (m : Model) (id : Value) (rest : String)
    (supply : Supply) :
    Draws (Namer.start supply) (nodeTemplate o m id rest supply).2
      (nodeTemplate o m id rest supply).1.slots :=
  .single _ m.idName id

theorem draws_setting (o : Options) (data : Value) (rest : String) (n : Namer) :
    Draws n (setting o data rest n).2 (setting o data rest n).1.slots :=
  .single _ "properties" data

theorem draws_mergeTemplate (o : Options) (m : Model) (id data : Value) (symbol : String)
    (supply : Supply) :
    Draws (Namer.start supply) (mergeTemplate o m id data symbol supply).2
      (mergeTemplate o m id data symbol supply).1.slots :=
  .one m.idName id (.single _ "properties" data)

theorem draws_of_nodesTemplate {p : Option Predicate} {rest : String}
    (done : nodesTemplate o m p rest supply = .ok (t, n)) :
    Draws (Namer.start supply) n t.slots := by
  obtain ⟨⟨head, n₁⟩, matched, same⟩ := Except.map_eq_ok_iff.1 done
  cases same
  simpa using draws_of_matching matched

theorem draws_of_findTemplate {f : Filter} (done : findTemplate o m f supply = .ok (t, n)) :
    Draws (Namer.start supply) n t.slots := by
  obtain ⟨⟨head, n₁⟩, matched, same⟩ := Except.map_eq_ok_iff.1 done
  simp only [Prod.mk.injEq] at same
  obtain ⟨rfl, rfl⟩ := same
  have counts := (draws_counting "SKIP" "skip" f.skip n₁).append
    (draws_counting "LIMIT" "limit" f.limit _)
  simpa using (draws_of_matching matched).append counts

/-- The slots of a statement are drawn between the supply before it and the supply after it. -/
theorem draws {op : Operation} (done : op.template o m supply = .ok (t, n)) :
    Draws (Namer.start supply) n t.slots := by
  cases op with
  | find search | findOne search =>
    obtain ⟨f, -, laid⟩ := Except.bind_eq_ok_iff.1 done
    exact draws_of_findTemplate laid
  | findById id | «exists» id | destroy id =>
    cases done
    exact draws_nodeTemplate o m id _ supply
  | count condition | destroyAll condition =>
    obtain ⟨p, -, laid⟩ := Except.bind_eq_ok_iff.1 done
    exact draws_of_nodesTemplate laid
  | create data =>
    obtain ⟨props, -, laid⟩ := Except.bind_eq_ok_iff.1 done
    cases laid
    exact .single _ "properties" props
  | save data | updateOrCreate data =>
    obtain ⟨id, -, laid⟩ := Except.bind_eq_ok_iff.1 done
    obtain ⟨props, -, laid⟩ := Except.bind_eq_ok_iff.1 laid
    cases laid
    exact draws_mergeTemplate o m id props _ supply
  | updateAttributes id data =>
    obtain ⟨props, -, laid⟩ := Except.bind_eq_ok_iff.1 done
    cases laid
    rw [Template.slots_append]
    exact (draws_nodeTemplate o m id "" supply).append (draws_setting o props _ _)
  | updateAll condition data =>
    obtain ⟨p, -, laid⟩ := Except.bind_eq_ok_iff.1 done
    obtain ⟨⟨head, n₁⟩, matched, laid⟩ := Except.bind_eq_ok_iff.1 laid
    obtain ⟨props, -, laid⟩ := Except.bind_eq_ok_iff.1 laid
    cases laid
    rw [Template.slots_append]
    exact (draws_of_matching matched).append (draws_setting o props _ _)

end Operation

/-! ### Places -/

/-- An expression shows each of its values once. -/
theorem Expression.places_template (e : Expression Slot) :
    e.template.places = e.template.slots := by
  induction e with
  | test node key t => simpa [template] using t.places_template
  | paren e ih => simpa [template] using ih
  | negation e ih => simpa [template] using ih
  | chain op es ih =>
    rw [template, Template.places_joined, Template.slots_joined, templates_eq_map,
      List.flatMap_map, List.flatMap_map]
    exact List.flatMap_congr ih

theorem places_of_matching {o : Options} {m : Model} {p : Option Predicate} {supply : Supply}
    {t : Template} {n : Namer} (done : matching o m p supply = .ok (t, n)) :
    t.places = t.slots := by
  obtain ⟨e, -, rfl⟩ := matching_eq_ok_iff.1 done
  cases e with
  | none => rfl
  | some e => exact e.places_template

theorem places_counting (word field : String) (count : Value) (n : Namer) :
    (counting word field count n).1.places = (counting word field count n).1.slots := by
  unfold counting
  split <;> rfl

namespace Operation

variable {o : Options} {m : Model} {n : Namer} {supply : Supply} {t : Template}

theorem places_of_nodesTemplate {p : Option Predicate} {rest : String}
    (done : nodesTemplate o m p rest supply = .ok (t, n)) : t.places = t.slots := by
  obtain ⟨⟨head, n₁⟩, matched, same⟩ := Except.map_eq_ok_iff.1 done
  cases same
  simpa using places_of_matching matched

theorem places_of_findTemplate {f : Filter} (done : findTemplate o m f supply = .ok (t, n)) :
    t.places = t.slots := by
  obtain ⟨⟨head, n₁⟩, matched, same⟩ := Except.map_eq_ok_iff.1 done
  simp only [Prod.mk.injEq] at same
  obtain ⟨rfl, rfl⟩ := same
  simp [places_of_matching matched, places_counting]

/-- A statement shows each of its values once, or one of them a second time at its end. -/
theorem places_eq {op : Operation} (done : op.template o m supply = .ok (t, n)) :
    t.places = t.slots ∨ ∃ s ∈ t.slots, t.places = t.slots ++ [s] := by
  cases op with
  | find search | findOne search =>
    obtain ⟨f, -, laid⟩ := Except.bind_eq_ok_iff.1 done
    exact .inl (places_of_findTemplate laid)
  | findById id | «exists» id | destroy id =>
    cases done
    exact .inl rfl
  | count condition | destroyAll condition =>
    obtain ⟨p, -, laid⟩ := Except.bind_eq_ok_iff.1 done
    exact .inl (places_of_nodesTemplate laid)
  | create data =>
    obtain ⟨props, -, laid⟩ := Except.bind_eq_ok_iff.1 done
    cases laid
    exact .inl rfl
  | save data | updateOrCreate data =>
    obtain ⟨id, -, laid⟩ := Except.bind_eq_ok_iff.1 done
    obtain ⟨props, -, laid⟩ := Except.bind_eq_ok_iff.1 laid
    cases laid
    exact .inr ⟨_, List.mem_cons_of_mem _ List.mem_cons_self, rfl⟩
  | updateAttributes id data =>
    obtain ⟨props, -, laid⟩ := Except.bind_eq_ok_iff.1 done
    cases laid
    exact .inl rfl
  | updateAll condition data =>
    obtain ⟨p, -, laid⟩ := Except.bind_eq_ok_iff.1 done
    obtain ⟨⟨head, n₁⟩, matched, laid⟩ := Except.bind_eq_ok_iff.1 laid
    obtain ⟨props, -, laid⟩ := Except.bind_eq_ok_iff.1 laid
    cases laid
    refine .inl ?_
    rw [Template.places_append, Template.slots_append, places_of_matching matched]
    rfl

theorem mem_slots_of_mem_places {op : Operation} (done : op.template o m supply = .ok (t, n))
    {s : Slot} (place : s ∈ t.places) : s ∈ t.slots := by
  rcases places_eq done with once | ⟨again, bound, twice⟩
  · rwa [once] at place
  · rw [twice, List.mem_append, List.mem_singleton] at place
    rcases place with first | rfl
    · exact first
    · exact bound

end Operation

end GraphMapper.Query
