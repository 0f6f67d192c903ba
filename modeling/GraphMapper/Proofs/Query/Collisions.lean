import GraphMapper.Proofs.Query.Values

/-!
# Collisions of names

Two values of a statement that are bound to one name are one value too few: the later one takes the
place of the earlier one. Fresh identifiers do not rule this out, since the index of an item stands
behind its identifier with nothing in between. A statement keeps all its values exactly if no slot
runs into another, and statements share no name exactly if none of their slots do.

## Main definitions

* `Query.Slot.Apart` — neither slot runs into the other

## Main results

* `Operation.keepsValues_compile` — when the statements of operations keep all their values
-/

namespace GraphMapper.Query

/-! ### Slots apart -/

namespace Slot

/-- Neither slot runs into the other. -/
def Apart (a b : Slot) : Prop := ¬ a.RunsInto b ∧ ¬ b.RunsInto a

variable {a b : Slot}

/-- Slots drawn at different times or for different items have the same name only if they are not
apart. -/
theorem apart_iff_name_ne (length : a.hex.length = b.hex.length)
    (differ : (a.hex, a.index?) ≠ (b.hex, b.index?)) : a.Apart b ↔ a.name ≠ b.name := by
  rw [Ne, name_eq_iff length, Apart, ← not_or]
  refine not_congr ⟨.inr, fun same => same.resolve_left fun agree => differ ?_⟩
  rw [agree.2.1, agree.2.2]

/-- Only an item of a list can fail to be apart from another slot. -/
theorem apart_of_index?_eq_none (length : a.hex.length = b.hex.length) (first : a.index? = none)
    (second : b.index? = none) : a.Apart b :=
  ⟨fun runs => runs.index?_ne_none length second,
    fun runs => runs.index?_ne_none length.symm first⟩

end Slot

namespace Draws

variable {n n' : Namer} {slots : List Slot}

theorem length_hex (draws : Draws n n' slots) (hex : n.supply.Hexadecimal) {s : Slot}
    (member : s ∈ slots) : s.hex.length = 32 := by
  obtain ⟨k, -, same⟩ := draws.exists_hex_eq member
  rw [same]
  exact (hex k).1

/-- Slots drawn from one supply have different names exactly if they are apart. -/
theorem nodup_names_iff (draws : Draws n n' slots) (hex : n.supply.Hexadecimal)
    (distinct : Set.InjOn n.supply.hex (Set.Ico n.supply.drawn n'.supply.drawn)) :
    (slots.map Slot.name).Nodup ↔ slots.Pairwise Slot.Apart := by
  have keys := draws.nodup_keys distinct
  rw [List.Nodup, List.pairwise_map] at keys ⊢
  have length {a b : Slot} (left : a ∈ slots) (right : b ∈ slots) :
      a.hex.length = b.hex.length := by
    rw [draws.length_hex hex left, draws.length_hex hex right]
  constructor
  · intro names
    refine (names.and keys).imp_of_mem fun left right both => ?_
    exact (Slot.apart_iff_name_ne (length left right) both.2).2 both.1
  · intro apart
    refine (apart.and keys).imp_of_mem fun left right both => ?_
    exact (Slot.apart_iff_name_ne (length left right) both.2).1 both.1

end Draws

/-! ### Templates -/

namespace Template

theorem mem_names_params {t : Template} {name : String} :
    name ∈ t.params.names ↔ ∃ s ∈ t.slots, s.name = name := by
  rw [names_params, List.mem_eraseDups, List.mem_map]

theorem disjoint_names_params_iff {t u : Template} :
    t.params.names.Disjoint u.params.names ↔ ∀ a ∈ t.slots, ∀ b ∈ u.slots, a.name ≠ b.name := by
  constructor
  · intro disjoint a left b right same
    exact disjoint (mem_names_params.2 ⟨a, left, rfl⟩) (mem_names_params.2 ⟨b, right, same.symm⟩)
  · intro differ name left right
    obtain ⟨a, first, rfl⟩ := mem_names_params.1 left
    obtain ⟨b, second, same⟩ := mem_names_params.1 right
    exact differ a first b second same.symm

end Template

/-! ### Statements -/

namespace Operation

variable {o : Options} {m : Model} {supply rest : Supply} {op : Operation} {st : Statement}

/-- A statement has a parameter for each of its values, and every place in its text looks up its own
value, exactly if its slots are apart, which only an item of a list can prevent. It shares no name
with a statement made later from the same supply exactly if their slots are apart. -/
theorem keepsValues_compile (hex : supply.Hexadecimal)
    (distinct : Set.InjOn supply.hex (Set.Ico supply.drawn rest.drawn))
    (done : op.compile o m supply = .ok (st, rest)) :
    ∃ t n, op.template o m supply = .ok (t, n) ∧ st.text = t.text ∧
      t.slots.map Slot.value = op.values o m ∧
      ((st.params.length = (op.values o m).length ∧
          ∀ s ∈ t.places, st.params.value? s.name = some s.value) ↔
        t.slots.Pairwise Slot.Apart) ∧
      (∀ a ∈ t.slots, ∀ b ∈ t.slots, ¬ a.Apart b → a.index? ≠ none ∨ b.index? ≠ none) ∧
      ∀ (o₂ : Options) (m₂ : Model) (supply₂ rest₂ : Supply) (op₂ : Operation) (st₂ : Statement),
        supply₂.hex = supply.hex → rest.drawn ≤ supply₂.drawn →
        Set.InjOn supply.hex (Set.Ico supply.drawn rest₂.drawn) →
        op₂.compile o₂ m₂ supply₂ = .ok (st₂, rest₂) →
        ∃ t₂ n₂, op₂.template o₂ m₂ supply₂ = .ok (t₂, n₂) ∧
          (st.params.names.Disjoint st₂.params.names ↔
            ∀ a ∈ t.slots, ∀ b ∈ t₂.slots, a.Apart b) := by
  obtain ⟨t, n, laid, rfl, rfl⟩ := exists_template_of_compile done
  -- no identifier was drawn twice with one index, so equal names are a matter of running into
  have drawn := draws laid
  have values := map_value_slots laid
  have count : t.slots.length = (op.values o m).length := by rw [← values, List.length_map]
  refine ⟨t, n, laid, rfl, values, ?kept, ?items, ?shared⟩
  case kept =>
    rw [← drawn.nodup_names_iff hex distinct, ← Template.keepsValues_iff, ← count]
    refine and_congr_right fun counted => ⟨fun _ => ?_, fun found s place => ?_⟩
    · exact (Template.keepsValues_iff.2 (Template.length_params_eq_iff.1 counted)).2
    · exact found s (mem_slots_of_mem_places laid place)
  case items =>
    intro a left b right collide
    by_contra neither
    rw [not_or, not_not, not_not] at neither
    have length : a.hex.length = b.hex.length := by
      rw [drawn.length_hex hex left, drawn.length_hex hex right]
    exact collide (Slot.apart_of_index?_eq_none length neither.1 neither.2)
  case shared =>
    intro o₂ m₂ supply₂ rest₂ op₂ st₂ same later distinct₂ done₂
    obtain ⟨t₂, n₂, laid₂, rfl, rfl⟩ := exists_template_of_compile done₂
    have drawn₂ := draws laid₂
    refine ⟨t₂, n₂, laid₂, ?_⟩
    rw [Template.disjoint_names_params_iff]
    refine forall₄_congr fun a left b right => (Slot.apart_iff_name_ne ?_ ?_).symm
    · rw [drawn.length_hex hex left, drawn₂.length_hex (fun k => same ▸ hex k) right]
    · intro keys
      exact drawn.hex_ne_of_mem drawn₂ same later distinct₂ left right (congrArg Prod.fst keys)

/-- The only item for `a` and the value of `a0` have the same name, and the item is lost. -/
theorem keepsValues_compile_count :
    let range : Value := .map [(.text "b", .map [(.text "between", .list [.int 1, .int 2])])]
    let op : Operation := .count (.value (.map
      [(.text "a", .map [(.text "inq", .list [.text "wanted"])]),
        (.text "and", .list (List.replicate 7 range)), (.text "a0", .text "other")]))
    ∃ st rest t n, op.compile {} { name := "M" } .counting = .ok (st, rest) ∧
      op.template {} { name := "M" } .counting = .ok (t, n) ∧
      st.params.length = 15 ∧ (op.values {} { name := "M" }).length = 16 ∧
      ¬ t.slots.Pairwise Slot.Apart := by
  intro range op
  have compiles : (op.compile {} { name := "M" } .counting).isOk = true := by decide +kernel
  have sizes : (op.compile {} { name := "M" } .counting).toOption.map
      (fun done => (done.1.params.length, done.2.drawn)) = some (15, 16) := by decide +kernel
  have values : (op.values {} { name := "M" }).length = 16 := by decide +kernel
  obtain ⟨⟨st, rest⟩, done⟩ := Except.exists_eq_ok_of_isOk compiles
  rw [done] at sizes
  simp only [Except.toOption, Option.map_some, Option.some.injEq, Prod.mk.injEq] at sizes
  -- the identifiers are still all different, so it is not the supply that is to blame
  have distinct : Set.InjOn Supply.counting.hex (Set.Ico Supply.counting.drawn rest.drawn) := by
    intro i left j right same
    exact Supply.counting_inj (by have := left.2; omega) (by have := right.2; omega) same
  obtain ⟨t, n, laid, -, -, kept, -⟩ :=
    keepsValues_compile Supply.hexadecimal_counting distinct done
  refine ⟨st, rest, t, n, done, laid, sizes.1, values, fun apart => ?_⟩
  have counted := (kept.2 apart).1
  omega

end Operation

end GraphMapper.Query
