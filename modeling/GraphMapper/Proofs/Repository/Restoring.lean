import GraphMapper.Proofs.Repository.Rows
import GraphMapper.Proofs.Value.Entries

/-!
# Reading stored dates

Stored properties are read one date property after the other, in any order. Reading one of them
changes at most the value that stands under it, and reading it again changes nothing, so all orders
lead to the same properties: those that were stored, with points in time for the texts that denote
one.

## Main definitions

* `Model.HoldsTime` — the properties that hold a point in time
* `Model.ReadAs` — what a stored value is read as

## Main results

* `Model.foldl_restoreProperty_congr` — the order in which properties are read does not matter
* `Model.readAs_restored` — each value of the result is what the stored one is read as
* `Repository.restores_times_only` — reading stored properties changes dates only, and only once
-/

namespace GraphMapper

namespace Model

variable {m : Model} {entries : Value.Entries} {name other : String} {names names' : List String}

/-! ### One property -/

/-- The property is declared as a date, or is a time stamp. -/
inductive HoldsTime (m : Model) : String → Prop
  | typed {name : String} {p : Property} :
      (name, p) ∈ m.properties → p.type = "date" → HoldsTime m name
  | created : HoldsTime m "created"
  | lastUpdated : HoldsTime m "lastUpdated"

theorem mem_dateProperties_iff : name ∈ m.dateProperties ↔ m.HoldsTime name := by
  rw [dateProperties, List.mem_eraseDups, List.mem_append]
  constructor
  · rintro (declared | stamp)
    · obtain ⟨p, member, rfl⟩ := List.mem_map.1 declared
      obtain ⟨member, typed⟩ := List.mem_filter.1 member
      exact .typed member (beq_iff_eq.1 typed)
    · simp only [timestamps, List.mem_cons, List.not_mem_nil, or_false] at stamp
      rcases stamp with rfl | rfl
      · exact .created
      · exact .lastUpdated
  · rintro (⟨member, typed⟩ | _ | _)
    · exact .inl (List.mem_map.2 ⟨_, List.mem_filter.2 ⟨member, beq_iff_eq.2 typed⟩, rfl⟩)
    · exact .inr (by simp [timestamps])
    · exact .inr (by simp [timestamps])

/-- A stored value under a key is read as a value: under a property that holds a point in time a
text is the point that it denotes, and what denotes none is left as it is. -/
inductive ReadAs (m : Model) : (key stored read : Value) → Prop
  | time {name s : String} {t : DateTime} : m.HoldsTime name → s ≠ "" → timeOf? s = some t →
      ReadAs m (.text name) (.text s) (.datetime t)
  | kept {key v : Value} :
      (∀ name s, key = .text name → m.HoldsTime name → v = .text s → timeOf? s = none) →
      ReadAs m key v v

theorem readAs_restoreValue (holds : m.HoldsTime name) (v : Value) :
    m.ReadAs (.text name) v (restoreValue v) := by
  cases v with
  | text s =>
    rw [restoreValue]
    cases denoted : timeOf? s with
    | none =>
      refine .kept fun _ s' _ _ same => ?_
      cases same
      exact denoted
    | some t =>
      refine .time holds ?_ denoted
      rintro rfl
      cases denoted
  | _ => exact .kept fun _ _ _ _ same => by cases same

/-- A value that has been read is read as itself. -/
theorem restoreValue_restoreValue (v : Value) : restoreValue (restoreValue v) = restoreValue v := by
  cases v with
  | text s =>
    rw [restoreValue]
    cases denoted : timeOf? s with
    | none => simp only [restoreValue, denoted]
    | some t => rfl
  | _ => rfl

@[simp] theorem restoreProperty_nil (name : String) : restoreProperty [] name = [] := rfl

/-- The property is read where it stands first. -/
theorem restoreProperty_cons (k v : Value) (rest : Value.Entries) (name : String) :
    restoreProperty ((k, v) :: rest) name =
      if k.equals (.text name) then (k, restoreValue v) :: rest
      else (k, v) :: restoreProperty rest name := by
  simp only [restoreProperty, Value.get?, Value.lookup?_cons, Value.insert]
  by_cases here : k.equals (.text name) = true
  · simp only [if_pos here]
  · simp only [if_neg here]
    cases Value.lookup? rest (.text name) <;> rfl

theorem keys_restoreProperty (entries : Value.Entries) (name : String) :
    (restoreProperty entries name).map Prod.fst = entries.map Prod.fst := by
  induction entries with
  | nil => rfl
  | cons e rest ih =>
    rw [restoreProperty_cons]
    split
    · rfl
    · rw [List.map_cons, ih, List.map_cons]

/-- Reading a property changes the value under it. -/
theorem lookup?_restoreProperty_self (entries : Value.Entries) (name : String) :
    Value.lookup? (restoreProperty entries name) (.text name) =
      (Value.lookup? entries (.text name)).map restoreValue := by
  induction entries with
  | nil => rfl
  | cons e rest ih =>
    rw [restoreProperty_cons, Value.lookup?_cons]
    split
    · next here => rw [Value.lookup?_cons, if_pos here, Option.map_some]
    · next apart => rw [Value.lookup?_cons, if_neg apart, ih]

/-- Reading a property changes nothing under other keys. -/
theorem lookup?_restoreProperty_of_ne {key : Value} (differ : key ≠ .text name)
    (entries : Value.Entries) :
    Value.lookup? (restoreProperty entries name) key = Value.lookup? entries key := by
  induction entries with
  | nil => rfl
  | cons e rest ih =>
    obtain ⟨k, v⟩ := e
    rw [restoreProperty_cons, Value.lookup?_cons]
    split
    · next here =>
      -- what is read stands under a text, which equals no other key
      rw [Value.equals_text_iff] at here
      subst here
      have apart : ¬ (Value.text name).equals key = true := fun same =>
        differ (Value.text_equals_iff.1 same).symm
      rw [Value.lookup?_cons, if_neg apart, if_neg apart]
    · rw [Value.lookup?_cons, ih]

/-! ### Several properties -/

/-- A property that has been read is read once more without effect. -/
theorem restoreProperty_restoreProperty_self (entries : Value.Entries) (name : String) :
    restoreProperty (restoreProperty entries name) name = restoreProperty entries name := by
  induction entries with
  | nil => rfl
  | cons e rest ih =>
    rw [restoreProperty_cons]
    split
    · next here => rw [restoreProperty_cons, if_pos here, restoreValue_restoreValue]
    · next apart => rw [restoreProperty_cons, if_neg apart, ih]

/-- Two properties may be read in either order. -/
theorem restoreProperty_comm (entries : Value.Entries) (name other : String) :
    restoreProperty (restoreProperty entries name) other =
      restoreProperty (restoreProperty entries other) name := by
  by_cases same : name = other
  · rw [same]
  induction entries with
  | nil => rfl
  | cons e rest ih =>
    obtain ⟨k, v⟩ := e
    -- an entry stands under one of the two properties at most
    by_cases here : k.equals (.text name) = true
    · have apart : ¬ k.equals (.text other) = true := fun there =>
        same (Value.text.inj ((Value.equals_text_iff.1 here).symm.trans
          (Value.equals_text_iff.1 there)))
      simp only [restoreProperty_cons, if_pos here, if_neg apart]
    · by_cases there : k.equals (.text other) = true
      · simp only [restoreProperty_cons, if_neg here, if_pos there]
      · simp only [restoreProperty_cons, if_neg here, if_neg there, ih]

theorem keys_foldl_restoreProperty (entries : Value.Entries) (names : List String) :
    (names.foldl restoreProperty entries).map Prod.fst = entries.map Prod.fst := by
  induction names generalizing entries with
  | nil => rfl
  | cons n rest ih => rw [List.foldl_cons, ih, keys_restoreProperty]

theorem lookup?_foldl_restoreProperty (entries : Value.Entries) (names : List String)
    (name : String) :
    Value.lookup? (names.foldl restoreProperty entries) (.text name) =
      if name ∈ names then (Value.lookup? entries (.text name)).map restoreValue
      else Value.lookup? entries (.text name) := by
  induction names generalizing entries with
  | nil => rfl
  | cons n rest ih =>
    rw [List.foldl_cons, ih]
    by_cases first : name = n
    · subst first
      -- it does not matter whether the property is read once more
      have once : restoreValue ∘ restoreValue = restoreValue := funext restoreValue_restoreValue
      rw [lookup?_restoreProperty_self, Option.map_map, once, ite_self,
        if_pos List.mem_cons_self]
    · have apart : Value.text name ≠ .text n := fun same => first (Value.text.inj same)
      simp only [lookup?_restoreProperty_of_ne apart, List.mem_cons, first, false_or]

theorem lookup?_foldl_restoreProperty_of_ne {key : Value} (other : ∀ n ∈ names, key ≠ .text n)
    (entries : Value.Entries) :
    Value.lookup? (names.foldl restoreProperty entries) key = Value.lookup? entries key := by
  induction names generalizing entries with
  | nil => rfl
  | cons n rest ih =>
    rw [List.forall_mem_cons] at other
    rw [List.foldl_cons, ih other.2, lookup?_restoreProperty_of_ne other.1]

/-- A property that is read in any case may be read first. -/
theorem foldl_restoreProperty_of_mem (member : name ∈ names) (entries : Value.Entries) :
    names.foldl restoreProperty (restoreProperty entries name) =
      names.foldl restoreProperty entries := by
  induction names generalizing entries with
  | nil => cases member
  | cons n rest ih =>
    rw [List.foldl_cons, List.foldl_cons]
    rcases List.mem_cons.1 member with rfl | later
    · rw [restoreProperty_restoreProperty_self]
    · rw [restoreProperty_comm, ih later]

theorem foldl_restoreProperty_of_subset (within : names ⊆ names') (entries : Value.Entries) :
    names'.foldl restoreProperty (names.foldl restoreProperty entries) =
      names'.foldl restoreProperty entries := by
  induction names generalizing entries with
  | nil => rfl
  | cons n rest ih =>
    rw [List.cons_subset] at within
    rw [List.foldl_cons, ih within.2, foldl_restoreProperty_of_mem within.1]

/-- A property may be read before or after others. -/
theorem foldl_restoreProperty_restoreProperty (entries : Value.Entries) (names : List String)
    (name : String) :
    names.foldl restoreProperty (restoreProperty entries name) =
      restoreProperty (names.foldl restoreProperty entries) name := by
  induction names generalizing entries with
  | nil => rfl
  | cons n rest ih => rw [List.foldl_cons, restoreProperty_comm, ih, List.foldl_cons]

/-- Of two lists of properties either may be read first. -/
theorem foldl_restoreProperty_comm (entries : Value.Entries) (names names' : List String) :
    names'.foldl restoreProperty (names.foldl restoreProperty entries) =
      names.foldl restoreProperty (names'.foldl restoreProperty entries) := by
  induction names generalizing entries with
  | nil => rfl
  | cons n rest ih =>
    rw [List.foldl_cons, ih, foldl_restoreProperty_restoreProperty, List.foldl_cons]

/-- The order in which properties are read does not matter, nor does reading one twice. -/
theorem foldl_restoreProperty_congr (same : ∀ n, n ∈ names ↔ n ∈ names')
    (entries : Value.Entries) :
    names.foldl restoreProperty entries = names'.foldl restoreProperty entries := by
  calc names.foldl restoreProperty entries
      = names.foldl restoreProperty (names'.foldl restoreProperty entries) :=
        (foldl_restoreProperty_of_subset (fun n => (same n).2) entries).symm
    _ = names'.foldl restoreProperty (names.foldl restoreProperty entries) :=
        foldl_restoreProperty_comm entries names' names
    _ = names'.foldl restoreProperty entries :=
        foldl_restoreProperty_of_subset (fun n => (same n).1) entries

/-- Each value of the result is what the stored one is read as. -/
theorem readAs_restored {key v : Value} (stored : Value.lookup? entries key = some v) :
    ∃ w, Value.lookup? (m.restore entries) key = some w ∧ m.ReadAs key v w := by
  by_cases dated : ∃ n ∈ m.dateProperties, key = .text n
  · obtain ⟨n, member, rfl⟩ := dated
    refine ⟨restoreValue v, ?_, readAs_restoreValue (mem_dateProperties_iff.1 member) v⟩
    rw [restore, lookup?_foldl_restoreProperty, if_pos member, stored, Option.map_some]
  · have other : ∀ n ∈ m.dateProperties, key ≠ .text n := fun n member here =>
      dated ⟨n, member, here⟩
    refine ⟨v, ?_, .kept fun n s here holds _ => ?_⟩
    · rw [restore, lookup?_foldl_restoreProperty_of_ne other, stored]
    · exact absurd here (other n (mem_dateProperties_iff.2 holds))

end Model

namespace Repository

open Act (Yields)

variable {σ : Type} {name : Value} {m : Model}

/-- Reading stored properties yields the same keys in the same order. A value changes only if it is
a text that denotes a point in time and stands under a property that holds one, and then it is that
point. Neither the order in which the properties are read nor reading the result again makes a
difference. -/
theorem restores_times_only (r : Repository σ) (known : r.registry.get name = .ok m)
    (entries : Value.Entries) :
    ∃ result : Value.Entries,
      Yields (r.fromDatabase name (.map entries)) (.ok (.map result)) ∧
      result.map Prod.fst = entries.map Prod.fst ∧
      (∀ key v, Value.lookup? entries key = some v →
        ∃ w, Value.lookup? result key = some w ∧ m.ReadAs key v w) ∧
      (∀ names : List String, (∀ n, n ∈ names ↔ m.HoldsTime n) →
        names.foldl Model.restoreProperty entries = result) ∧
      Yields (r.fromDatabase name (.map result)) (.ok (.map result)) := by
  have again : m.restore (m.restore entries) = m.restore entries :=
    Model.foldl_restoreProperty_of_subset (List.Subset.refl _) entries
  refine ⟨m.restore entries, yields_fromDatabase known (.map entries),
    Model.keys_foldl_restoreProperty entries m.dateProperties,
    fun key v => Model.readAs_restored, fun names all => ?_, ?_⟩
  · exact Model.foldl_restoreProperty_congr
      (fun n => (all n).trans Model.mem_dateProperties_iff.symm) entries
  · have reread := yields_fromDatabase known (.map (m.restore entries))
    have whole : restored m (.map (m.restore entries)) = .ok (.map (m.restore entries)) := by
      rw [restored, if_neg (by exact Bool.false_ne_true), Value.entries, Except.map, again]
    rwa [whole] at reread

/-- A date with `Z` is read under a property of type `date`; the same text is left alone under a
property of another type, and so is a time stamp that denotes no point in time. -/
theorem restores_times_only_post :
    let m : Model := { name := "Post", properties := [("published", { type := "date" })] }
    let r : Repository Unit :=
      { registry := .ofList [m], options := {}, enterprise := false, clock := fun _ => 0,
        executor := { name := "Idle", execute := fun _ _ => pure (.list []), inspector? := none } }
    let text := "2024-05-01T10:00:00Z"
    let entries : Value.Entries :=
      [(.text "published", .text text), (.text "created", .text "soon"),
        (.text "title", .text text)]
    ∃ result : Value.Entries,
      Yields (r.fromDatabase (.text "Post") (.map entries)) (.ok (.map result)) ∧
      result.map Prod.fst = [.text "published", .text "created", .text "title"] ∧
      Value.lookup? result (.text "published") =
        some (.datetime ⟨⟨2024, 5, 1⟩, 10, 0, 0, 0, some 0⟩) ∧
      Value.lookup? result (.text "created") = some (.text "soon") ∧
      Value.lookup? result (.text "title") = some (.text text) := by
  intro m r text entries
  have known : r.registry.get (.text "Post") = .ok m := rfl
  obtain ⟨result, reads, keys, values, -, -⟩ := restores_times_only r known entries
  have denoted : Model.timeOf? text = some ⟨⟨2024, 5, 1⟩, 10, 0, 0, 0, some 0⟩ := by
    decide +kernel
  have unreadable : Model.timeOf? "soon" = none := by decide +kernel
  refine ⟨result, reads, keys, ?_, ?_, ?_⟩
  · obtain ⟨w, found, read⟩ := values (.text "published") (.text text)
      (by simp [entries, Value.lookup?, Value.equals])
    have dated : m.HoldsTime "published" := .typed List.mem_cons_self rfl
    cases read with
    | time _ _ given =>
      rw [denoted] at given
      cases given
      exact found
    | kept plain =>
      rw [plain _ _ rfl dated rfl] at denoted
      cases denoted
  · obtain ⟨w, found, read⟩ := values (.text "created") (.text "soon")
      (by simp [entries, Value.lookup?, Value.equals])
    cases read with
    | time _ _ given =>
      rw [unreadable] at given
      cases given
    | kept _ => exact found
  · obtain ⟨w, found, read⟩ := values (.text "title") (.text text)
      (by simp [entries, Value.lookup?, Value.equals])
    cases read with
    | time dated _ _ =>
      have stamped := Model.mem_dateProperties_iff.2 dated
      exact absurd stamped (by decide +kernel)
    | kept _ => exact found

end Repository

end GraphMapper
