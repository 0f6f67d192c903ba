import GraphMapper.Model.Declaration
import GraphMapper.Proofs.Results
import GraphMapper.Proofs.Schema.Declarations
import GraphMapper.Schema.Migration

/-!
# Which declarations of indexes are refused

The declaration of a model is checked before it is used, but what it puts under the names of its
indexes is not looked at. So a model that passed the check may still have no requirement. There are
two ways to be refused: the keys of an index are a value without items, or an index with a single
key has options that are no mapping. Whatever else is there is read: a declaration that is no mapping
is passed over, and keys or options that count as false are taken for none.

## Main definitions

* `Value.hasItems` — a value that can be run through
* `Schema.Refused` — why the declaration under a name cannot be read
* `Schema.declaredUnder` — the declarations under the names of indexes

## Main results

* `Requirement.addNamed_eq_error_iff` — what is not refused is read
* `Requirement.ofModel_mappings` — only mappings are looked at
* `Requirement.refused_iff` — a checked model has a requirement unless an index is refused
-/

namespace GraphMapper

/-! ### Values with items -/

/-- The value can be run through. -/
def Value.hasItems : Value → Bool
  | .list _ | .tuple _ | .set _ | .map _ | .text _ => true
  | _ => false

theorem Value.items_eq_error_iff {v : Value} {fault : ShapeFault} :
    v.items = .error fault ↔ v.hasItems = false ∧ fault = .notIterable v.typeName := by
  cases v <;> simp [items, hasItems, eq_comm]

theorem Value.member_eq_error_iff {v : Value} {key : String} {fault : ShapeFault} :
    v.member key = .error fault ↔ v.isMap = false ∧ fault = .noMember v.typeName "get" := by
  cases v <;> simp [member, isMap, eq_comm]

/-! ### Checked declarations -/

namespace Validation.Checked

variable {α β : Type} {c : Checked α} {c' : Checked β}

theorem zip_eq_ok_iff {p : α × β} : zip c c' = .ok p ↔ c = .ok p.1 ∧ c' = .ok p.2 := by
  cases c <;> cases c' <;> simp [zip, Prod.ext_iff]

theorem under_eq_ok_iff {name : String} {a : α} : under name c = .ok a ↔ c = .ok a := by
  cases c <;> simp [under]

theorem map_eq_ok_iff {f : α → β} {b : β} : c.map f = .ok b ↔ ∃ a, c = .ok a ∧ f a = b := by
  cases c <;> simp [Except.map]

theorem orElse_eq_ok_iff {d : Checked α} {a : α} :
    orElse c d = .ok a ↔ c = .ok a ∨ (∃ issues, c = .error issues) ∧ d = .ok a := by
  cases c <;> cases d <;> simp [orElse]

theorem forall₂_of_all {cs : List (Checked α)} {as : List α} (passed : all cs = .ok as) :
    List.Forall₂ (fun c a => c = .ok a) cs as := by
  induction cs generalizing as with
  | nil =>
    cases passed
    exact .nil
  | cons c cs ih =>
    obtain ⟨⟨a, others⟩, both, rfl⟩ := map_eq_ok_iff.1 passed
    obtain ⟨first, later⟩ := zip_eq_ok_iff.1 both
    exact .cons first (ih later)

end Validation.Checked

namespace Schema

open Validation

/-- The declarations under the names of indexes. -/
def namedIn : Model.Indexes → List Value
  | .named entries => entries.map (·.2)
  | .fields _ => []

/-- The values of a mapping. -/
def valuesOf : Value → List Value
  | .map entries => entries.map (·.2)
  | _ => []

/-- The declarations under the names of indexes, as they stand in the declaration of a model. -/
def declaredUnder : Value → List Value
  | .map entries => valuesOf (Value.getD entries "indexes")
  | _ => []

/-- The check of a mapping leaves the values as they are. -/
theorem map_snd_of_mapping {entries : Value.Entries} {named : List (String × Value)}
    (passed : mapping (.map entries) = .ok named) : named.map (·.2) = entries.map (·.2) := by
  have pairs := List.forall₂_map_left_iff.1 (Checked.forall₂_of_all passed)
  clear passed
  induction pairs with
  | nil => rfl
  | cons first _ ih =>
    obtain ⟨name, -, rfl⟩ := Checked.map_eq_ok_iff.1 first
    rw [List.map_cons, List.map_cons, ih]

theorem namedIn_of_declaredIndexes {v : Value} {indexes : Model.Indexes}
    (passed : Model.declaredIndexes v = .ok indexes) :
    namedIn indexes = valuesOf v := by
  -- indexes are checked as a mapping first, and as a list of fields only if they are none
  rcases Checked.orElse_eq_ok_iff.1 passed with read | ⟨-, read⟩
  · obtain ⟨named, checked, rfl⟩ := Checked.map_eq_ok_iff.1 read
    have checked := Checked.under_eq_ok_iff.1 checked
    cases v with
    | map entries => exact map_snd_of_mapping checked
    | _ => cases checked
  · obtain ⟨names, checked, rfl⟩ := Checked.map_eq_ok_iff.1 read
    have checked := Checked.under_eq_ok_iff.1 checked
    cases v with
    | map entries => cases checked
    | _ => rfl

/-- A checked model has the declarations that were written. -/
theorem namedIn_of_declared {spec : Value} {m : Model} (accepted : Model.declared spec = .ok m) :
    namedIn m.indexes = declaredUnder spec := by
  cases spec with
  | map entries =>
    obtain ⟨⟨name, properties, label, indexes⟩, passed, rfl⟩ := Checked.map_eq_ok_iff.1 accepted
    simp only [Checked.zip_eq_ok_iff] at passed
    obtain ⟨-, -, -, passed⟩ := passed
    rw [Model.declaredField] at passed
    rw [declaredUnder, Value.getD]
    cases found : Value.get? entries "indexes" with
    | some v =>
      rw [found] at passed
      exact namedIn_of_declaredIndexes (Checked.under_eq_ok_iff.1 passed)
    | none =>
      rw [found] at passed
      cases passed
      rfl
  | _ => cases accepted

/-! ### Refusals -/

/-- Why the declaration under a name cannot be read. -/
inductive Refused : Value → ShapeFault → Prop
  /-- Its keys count as true and cannot be run through. -/
  | keys {entries : Value.Entries} {keys : Value} : Value.get? entries "keys" = some keys →
      keys.truthy = true → keys.hasItems = false →
      Refused (.map entries) (.notIterable keys.typeName)
  /-- It has a single key, and its options count as true and are no mapping. -/
  | options {entries : Value.Entries} {keys key options : Value} :
      Value.get? entries "keys" = some keys → keysIn keys = [key] →
      Value.getD entries "options" = options → options.truthy = true → options.isMap = false →
      Refused (.map entries) (.noMember options.typeName "get")

/-- The first of some declarations that cannot be read, and why. -/
def FirstRefused (vs : List Value) (fault : ShapeFault) : Prop :=
  ∃ before v after, vs = before ++ v :: after ∧ (∀ u ∈ before, ∀ fault, ¬ Refused u fault) ∧
    Refused v fault

/-- The indexes without those that are declared by anything but a mapping. -/
def mappingsIn : Model.Indexes → Model.Indexes
  | .named entries => .named (entries.filter (·.2.isMap))
  | .fields names => .fields names

namespace Requirement

variable {d : Declared} {v keys options : Value} {fault : ShapeFault}

/-- What the empty mapping is fit for, a value is unfit for only if it counts as true. -/
theorem orEmpty_unfit_iff {fit : Value → Bool} (empty : fit (.map []) = true) :
    fit (orEmpty v) = false ↔ v.truthy = true ∧ fit v = false := by
  rw [orEmpty]
  split <;> simp_all

theorem orEmpty_of_truthy (counts : v.truthy = true) : orEmpty v = v := if_pos counts

theorem keysIn_eq_singleton_iff {key : Value} :
    keysIn keys = [key] ↔ (orEmpty keys).items = .ok [key] := by
  rw [keysIn]
  cases (orEmpty keys).items <;> simp [Except.toOption]

theorem items_orEmpty_eq_error_iff :
    (orEmpty keys).items = .error fault ↔
      keys.truthy = true ∧ keys.hasItems = false ∧ fault = .notIterable keys.typeName := by
  rw [Value.items_eq_error_iff, orEmpty_unfit_iff rfl, and_assoc]
  refine and_congr_right fun counts => ?_
  rw [orEmpty_of_truthy counts]

theorem member_orEmpty_eq_error_iff {key : String} :
    (orEmpty options).member key = .error fault ↔
      options.truthy = true ∧ options.isMap = false ∧ fault = .noMember options.typeName "get" := by
  rw [Value.member_eq_error_iff, orEmpty_unfit_iff rfl, and_assoc]
  refine and_congr_right fun counts => ?_
  rw [orEmpty_of_truthy counts]

/-- Only the options of an index with a single key are looked at. -/
theorem addKeys_eq_error_iff :
    addKeys d keys options = .error fault ↔
      (orEmpty keys).items = .error fault ∨
      (∃ key, keysIn keys = [key]) ∧ (orEmpty options).member "unique" = .error fault := by
  simp only [keysIn_eq_singleton_iff]
  rw [addKeys]
  -- an index without keys declares nothing, one with several is declared whatever its options
  rcases (orEmpty keys).items with fault' | listed
  · simp [bind, Except.bind]
  · rcases listed with _ | ⟨key, _ | ⟨other, more⟩⟩
    · simp [bind, Except.bind]
    · cases (orEmpty options).member "unique" <;> simp [bind, Except.bind]
    · simp [bind, Except.bind]

/-- A declaration under a name is read unless it is refused. -/
theorem addNamed_eq_error_iff : addNamed d v = .error fault ↔ Refused v fault := by
  cases v with
  | map entries =>
    rw [addNamed]
    constructor
    · intro failed
      cases keyed : Value.get? entries "keys" with
      | none => simp [keyed] at failed
      | some keys =>
        rw [keyed] at failed
        rcases addKeys_eq_error_iff.1 failed with unfit | ⟨⟨key, single⟩, unfit⟩
        · obtain ⟨counts, without, rfl⟩ := items_orEmpty_eq_error_iff.1 unfit
          exact .keys keyed counts without
        · obtain ⟨counts, without, rfl⟩ := member_orEmpty_eq_error_iff.1 unfit
          exact .options keyed single rfl counts without
    · intro refused
      cases refused with
      | keys keyed counts without =>
        rw [keyed]
        exact addKeys_eq_error_iff.2 (.inl (items_orEmpty_eq_error_iff.2 ⟨counts, without, rfl⟩))
      | options keyed single same counts without =>
        subst same
        rw [keyed]
        exact addKeys_eq_error_iff.2
          (.inr ⟨⟨_, single⟩, member_orEmpty_eq_error_iff.2 ⟨counts, without, rfl⟩⟩)
  | _ =>
    constructor <;> intro refused <;> cases refused

/-- The declarations under names are taken in one after the other. -/
theorem addIndexes_named (d : Declared) (entries : List (String × Value)) :
    addIndexes d (.named entries) = (namedIn (.named entries)).foldlM addNamed d := by
  rw [namedIn, List.foldlM_map]
  rfl

theorem exists_addIndexes_iff {indexes : Model.Indexes} :
    (∃ d', addIndexes d indexes = .ok d') ↔ ∀ v ∈ namedIn indexes, ∀ fault, ¬ Refused v fault := by
  cases indexes with
  | fields names => simp [addIndexes, namedIn]
  | named entries =>
    rw [addIndexes_named]
    exact exists_foldlM_iff (R := Refused) fun _ _ _ => addNamed_eq_error_iff

theorem addIndexes_eq_error_iff {indexes : Model.Indexes} :
    addIndexes d indexes = .error fault ↔ FirstRefused (namedIn indexes) fault := by
  cases indexes with
  | fields names => simp [addIndexes, namedIn, FirstRefused]
  | named entries =>
    rw [addIndexes_named]
    exact foldlM_eq_error_iff (R := Refused) fun _ _ _ => addNamed_eq_error_iff

/-- What is no mapping is passed over. -/
theorem addIndexes_mappings (d : Declared) (indexes : Model.Indexes) :
    addIndexes d (mappingsIn indexes) = addIndexes d indexes := by
  cases indexes with
  | fields names => rfl
  | named entries =>
    rw [mappingsIn, addIndexes, addIndexes]
    induction entries generalizing d with
    | nil => rfl
    | cons e rest ih =>
      obtain ⟨name, v⟩ := e
      cases v with
      | map entries =>
        rw [List.filter_cons_of_pos rfl, List.foldlM_cons, List.foldlM_cons]
        exact bind_congr ih
      | _ =>
        rw [List.filter_cons_of_neg (by simp [Value.isMap]), List.foldlM_cons, ih]
        rfl

/-! ### Models -/

theorem exists_ofModel_iff {m : Model} :
    (∃ r, ofModel m = .ok r) ↔ ∀ v ∈ namedIn m.indexes, ∀ fault, ¬ Refused v fault := by
  rw [← exists_addIndexes_iff (d := ⟨[.text m.idName], []⟩), ofModel]
  cases addIndexes ⟨[.text m.idName], []⟩ m.indexes <;> simp [bind, Except.bind]

theorem ofModel_eq_error_iff {m : Model} :
    ofModel m = .error fault ↔ FirstRefused (namedIn m.indexes) fault := by
  rw [← addIndexes_eq_error_iff (d := ⟨[.text m.idName], []⟩), ofModel]
  cases addIndexes ⟨[.text m.idName], []⟩ m.indexes <;> simp [bind, Except.bind]

theorem ofModel_mappings (m : Model) :
    ofModel { m with indexes := mappingsIn m.indexes } = ofModel m := by
  rw [ofModel, ofModel, addIndexes_mappings]
  rfl

/-- A model that has no requirement ends every plan and every migration that it is part of, before
anything is carried out. -/
theorem exists_ends_of_error {models : List Model} {m : Model} (member : m ∈ models)
    (failed : ofModel m = .error fault) :
    ∃ first, Schema.requirements models = .error (.shape first) ∧
      ∀ {σ : Type} (g : Migrator σ) (mode : Mode) (run : Run σ),
        (g.migrate mode models).perform run = (.error (.shape first), run) := by
  obtain ⟨first, ended⟩ : ∃ first, Schema.requirements models = .error (.shape first) := by
    rw [Schema.requirements]
    cases each : models.mapM ofModel with
    | error first => exact ⟨first, rfl⟩
    | ok rs =>
      obtain ⟨r, -, found⟩ := exists_of_mem_items each member
      rw [failed] at found
      cases found
  refine ⟨first, ended, fun g mode run => ?_⟩
  rw [Migrator.migrate, Act.perform_bind, Act.perform_result, ended]

/-- A checked model has a requirement exactly if none of the declarations under the names of its
indexes is refused, and otherwise fails for the first of them that is. Declarations that are no
mappings are passed over. A failure is the one of an operation that the value under `keys` or
`options` does not have, and ends plans and migrations as it is. -/
theorem refused_iff {spec : Value} {m : Model} (accepted : Model.declared spec = .ok m) :
    ((∃ r, ofModel m = .ok r) ↔ ∀ v ∈ declaredUnder spec, ∀ fault, ¬ Refused v fault) ∧
    ofModel { m with indexes := mappingsIn m.indexes } = ofModel m ∧
    ∀ fault, (ofModel m = .error fault ↔ FirstRefused (declaredUnder spec) fault) ∧
      (ofModel m = .error fault →
        (Fault.kindOfShape fault = .type ∨ Fault.kindOfShape fault = .member) ∧
        ∀ models, m ∈ models → ∃ first, Schema.requirements models = .error (.shape first) ∧
          ∀ {σ : Type} (g : Migrator σ) (mode : Mode) (run : Run σ),
            (g.migrate mode models).perform run = (.error (.shape first), run)) := by
  rw [← namedIn_of_declared accepted]
  refine ⟨exists_ofModel_iff, ofModel_mappings m, fun fault => ⟨ofModel_eq_error_iff, ?_⟩⟩
  intro failed
  refine ⟨?_, fun models member => exists_ends_of_error member failed⟩
  obtain ⟨before, v, after, -, -, refused⟩ := ofModel_eq_error_iff.1 failed
  cases refused with
  | keys => exact .inl rfl
  | options => exact .inr rfl

/-- An index by fields, something that is no mapping, a number for keys, and a list for options: the
number is what is refused. -/
theorem refused_iff_number :
    let keyed (keys options : Value) : Value :=
      .map [(.text "keys", keys), (.text "options", options)]
    let spec : Value := .map
      [(.text "name", .text "User"),
        (.text "indexes", .map
          [(.text "ages", .map [(.text "age", .int (-1))]), (.text "none", .text "email"),
            (.text "odd", keyed (.int 5) .null),
            (.text "later", keyed (.list [.text "mail"]) (.list [.int 1]))])]
    ∃ m, Model.declared spec = .ok m ∧ FirstRefused (declaredUnder spec) (.notIterable "int") ∧
      Schema.requirements [m] = .error (.shape (.notIterable "int")) := by
  intro keyed spec
  have accepted : Model.declared spec = .ok
      { name := "User"
        indexes := .named
          [("ages", .map [(.text "age", .int (-1))]), ("none", .text "email"),
            ("odd", keyed (.int 5) .null),
            ("later", keyed (.list [.text "mail"]) (.list [.int 1]))] } := by
    with_unfolding_all rfl
  have first : FirstRefused (declaredUnder spec) (.notIterable "int") := by
    refine ⟨[.map [(.text "age", .int (-1))], .text "email"], keyed (.int 5) .null,
      [keyed (.list [.text "mail"]) (.list [.int 1])], by with_unfolding_all rfl, ?_, ?_⟩
    · rintro u member fault refused
      simp only [List.mem_cons, List.not_mem_nil, or_false] at member
      rcases member with rfl | rfl
      · have unkeyed : Value.get? [(.text "age", .int (-1))] "keys" = none := by
          with_unfolding_all rfl
        cases refused with
        | keys found | options found => simp [unkeyed] at found
      · cases refused
    · have numbered : Value.get? [(.text "keys", .int 5), (.text "options", .null)] "keys" =
          some (.int 5) := by
        with_unfolding_all rfl
      exact .keys numbered rfl rfl
  obtain ⟨-, -, faults⟩ := refused_iff accepted
  have failed := (faults (.notIterable "int")).1.2 first
  refine ⟨_, accepted, first, ?_⟩
  rw [Schema.requirements, List.mapM_cons, failed]
  rfl

end Requirement

end Schema

end GraphMapper
