import GraphMapper.Model.Registry
import GraphMapper.Proofs.Results
import Mathlib.Data.List.Nodup

/-!
# Selecting models

A registry has one model under each of its names. Models are selected by their names, or all of them
if no names are given, and the first name that is not registered is the fault of the selection.

## Main definitions

* `Registry.Knows` — names by which models can be selected

## Main results

* `Registry.nodup_names_ofList` — a registry that is made by registering models has each name once
* `Registry.exists_select` — models are selected by names that are known
* `Registry.exists_unknown` — otherwise the first unknown name is the fault
* `Registry.mapM_get_names` — all models are those of all names
-/

namespace GraphMapper.Registry

variable {r : Registry} {n : String} {names : Value}

/-! ### Names -/

theorem nodup_names_register (distinct : r.names.Nodup) (model : Model) :
    (r.register model).names.Nodup := by
  rw [names_register]
  split
  · exact distinct
  · next fresh =>
    rw [← List.concat_eq_append]
    exact distinct.concat fresh

/-- However models are registered, there is one under each name. -/
theorem nodup_names_ofList (models : List Model) : (ofList models).names.Nodup := by
  rw [ofList]
  have kept (r : Registry) (distinct : r.names.Nodup) :
      (models.foldl register r).names.Nodup := by
    induction models generalizing r with
    | nil => exact distinct
    | cons m rest ih => exact ih _ (nodup_names_register distinct m)
  exact kept empty List.nodup_nil

/-- Names by which models can be selected: none at all, or a list of registered ones, also with
repeats. -/
def Knows (r : Registry) (names : Value) : Prop :=
  names = .null ∨ ∃ ns : List String, names = .list (ns.map .text) ∧ ∀ n ∈ ns, n ∈ r.names

/-! ### Models -/

theorem get_of_get?_eq_some {m : Model} (found : r.get? n = some m) :
    r.get (.text n) = .ok m := by
  rw [get, if_pos (by rfl)]
  simp only [found]

/-- Under a registered name there is a model. -/
theorem exists_get (known : n ∈ r.names) :
    ∃ m, (n, m) ∈ r.models ∧ r.get (.text n) = .ok m := by
  obtain ⟨⟨n, m⟩, member, rfl⟩ := List.mem_map.1 known
  cases found : r.models.find? fun e => e.1 == n with
  | none =>
    rw [List.find?_eq_none] at found
    exact absurd (beq_self_eq_true n) (found _ member)
  | some e =>
    obtain rfl : e.1 = n := by simpa using List.find?_some found
    exact ⟨e.2, List.mem_of_find?_eq_some found, get_of_get?_eq_some (by rw [get?, found]; rfl)⟩

theorem get_of_unknown (unknown : n ∉ r.names) :
    r.get (.text n) = .error (.unknownModel (.text n)) := by
  have missing : r.get? n = none := by
    rw [get?, Option.map_eq_none_iff, List.find?_eq_none]
    rintro e member same
    rw [beq_iff_eq] at same
    exact unknown (same ▸ List.mem_map_of_mem member)
  rw [get, if_pos (by rfl)]
  simp only [missing]

/-- Names in a list are looked up one by one, if there are any. -/
theorem select_list {ns : List String} (some : ns ≠ []) :
    r.select (.list (ns.map .text)) = (ns.map Value.text).mapM r.get := by
  rw [select, if_pos (by simpa [Value.truthy] using some)]
  rfl

/-- Models can be selected by names that are known, and they are registered ones. -/
theorem exists_select (known : r.Knows names) :
    ∃ models, r.select names = .ok models ∧ ∀ m ∈ models, ∃ e ∈ r.models, e.2 = m := by
  have all : ∀ m ∈ r.models.map (·.2), ∃ e ∈ r.models, e.2 = m := fun m => List.mem_map.1
  rcases known with rfl | ⟨ns, rfl, known⟩
  · exact ⟨_, rfl, all⟩
  by_cases none : ns = []
  · subst none
    exact ⟨_, rfl, all⟩
  rw [select_list none]
  obtain ⟨models, found⟩ : ∃ models, (ns.map Value.text).mapM r.get = .ok models := by
    refine exists_mapM fun name member => ?_
    obtain ⟨n, listed, rfl⟩ := List.mem_map.1 member
    obtain ⟨m, -, found⟩ := exists_get (known n listed)
    exact ⟨m, found⟩
  refine ⟨models, found, fun m member => ?_⟩
  obtain ⟨name, member, got⟩ := exists_of_mem_mapM found member
  obtain ⟨n, listed, rfl⟩ := List.mem_map.1 member
  obtain ⟨m', registered, got'⟩ := exists_get (known n listed)
  rw [got'] at got
  cases got
  exact ⟨_, registered, rfl⟩

/-- Where a name in a list is not registered, the first such name is the fault. -/
theorem exists_unknown {ns : List String} (unknown : ∃ n ∈ ns, n ∉ r.names) :
    ∃ n ∈ ns, n ∉ r.names ∧
      r.select (.list (ns.map .text)) = .error (.unknownModel (.text n)) := by
  have some : ns ≠ [] := by
    rintro rfl
    simp at unknown
  rw [select_list some]
  clear some
  induction ns with
  | nil => simp at unknown
  | cons n rest ih =>
    rw [List.map_cons, List.mapM_cons]
    by_cases known : n ∈ r.names
    · obtain ⟨m, -, found⟩ := exists_get known
      obtain ⟨first, listed, missing, failed⟩ := ih (by simpa [known] using unknown)
      exact ⟨first, List.mem_cons_of_mem n listed, missing, by rw [found, failed]; rfl⟩
    · exact ⟨n, List.mem_cons_self, known, by rw [get_of_unknown known]; rfl⟩

/-- A registered model is the one under its name, as there is no other one. -/
theorem get_of_mem (distinct : r.names.Nodup) {m : Model} (member : (n, m) ∈ r.models) :
    r.get (.text n) = .ok m := by
  obtain ⟨m', member', found⟩ := exists_get (List.mem_map_of_mem member)
  have same : (n, m') = (n, m) := List.inj_on_of_nodup_map distinct member' member rfl
  cases same
  exact found

/-- The models of all names are all models. -/
theorem mapM_get_names (distinct : r.names.Nodup) :
    (r.names.map Value.text).mapM r.get = .ok (r.models.map (·.2)) := by
  have each : ∀ e ∈ r.models, (r.get ∘ Value.text ∘ Prod.fst) e = .ok e.2 :=
    fun e member => get_of_mem distinct member
  rw [names, List.map_map, List.mapM_map]
  exact mapM_eq_map each

end GraphMapper.Registry
