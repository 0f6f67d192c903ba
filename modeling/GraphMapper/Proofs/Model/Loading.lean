import GraphMapper.Model.Document
import GraphMapper.Proofs.Model.Selection
import GraphMapper.Proofs.Schema.Refusals
import GraphMapper.Proofs.Value.Entries
import Mathlib.Data.List.Perm.Subperm

/-!
# Loading models

A document declares models by definitions that stand under names. A definition may give a name of
its own, and then its model is registered under that one. So the registry has every model under the
name that it stands under exactly if no definition gives another name; otherwise a model may take
the place of another one. A section that is null is not taken for an empty one.

## Main definitions

* `Registry.definition` — the model that a definition under a name declares
* `Registry.givenName?` — the name that a definition gives
* `Registry.Declares` — the definitions that a document declares
* `Registry.Holds` — a registry with the models of some definitions under their names

## Main results

* `Registry.name_of_definition` — a model has the name that its definition gives, and without one
  the name that it stands under
* `Registry.names_ofList_eq_iff` — models are registered under given names
* `Registry.loads_all_iff` — when a document is loaded with every model under its name
-/

namespace GraphMapper.Registry

open Validation (Checked text)

variable {name : String} {d : Value} {m : Model} {entries : Value.Entries} {r : Registry}

/-! ### Definitions -/

/-- The model that a definition under a name declares. -/
def definition (name : String) (d : Value) : Except Fault Model := do
  declare (← named (.text name) d)

/-- The name that a definition gives, if it gives one; of several the last one. -/
def givenName? : Value → Option Value
  | .map entries => Value.get? entries.reverse "name"
  | _ => none

/-- The name in a mapping from which a model is declared. -/
theorem get?_name_of_declared (declared : Model.declared (.map entries) = .ok m) :
    Value.get? entries "name" = some (.text m.name) := by
  obtain ⟨⟨name, properties, label, indexes⟩, passed, rfl⟩ := Checked.map_eq_ok_iff.1 declared
  obtain ⟨required, -⟩ := Checked.zip_eq_ok_iff.1 passed
  rw [Model.requiredName] at required
  cases found : Value.get? entries "name" with
  | none =>
    rw [found] at required
    cases required
  | some v =>
    rw [found] at required
    have checked := Checked.under_eq_ok_iff.1 required
    rw [Model.declaredName] at checked
    cases v with
    | text s =>
      simp only [text] at checked
      split at checked
      · cases checked
      split at checked
      · cases checked
      · cases checked
        rfl
    | _ => cases checked

/-- The name under which a definition stands is only the default for the one that it gives. -/
theorem exists_named {v : Value} (renamed : named (.text name) d = .ok v) :
    ∃ entries, v = .map entries ∧
      Value.get? entries "name" = some ((givenName? d).getD (.text name)) := by
  have default : Value.get? [(.text "name", .text name)] "name" = some (.text name) := by
    rw [Value.get?, Value.lookup?_cons, if_pos (Value.equals_text_iff.2 rfl)]
  rw [named] at renamed
  by_cases counts : d.truthy = true
  · rw [if_pos counts] at renamed
    cases d with
    | map entries =>
      cases renamed
      refine ⟨_, rfl, ?_⟩
      rw [Value.get?_merge, default, givenName?]
      cases Value.get? entries.reverse "name" <;> rfl
    | _ => cases renamed
  · rw [if_neg counts] at renamed
    cases renamed
    refine ⟨_, rfl, ?_⟩
    -- what counts as false gives no name, the empty mapping included
    have silent : givenName? d = none := by
      cases d with
      | map entries =>
        have empty : entries = [] := by simpa [Value.truthy] using counts
        rw [empty]
        rfl
      | _ => rfl
    rw [silent]
    exact default

/-- A model has the name that its definition gives, and without one the name that it stands
under. -/
theorem name_of_definition (declared : definition name d = .ok m) :
    Value.text m.name = (givenName? d).getD (.text name) := by
  rw [definition] at declared
  cases renamed : named (.text name) d with
  | error fault =>
    rw [renamed] at declared
    cases declared
  | ok v =>
    rw [renamed] at declared
    obtain ⟨entries, rfl, found⟩ := exists_named renamed
    have checked : Model.declared (.map entries) = .ok m := by
      change declare (.map entries) = .ok m at declared
      rw [declare] at declared
      split at declared
      · cases declared
        assumption
      · cases declared
    rw [get?_name_of_declared checked] at found
    exact Option.some.inj found

theorem name_eq_iff_of_definition (declared : definition name d = .ok m) :
    m.name = name ↔ ∀ v, givenName? d = some v → v = .text name := by
  have given := name_of_definition declared
  cases found : givenName? d with
  | none =>
    rw [found] at given
    simpa using given
  | some v =>
    rw [found, Option.getD_some] at given
    subst given
    simp

/-! ### Registered models -/

theorem models_register (fresh : m.name ∉ r.names) :
    (r.register m).models = r.models ++ [(m.name, m)] := by
  obtain ⟨models⟩ := r
  rw [register]
  simp only [names] at fresh ⊢
  induction models with
  | nil => rfl
  | cons e rest ih =>
    rw [List.map_cons, List.mem_cons, not_or] at fresh
    rw [insert, if_neg (Ne.symm fresh.1), ih fresh.2, List.cons_append]

/-- Models with different names are registered one after the other. -/
theorem models_foldl_register {ms : List Model} (distinct : (r.names ++ ms.map (·.name)).Nodup) :
    (ms.foldl register r).models = r.models ++ ms.map fun m => (m.name, m) := by
  induction ms generalizing r with
  | nil => exact (List.append_nil _).symm
  | cons m rest ih =>
    have fresh : m.name ∉ r.names := fun member =>
      List.disjoint_of_nodup_append distinct member List.mem_cons_self
    have next : ((r.register m).names ++ rest.map (·.name)).Nodup := by
      rw [names_register, if_neg fresh, List.append_assoc]
      exact distinct
    rw [List.foldl_cons, ih next, models_register fresh, List.append_assoc, List.map_cons,
      List.singleton_append]

theorem mem_names_foldl_register_iff {ms : List Model} {n : String} :
    n ∈ (ms.foldl register r).names ↔ n ∈ r.names ∨ n ∈ ms.map (·.name) := by
  induction ms generalizing r with
  | nil => simp
  | cons m rest ih =>
    rw [List.foldl_cons, ih, names_register, List.map_cons, List.mem_cons, ← or_assoc]
    split
    · next known =>
      refine or_congr_left ⟨.inl, fun member => ?_⟩
      rcases member with member | rfl
      · exact member
      · exact known
    · rw [List.mem_append, List.mem_singleton]

theorem models_ofList {ms : List Model} (distinct : (ms.map (·.name)).Nodup) :
    (ofList ms).models = ms.map fun m => (m.name, m) :=
  models_foldl_register distinct

/-- Models are registered under given names exactly if these are their own: a model that takes the
place of another one leaves a name too few. -/
theorem names_ofList_eq_iff {ms : List Model} {keys : List String} (distinct : keys.Nodup)
    (length : keys.length = ms.length) :
    (ofList ms).names = keys ↔ ms.map (·.name) = keys := by
  have inOrder (own : (ms.map (·.name)).Nodup) : (ofList ms).names = ms.map (·.name) := by
    rw [names, models_ofList own, List.map_map]
    rfl
  constructor
  · intro registered
    have member (n : String) : n ∈ keys ↔ n ∈ ms.map (·.name) := by
      rw [← registered, ofList, mem_names_foldl_register_iff]
      simp
    have subperm : keys.Subperm (ms.map (·.name)) :=
      distinct.subperm fun n => (member n).1
    have perm : keys.Perm (ms.map (·.name)) :=
      subperm.perm_of_length_le (by rw [List.length_map, length])
    rw [← inOrder (perm.nodup_iff.1 distinct), registered]
  · rintro rfl
    exact inOrder distinct

/-! ### Documents -/

/-- Definitions under names, as a section of a document. -/
def listed (models : List (String × Value)) : Value.Entries :=
  models.map fun e => (.text e.1, e.2)

/-- The section of a document in which its models are declared is null. -/
def HasNullSection (document : Value) : Prop :=
  ∃ entries, document = .map entries ∧ Value.get? entries "models" = some .null

/-- The definitions that a document declares. A document that is no mapping declares none, nor does
one whose section is missing or null. -/
inductive Declares : (document : Value) → List (String × Value) → Prop
  | unstructured {document : Value} : document.isMap = false → Declares document []
  | missing {entries : Value.Entries} : Value.get? entries "models" = none →
      Declares (.map entries) []
  | null {document : Value} : HasNullSection document → Declares document []
  | given {entries : Value.Entries} {models : List (String × Value)} :
      Value.get? entries "models" = some (.map (listed models)) → Declares (.map entries) models

/-- The registry has the models of the definitions, each under the name that it stands under, in
this order and no others. -/
structure Holds (r : Registry) (models : List (String × Value)) : Prop where
  /-- The names. -/
  names : r.names = models.map (·.1)
  /-- Their number. -/
  size : r.size = models.length
  /-- The model under each of them. -/
  get : ∀ e ∈ models, ∃ m, definition e.1 e.2 = .ok m ∧ r.get (.text e.1) = .ok m

theorem declareAll_listed {models : List (String × Value)} {ms : List Model}
    (done : models.mapM (fun e => definition e.1 e.2) = .ok ms) (r : Registry) :
    declareAll (listed models) r = .ok (ms.foldl register r) := by
  have each := forall₂_of_mapM done
  clear done
  induction each generalizing r with
  | nil => rfl
  | @cons e m rest ms first _ ih =>
    rw [listed, List.map_cons, ← listed, declareAll, List.foldl_cons, ← ih]
    change (named (.text e.1) e.2 >>= declare) = .ok m at first
    rw [← bind_assoc, first]
    rfl

theorem ofDocument_of_null {document : Value} (null : HasNullSection document) :
    ofDocument document = .error (.shape (.noMember "NoneType" "items")) := by
  obtain ⟨entries, rfl, found⟩ := null
  simp only [ofDocument, found]
  rfl

/-- A document without a null section is loaded by registering its models one after the other. -/
theorem ofDocument_of_declares {document : Value} {models : List (String × Value)} {ms : List Model}
    (declares : Declares document models) (some : ¬ HasNullSection document)
    (done : models.mapM (fun e => definition e.1 e.2) = .ok ms) :
    ofDocument document = .ok (ofList ms) := by
  cases declares with
  | unstructured none =>
    cases done
    cases document with
    | map entries => cases none
    | _ => rfl
  | missing none =>
    cases done
    simp only [ofDocument, none]
    rfl
  | null found => exact absurd found some
  | given found =>
    simp only [ofDocument, found]
    exact declareAll_listed done empty

theorem map_name_eq_iff {models : List (String × Value)} {ms : List Model}
    (done : models.mapM (fun e => definition e.1 e.2) = .ok ms) :
    ms.map (·.name) = models.map (·.1) ↔
      ∀ e ∈ models, ∀ v, givenName? e.2 = some v → v = .text e.1 := by
  have each := forall₂_of_mapM done
  clear done
  induction each with
  | nil => simp
  | cons first _ ih =>
    rw [List.map_cons, List.map_cons, List.cons.injEq, List.forall_mem_cons]
    exact and_congr (name_eq_iff_of_definition first) ih

/-- The models of definitions are under the names that these stand under exactly if no definition
gives another name. -/
theorem holds_ofList_iff {models : List (String × Value)} {ms : List Model}
    (distinct : (models.map (·.1)).Nodup)
    (done : models.mapM (fun e => definition e.1 e.2) = .ok ms) :
    (ofList ms).Holds models ↔
      ∀ e ∈ models, ∀ v, givenName? e.2 = some v → v = .text e.1 := by
  have length : (models.map (·.1)).length = ms.length := by
    rw [List.length_map, (forall₂_of_mapM done).length_eq]
  have names := names_ofList_eq_iff distinct length
  rw [← map_name_eq_iff done]
  refine ⟨fun holds => names.1 holds.names, fun own => ?_⟩
  have registered : (ofList ms).names = models.map (·.1) := names.2 own
  refine ⟨registered, ?_, fun e member => ?_⟩
  · rw [← size_eq_length_names, registered, List.length_map]
  · obtain ⟨m, produced, defined⟩ := exists_of_mem_items done member
    have name : m.name = e.1 :=
      (name_eq_iff_of_definition defined).2 ((map_name_eq_iff done).1 own e member)
    have entry : (e.1, m) ∈ (ofList ms).models := by
      rw [models_ofList (own ▸ distinct), ← name]
      exact List.mem_map_of_mem produced
    exact ⟨m, defined, get_of_mem (registered ▸ distinct) entry⟩

/-- A document with valid definitions is loaded with every model under the name that it stands
under exactly if its section is not null and no definition gives another name. A null section
cannot be run through; whatever names are given, the models are registered in order. -/
theorem loads_all_iff {document : Value} {models : List (String × Value)}
    (declares : Declares document models) (distinct : (models.map (·.1)).Nodup)
    (valid : ∀ e ∈ models, ∃ m, definition e.1 e.2 = .ok m) :
    ((∃ r, ofDocument document = .ok r ∧ r.Holds models) ↔
      ¬ HasNullSection document ∧
        ∀ e ∈ models, ∀ v, givenName? e.2 = some v → v = .text e.1) ∧
    (HasNullSection document →
      ofDocument document = .error (.shape (.noMember "NoneType" "items"))) ∧
    (¬ HasNullSection document → ∃ ms,
      models.mapM (fun e => definition e.1 e.2) = .ok ms ∧
        ofDocument document = .ok (ofList ms)) := by
  obtain ⟨ms, done⟩ := exists_mapM valid
  refine ⟨⟨?_, ?_⟩, ofDocument_of_null,
    fun some => ⟨ms, done, ofDocument_of_declares declares some done⟩⟩
  · rintro ⟨r, loaded, holds⟩
    have some : ¬ HasNullSection document := fun null => by
      rw [ofDocument_of_null null] at loaded
      cases loaded
    rw [ofDocument_of_declares declares some done] at loaded
    cases loaded
    exact ⟨some, (holds_ofList_iff distinct done).1 holds⟩
  · rintro ⟨some, own⟩
    exact ⟨_, ofDocument_of_declares declares some done, (holds_ofList_iff distinct done).2 own⟩

/-- A definition that gives the name of another one takes its place, and nothing is reported. -/
theorem loads_all_iff_renamed :
    let models : List (String × Value) :=
      [("A", .map [(.text "name", .text "B")]), ("B", .map [(.text "label", .text "L")])]
    let document : Value := .map [(.text "models", .map (listed models))]
    (∃ ms, ofDocument document = .ok (ofList ms)) ∧
      ¬ ∃ r, ofDocument document = .ok r ∧ r.Holds models := by
  intro models document
  have found : Value.get? [(.text "models", .map (listed models))] "models" =
      some (.map (listed models)) := by
    rw [Value.get?, Value.lookup?_cons, if_pos (Value.equals_text_iff.2 rfl)]
  have valid : ∀ e ∈ models, ∃ m, definition e.1 e.2 = .ok m := by
    have passes : ∀ e ∈ models, (definition e.1 e.2).isOk = true := by decide +kernel
    exact fun e member => Except.exists_eq_ok_of_isOk (passes e member)
  obtain ⟨all, -, loaded⟩ := loads_all_iff (.given found) (by decide) valid
  have some : ¬ HasNullSection document := by
    rintro ⟨entries, same, null⟩
    rw [← Value.map.inj same, found] at null
    cases null
  obtain ⟨ms, -, loaded⟩ := loaded some
  refine ⟨⟨ms, loaded⟩, fun holds => ?_⟩
  have given : givenName? (.map [(.text "name", .text "B")]) = Option.some (.text "B") := by
    rw [givenName?, List.reverse_singleton, Value.get?, Value.lookup?_cons,
      if_pos (Value.equals_text_iff.2 rfl)]
  have own := (all.1 holds).2 _ List.mem_cons_self (.text "B") given
  exact absurd (Value.text.inj own) (by decide)

end GraphMapper.Registry
