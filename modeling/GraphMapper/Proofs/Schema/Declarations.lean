import GraphMapper.Proofs.Value.Equality
import GraphMapper.Schema.Requirement
import Mathlib.Data.List.Basic

/-!
# What a model declares

A model declares properties to be indexed in four forms: as a key under `keys` of a named
declaration, as a field of one without `keys`, in a list of names, and beside the property itself.
Each declaration is one of a unique property or a plain one. What the model requires is read off the
sequence of its declarations: the unique properties are the id and those that are declared unique,
the indexed ones are those that are declared plain and are not unique, and each is listed where it
is first declared.

## Main definitions

* `Schema.Declaration` — a property that is declared to be indexed
* `Schema.Declares` — the forms of declarations
* `Schema.declarations` — the declarations of a model in their order
* `Schema.firsts` — some properties without those that equal an earlier one
* `Schema.Classified` — a requirement that follows from the declarations of a model

## Main results

* `mem_declarations_iff` — the declarations are those of the forms
* `Requirement.ofModel_eq` — what a model requires is read off its declarations
* `Requirement.classified_ofModel` — every declared property is classified once
-/

namespace GraphMapper.Schema

open Requirement (holds add orEmpty)

/-! ### Declarations -/

/-- A property that is declared to be indexed. -/
structure Declaration where
  /-- The property. -/
  property : Value
  /-- Its values are declared to be unique. -/
  unique : Bool

/-- The keys of a named declaration. -/
def keysIn (keys : Value) : List Value := (orEmpty keys).items.toOption.getD []

/-- The options of a named declaration ask for unique values. -/
def asksUnique (entries : Value.Entries) : Bool :=
  match orEmpty (Value.getD entries "options") with
  | .map options => (Value.getD options "unique").truthy
  | _ => false

/-- The forms in which a model declares a property to be indexed. -/
inductive Declares (m : Model) : Declaration → Prop
  /-- A key of a named declaration is unique if it is the only one and the options ask for it. -/
  | key {named : List (String × Value)} {name : String} {entries : Value.Entries} {keys key : Value}
    (indexes : m.indexes = .named named) (declared : (name, .map entries) ∈ named)
    (keyed : Value.get? entries "keys" = some keys) (listed : key ∈ keysIn keys) :
    Declares m ⟨key, (keysIn keys).length = 1 && asksUnique entries⟩
  /-- The fields of a named declaration without keys are plain. -/
  | field {named : List (String × Value)} {name : String} {entries : Value.Entries}
    {field direction : Value} (indexes : m.indexes = .named named)
    (declared : (name, .map entries) ∈ named) (unkeyed : Value.get? entries "keys" = none)
    (listed : (field, direction) ∈ entries) : Declares m ⟨field, false⟩
  /-- The names in a list are plain. -/
  | listed {names : List String} {name : String} (indexes : m.indexes = .fields names)
    (listed : name ∈ names) : Declares m ⟨.text name, false⟩
  /-- A property that asks to be indexed is unique if it or its index says so. -/
  | property {name : String} {p : Model.Property} (declared : (name, p) ∈ m.properties)
    (wanted : p.index.wanted = true) : Declares m ⟨.text name, p.index.unique || p.unique⟩

/-- The declarations under a name. -/
def declarationsUnder : Value → List Declaration
  | .map entries =>
    match Value.get? entries "keys" with
    | some keys =>
      (keysIn keys).map fun key => ⟨key, (keysIn keys).length = 1 && asksUnique entries⟩
    | none => entries.map fun e => ⟨e.1, false⟩
  | _ => []

/-- The declarations beside the properties. -/
def declarationsBeside : Model.Indexes → List Declaration
  | .named named => named.flatMap fun e => declarationsUnder e.2
  | .fields names => names.map fun name => ⟨.text name, false⟩

/-- The declaration of a property that asks to be indexed. -/
def declarationOf (e : String × Model.Property) : Option Declaration :=
  if e.2.index.wanted then some ⟨.text e.1, e.2.index.unique || e.2.unique⟩ else none

/-- The declarations of a model: those beside the properties come first. -/
def declarations (m : Model) : List Declaration :=
  declarationsBeside m.indexes ++ m.properties.filterMap declarationOf

/-- The properties that a model declares unique, or those that it declares plain, in order. -/
def declared (m : Model) (unique : Bool) : List Value :=
  ((declarations m).filter (·.unique == unique)).map (·.property)

/-- Some properties without those that equal an earlier one. -/
def firsts (ps : List Value) : List Value := ps.eraseDupsBy fun p earlier => earlier.equals p

variable {m : Model} {ps bucket : List Value} {p q : Value}

/-- The declarations of a model are those of the forms. -/
theorem mem_declarations_iff {d : Declaration} : d ∈ declarations m ↔ Declares m d := by
  rw [declarations, List.mem_append]
  constructor
  · rintro (member | member)
    · cases indexes : m.indexes with
      | named named =>
        rw [indexes, declarationsBeside, List.mem_flatMap] at member
        obtain ⟨⟨name, v⟩, declared, member⟩ := member
        cases v with
        | map entries =>
          rw [declarationsUnder] at member
          cases keyed : Value.get? entries "keys" with
          | some keys =>
            rw [keyed] at member
            obtain ⟨key, listed, rfl⟩ := List.mem_map.1 member
            exact .key indexes declared keyed listed
          | none =>
            rw [keyed] at member
            obtain ⟨⟨field, direction⟩, listed, rfl⟩ := List.mem_map.1 member
            exact .field indexes declared keyed listed
        | _ => cases member
      | fields names =>
        rw [indexes] at member
        obtain ⟨name, listed, rfl⟩ := List.mem_map.1 member
        exact .listed indexes listed
    · obtain ⟨⟨name, p⟩, declared, found⟩ := List.mem_filterMap.1 member
      rw [declarationOf] at found
      split at found
      · next wanted =>
        cases found
        exact .property declared wanted
      · cases found
  · rintro (⟨indexes, declared, keyed, listed⟩ | ⟨indexes, declared, unkeyed, listed⟩ |
      ⟨indexes, listed⟩ | ⟨declared, wanted⟩)
    · left
      rw [indexes, declarationsBeside, List.mem_flatMap]
      refine ⟨_, declared, ?_⟩
      rw [declarationsUnder, keyed]
      exact List.mem_map_of_mem listed
    · left
      rw [indexes, declarationsBeside, List.mem_flatMap]
      refine ⟨_, declared, ?_⟩
      rw [declarationsUnder, unkeyed]
      exact List.mem_map_of_mem listed
    · left
      rw [indexes]
      exact List.mem_map_of_mem listed
    · right
      refine List.mem_filterMap.2 ⟨_, declared, ?_⟩
      rw [declarationOf, if_pos wanted]

theorem mem_declared_iff {unique : Bool} : p ∈ declared m unique ↔ Declares m ⟨p, unique⟩ := by
  rw [← mem_declarations_iff, declared, List.mem_map]
  constructor
  · rintro ⟨⟨p, asked⟩, member, rfl⟩
    obtain ⟨member, same⟩ := List.mem_filter.1 member
    rw [beq_iff_eq] at same
    exact same ▸ member
  · intro member
    exact ⟨⟨p, unique⟩, List.mem_filter.2 ⟨member, beq_self_eq_true unique⟩, rfl⟩

/-! ### First occurrences -/

@[simp] theorem firsts_nil : firsts [] = [] := List.eraseDupsBy_nil

@[simp] theorem firsts_cons (p : Value) (ps : List Value) :
    firsts (p :: ps) = p :: firsts (ps.filter fun q => p.equals q = false) := List.eraseDupsBy_cons

/-- Induction on the first properties: the later ones that equal the first are left out. -/
theorem firsts_induction {motive : List Value → Prop} (nil : motive [])
    (cons : ∀ p ps, motive (ps.filter fun q => p.equals q = false) → motive (p :: ps)) :
    ∀ ps, motive ps
  | [] => nil
  | p :: ps => cons p ps (firsts_induction nil cons _)
termination_by ps => ps.length
decreasing_by exact Nat.lt_succ_of_le (List.length_filter_le _ _)

theorem firsts_sublist (ps : List Value) : (firsts ps).Sublist ps := by
  induction ps using firsts_induction with
  | nil => simp
  | cons p ps ih =>
    rw [firsts_cons]
    exact (ih.trans List.filter_sublist).cons_cons p

theorem pairwise_firsts (ps : List Value) :
    (firsts ps).Pairwise fun p q => p.equals q = false := by
  induction ps using firsts_induction with
  | nil => simp
  | cons p ps ih =>
    rw [firsts_cons, List.pairwise_cons]
    refine ⟨fun q member => ?_, ih⟩
    have kept := (firsts_sublist _).subset member
    simpa using (List.mem_filter.1 kept).2

/-- Every property is listed, or equals one that is listed. -/
theorem exists_mem_firsts (member : q ∈ ps) :
    ∃ p ∈ firsts ps, p = q ∨ p.equals q = true := by
  induction ps using firsts_induction with
  | nil => cases member
  | cons p ps ih =>
    rw [firsts_cons]
    rcases List.mem_cons.1 member with rfl | member
    · exact ⟨q, List.mem_cons_self, .inl rfl⟩
    · by_cases same : p.equals q = true
      · exact ⟨p, List.mem_cons_self, .inr same⟩
      · obtain ⟨p', listed, known⟩ := ih (List.mem_filter.2 ⟨member, by simpa using same⟩)
        exact ⟨p', List.mem_cons_of_mem p listed, known⟩

/-- Adding properties one after the other lists those that equal no earlier one. -/
theorem foldl_add (bucket ps : List Value) :
    ps.foldl add bucket = bucket ++ firsts (ps.filter fun p => holds bucket p = false) := by
  induction ps generalizing bucket with
  | nil => simp
  | cons p ps ih =>
    rw [List.foldl_cons, ih, add]
    cases known : holds bucket p with
    | true =>
      rw [if_pos rfl, List.filter_cons_of_neg (by simp [known])]
    | false =>
      rw [if_neg (by simp), List.filter_cons_of_pos (by simp [known]), firsts_cons,
        List.append_assoc, List.singleton_append, List.filter_filter]
      have both : ∀ q ∈ ps, decide (holds (bucket ++ [p]) q = false) =
          (decide (p.equals q = false) && decide (holds bucket q = false)) := by
        intro q _
        simp [holds, Bool.and_comm]
      rw [List.filter_congr both]

/-- A property equals one of the first ones exactly if it equals one at all. -/
theorem holds_firsts (ps : List Value) (p : Value) : holds (firsts ps) p = holds ps p := by
  rw [Bool.eq_iff_iff, holds, holds, List.any_eq_true, List.any_eq_true]
  constructor
  · rintro ⟨q, member, same⟩
    exact ⟨q, (firsts_sublist ps).subset member, same⟩
  · rintro ⟨q, member, same⟩
    obtain ⟨first, listed, rfl | earlier⟩ := exists_mem_firsts member
    · exact ⟨first, listed, same⟩
    · exact ⟨first, listed, Value.equals_trans earlier same⟩

/-! ### Reading a model -/

namespace Requirement

/-- The declared properties with those of one more declaration. -/
def Declared.declare (d : Declared) (x : Declaration) : Declared :=
  if x.unique then d.addUnique x.property else d.addIndexed x.property

theorem addAllIndexed_eq (d : Declared) (ps : List Value) :
    d.addAllIndexed ps = (ps.map fun p => Declaration.mk p false).foldl Declared.declare d := by
  rw [List.foldl_map]
  rfl

/-- The declared properties after several declarations. -/
theorem foldl_declare (d : Declared) (xs : List Declaration) :
    xs.foldl Declared.declare d =
      ⟨((xs.filter (·.unique == true)).map (·.property)).foldl add d.unique,
        ((xs.filter (·.unique == false)).map (·.property)).foldl add d.indexed⟩ := by
  induction xs generalizing d with
  | nil => rfl
  | cons x xs ih =>
    rw [List.foldl_cons, ih, Declared.declare]
    cases known : x.unique <;> simp [known, Declared.addUnique, Declared.addIndexed]

/-- A declaration by keys that can be read declares each of them. -/
theorem addKeys_eq {d d' : Declared} {keys : Value} {entries : Value.Entries}
    (done : addKeys d keys (Value.getD entries "options") = .ok d') :
    d' = ((keysIn keys).map fun key =>
      Declaration.mk key ((keysIn keys).length = 1 && asksUnique entries)).foldl
        Declared.declare d := by
  rw [addKeys] at done
  cases items : (orEmpty keys).items with
  | error fault =>
    rw [items] at done
    cases done
  | ok items' =>
    have listed : keysIn keys = items' := by rw [keysIn, items]; rfl
    rw [items] at done
    rw [listed]
    match items', done with
    | [], done => exact (Except.ok.inj done).symm
    | [key], done =>
      -- only here the options are looked at
      rw [asksUnique]
      cases options : orEmpty (Value.getD entries "options") with
      | map es =>
        rw [options] at done
        refine (Except.ok.inj done).symm.trans ?_
        simp [Declared.declare]
      | _ =>
        rw [options] at done
        cases done
    | key :: other :: more, done =>
      have several : ((key :: other :: more).length = 1) = False := by simp
      simp only [several, decide_false, Bool.false_and]
      rw [← addAllIndexed_eq]
      exact (Except.ok.inj done).symm

/-- A named declaration that can be read declares what is under its name. -/
theorem addNamed_eq {d d' : Declared} {v : Value} (done : addNamed d v = .ok d') :
    d' = (declarationsUnder v).foldl Declared.declare d := by
  cases v with
  | map entries =>
    rw [addNamed] at done
    rw [declarationsUnder]
    cases keyed : Value.get? entries "keys" with
    | some keys =>
      rw [keyed] at done
      exact addKeys_eq done
    | none =>
      rw [keyed] at done
      rw [← Except.ok.inj done, addAllIndexed_eq, List.map_map]
      rfl
  | _ => exact (Except.ok.inj done).symm

/-- The declarations beside the properties are read one after the other. -/
theorem addIndexes_eq {d d' : Declared} {indexes : Model.Indexes}
    (done : addIndexes d indexes = .ok d') :
    d' = (declarationsBeside indexes).foldl Declared.declare d := by
  cases indexes with
  | fields names =>
    rw [addIndexes] at done
    rw [← Except.ok.inj done, addAllIndexed_eq, List.map_map]
    rfl
  | named named =>
    rw [addIndexes] at done
    rw [declarationsBeside]
    induction named generalizing d with
    | nil => exact (Except.ok.inj done).symm
    | cons e rest ih =>
      rw [List.foldlM_cons] at done
      cases first : addNamed d e.2 with
      | error fault =>
        rw [first] at done
        cases done
      | ok d₁ =>
        rw [first] at done
        rw [List.flatMap_cons, List.foldl_append, ← addNamed_eq first]
        exact ih done

/-- The properties that ask to be indexed are added one after the other. -/
theorem foldl_addProperty (d : Declared) (ps : List (String × Model.Property)) :
    ps.foldl (fun d e => addProperty d e.1 e.2) d =
      (ps.filterMap declarationOf).foldl Declared.declare d := by
  induction ps generalizing d with
  | nil => rfl
  | cons e ps ih =>
    rw [List.foldl_cons, ih, addProperty, List.filterMap_cons, declarationOf]
    cases wanted : e.2.index.wanted <;> simp [Declared.declare]

/-- What a model requires is read off its declarations. -/
theorem ofModel_eq {r : Requirement} (computed : ofModel m = .ok r) :
    r = ⟨m.label, .text m.idName, firsts (.text m.idName :: declared m true),
      (firsts (declared m false)).filter fun p =>
        !holds (firsts (.text m.idName :: declared m true)) p, [.text m.idName]⟩ := by
  rw [ofModel] at computed
  cases beside : addIndexes ⟨[.text m.idName], []⟩ m.indexes with
  | error fault =>
    rw [beside] at computed
    cases computed
  | ok d =>
    rw [beside] at computed
    have all : m.properties.foldl (fun d p => addProperty d p.1 p.2) d =
        ⟨firsts (.text m.idName :: declared m true), firsts (declared m false)⟩ := by
      rw [foldl_addProperty, addIndexes_eq beside, ← List.foldl_append, ← declarations,
        foldl_declare, ← declared, ← declared, foldl_add, foldl_add]
      simp [holds]
    refine (Except.ok.inj computed).symm.trans ?_
    rw [all]
    rfl

/-- No model requires a property to be unique and to be indexed as well. -/
theorem apart_of_ofModel {r : Requirement} (computed : ofModel m = .ok r) (unique : p ∈ r.unique)
    (indexed : q ∈ r.index) : p.equals q = false := by
  rw [ofModel_eq computed] at unique indexed
  rw [List.mem_filter, Bool.not_eq_true', holds, List.any_eq_false] at indexed
  simpa using indexed.2 p unique

end Requirement

/-! ### Classified properties -/

/-- A requirement in which every declared property of a model is classified once. -/
structure Classified (m : Model) (r : Requirement) : Prop where
  /-- The id is the first unique property. -/
  first : r.unique.head? = some (.text m.idName)
  /-- No unique property is listed twice. -/
  unique_apart : r.unique.Pairwise fun p q => p.equals q = false
  /-- No indexed property is listed twice. -/
  index_apart : r.index.Pairwise fun p q => p.equals q = false
  /-- No unique property is indexed as well. -/
  disjoint : ∀ p ∈ r.unique, ∀ q ∈ r.index, p.equals q = false
  /-- Only the id has to be there. -/
  existence : r.existence = [.text m.idName]
  /-- The unique properties are the id and those that are declared unique. -/
  unique_iff : ∀ p, holds r.unique p = true ↔ (Value.text m.idName).equals p = true ∨
    ∃ q, Declares m ⟨q, true⟩ ∧ q.equals p = true
  /-- The indexed properties are those that are declared plain and are not unique. -/
  index_iff : ∀ p, holds r.index p = true ↔
    ∃ q, Declares m ⟨q, false⟩ ∧ holds r.unique q = false ∧ q.equals p = true
  /-- Behind the id, the unique properties stand where they are first declared unique. -/
  unique_order : r.unique = firsts (.text m.idName :: declared m true)
  /-- The indexed properties stand where they are first declared plain. -/
  index_order : r.index = (firsts (declared m false)).filter fun p => !holds r.unique p

namespace Requirement

/-- Whatever a model requires, every declared property is classified once. -/
theorem classified_ofModel {r : Requirement} (computed : ofModel m = .ok r) : Classified m r := by
  have read := ofModel_eq computed
  have unique : r.unique = firsts (.text m.idName :: declared m true) := by rw [read]
  have index : r.index = (firsts (declared m false)).filter fun p => !holds r.unique p := by
    rw [read]
  refine ⟨?_, ?_, ?_, fun p member q listed => apart_of_ofModel computed member listed,
    by rw [read], fun p => ?_, fun p => ?_, unique, index⟩
  · rw [unique, firsts_cons, List.head?_cons]
  · rw [unique]
    exact pairwise_firsts _
  · rw [index]
    exact (pairwise_firsts _).filter _
  · rw [unique, holds_firsts, holds, List.any_cons, Bool.or_eq_true, List.any_eq_true]
    simp only [mem_declared_iff]
  · rw [index, holds, List.any_eq_true]
    simp only [List.mem_filter, Bool.not_eq_true']
    constructor
    · rintro ⟨q, ⟨listed, free⟩, same⟩
      exact ⟨q, mem_declared_iff.1 ((firsts_sublist _).subset listed), free, same⟩
    · rintro ⟨q, declares, free, same⟩
      obtain ⟨first, listed, rfl | earlier⟩ := exists_mem_firsts (mem_declared_iff.2 declares)
      · exact ⟨first, ⟨listed, free⟩, same⟩
      · -- a property that equals a unique one does so in all its declarations
        refine ⟨first, ⟨listed, ?_⟩, Value.equals_trans earlier same⟩
        rw [holds, List.any_eq_false] at free ⊢
        exact fun p member known => free p member (Value.equals_trans known earlier)

/-- A model with declarations of all forms, some of which overlap. -/
theorem classified_ofModel_mixed :
    let keys (names : List String) : Value := .map (names.map fun name => (.text name, .int 1))
    let m : Model :=
      { name := "User"
        properties :=
          [("key", { id := true }), ("age", { index := .options [("unique", .bool true)] }),
            ("name", { index := .flag true }), ("code", { index := .flag true, unique := true }),
            ("zip", { unique := true })]
        indexes := .named
          [("fields", keys ["age", "key"]),
            ("only", .map [(.text "keys", keys ["mail"]),
              (.text "options", .map [(.text "unique", .bool true)])]),
            ("several", .map [(.text "keys", keys ["city", "mail"]),
              (.text "options", .map [(.text "unique", .bool true)])]),
            ("none", .int 0)] }
    let r : Requirement :=
      ⟨"User", .text "key", [.text "key", .text "mail", .text "age", .text "code"],
        [.text "city", .text "name"], [.text "key"]⟩
    ofModel m = .ok r ∧ Classified m r := by
  intro keys m r
  have computed : ofModel m = .ok r := by with_unfolding_all rfl
  exact ⟨computed, classified_ofModel computed⟩

end Requirement

end GraphMapper.Schema
