import GraphMapper.Proofs.Act.Outcomes
import GraphMapper.Proofs.Query.Layout
import GraphMapper.Proofs.Results
import GraphMapper.Repository.Basic

/-!
# What rows hold

Once the rows of a statement are there, nothing else is asked of the server: what an operation
yields is read off the rows. Reading a node takes the model that was looked up before, so that only
the shape of the rows can make it fail.

## Main definitions

* `Repository.nodeIn` — the node in a row
* `Repository.heldBy`, `Repository.heldIn` — what a row and what rows hold
* `Repository.HoldNothing`, `Repository.Tabular` — rows that hold nothing, and well-formed rows

## Main results

* `Repository.yields_firstNode`, `Repository.yields_firstCount`, `Repository.yields_heldIn` — the
  acts that read rows do nothing else
* `Repository.heldIn_eq_nil_iff` — when nothing is read from rows
* `Repository.Tabular.exists_heldIn` — rows as a server gives them can be read
-/

namespace GraphMapper

namespace Except

variable {ε ε' α β : Type}

theorem mapError_bind (g : ε → ε') (x : Except ε α) (f : α → Except ε β) :
    (x.bind f).mapError g = (x.mapError g).bind fun a => (f a).mapError g := by
  cases x <;> rfl

theorem mapError_map (g : ε → ε') (x : Except ε α) (f : α → β) :
    (x.map f).mapError g = (x.mapError g).bind fun a => .ok (f a) := by
  cases x <;> rfl

end Except

namespace Repository

open Act (Yields)
open Query (Options)

variable {σ : Type} {r : Repository σ} {name : Value} {m : Model}

/-! ### Reading -/

/-- Stored properties with their points in time; null if they are null. -/
def restored (m : Model) (data : Value) : Except ShapeFault Value :=
  if data.isNull then .ok .null
  else data.entries.map fun entries => .map (m.restore entries)

/-- The node in a row; null if there is none. -/
def nodeIn (o : Options) (m : Model) (row : Value) : Except ShapeFault Value :=
  (row.member o.nodeName).bind (restored m)

/-- What is read from the first row; a default if there is no row. -/
def firstIn {α : Type} (read : Value → Except ShapeFault α) (default : α) (rows : Value) :
    Except ShapeFault α :=
  if rows.truthy then rows.first.bind read else .ok default

/-- What a row holds: the fields that were asked for, or a node if none were. -/
def heldBy (o : Options) (m : Model) (projected : Bool) (row : Value) :
    Except ShapeFault (Option Value) :=
  if projected then (restored m row).map fun v => some (if v.truthy then v else .map [])
  else (nodeIn o m row).map fun v => if v.isNull then none else some v

/-- What rows hold. -/
def heldIn (o : Options) (m : Model) (projected : Bool) (rows : Value) :
    Except ShapeFault (List Value) :=
  rows.items.bind fun items => (items.mapM (heldBy o m projected)).map List.reduceOption

/-! ### Acts that read -/

theorem yields_shaped {α : Type} (x : Except ShapeFault α) :
    Yields (shaped x : Act (State σ) α) (x.mapError .shape) := Yields.result _

theorem yields_model (known : r.registry.get name = .ok m) : Yields (r.model name) (.ok m) := by
  rw [← known]
  exact Yields.result _

theorem yields_fromDatabase (known : r.registry.get name = .ok m) (data : Value) :
    Yields (r.fromDatabase name data) ((restored m data).mapError .shape) := by
  rw [fromDatabase, restored]
  split
  · exact .pure _
  · rw [Except.mapError_map]
    exact (yields_shaped _).bind fun entries => (yields_model known).after (.pure _)

theorem yields_node (known : r.registry.get name = .ok m) (row : Value) :
    Yields (r.node name row) ((nodeIn r.options m row).mapError .shape) := by
  rw [node, nodeIn, Except.mapError_bind]
  refine (yields_shaped _).bind fun stored => ?_
  by_cases null : stored.isNull = true
  · rw [if_pos null, restored, if_pos null]
    exact .pure _
  · rw [if_neg null, restored, if_neg null, Except.mapError_map]
    exact (yields_shaped _).bind fun entries => yields_fromDatabase known (.map entries)

/-- What is read from the first row, if there is one. -/
theorem yields_firstIn {α : Type} {k : Value → Act (State σ) α} {read : Value → Except ShapeFault α}
    (reads : ∀ row, Yields (k row) ((read row).mapError .shape)) (default : α) (rows : Value) :
    Yields (if rows.truthy then shaped rows.first >>= k else pure default)
      ((firstIn read default rows).mapError .shape) := by
  rw [firstIn]
  split
  · rw [Except.mapError_bind]
    exact (yields_shaped _).bind reads
  · exact .pure default

theorem yields_firstNode (known : r.registry.get name = .ok m) (rows : Value) :
    Yields (r.firstNode name rows) ((firstIn (nodeIn r.options m) .null rows).mapError .shape) :=
  yields_firstIn (yields_node known) .null rows

theorem yields_firstCount (rows : Value) :
    Yields (firstCount rows : Act (State σ) Value)
      ((firstIn (·.require "count") (.int 0) rows).mapError .shape) :=
  yields_firstIn (fun row => yields_shaped (row.require "count")) (Value.int 0) rows

theorem yields_rowOf (known : r.registry.get name = .ok m) (projected : Bool) (row : Value) :
    Yields (r.rowOf name projected row) ((heldBy r.options m projected row).mapError .shape) := by
  rw [rowOf, heldBy]
  cases projected with
  | true =>
    rw [if_pos rfl, if_pos rfl, Except.mapError_map]
    exact (yields_fromDatabase known row).bind fun v => .pure _
  | false =>
    rw [if_neg Bool.false_ne_true, if_neg Bool.false_ne_true, Except.mapError_map]
    exact (yields_node known row).bind fun v => .pure _

theorem yields_rowsOf (known : r.registry.get name = .ok m) (projected : Bool)
    (items : List Value) :
    Yields (r.rowsOf name projected items)
      (((items.mapM (heldBy r.options m projected)).map List.reduceOption).mapError .shape) := by
  induction items with
  | nil => exact .pure _
  | cons row rest ih =>
    -- the first row is read before the others, so its fault comes before theirs
    have split : (((row :: rest).mapM (heldBy r.options m projected)).map
        List.reduceOption).mapError Fault.shape =
        ((heldBy r.options m projected row).mapError .shape).bind fun first? =>
          (((rest.mapM (heldBy r.options m projected)).map List.reduceOption).mapError .shape).bind
            fun others => .ok (first?.toList ++ others) := by
      rw [List.mapM_cons]
      rcases heldBy r.options m projected row with fault | _ | v
      · rfl
      all_goals cases rest.mapM (heldBy r.options m projected) <;> rfl
    rw [split]
    exact (yields_rowOf known projected row).bind fun first? => ih.bind fun others => .pure _

theorem yields_heldIn (known : r.registry.get name = .ok m) (projected : Bool) (rows : Value) :
    Yields (shaped rows.items >>= r.rowsOf name projected)
      ((heldIn r.options m projected rows).mapError .shape) := by
  rw [heldIn, Except.mapError_bind]
  exact (yields_shaped _).bind fun items => yields_rowsOf known projected items

/-! ### Rows that hold nothing -/

/-- The rows hold nothing: there is none if fields were asked for, and there is no node in any of
them if nodes were. -/
def HoldNothing (o : Options) (projected : Bool) (rows : Value) : Prop :=
  ∃ items, rows.items = .ok items ∧
    if projected then items = [] else ∀ row ∈ items, row.member o.nodeName = .ok .null

theorem restored_eq_null_iff {data : Value} : restored m data = .ok .null ↔ data = .null := by
  rw [restored, ← Value.isNull_eq_true_iff]
  split
  · next null => simp [null]
  · next some => simp [some, Except.map_eq_ok_iff]

theorem nodeIn_eq_null_iff {o : Options} {row : Value} :
    nodeIn o m row = .ok .null ↔ row.member o.nodeName = .ok .null := by
  rw [nodeIn]
  cases row.member o.nodeName with
  | error fault => simp [Except.bind]
  | ok stored => simp [Except.bind, restored_eq_null_iff]

/-- A row holds nothing if nodes were asked for and there is none in it. -/
theorem heldBy_eq_none_iff {o : Options} {projected : Bool} {row : Value} :
    heldBy o m projected row = .ok none ↔
      projected = false ∧ row.member o.nodeName = .ok .null := by
  rw [heldBy, ← nodeIn_eq_null_iff (m := m)]
  cases projected with
  | true => simp [Except.map_eq_ok_iff]
  | false => simp [Except.map_eq_ok_iff]

theorem mapM_reduceOption_eq_nil_iff {ε α β : Type} {f : α → Except ε (Option β)} {xs : List α} :
    (xs.mapM f).map List.reduceOption = .ok [] ↔ ∀ x ∈ xs, f x = .ok none := by
  induction xs with
  | nil => exact iff_of_true rfl (List.forall_mem_nil _)
  | cons x rest ih =>
    rw [List.forall_mem_cons, ← ih, List.mapM_cons]
    rcases f x with fault | _ | b
    · simp [bind, Except.bind, Except.map]
    · cases rest.mapM f <;> simp [bind, Except.bind, Except.map, pure, Except.pure]
    · cases rest.mapM f <;> simp [bind, Except.bind, Except.map, pure, Except.pure]

/-- When nothing is read from rows. -/
theorem heldIn_eq_nil_iff {o : Options} {projected : Bool} {rows : Value} :
    heldIn o m projected rows = .ok [] ↔ HoldNothing o projected rows := by
  rw [heldIn, HoldNothing]
  cases found : rows.items with
  | error fault => simp [Except.bind]
  | ok items =>
    simp only [Except.bind, mapM_reduceOption_eq_nil_iff, heldBy_eq_none_iff, Except.ok.injEq,
      exists_eq_left']
    cases projected
    · simp
    · simpa using List.eq_nil_iff_forall_not_mem.symm

/-! ### Rows as a server gives them -/

/-- Rows as a server gives them: mappings, in which a node is a mapping itself. -/
def Tabular (o : Options) (rows : Value) : Prop :=
  ∃ items, rows = .list items ∧ ∀ row ∈ items, ∃ entries, row = .map entries ∧
    (Value.getD entries o.nodeName = .null ∨ (Value.getD entries o.nodeName).isMap = true)

theorem exists_restored {data : Value} (mapping : data = .null ∨ data.isMap = true) :
    ∃ v, restored m data = .ok v := by
  rcases mapping with rfl | mapping
  · exact ⟨_, rfl⟩
  · cases data with
    | map entries => exact ⟨_, rfl⟩
    | _ => cases mapping

/-- Rows as a server gives them can be read. -/
theorem Tabular.exists_heldIn {o : Options} {rows : Value} (tabular : Tabular o rows)
    (projected : Bool) : ∃ held, heldIn o m projected rows = .ok held := by
  obtain ⟨items, rfl, each⟩ := tabular
  have readable : ∀ row ∈ items, ∃ held?, heldBy o m projected row = .ok held? := by
    intro row member
    obtain ⟨entries, rfl, node⟩ := each row member
    cases projected with
    | true => exact ⟨_, rfl⟩
    | false =>
      obtain ⟨v, read⟩ := exists_restored (m := m) node
      have found : nodeIn o m (.map entries) = .ok v := read
      exact ⟨_, by rw [heldBy, if_neg Bool.false_ne_true, found]; rfl⟩
  obtain ⟨held, read⟩ := exists_mapM readable
  exact ⟨held.reduceOption, by
    simp only [heldIn, Value.items, Except.bind, read, Except.map]⟩

end Repository

end GraphMapper
