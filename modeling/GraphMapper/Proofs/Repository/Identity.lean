import GraphMapper.Proofs.Query.Bindings
import GraphMapper.Proofs.Query.Layout
import GraphMapper.Proofs.Query.Naming
import GraphMapper.Proofs.Repository.Calls
import Mathlib.Order.Interval.Set.Defs
import Mathlib.Data.Set.Function

/-!
# The ids of written nodes

A node that is written without an id gets a fresh one. A repository takes an id that counts as false
for none, while the statement that merges a node is refused only if the id is null. So ids such as
zero, false and the empty text are replaced, although a node could be merged under them.

## Main definitions

* `Model.usedId` — the id that a node is written with
* `Repository.WritesId` — a call that writes a node with an id

## Main results

* `Model.usedId_eq_given_iff` — an id is kept exactly if it counts as true
* `Query.Operation.compileMerge_refused_iff` — a merge is refused exactly if the id is null
* `Repository.writes_used_id` — all ways of writing a node use the same id
-/

namespace GraphMapper

/-! ### The id in use -/

namespace Model

variable {m : Model} {entries : Value.Entries} {supply : Supply}

/-- The id that a node is written with: the given one, or a fresh one if that counts as false. -/
def usedId (m : Model) (entries : Value.Entries) (supply : Supply) : Value :=
  if (Value.getD entries m.idName).truthy then Value.getD entries m.idName
  else .text (Supply.grouped supply.current)

theorem truthy_usedId : (m.usedId entries supply).truthy = true := by
  rw [usedId]
  split
  · assumption
  · simp [Value.truthy, Supply.grouped_ne_empty]

/-- An id is kept exactly if it counts as true. -/
theorem usedId_eq_given_iff :
    m.usedId entries supply = Value.getD entries m.idName ↔
      (Value.getD entries m.idName).truthy = true := by
  constructor
  · intro kept
    rw [← kept]
    exact truthy_usedId
  · intro given
    rw [usedId, if_pos given]

@[simp] theorem getD_complete :
    Value.getD (m.complete entries supply).1 m.idName = m.usedId entries supply := by
  rw [complete, usedId, Repository.lacksId]
  cases (Value.getD entries m.idName).truthy <;> simp

/-- An identifier is drawn for the id exactly if the given one counts as false. -/
theorem drawn_complete :
    (m.complete entries supply).2.drawn =
      supply.drawn + if (Value.getD entries m.idName).truthy then 0 else 1 := by
  rw [complete, Repository.lacksId]
  cases (Value.getD entries m.idName).truthy <;> rfl

theorem hex_complete : (m.complete entries supply).2.hex = supply.hex := by
  rw [complete]
  split <;> rfl

/-- The two identifiers that are drawn after the id are different. -/
theorem current_complete_ne
    (distinct : Set.InjOn supply.hex (Set.Ico supply.drawn (supply.drawn + 3))) :
    (m.complete entries supply).2.current ≠ (m.complete entries supply).2.advance.current := by
  have drawn : (m.complete entries supply).2.drawn = supply.drawn + _ := drawn_complete
  -- one identifier at most has been drawn for the id, so both are among the first three
  have among : supply.drawn ≤ (m.complete entries supply).2.drawn ∧
      (m.complete entries supply).2.drawn < supply.drawn + 2 := by
    split at drawn <;> omega
  intro same
  rw [Supply.current, Supply.current, Supply.hex_advance, Supply.drawn_advance, hex_complete]
    at same
  have equal := distinct ⟨by omega, by omega⟩ ⟨by omega, by omega⟩ same
  omega

theorem usedId_ne_null : m.usedId entries supply ≠ .null := by
  intro null
  have truthy : (m.usedId entries supply).truthy = true := truthy_usedId
  rw [null] at truthy
  cases truthy

end Model

/-! ### Statements that write a node -/

namespace Query

/-- Names made with different identifiers are different. -/
theorem Namer.fresh_ne_fresh {n n' : Namer}
    (length : n.supply.current.length = n'.supply.current.length)
    (differ : n.supply.current ≠ n'.supply.current) (field field' : String) :
    n.fresh field ≠ n'.fresh field' := by
  intro same
  have chars := congrArg String.toList same
  simp only [Namer.fresh, String.toList_append] at chars
  exact differ (String.toList_inj.1 (List.append_inj' chars length).2)

namespace Operation

variable {o : Options} {m : Model} {entries : Value.Entries} {supply : Supply}

/-- The statement that writes a new node binds its properties. -/
theorem exists_compile_create (o : Options) (m : Model) (entries : Value.Entries)
    (supply : Supply) :
    ∃ text property, (create (.map entries)).compile o m supply =
      .ok (⟨text, [(property, .map entries)]⟩, supply.advance) :=
  ⟨_, _, rfl⟩

theorem mergeId_map (given : Value.getD entries m.idName ≠ .null) :
    mergeId m (.map entries) = .ok (Value.getD entries m.idName) := by
  simp only [mergeId, Value.member]

/-- The statement that merges a node binds its id and its properties, whatever the id is unless it
is null. -/
theorem exists_compileMerge (given : Value.getD entries m.idName ≠ .null) (o : Options)
    (symbol : String) (hex : supply.Hexadecimal)
    (differ : supply.current ≠ supply.advance.current) :
    ∃ text key property, compileMerge o m (.map entries) symbol supply =
      .ok (⟨text, [(key, Value.getD entries m.idName), (property, .map entries)]⟩,
        supply.advance.advance) := by
  have length : supply.current.length = supply.advance.current.length :=
    (hex _).1.trans (hex _).1.symm
  let key := (Namer.start supply).fresh m.idName
  let property := ((Namer.start supply).name m.idName).2.fresh "properties"
  have apart : (key == property) = false :=
    beq_eq_false_iff_ne.2 (Namer.fresh_ne_fresh length differ m.idName "properties")
  let t := (mergeTemplate o m (Value.getD entries m.idName) (.map entries) symbol supply).1
  have slots : t.slots =
      [.draw (Namer.start supply) m.idName (Value.getD entries m.idName),
        .draw ((Namer.start supply).name m.idName).2 "properties" (.map entries)] := rfl
  have params : t.params =
      [(key, Value.getD entries m.idName), (property, .map entries)] := by
    rw [Template.params, slots]
    simp [Slot.binding, Slot.name_draw, Bindings.merge, Bindings.bind, key, property, apart]
  refine ⟨t.text, key, property, ?_⟩
  rw [compileMerge_eq_template, mergeId_map given, ← params]
  rfl

/-- The statement that merges a node is refused exactly if the id is null. -/
theorem compileMerge_refused_iff {symbol : String} :
    compileMerge o m (.map entries) symbol supply =
        .error (.compile (.idRequired m.idName m.name)) ↔
      Value.getD entries m.idName = .null := by
  constructor
  · intro refused
    by_contra given
    rw [compileMerge_eq_template, mergeId_map given] at refused
    cases refused
  · intro absent
    simp only [compileMerge, Value.member, absent]

end Operation

end Query

/-! ### Calls that write a node -/

namespace Repository

open Query (Options Operation Statement)
open Schema (Call)

variable {σ α : Type} {r : Repository σ} {name : Value} {m : Model} {st : State σ}

/-- The call writes a node of the model with the id and nothing else: the properties that it binds
have the id, and so has the pattern if it looks for the node. -/
inductive WritesId (m : Model) (id : Value) (answer : Except Fault Value) : Call → Prop
  /-- The node is new. -/
  | created {text property : String} {props : Value.Entries}
    (held : Value.getD props m.idName = id) :
    WritesId m id answer (.execute text (.map [(.text property, .map props)]) answer)
  /-- The node is looked for first. -/
  | merged {text key property : String} {props : Value.Entries}
    (held : Value.getD props m.idName = id) :
    WritesId m id answer
      (.execute text (.map [(.text key, id), (.text property, .map props)]) answer)

/-- A request that completes its data sends the statement for the completed data. -/
theorem exists_goes_of_completing (known : r.registry.get name = .ok m) {entries : Value.Entries}
    (q : Request) (op : Value.Entries → Operation)
    (read : Model → Value.Entries → Value → Except ShapeFault q.Answer)
    (prepares : q.errand r.registry r.options =
      completing r.registry name (.map entries) >>= fun p =>
        errandOf r.options p.1 (op p.2) (read p.1 p.2))
    {statement : Statement} {left : Supply}
    (compiled : (op (m.complete entries st.supply).1).compile r.options m
      (m.complete entries st.supply).2 = .ok (statement, left)) :
    ∃ answer server,
      r.Goes (fun _ r => q.act r) st [.execute statement.text statement.arguments answer]
        (answer.bind fun rows =>
          (read m (m.complete entries st.supply).1 rows).mapError .shape) ⟨server, left⟩ := by
  have prepared : (q.errand r.registry r.options).perform st.supply =
      (.ok ⟨statement, read m (m.complete entries st.supply).1⟩, left) := by
    rw [prepares, Act.perform_bind, perform_completing known]
    exact perform_errandOf compiled _
  rcases answered : (r.executor.execute statement.text statement.arguments).perform st.server
    with ⟨answer, server⟩
  exact ⟨answer, server, q.goes_act_of_ok prepared answered⟩

/-- A node is created with the id in use, which is what is yielded. -/
theorem exists_goes_create (known : r.registry.get name = .ok m) (entries : Value.Entries)
    (st : State σ) :
    ∃ call answer st', WritesId m (m.usedId entries st.supply) answer call ∧
      r.Goes (fun _ r => r.create name (.map entries)) st [call]
        (answer.map fun _ => m.usedId entries st.supply) st' ∧
      st'.supply = (m.complete entries st.supply).2.advance := by
  obtain ⟨text, property, compiled⟩ := Operation.exists_compile_create r.options m
    (m.complete entries st.supply).1 (m.complete entries st.supply).2
  obtain ⟨answer, server, goes⟩ := exists_goes_of_completing known
    (.create name (.map entries)) (fun props => .create (.map props))
    (fun m props _ => .ok (Value.getD props m.idName)) rfl compiled
  rw [Model.getD_complete] at goes
  have created : r.Goes (fun _ r => r.create name (.map entries)) st
      [.execute text (.map [(.text property, .map (m.complete entries st.supply).1)]) answer]
      (answer.map fun _ => m.usedId entries st.supply)
      ⟨server, (m.complete entries st.supply).2.advance⟩ := by
    cases answer <;> exact goes
  exact ⟨_, answer, _, .created Model.getD_complete, created, rfl⟩

/-- A node is merged with the id in use. -/
theorem exists_goes_merge (known : r.registry.get name = .ok m) {entries : Value.Entries}
    (hex : st.supply.Hexadecimal)
    (distinct : Set.InjOn st.supply.hex (Set.Ico st.supply.drawn (st.supply.drawn + 3)))
    {q : Request}
    (merge : q = .save name (.map entries) ∨ q = .updateOrCreate name (.map entries)) :
    ∃ call answer outcome st', WritesId m (m.usedId entries st.supply) answer call ∧
      r.Goes (fun _ r => q.act r) st [call] outcome st' ∧
      st'.supply = (m.complete entries st.supply).2.advance.advance := by
  have given : Value.getD (m.complete entries st.supply).1 m.idName ≠ .null := by
    rw [Model.getD_complete]
    exact Model.usedId_ne_null
  have hex' : (m.complete entries st.supply).2.Hexadecimal := by
    rw [Supply.Hexadecimal, Model.hex_complete]
    exact hex
  -- both requests merge, and differ in the sign before the properties only
  obtain ⟨op, symbol, read, merges, prepares⟩ :
      ∃ (op : Value.Entries → Operation) (symbol : String)
        (read : Model → Value.Entries → Value → Except ShapeFault q.Answer),
        (∀ props supply, (op props).compile r.options m supply =
          Operation.compileMerge r.options m (.map props) symbol supply) ∧
        q.errand r.registry r.options = completing r.registry name (.map entries) >>= fun p =>
          errandOf r.options p.1 (op p.2) (read p.1 p.2) := by
    rcases merge with rfl | rfl
    · exact ⟨fun props => .save (.map props), "=", fun m _ => firstIn (nodeIn r.options m) .null,
        fun _ _ => rfl, rfl⟩
    · exact ⟨fun props => .updateOrCreate (.map props), "+=",
        fun m _ => firstIn (nodeIn r.options m) .null, fun _ _ => rfl, rfl⟩
  obtain ⟨text, key, property, compiled⟩ :=
    Operation.exists_compileMerge given r.options symbol hex' (Model.current_complete_ne distinct)
  rw [← merges] at compiled
  obtain ⟨answer, server, goes⟩ := exists_goes_of_completing known q op read prepares compiled
  rw [Model.getD_complete] at goes
  exact ⟨_, answer, _, ⟨server, _⟩, .merged Model.getD_complete, goes, rfl⟩

/-- Every way of writing a node uses the same id. It is the given id if that counts as true, and
otherwise an identifier that is drawn for it, although a merge is refused only if the id is null. -/
theorem writes_used_id (r : Repository σ) {name : Value} {m : Model}
    (known : r.registry.get name = .ok m) (entries : Value.Entries) (st : State σ)
    (hex : st.supply.Hexadecimal)
    (distinct : Set.InjOn st.supply.hex (Set.Ico st.supply.drawn (st.supply.drawn + 3))) :
    let given := Value.getD entries m.idName
    let used := m.usedId entries st.supply
    (∃ call answer st', WritesId m used answer call ∧
      r.Goes (fun _ r => r.create name (.map entries)) st [call] (answer.map fun _ => used) st' ∧
      st'.supply.drawn = st.supply.drawn + if given.truthy then 1 else 2) ∧
    (∀ q, q = .save name (.map entries) ∨ q = .updateOrCreate name (.map entries) →
      ∃ call answer outcome st', WritesId m used answer call ∧
        r.Goes (fun _ r => Request.act r q) st [call] outcome st' ∧
        st'.supply.drawn = st.supply.drawn + if given.truthy then 2 else 3) ∧
    (∀ filter calls st₁, r.Goes (fun _ r => r.findOne name filter) st calls (.ok none) st₁ →
      ∃ call answer props st', WritesId m (m.usedId entries st₁.supply) answer call ∧
        r.Goes (fun _ r => r.findOrCreate name filter (.map entries)) st (calls ++ [call])
          (answer.map fun _ => (.map props, true)) st' ∧
        Value.getD props m.idName = m.usedId entries st₁.supply ∧
        st'.supply.drawn = st₁.supply.drawn + if given.truthy then 1 else 2) ∧
    (used = given ↔ given.truthy = true) ∧
    (given.truthy = false → used = .text (Supply.grouped st.supply.current)) ∧
    ∀ op, op = Operation.save (.map entries) ∨ op = Operation.updateOrCreate (.map entries) →
      (op.compile r.options m st.supply = .error (.compile (.idRequired m.idName m.name)) ↔
        given = .null) := by
  intro given used
  have drawn (supply : Supply) : (m.complete entries supply).2.drawn =
      supply.drawn + if given.truthy then 0 else 1 := Model.drawn_complete
  refine ⟨?_, ?_, ?_, Model.usedId_eq_given_iff, ?_, ?_⟩
  · obtain ⟨call, answer, st', writes, goes, left⟩ := exists_goes_create known entries st
    refine ⟨call, answer, st', writes, goes, ?_⟩
    rw [left, Supply.drawn_advance, drawn]
    split <;> rfl
  · intro q merge
    obtain ⟨call, answer, outcome, st', writes, goes, left⟩ :=
      exists_goes_merge known hex distinct merge
    refine ⟨call, answer, outcome, st', writes, goes, ?_⟩
    rw [left, Supply.drawn_advance, Supply.drawn_advance, drawn]
    split <;> rfl
  · intro filter calls st₁ searched
    -- the id is drawn from the supply that the search has left
    obtain ⟨statement, property, answer, server, -, bound, created⟩ :=
      exists_goes_unlessFound known entries st₁
    refine ⟨_, answer, (m.complete entries st₁.supply).1, _, ?_,
      (searched.bind created).of_eq (findOrCreate_eq r name filter (.map entries))
        (findOrCreate_eq r.recorded name filter (.map entries)), Model.getD_complete, ?_⟩
    · rw [Statement.arguments, bound]
      exact .created Model.getD_complete
    · rw [Supply.drawn_advance, drawn]
      split <;> rfl
  · intro falsy
    exact if_neg (by rw [falsy]; exact Bool.false_ne_true)
  · rintro op (rfl | rfl)
    · exact Operation.compileMerge_refused_iff
    · exact Operation.compileMerge_refused_iff

/-- An id of zero is replaced when a node is created, although a node can be merged under it. -/
theorem writes_used_id_zero :
    let m : Model := { name := "User" }
    let r : Repository Unit :=
      { registry := .ofList [m], options := {}, enterprise := false, clock := fun _ => 0,
        executor := { name := "Idle", execute := fun _ _ => pure (.list []), inspector? := none } }
    let entries : Value.Entries := [(.text "id", .int 0)]
    let fresh : Value := .text "00000001-0000-0001-0000-000100000001"
    (∃ call answer st', WritesId m fresh answer call ∧
      r.Goes (fun _ r => r.create (.text "User") (.map entries)) ⟨(), .counting⟩ [call]
        (answer.map fun _ => fresh) st') ∧
      (Operation.save (.map entries)).compile r.options m .counting ≠
        .error (.compile (.idRequired m.idName m.name)) := by
  intro m r entries fresh
  have known : r.registry.get (.text "User") = .ok m := rfl
  have distinct : Set.InjOn Supply.counting.hex
      (Set.Ico Supply.counting.drawn (Supply.counting.drawn + 3)) := by
    intro i left j right same
    have few : Supply.counting.drawn = 0 := rfl
    exact Supply.counting_inj (by have := left.2; omega) (by have := right.2; omega) same
  obtain ⟨⟨call, answer, st', writes, goes, -⟩, -, -, -, replaced, merges⟩ :=
    writes_used_id r known entries ⟨(), .counting⟩ Supply.hexadecimal_counting distinct
  have first : Supply.grouped Supply.counting.current = "00000001-0000-0001-0000-000100000001" := by
    decide +kernel
  have used : m.usedId entries .counting = fresh :=
    (replaced (by decide +kernel)).trans (congrArg Value.text first)
  rw [used] at writes goes
  refine ⟨⟨call, answer, st', writes, goes⟩, fun refused => ?_⟩
  have null := (merges _ (.inl rfl)).1 refused
  have given : (Value.getD entries m.idName).isNull = false := by decide +kernel
  rw [null] at given
  cases given

end Repository

end GraphMapper
