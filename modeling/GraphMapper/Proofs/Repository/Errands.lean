import GraphMapper.Proofs.Repository.Rows
import GraphMapper.Proofs.Value.Entries

/-!
# Errands

Every operation of a repository but one is an errand: a statement is prepared, it is sent, and what
the operation yields is read off the rows. Nothing but the supply of identifiers is needed to
prepare it. So whatever is wrong with the model, the data or the filter is found before the server
hears of it.

## Main definitions

* `Repository.Errand` — a statement, and how its rows are read
* `Repository.carryOut` — preparing an errand, sending it and reading the rows
* `Repository.completing` — giving data an id
* `Repository.Request` — the operations that are one errand
* `Repository.Request.act`, `Repository.Request.errand` — what a request does, and what it sends

## Main results

* `Repository.run_bind_eq_carryOut` — an act that runs a statement and reads the rows is an errand
* `Repository.Request.act_eq_carryOut` — every request carries out its errand
* `Repository.findOrCreate_eq` — the search and the creation of a missing node are two errands
-/

namespace GraphMapper

/-! ### Preparing statements -/

/-- The parameters of a statement as they are passed on. -/
def Query.Statement.arguments (s : Query.Statement) : Value :=
  .map (s.params.map fun (k, v) => (.text k, v))

/-- The statement of an operation, prepared with identifiers from a supply. -/
def Query.Operation.compiled (o : Query.Options) (m : Model) (op : Query.Operation) :
    Act Supply Query.Statement :=
  Act.of fun supply =>
    match op.compile o m supply with
    | .ok (statement, rest) => (.ok statement, rest)
    | .error fault => (.error fault, supply)

namespace Repository

open Act (Yields result)
open Query (Options Operation Statement)

variable {σ α β : Type} {r : Repository σ} {name : Value} {m : Model}

/-- A statement, and how its rows are read. -/
structure Errand (α : Type) where
  /-- The statement. -/
  statement : Statement
  /-- What is read off the rows. -/
  read : Value → Except ShapeFault α

/-- The errand of an operation on the nodes of a model. -/
def errandOf (o : Options) (m : Model) (op : Operation) (read : Value → Except ShapeFault α) :
    Act Supply (Errand α) := do
  let statement ← op.compiled o m
  pure ⟨statement, read⟩

/-- An act on the supply. -/
def onSupply (a : Act Supply α) : Act (State σ) α :=
  a.on (·.supply) fun supply st => { st with supply := supply }

/-- Prepares an errand, sends its statement and reads the rows. -/
def carryOut (r : Repository σ) (prepare : Act Supply (Errand α)) : Act (State σ) α := do
  let e ← onSupply prepare
  let rows ← r.send e.statement
  shaped (e.read rows)

theorem perform_errandOf {o : Options} {op : Operation} {statement : Statement}
    {supply left : Supply} (compiled : op.compile o m supply = .ok (statement, left))
    (read : Value → Except ShapeFault α) :
    (errandOf o m op read).perform supply = (.ok ⟨statement, read⟩, left) := by
  rw [errandOf, Act.perform_bind, Operation.compiled, Act.perform_of, compiled]
  rfl

theorem onSupply_bind (a : Act Supply α) (f : α → Act Supply β) :
    (onSupply (a >>= f) : Act (State σ) β) = onSupply a >>= fun x => onSupply (f x) := by
  unfold onSupply
  refine Act.on_bind ?_ ?_ a f
  · exact fun _ _ => rfl
  · exact fun _ _ _ => rfl

theorem onSupply_result (x : Except Fault α) : (onSupply (result x) : Act (State σ) α) = result x :=
  rfl

/-- What is done before an errand with the supply alone belongs to its preparation. -/
theorem onSupply_bind_carryOut (a : Act Supply α) (f : α → Act Supply (Errand β)) :
    (onSupply a >>= fun x => r.carryOut (f x)) = r.carryOut (a >>= f) := by
  simp only [carryOut, onSupply_bind, bind_assoc]

theorem result_bind_carryOut (x : Except Fault α) (f : α → Act Supply (Errand β)) :
    (result x >>= fun y => r.carryOut (f y)) = r.carryOut (result x >>= f) := by
  rw [← onSupply_bind_carryOut, onSupply_result]

theorem compile_eq_onSupply (r : Repository σ) (m : Model) (op : Operation) :
    r.compile m op = onSupply (op.compiled r.options m) := by
  refine Act.ext fun st => ?_
  rw [compile, onSupply, Operation.compiled, Act.perform_on, Act.perform_of, Act.perform_of]
  rcases op.compile r.options m st.supply with fault | ⟨statement, rest⟩ <;> rfl

/-- An act that runs a statement and reads the rows carries out an errand. -/
theorem run_bind_eq_carryOut {op : Operation} {k : Value → Act (State σ) α}
    {read : Value → Except ShapeFault α}
    (reads : ∀ rows, Yields (k rows) ((read rows).mapError .shape)) :
    (r.run m op >>= k) = r.carryOut (errandOf r.options m op read) := by
  have last (rows : Value) : k rows = shaped (read rows) := (reads rows).eq_result
  rw [run, compile_eq_onSupply, errandOf, ← onSupply_bind_carryOut, bind_assoc]
  refine congrArg _ (funext fun statement => ?_)
  rw [funext last]
  rfl

/-- An operation on the nodes of a registered model carries out an errand. -/
theorem model_bind_eq_carryOut {op : Model → Operation} {k : Model → Value → Act (State σ) α}
    {read : Model → Value → Except ShapeFault α}
    (reads : ∀ m, r.registry.get name = .ok m →
      ∀ rows, Yields (k m rows) ((read m rows).mapError .shape)) :
    (r.model name >>= fun m => r.run m (op m) >>= k m) =
      r.carryOut (result (r.registry.get name) >>= fun m =>
        errandOf r.options m (op m) (read m)) := by
  rw [← result_bind_carryOut]
  exact Act.result_bind_congr fun m known => run_bind_eq_carryOut (reads m known)

end Repository

/-! ### Giving data an id -/

/-- Entries with an id: their own, or a fresh one if theirs stands for none. -/
def Model.complete (m : Model) (entries : Value.Entries) (supply : Supply) :
    Value.Entries × Supply :=
  if Repository.lacksId (Value.getD entries m.idName) then
    (Value.insert entries (.text m.idName) (.text (Supply.grouped supply.current)), supply.advance)
  else (entries, supply)

theorem Supply.grouped_ne_empty (hex : String) : grouped hex ≠ "" := by
  rw [grouped, String.intercalate_cons_cons]
  simp

/-- Completed entries have an id. -/
theorem Model.lacksId_complete (m : Model) (entries : Value.Entries) (supply : Supply) :
    Repository.lacksId (Value.getD (m.complete entries supply).1 m.idName) = false := by
  rw [complete]
  split
  · rw [Value.getD_insert_self]
    simp [Repository.lacksId, Value.truthy, Supply.grouped_ne_empty]
  · next has => simpa using has

namespace Repository

open Act (Yields result)
open Query (Options Operation Statement)

variable {σ α β : Type} {r : Repository σ} {name data : Value} {m : Model}

/-- The model of a name, and the entries of data with an id. -/
def completing (registry : Registry) (name data : Value) : Act Supply (Model × Value.Entries) := do
  let entries ← result (data.entries.mapError .shape)
  let m ← result (registry.get name)
  Act.of fun supply => (.ok (m, (m.complete entries supply).1), (m.complete entries supply).2)

theorem perform_completing {registry : Registry} (known : registry.get name = .ok m)
    (entries : Value.Entries) (supply : Supply) :
    (completing registry name (.map entries)).perform supply =
      (.ok (m, (m.complete entries supply).1), (m.complete entries supply).2) := by
  rw [completing, known]
  rfl

theorem model_bind (known : r.registry.get name = .ok m) (f : Model → Act (State σ) α) :
    r.model name >>= f = f m := by
  have found : r.model name = pure m := congrArg result known
  rw [found, pure_bind]

/-- What has an id is not given another one. -/
theorem withId_eq_pure {entries : Value.Entries} (known : r.registry.get name = .ok m)
    (given : lacksId (Value.getD entries m.idName) = false) :
    r.withId name (.map entries) = pure (entries, m.idName) := by
  have found : (shaped (Value.map entries).entries : Act (State σ) _) = pure entries := rfl
  rw [withId, found, pure_bind, model_bind known, given]
  rfl

/-- An act that gives data an id prepares its errand with the id. -/
theorem withId_bind_eq_carryOut {k : Value.Entries × String → Act (State σ) α}
    {f : Model × Value.Entries → Act Supply (Errand α)}
    (next : ∀ m entries, r.registry.get name = .ok m →
      lacksId (Value.getD entries m.idName) = false →
      k (entries, m.idName) = r.carryOut (f (m, entries))) :
    (r.withId name data >>= k) = r.carryOut (completing r.registry name data >>= f) := by
  rw [withId, completing, bind_assoc, bind_assoc, ← result_bind_carryOut]
  refine Act.result_bind_congr fun entries _ => ?_
  rw [bind_assoc, bind_assoc, ← result_bind_carryOut]
  refine Act.result_bind_congr fun m known => ?_
  rw [← onSupply_bind_carryOut]
  refine Act.ext fun st => ?_
  have given : (if lacksId (Value.getD entries m.idName) then do
        let st ← get
        set { st with supply := st.supply.advance }
        pure (Value.insert entries (.text m.idName) (.text (Supply.grouped st.supply.current)),
          m.idName)
      else pure (entries, m.idName) : Act (State σ) _).perform st =
      (.ok ((m.complete entries st.supply).1, m.idName),
        { st with supply := (m.complete entries st.supply).2 }) := by
    rw [Model.complete]
    split <;> rfl
  rw [Act.perform_bind, Act.perform_bind, given]
  exact congrArg (Act.perform · _) (next m _ known (m.lacksId_complete entries st.supply))

/-! ### Requests -/

/-- The operations that are one errand, and what they are called with. -/
inductive Request where
  /-- To write a new node. -/
  | create (name data : Value)
  /-- To write a node with the given properties and no others. -/
  | save (name data : Value)
  /-- To write a node with the given properties beside those that it has. -/
  | updateOrCreate (name data : Value)
  /-- To change the properties of the node with an id. -/
  | updateAttributes (name id data : Value)
  /-- To change the properties of the nodes under a condition. -/
  | updateAll (name condition data : Value)
  /-- To remove the node with an id. -/
  | destroy (name id : Value)
  /-- To remove the nodes under a condition. -/
  | destroyAll (name condition : Value)
  /-- To tell whether there is a node with an id. -/
  | contains (name id : Value)
  /-- To find the node with an id. -/
  | findById (name id : Value)
  /-- To find the nodes that a filter admits. -/
  | find (name filter : Value)
  /-- To find the first node that a filter admits. -/
  | findOne (name filter : Value)
  /-- To count the nodes under a condition. -/
  | count (name condition : Value)

namespace Request

/-- What a request yields. -/
abbrev Answer : Request → Type
  | .destroy _ _ => Unit
  | .contains _ _ => Bool
  | .find _ _ => List Value
  | .findOne _ _ => Option Value
  | _ => Value

/-- What a repository does on a request. -/
def act (r : Repository σ) : (q : Request) → Act (State σ) q.Answer
  | .create name data => r.create name data
  | .save name data => r.save name data
  | .updateOrCreate name data => r.updateOrCreate name data
  | .updateAttributes name id data => r.updateAttributes name id data
  | .updateAll name condition data => r.updateAll name condition data
  | .destroy name id => r.destroy name id
  | .destroyAll name condition => r.destroyAll name condition
  | .contains name id => r.contains name id
  | .findById name id => r.findById name id
  | .find name filter => r.find name filter
  | .findOne name filter => r.findOne name filter
  | .count name condition => r.count name condition

/-- The number in the first row, as the result of changing many nodes. -/
def counted (rows : Value) : Except ShapeFault Value :=
  (firstIn (·.require "count") (.int 0) rows).map fun count => .map [(.text "count", count)]

/-- The errand of a request: what it makes of its input before a statement is sent, and what it
makes of the rows. -/
def errand (registry : Registry) (o : Options) : (q : Request) → Act Supply (Errand q.Answer)
  | .create name data => do
    let (m, entries) ← completing registry name data
    errandOf o m (.create (.map entries)) fun _ => .ok (Value.getD entries m.idName)
  | .save name data => do
    let (m, entries) ← completing registry name data
    errandOf o m (.save (.map entries)) (firstIn (nodeIn o m) .null)
  | .updateOrCreate name data => do
    let (m, entries) ← completing registry name data
    errandOf o m (.updateOrCreate (.map entries)) (firstIn (nodeIn o m) .null)
  | .updateAttributes name id data => do
    let m ← result (registry.get name)
    errandOf o m (.updateAttributes id data) (firstIn (nodeIn o m) .null)
  | .updateAll name condition data => do
    let m ← result (registry.get name)
    errandOf o m (.updateAll (.value condition) data) counted
  | .destroy name id => do
    let m ← result (registry.get name)
    errandOf o m (.destroy id) fun _ => .ok ()
  | .destroyAll name condition => do
    let m ← result (registry.get name)
    errandOf o m (.destroyAll (.value condition)) counted
  | .contains name id => do
    let m ← result (registry.get name)
    errandOf o m (.exists id)
      (firstIn (fun row => (row.member "exists").map Value.truthy) false)
  | .findById name id => do
    let m ← result (registry.get name)
    errandOf o m (.findById id) (firstIn (nodeIn o m) .null)
  | .find name filter => do
    let f ← result (Query.Filter.ofValue o filter)
    let m ← result (registry.get name)
    errandOf o m (.find (.filter f)) (heldIn o m (!f.fields.isEmpty))
  | .findOne name filter => do
    let f ← result (Query.Filter.ofValue o filter)
    let m ← result (registry.get name)
    errandOf o m (.findOne (.filter f)) fun rows =>
      (heldIn o m (!f.fields.isEmpty) rows).map List.head?
  | .count name condition => do
    let m ← result (registry.get name)
    errandOf o m (.count (.value condition)) (firstIn (·.require "count") (.int 0))

/-- Whatever is requested, a repository prepares the errand, sends its statement once and reads the
rows. -/
theorem act_eq_carryOut (r : Repository σ) (q : Request) :
    q.act r = r.carryOut (q.errand r.registry r.options) := by
  cases q with
  | create name data =>
    refine withId_bind_eq_carryOut fun m entries known _ => ?_
    exact (model_bind known _).trans (run_bind_eq_carryOut fun rows => .pure _)
  | save name data | updateOrCreate name data =>
    refine withId_bind_eq_carryOut fun m entries known _ => ?_
    exact (model_bind known _).trans (run_bind_eq_carryOut fun rows => yields_firstNode known rows)
  | updateAttributes name id data | findById name id =>
    exact model_bind_eq_carryOut fun m known rows => yields_firstNode known rows
  | updateAll name condition data | destroyAll name condition =>
    refine model_bind_eq_carryOut fun m known rows => ?_
    rw [counted, Except.mapError_map]
    exact (yields_firstCount rows).bind fun count => .pure _
  | destroy name id =>
    exact model_bind_eq_carryOut fun m known rows => .pure _
  | contains name id =>
    refine model_bind_eq_carryOut fun m known rows => ?_
    refine yields_firstIn (fun row => ?_) false rows
    rw [Except.mapError_map]
    exact (yields_shaped _).bind fun found => .pure _
  | find name filter =>
    -- the filter is read before the model is looked up, so its fault comes first
    refine Eq.trans ?_ (result_bind_carryOut _ _)
    refine Act.result_bind_congr fun f parsed => ?_
    refine model_bind_eq_carryOut fun m known rows => ?_
    exact yields_heldIn known _ rows
  | findOne name filter =>
    refine Eq.trans ?_ (result_bind_carryOut _ _)
    refine Act.result_bind_congr fun f parsed => ?_
    simp only [found, bind_assoc]
    refine model_bind_eq_carryOut fun m known rows => ?_
    rw [Except.mapError_map, ← bind_assoc]
    exact (yields_heldIn known _ rows).bind fun nodes => .pure _
  | count name condition =>
    exact model_bind_eq_carryOut fun m known rows => yields_firstCount rows

end Request

/-! ### Finding or creating -/

/-- The errand that writes a missing node. -/
def creation (registry : Registry) (o : Options) (name data : Value) :
    Act Supply (Errand (Value × Bool)) := do
  let (m, entries) ← completing registry name data
  errandOf o m (.create (.map entries)) fun _ => .ok (.map entries, true)

/-- What follows on the search for a node: nothing if there is one, otherwise its creation. -/
def unlessFound (r : Repository σ) (name data : Value) :
    Option Value → Act (State σ) (Value × Bool)
  | some v => pure (v, false)
  | none => r.carryOut (creation r.registry r.options name data)

/-- To find or to create a node is to search for it, and to create it with the id it has been given
if nothing is found. -/
theorem findOrCreate_eq (r : Repository σ) (name filter data : Value) :
    r.findOrCreate name filter data = r.findOne name filter >>= r.unlessFound name data := by
  rw [findOrCreate]
  refine congrArg _ (funext fun found => ?_)
  cases found with
  | some v => rfl
  | none =>
    refine withId_bind_eq_carryOut fun m entries known given => ?_
    -- to create a node completes the data once more, which changes nothing: they have an id now
    have written : r.create name (.map entries) =
        r.run m (.create (.map entries)) >>= fun _ => pure (Value.getD entries m.idName) := by
      rw [create, withId_eq_pure known given, pure_bind]
      exact model_bind known _
    refine (congrArg (· >>= fun _ => pure (Value.map entries, true)) written).trans ?_
    rw [bind_assoc]
    exact run_bind_eq_carryOut fun rows => .pure _

end Repository

end GraphMapper
