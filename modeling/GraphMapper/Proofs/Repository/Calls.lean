import GraphMapper.Proofs.Repository.Errands
import GraphMapper.Proofs.Schema.Recording

/-!
# The calls of a repository

A repository deals with the server through its executor only, which can be made to record every
statement together with the answer to it. A request leaves no call in the record if its errand
cannot be prepared, and otherwise one call, with the statement of the errand. A fault that the
executor answers with is the outcome.

## Main definitions

* `Repository.recorded` — a repository that records its calls
* `Repository.Goes` — what becomes of an act, and the calls that it makes
* `Repository.Conducts`, `Repository.FindsOrCreates` — how a request goes, and how finding or
  creating a node does

## Main results

* `Repository.Request.exists_goes_act` — an errand that cannot be prepared is not sent, and any
  other is sent once
* `Repository.sends_compiled_or_nothing` — every operation sends what has been compiled, or nothing
-/

namespace GraphMapper

/-- The executor that records what it is asked to run. -/
def Executor.recorded {σ : Type} (x : Executor σ) : Executor (σ × List Schema.Call) where
  name := x.name
  execute := fun text params => (x.execute text params).recorded (.execute text params)
  inspector? := x.inspector?.map fun i =>
    { constraints := i.constraints.recorded (.report .constraints)
      indexes := i.indexes.recorded (.report .indexes) }

namespace Repository

open Query (Options Operation Statement)
open Schema (Call)

variable {σ α : Type}

/-- The repository that records its calls. -/
def recorded (r : Repository σ) : Repository (σ × List Call) where
  registry := r.registry
  executor := r.executor.recorded
  options := r.options
  enterprise := r.enterprise
  clock := fun s => r.clock s.1

/-- The state of a repository with the calls that have been recorded. -/
def State.keeping (st : State σ) (calls : List Call) : State (σ × List Call) :=
  ⟨(st.server, calls), st.supply⟩

/-- From one state to another the act makes the calls and has the outcome: so it does on the server,
and so it does where its calls are recorded. -/
abbrev Goes (r : Repository σ) (act : (τ : Type) → Repository τ → Act (State τ) α)
    (st : State σ) (calls : List Call) (outcome : Except Fault α) (st' : State σ) : Prop :=
  Act.Records State.keeping (act σ r) (act (σ × List Call) r.recorded) st calls outcome st'

/-- The call that sends an errand. -/
def Errand.call (e : Errand α) (answer : Except Fault Value) : Call :=
  .execute e.statement.text e.statement.arguments answer

/-- How an errand goes: the calls, and the outcome. -/
inductive Conducts (prepared : Except Fault (Errand α)) : List Call → Except Fault α → Prop
  /-- The errand could not be prepared, so nothing is sent. -/
  | refused {fault : Fault} (unprepared : prepared = .error fault) :
    Conducts prepared [] (.error fault)
  /-- The executor answered with a fault. -/
  | failed {e : Errand α} {fault : Fault} (ready : prepared = .ok e) :
    Conducts prepared [e.call (.error fault)] (.error fault)
  /-- The executor answered with rows. -/
  | answered {e : Errand α} {rows : Value} (ready : prepared = .ok e) :
    Conducts prepared [e.call (.ok rows)] ((e.read rows).mapError .shape)

/-- How finding a node goes that is created if there is none: the calls, and the outcome. -/
inductive FindsOrCreates (r : Repository σ) (name filter : Value) (entries : Value.Entries)
    (supply : Supply) : List Call → Except Fault (Value × Bool) → Prop
  /-- The search could not be prepared, so nothing is sent. -/
  | refused {fault : Fault} {rest : Supply}
    (unprepared : ((Request.findOne name filter).errand r.registry r.options).perform supply =
      (.error fault, rest)) :
    FindsOrCreates r name filter entries supply [] (.error fault)
  /-- The executor answered the search with a fault, and nothing more is sent. -/
  | failed {e : Errand (Option Value)} {fault : Fault} {rest : Supply}
    (ready : ((Request.findOne name filter).errand r.registry r.options).perform supply =
      (.ok e, rest)) :
    FindsOrCreates r name filter entries supply [e.call (.error fault)] (.error fault)
  /-- What the executor answered are no rows of nodes, and nothing more is sent. -/
  | unreadable {e : Errand (Option Value)} {rows : Value} {fault : ShapeFault} {rest : Supply}
    (ready : ((Request.findOne name filter).errand r.registry r.options).perform supply =
      (.ok e, rest))
    (read : e.read rows = .error fault) (misshapen : ¬ Tabular r.options rows) :
    FindsOrCreates r name filter entries supply [e.call (.ok rows)] (.error (.shape fault))
  /-- The rows hold something, which is yielded; nothing more is sent. -/
  | found {f : Query.Filter} {e : Errand (Option Value)} {rows v : Value} {rest : Supply}
    (parsed : Query.Filter.ofValue r.options filter = .ok f)
    (ready : ((Request.findOne name filter).errand r.registry r.options).perform supply =
      (.ok e, rest))
    (read : e.read rows = .ok (some v))
    (something : ¬ HoldNothing r.options (!f.fields.isEmpty) rows) :
    FindsOrCreates r name filter entries supply [e.call (.ok rows)] (.ok (v, false))
  /-- The rows hold nothing. A node is created once, with an id, and what is bound is yielded unless
  the executor answers with a fault. -/
  | missing {f : Query.Filter} {m : Model} {e : Errand (Option Value)} {rows : Value}
    {statement : Statement} {property : String} {answer : Except Fault Value}
    {given : Value.Entries} {rest drawn left : Supply}
    (parsed : Query.Filter.ofValue r.options filter = .ok f)
    (ready : ((Request.findOne name filter).errand r.registry r.options).perform supply =
      (.ok e, rest))
    (nothing : HoldNothing r.options (!f.fields.isEmpty) rows)
    (known : r.registry.get name = .ok m)
    (completed : m.complete entries rest = (given, drawn))
    (compiled : (Operation.create (.map given)).compile r.options m drawn = .ok (statement, left))
    (bound : statement.params = [(property, .map given)]) :
    FindsOrCreates r name filter entries supply
      [e.call (.ok rows), .execute statement.text statement.arguments answer]
      (answer.map fun _ => (.map given, true))

/-! ### Errands -/

section

variable {r : Repository σ} {prepare : Act Supply (Errand α)} {st : State σ} {rest : Supply}

/-- What it is to carry out an errand that has been prepared. -/
theorem perform_carryOut_of_ok {e : Errand α} {answer : Except Fault Value} {server : σ}
    (ready : prepare.perform st.supply = (.ok e, rest))
    (answered : (r.executor.execute e.statement.text e.statement.arguments).perform st.server =
      (answer, server)) :
    (r.carryOut prepare).perform st =
      (answer.bind fun rows => (e.read rows).mapError .shape, ⟨server, rest⟩) := by
  rw [carryOut, Act.perform_bind, onSupply, Act.perform_on, ready]
  have sent : (r.send e.statement).perform ⟨st.server, rest⟩ = (answer, ⟨server, rest⟩) := by
    rw [send, onServer, Act.perform_on]
    exact congrArg (fun p => (p.1, (⟨p.2, rest⟩ : State σ))) answered
  dsimp only
  rw [Act.perform_bind, sent]
  cases answer <;> rfl

theorem perform_carryOut_of_error {fault : Fault}
    (unprepared : prepare.perform st.supply = (.error fault, rest)) :
    (r.carryOut prepare).perform st = (.error fault, ⟨st.server, rest⟩) := by
  rw [carryOut, Act.perform_bind, onSupply, Act.perform_on, unprepared]

/-- An errand that cannot be prepared is not sent. -/
theorem goes_carryOut_of_error {fault : Fault}
    (unprepared : prepare.perform st.supply = (.error fault, rest)) :
    r.Goes (fun _ r => r.carryOut prepare) st [] (.error fault) ⟨st.server, rest⟩ where
  plain := perform_carryOut_of_error unprepared
  recorded before := by
    have unprepared : prepare.perform (st.keeping before).supply = (.error fault, rest) :=
      unprepared
    rw [List.append_nil]
    exact perform_carryOut_of_error unprepared

/-- An errand is sent once, and its rows are read. -/
theorem goes_carryOut_of_ok {e : Errand α} {answer : Except Fault Value} {server : σ}
    (ready : prepare.perform st.supply = (.ok e, rest))
    (answered : (r.executor.execute e.statement.text e.statement.arguments).perform st.server =
      (answer, server)) :
    r.Goes (fun _ r => r.carryOut prepare) st [e.call answer]
      (answer.bind fun rows => (e.read rows).mapError .shape) ⟨server, rest⟩ where
  plain := perform_carryOut_of_ok ready answered
  recorded before := by
    have ready : prepare.perform (st.keeping before).supply = (.ok e, rest) := ready
    refine perform_carryOut_of_ok ready ?_
    exact (Act.Records.recorded_act e.call answered).recorded before

/-- A request whose errand cannot be prepared sends nothing. -/
theorem Request.goes_act_of_error {q : Request} {fault : Fault}
    (unprepared : (q.errand r.registry r.options).perform st.supply = (.error fault, rest)) :
    r.Goes (fun _ r => q.act r) st [] (.error fault) ⟨st.server, rest⟩ :=
  (goes_carryOut_of_error unprepared).of_eq (q.act_eq_carryOut r) (q.act_eq_carryOut r.recorded)

/-- A request sends its errand once. -/
theorem Request.goes_act_of_ok {q : Request} {e : Errand q.Answer} {answer : Except Fault Value}
    {server : σ} (ready : (q.errand r.registry r.options).perform st.supply = (.ok e, rest))
    (answered : (r.executor.execute e.statement.text e.statement.arguments).perform st.server =
      (answer, server)) :
    r.Goes (fun _ r => q.act r) st [e.call answer]
      (answer.bind fun rows => (e.read rows).mapError .shape) ⟨server, rest⟩ :=
  (goes_carryOut_of_ok ready answered).of_eq (q.act_eq_carryOut r) (q.act_eq_carryOut r.recorded)

/-- A request whose errand cannot be prepared sends nothing, and any other sends it once. -/
theorem Request.exists_goes_act (r : Repository σ) (q : Request) (st : State σ) :
    ∃ calls outcome st', r.Goes (fun _ r => q.act r) st calls outcome st' ∧
      Conducts ((q.errand r.registry r.options).perform st.supply).1 calls outcome := by
  rcases ready : (q.errand r.registry r.options).perform st.supply with ⟨fault | e, rest⟩
  · exact ⟨[], .error fault, _, goes_act_of_error ready, .refused rfl⟩
  · rcases answered : (r.executor.execute e.statement.text e.statement.arguments).perform st.server
      with ⟨fault | rows, server⟩
    · exact ⟨_, _, _, goes_act_of_ok ready answered, .failed rfl⟩
    · exact ⟨_, _, _, goes_act_of_ok ready answered, .answered rfl⟩

end

/-! ### Finding or creating -/

/-- What the search for a node reads, and with which filter. -/
theorem exists_of_perform_findOne {registry : Registry} {o : Options} {name filter : Value}
    {e : Errand (Option Value)} {supply rest : Supply}
    (ready : ((Request.findOne name filter).errand registry o).perform supply = (.ok e, rest)) :
    ∃ f m, Query.Filter.ofValue o filter = .ok f ∧ registry.get name = .ok m ∧
      ∀ rows, e.read rows = (heldIn o m (!f.fields.isEmpty) rows).map List.head? := by
  obtain ⟨f, _, parsed, ready⟩ := Act.perform_bind_eq_ok ready
  obtain ⟨m, _, known, ready⟩ := Act.perform_bind_eq_ok ready
  obtain ⟨statement, _, -, ready⟩ := Act.perform_bind_eq_ok ready
  cases ready
  exact ⟨f, m, congrArg Prod.fst parsed, congrArg Prod.fst known, fun rows => rfl⟩

/-- A node that is not found is given an id and created with one statement, which binds its
properties. -/
theorem exists_goes_unlessFound {r : Repository σ} {name : Value} {m : Model}
    (known : r.registry.get name = .ok m) (entries : Value.Entries) (st : State σ) :
    ∃ statement property answer server,
      (Operation.create (.map (m.complete entries st.supply).1)).compile r.options m
        (m.complete entries st.supply).2 =
          .ok (statement, (m.complete entries st.supply).2.advance) ∧
      statement.params = [(property, .map (m.complete entries st.supply).1)] ∧
      r.Goes (fun _ r => r.unlessFound name (.map entries) none) st
        [.execute statement.text statement.arguments answer]
        (answer.map fun _ => (.map (m.complete entries st.supply).1, true))
        ⟨server, (m.complete entries st.supply).2.advance⟩ := by
  obtain ⟨statement, property, compiled, bound⟩ : ∃ statement property,
      (Operation.create (.map (m.complete entries st.supply).1)).compile r.options m
        (m.complete entries st.supply).2 =
          .ok (statement, (m.complete entries st.supply).2.advance) ∧
      statement.params = [(property, .map (m.complete entries st.supply).1)] :=
    ⟨_, _, rfl, rfl⟩
  have prepared : (creation r.registry r.options name (.map entries)).perform st.supply =
      (.ok ⟨statement, fun _ => .ok (.map (m.complete entries st.supply).1, true)⟩,
        (m.complete entries st.supply).2.advance) := by
    rw [creation, Act.perform_bind, perform_completing known]
    exact perform_errandOf compiled _
  rcases answered : (r.executor.execute statement.text statement.arguments).perform st.server
    with ⟨answer, server⟩
  refine ⟨statement, property, answer, server, compiled, bound, ?_⟩
  have goes := goes_carryOut_of_ok prepared answered
  cases answer <;> exact goes.of_eq rfl rfl

/-- Finding a node that is created if there is none goes in one of five ways. -/
theorem exists_goes_findOrCreate (r : Repository σ) (name filter : Value)
    (entries : Value.Entries) (st : State σ) :
    ∃ calls outcome st',
      r.Goes (fun _ r => r.findOrCreate name filter (.map entries)) st calls outcome st' ∧
      FindsOrCreates r name filter entries st.supply calls outcome := by
  -- finding or creating is the search with what follows on it, also where the calls are recorded
  suffices both : ∃ calls outcome st',
      r.Goes (fun _ r => (Request.findOne name filter).act r >>= r.unlessFound name (.map entries))
        st calls outcome st' ∧
      FindsOrCreates r name filter entries st.supply calls outcome by
    obtain ⟨calls, outcome, st', goes, ended⟩ := both
    exact ⟨calls, outcome, st', goes.of_eq (findOrCreate_eq r name filter (.map entries))
      (findOrCreate_eq r.recorded name filter (.map entries)), ended⟩
  rcases ready : ((Request.findOne name filter).errand r.registry r.options).perform st.supply
    with ⟨fault | e, supply⟩
  · exact ⟨_, _, _, (Request.goes_act_of_error ready).stop, .refused ready⟩
  rcases answered : (r.executor.execute e.statement.text e.statement.arguments).perform st.server
    with ⟨fault | rows, server⟩
  · exact ⟨_, _, _, (Request.goes_act_of_ok ready answered).stop, .failed ready⟩
  have searched := Request.goes_act_of_ok ready answered
  obtain ⟨f, m, parsed, known, reads⟩ := exists_of_perform_findOne ready
  -- from here on the search has been answered, and what its rows hold decides
  rcases held : heldIn r.options m (!f.fields.isEmpty) rows with fault | nodes
  · have read : e.read rows = .error fault := by rw [reads, held]; rfl
    have misshapen : ¬ Tabular r.options rows := by
      intro tabular
      obtain ⟨nodes, readable⟩ := tabular.exists_heldIn (m := m) (!f.fields.isEmpty)
      rw [readable] at held
      cases held
    simp only [Except.bind, read] at searched
    exact ⟨_, _, _, searched.stop, .unreadable ready read misshapen⟩
  cases nodes with
  | cons v others =>
    have read : e.read rows = .ok (some v) := by rw [reads, held]; rfl
    have something : ¬ HoldNothing r.options (!f.fields.isEmpty) rows := by
      rw [← heldIn_eq_nil_iff (m := m), held]
      simp
    simp only [Except.bind, read] at searched
    exact ⟨_, _, _, searched.bind (.pure _), .found parsed ready read something⟩
  | nil =>
    have read : e.read rows = .ok none := by rw [reads, held]; rfl
    have nothing := heldIn_eq_nil_iff.1 held
    simp only [Except.bind, read] at searched
    obtain ⟨statement, property, answer, server', compiled, bound, created⟩ :=
      exists_goes_unlessFound known entries ⟨server, supply⟩
    exact ⟨_, _, _, searched.bind created, .missing parsed ready nothing known rfl compiled bound⟩

/-- Every operation sends exactly what has been compiled, or nothing. If the model, the data or the
statement is refused, that fault is the outcome and the executor is not called. Otherwise the
executor is called once, with the statement of the operation on the data with its id, and a fault
that it answers with is the outcome. A node that is to be found or created is searched for in this
way, and is created with one more call if the rows hold nothing. -/
theorem sends_compiled_or_nothing (r : Repository σ) (st : State σ) :
    (∀ q : Request, ∃ calls outcome st', r.Goes (fun _ r => q.act r) st calls outcome st' ∧
      Conducts ((q.errand r.registry r.options).perform st.supply).1 calls outcome) ∧
    ∀ (name filter : Value) (entries : Value.Entries), ∃ calls outcome st',
      r.Goes (fun _ r => r.findOrCreate name filter (.map entries)) st calls outcome st' ∧
      FindsOrCreates r name filter entries st.supply calls outcome := by
  constructor
  · exact fun q => q.exists_goes_act r st
  · exact fun name filter entries => exists_goes_findOrCreate r name filter entries st

end Repository

end GraphMapper
