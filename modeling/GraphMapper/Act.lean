import GraphMapper.Fault

/-!
# Acts

An act works on a state and either yields a result or fails. What it did to the state before it
failed stays done.

## Main definitions

* `Act` — an act on a state
* `Act.perform` — carrying an act out
* `Act.attempt` — an act that reports a failure as its result
* `Act.on` — an act on a part of the state
* `Act.between` — an act with a beginning and an end
-/

namespace GraphMapper

/-- An act on a state of type `σ`. -/
abbrev Act (σ : Type) := ExceptT Fault (StateM σ)

namespace Act

variable {σ τ α β : Type}

/-- The outcome of an act and the state that it leaves. -/
def perform (a : Act σ α) (s : σ) : Except Fault α × σ := a.run.run s

/-- The act with the given outcomes. -/
def of (f : σ → Except Fault α × σ) : Act σ α := ExceptT.mk f

/-- The act that leaves the state alone and has the given outcome. -/
def result (r : Except Fault α) : Act σ α := ExceptT.mk (pure r)

/-- The act that fails. -/
def fail (fault : Fault) : Act σ α := result (.error fault)

/-- The outcome of an act as a result. -/
def attempt (a : Act σ α) : Act σ (Except Fault α) := of fun s =>
  let (r, s) := a.perform s
  (.ok r, s)

/-- An act on the part of a state that `get` reads and `put` writes. -/
def on (get : τ → σ) (put : σ → τ → τ) (a : Act σ α) : Act τ α := of fun t =>
  let (r, s) := a.perform (get t)
  (r, put s t)

/-- Does something between a beginning and an end. Once the beginning has succeeded the end is
carried out, whatever becomes of what is done in between. -/
def between (start stop : Act σ Unit) (body : Act σ α) : Act σ α := do
  start
  let outcome ← body.attempt
  stop
  result outcome

@[simp] theorem perform_of (f : σ → Except Fault α × σ) (s : σ) : (of f).perform s = f s := rfl

@[simp] theorem perform_result (r : Except Fault α) (s : σ) :
    (result r : Act σ α).perform s = (r, s) := rfl

@[simp] theorem perform_fail (fault : Fault) (s : σ) :
    (fail fault : Act σ α).perform s = (.error fault, s) := rfl

@[simp] theorem perform_pure (a : α) (s : σ) : (pure a : Act σ α).perform s = (.ok a, s) := rfl

theorem perform_bind (a : Act σ α) (f : α → Act σ β) (s : σ) :
    (a >>= f).perform s =
      match a.perform s with
      | (.ok x, s) => (f x).perform s
      | (.error fault, s) => (.error fault, s) := by
  simp only [perform, bind, ExceptT.bind, ExceptT.mk, ExceptT.run, StateT.bind, StateT.run,
    ExceptT.bindCont]
  cases h : a s with
  | mk r s => cases r <;> rfl

@[simp] theorem perform_attempt (a : Act σ α) (s : σ) :
    (attempt a).perform s = (.ok (a.perform s).1, (a.perform s).2) := rfl

@[simp] theorem perform_on (get : τ → σ) (put : σ → τ → τ) (a : Act σ α) (t : τ) :
    (on get put a).perform t = ((a.perform (get t)).1, put (a.perform (get t)).2 t) := rfl

end Act

end GraphMapper
