import GraphMapper.Act
import GraphMapper.Schema.Live

/-!
# Executors

An executor runs statements on a server of some kind. Some executors can also report the constraints
and indexes of the server.

## Main definitions

* `Executor` — running statements
* `Inspector` — reporting the live schema
-/

namespace GraphMapper

/-- The reports of the live schema, on a server with states of type `σ`. -/
structure Inspector (σ : Type) where
  /-- Asks for the constraints. -/
  constraints : Act σ (List Schema.LiveEntry)
  /-- Asks for the indexes. -/
  indexes : Act σ (List Schema.LiveEntry)

/-- What runs statements, on a server with states of type `σ`. -/
structure Executor (σ : Type) where
  /-- The name of its kind in messages. -/
  name : String
  /-- Runs a statement with parameters, or with none if they are null, and yields the rows. -/
  execute : (text : String) → (params : Value) → Act σ Value
  /-- The reports of the live schema, if it can give them. -/
  inspector? : Option (Inspector σ)

namespace Executor

/-- Runs statements without parameters one after the other. -/
def executeAll {σ : Type} (x : Executor σ) : List String → Act σ Unit
  | [] => pure ()
  | text :: rest => do
    let _ ← x.execute text .null
    executeAll x rest

@[simp] theorem executeAll_nil {σ : Type} (x : Executor σ) : x.executeAll [] = pure () := rfl

end Executor

end GraphMapper
