/-!
# The steps of a migration

## Main definitions

* `Schema.Mode` — how far a migration may go
* `Schema.Step` — the steps of a migration
-/

namespace GraphMapper.Schema

/-- How far a migration may go. -/
inductive Mode where
  /-- Only add what is missing. -/
  | updateOnly
  /-- Drop what stands on the labels, then add what they require. -/
  | fullMigrate
  deriving DecidableEq, Repr

/-- The name of a mode. -/
def Mode.name : Mode → String
  | .updateOnly => "update_only"
  | .fullMigrate => "full_migrate"

/-- The steps of a migration, in their order. -/
inductive Step where
  /-- Asking the server for its constraints. -/
  | constraintFetch
  /-- Dropping constraints. -/
  | constraintDrop
  /-- Asking the server for its indexes. -/
  | indexFetch
  /-- Dropping indexes. -/
  | indexDrop
  /-- Creating constraints and indexes. -/
  | create
  deriving DecidableEq, Repr

/-- The name of a step. -/
def Step.name : Step → String
  | .constraintFetch => "constraint-fetch"
  | .constraintDrop => "constraint-drop"
  | .indexFetch => "index-fetch"
  | .indexDrop => "index-drop"
  | .create => "create"

/-- The steps that a mode goes through. -/
def Mode.steps : Mode → List Step
  | .updateOnly => [.create]
  | .fullMigrate => [.constraintFetch, .constraintDrop, .indexFetch, .indexDrop, .create]

end GraphMapper.Schema
