import GraphMapper.Fault
import GraphMapper.Model.Declaration

/-!
# Registries

A registry holds models under their names, in the order in which the names first arrived.

## Main definitions

* `Registry.register` — adding a model
* `Registry.get` — the model of a name
* `Registry.select` — the models of several names
-/

namespace GraphMapper

/-- Models under their names. -/
structure Registry where
  /-- The names and their models. -/
  models : List (String × Model)

namespace Registry

/-- The registry without models. -/
def empty : Registry := ⟨[]⟩

/-- The models with one registered under its name. A known name keeps its place. -/
def insert (model : Model) : List (String × Model) → List (String × Model)
  | [] => [(model.name, model)]
  | (n, m) :: rest => if n = model.name then (n, model) :: rest else (n, m) :: insert model rest

/-- The registry with a model registered under its name. -/
def register (r : Registry) (model : Model) : Registry := ⟨insert model r.models⟩

/-- The registry of the models in a list. -/
def ofList (models : List Model) : Registry := models.foldl register empty

/-- The registered names. -/
def names (r : Registry) : List String := r.models.map (·.1)

/-- The number of registered models. -/
def size (r : Registry) : Nat := r.models.length

/-- The model registered under a name. -/
def get? (r : Registry) (name : String) : Option Model :=
  (r.models.find? fun e => e.1 == name).map (·.2)

/-- The model registered under a name, which may be any value that can be a key. -/
def get (r : Registry) (name : Value) : Except Fault Model :=
  if name.hashable then
    match name with
    | .text s =>
      match r.get? s with
      | some m => .ok m
      | none => .error (.unknownModel name)
    | _ => .error (.unknownModel name)
  else .error (.shape (.unhashable name.unhashableType))

/-- A model is registered under the name. -/
def contains (r : Registry) (name : Value) : Except Fault Bool :=
  if name.hashable then
    match name with
    | .text s => .ok (r.get? s).isSome
    | _ => .ok false
  else .error (.shape (.unhashable name.unhashableType))

/-- The models of the given names, or all models if the names count as false. -/
def select (r : Registry) (names : Value) : Except Fault (List Model) :=
  if names.truthy then
    match names.items with
    | .ok items => items.mapM r.get
    | .error fault => .error (.shape fault)
  else .ok (r.models.map (·.2))

@[simp] theorem names_empty : empty.names = [] := rfl

@[simp] theorem size_eq_length_names (r : Registry) : r.names.length = r.size := by
  simp [names, size]

/-- The registered names after registering a model: a new name goes to the end. -/
theorem names_register (r : Registry) (model : Model) :
    (r.register model).names =
      if model.name ∈ r.names then r.names else r.names ++ [model.name] := by
  obtain ⟨models⟩ := r
  simp only [register, names]
  induction models with
  | nil => simp [insert]
  | cons e rest ih =>
    obtain ⟨n, m⟩ := e
    by_cases h : n = model.name
    · simp [insert, h]
    · have h' : ¬ model.name = n := fun e => h e.symm
      simp only [insert, h, if_false, List.map_cons, ih, List.mem_cons, h', false_or]
      split <;> simp [*]

end Registry

end GraphMapper
