import GraphMapper.Model.Registry
import GraphMapper.Yaml.Document

/-!
# Model documents

A document declares models under its key `models`: a mapping of names to declarations. A declaration
may be left out, and may give another name than the one it stands under.

## Main definitions

* `Registry.ofDocument` — the models that a document declares
* `Registry.load` — the models that a text declares
-/

namespace GraphMapper.Registry

/-- The model that a mapping declares. -/
def declare (declaration : Value) : Except Fault Model :=
  match Model.declared declaration with
  | .ok m => .ok m
  | .error issues => .error (.invalid issues)

/-- A declaration that stands under a name, with the name in it. -/
def named (name declaration : Value) : Except Fault Value :=
  match (if declaration.truthy then declaration else .map []) with
  | .map entries => .ok (.map (Value.merge [(.text "name", name)] entries))
  | v => .error (.shape (.notMapping v.typeName))

/-- The registry with the models of some declarations registered one after the other. -/
def declareAll : List (Value × Value) → Registry → Except Fault Registry
  | [], r => .ok r
  | (name, declaration) :: rest, r => do
    let m ← declare (← named name declaration)
    declareAll rest (r.register m)

/-- The models that a document declares; none if it is no mapping or has no models. -/
def ofDocument (document : Value) : Except Fault Registry :=
  match document with
  | .map entries =>
    match Value.get? entries "models" with
    | none => .ok empty
    | some (.map models) => declareAll models empty
    | some v => .error (.shape (.noMember v.typeName "items"))
  | _ => .ok empty

/-- The models that a text declares. -/
def load (text : String) : Except Fault Registry := do ofDocument (← Yaml.read text)

@[simp] theorem ofDocument_null : ofDocument .null = .ok empty := rfl

end GraphMapper.Registry
