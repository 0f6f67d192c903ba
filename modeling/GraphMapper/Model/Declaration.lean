import GraphMapper.Model.Definition
import GraphMapper.Validation.Check
import GraphMapper.Value.Shape

/-!
# Model declarations

A model is declared by a mapping with a `name`, `properties`, an optional `label` and `indexes`. A
property is declared by a mapping, or by its type alone. Keys that are not known are ignored.

## Main definitions

* `Model.declaredProperty` — the property that a mapping declares
* `Model.declared` — the model that a mapping declares
-/

namespace GraphMapper.Model

open Validation

/-- A field of a declaration, or what it is if it is not declared. -/
def declaredField {α : Type} (entries : Value.Entries) (name : String) (default : α)
    (check : Value → Checked α) : Checked α :=
  match Value.get? entries name with
  | some v => (check v).under name
  | none => .ok default

/-- The declared type of a property: the text of the value in lower case. -/
def declaredType : Value → Checked String
  | .null => .ok "string"
  | v => .ok (Text.lower v.display)

/-- How a property is declared to be indexed. -/
def declaredIndex : Value → Checked Index
  | .null => .ok .unset
  | v => .orElse (((truth v).under "bool").map Index.flag)
      (((mapping v).under "dict[str,any]").map Index.options)

/-- The property that a mapping declares. -/
def declaredProperty : Value → Checked Property
  | .map entries =>
    (Checked.zip (declaredField entries "type" "string" declaredType)
      (Checked.zip (declaredField entries "id" false truth)
        (Checked.zip (declaredField entries "required" false truth)
          (Checked.zip (declaredField entries "index" .unset declaredIndex)
            (declaredField entries "unique" false truth))))).map
      fun (type, id, required, index, unique) => ⟨type, id, required, index, unique⟩
  | _ => .fails .record

/-- A property declared by its type, and one declared by nothing, as mappings. -/
def expandedProperty (v : Value) : Value :=
  match v with
  | .text s => .map [(.text "type", .text s)]
  | v => if v.truthy then v else .map []

/-- The properties that a mapping declares. -/
def declaredProperties : Value → Checked (List (String × Property))
  | .map entries => .all (entries.map fun (k, v) =>
      Checked.zip (key k) ((declaredProperty (expandedProperty v)).under (keyName k)))
  | _ => .fails .mapping

/-- The texts of a list, tuple or set. -/
def textList (v : Value) : Checked (List String) :=
  match v with
  | .list items | .tuple items | .set items =>
    .all (items.mapIdx fun i item => (text item).under (toString i))
  | _ => .fails .list

/-- The indexes that a model declares beside its properties. -/
def declaredIndexes (v : Value) : Checked Indexes :=
  .orElse (((mapping v).under "dict[str,any]").map Indexes.named)
    (((textList v).under "list[str]").map Indexes.fields)

/-- The name of a model, which is not empty and can be encoded. -/
def declaredName (v : Value) : Checked String :=
  match text v with
  | .ok s =>
    if Text.hasHalf s then .fails .encoding else if s.isEmpty then .fails .nonEmpty else .ok s
  | .error issues => .error issues

/-- The name that a declaration has to give. -/
def requiredName (entries : Value.Entries) : Checked String :=
  match Value.get? entries "name" with
  | some v => (declaredName v).under "name"
  | none => (Checked.fails .present).under "name"

/-- A label, or null for none. -/
def declaredLabel : Value → Checked (Option String)
  | .null => .ok none
  | v => (text v).map some

/-- The label of a declaration, given as `label` or else as `label_override`. -/
def labelField (entries : Value.Entries) : Checked (Option String) :=
  if (Value.get? entries "label").isSome then declaredField entries "label" none declaredLabel
  else declaredField entries "label_override" none declaredLabel

/-- The model that a mapping declares. -/
def declared : Value → Checked Model
  | .map entries =>
    (Checked.zip (requiredName entries)
      (Checked.zip (declaredField entries "properties" [] declaredProperties)
        (Checked.zip (labelField entries)
          (declaredField entries "indexes" (.named []) declaredIndexes)))).map
      fun (name, properties, label, indexes) => ⟨name, properties, label, indexes⟩
  | _ => .fails .record

end GraphMapper.Model
