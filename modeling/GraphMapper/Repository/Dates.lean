import GraphMapper.Calendar.Iso
import GraphMapper.Model.Definition
import GraphMapper.Value.Shape

/-!
# Stored dates

Points in time are stored as texts. When the properties of a node are read, the texts of the
properties that hold a point in time are taken for what they denote; a text that denotes none stays
as it is.

## Main definitions

* `Model.restore` — the properties of a node as read
-/

namespace GraphMapper.Model

/-- The characters with `Z` written as the offset that it stands for. -/
def spellZulu (cs : List Char) : List Char :=
  cs.flatMap fun c => if c == 'Z' then ['+', '0', '0', ':', '0', '0'] else [c]

/-- The point in time that a stored text denotes. -/
def timeOf? (s : String) : Option DateTime := DateTime.ofIso? (String.ofList (spellZulu s.toList))

/-- A property as read. -/
def restoreValue : Value → Value
  | .text s =>
    match timeOf? s with
    | some t => .datetime t
    | none => .text s
  | v => v

/-- The properties with one of them read as a point in time. -/
def restoreProperty (entries : Value.Entries) (name : String) : Value.Entries :=
  match Value.get? entries name with
  | some v => Value.insert entries (.text name) (restoreValue v)
  | none => entries

/-- The properties of a node as read. -/
def restore (m : Model) (entries : Value.Entries) : Value.Entries :=
  m.dateProperties.foldl restoreProperty entries

@[simp] theorem restoreValue_datetime (t : DateTime) :
    restoreValue (.datetime t) = .datetime t := rfl

end GraphMapper.Model
