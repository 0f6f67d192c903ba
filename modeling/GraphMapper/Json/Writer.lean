import GraphMapper.Json.Reader

/-!
# Writing JSON

Values are written on one line, with a blank after each comma and colon and with every character
outside printable ASCII escaped. Tuples are written as lists, what JSON has no form for is written
as the text that displays it, and keys that are numbers or truth values become texts.

The limits that an interpreter sets to writing are left out: it may refuse an integer of more than
4300 digits, a limit that is kept for reading (`Json.hasLongInteger`), and a value that is nested
deeper than it follows. Half of a surrogate pair is written as the character that stands for it;
where a JSON text is shown, its halves are escaped as what they are.

## Main definitions

* `Json.write` — the JSON text of a value
* `Json.writeText` — the JSON text of a text
* `Json.showHalves` — a JSON text with its halves of pairs escaped as what they are
-/

namespace GraphMapper.Json

open Text (unitEscape)

/-- The names of the special numbers in JSON texts. -/
def specialNames : Binary64.SpecialNames := ⟨"NaN", "Infinity"⟩

/-- One character inside a JSON text. -/
def writeChar (c : Char) : List Char :=
  if c == '"' then ['\\', '"']
  else if c == '\\' then ['\\', '\\']
  else if c == '\n' then ['\\', 'n']
  else if c == '\r' then ['\\', 'r']
  else if c == '\t' then ['\\', 't']
  else if c == '\x08' then ['\\', 'b']
  else if c == '\x0c' then ['\\', 'f']
  else if 0x20 ≤ c.toNat && c.toNat < 0x7F then [c]
  else if c.toNat < 0x10000 then unitEscape c.toNat
  else unitEscape (0xD800 + (c.toNat - 0x10000) / 0x400) ++
    unitEscape (0xDC00 + (c.toNat - 0x10000) % 0x400)

/-- The JSON text of a text. -/
def writeText (s : String) : String :=
  String.ofList ('"' :: s.toList.flatMap writeChar ++ ['"'])

/-- A number in JSON. -/
def writeFloat (x : Binary64) : String := x.write specialNames

/-- The text that stands for a key. -/
def keyText : Value → Except ShapeFault String
  | .text s => .ok s
  | .int n => .ok (toString n)
  | .float x => .ok (writeFloat x)
  | .bool b => .ok (if b then "true" else "false")
  | .null => .ok "null"
  | v => .error (.unwritableKey v.typeName)

mutual

/-- The JSON text of a value. -/
def write : Value → Except ShapeFault String
  | .null => .ok "null"
  | .bool b => .ok (if b then "true" else "false")
  | .int n => .ok (toString n)
  | .float x => .ok (writeFloat x)
  | .text s => .ok (writeText s)
  | .list items => do
    let parts ← writeItems items
    .ok ("[" ++ ", ".intercalate parts ++ "]")
  | .tuple items => do
    let parts ← writeItems items
    .ok ("[" ++ ", ".intercalate parts ++ "]")
  | .map entries => do
    let parts ← writeEntries entries
    .ok ("\x7b" ++ ", ".intercalate parts ++ "\x7d")
  | v => .ok (writeText v.display)

/-- The JSON texts of the items of a list. -/
def writeItems : List Value → Except ShapeFault (List String)
  | [] => .ok []
  | v :: vs => do
    let one ← write v
    let rest ← writeItems vs
    .ok (one :: rest)

/-- The JSON texts of the entries of a mapping. -/
def writeEntries : List (Value × Value) → Except ShapeFault (List String)
  | [] => .ok []
  | (k, v) :: rest => do
    let key ← keyText k
    let one ← write v
    let others ← writeEntries rest
    .ok ((writeText key ++ ": " ++ one) :: others)

end

/-! ### Halves of pairs -/

/-- The characters of a JSON text with its halves of pairs escaped as what they are. The first
`skip` characters belong to an escape that has been dealt with. -/
def showHalvesFrom : (skip : Nat) → List Char → List Char
  | _, [] => []
  | skip + 1, _ :: rest => showHalvesFrom skip rest
  | 0, '\\' :: 'u' :: rest =>
    match readEscapedUnit rest with
    | .error _ => '\\' :: 'u' :: showHalvesFrom 0 rest
    | .ok (c, left) =>
      let digits := rest.take (rest.length - left.length)
      ((Text.half? c).map unitEscape).getD ('\\' :: 'u' :: digits)
        ++ showHalvesFrom digits.length rest
  | 0, '\\' :: c :: rest => '\\' :: c :: showHalvesFrom 0 rest
  | 0, c :: rest => c :: showHalvesFrom 0 rest

/-- A JSON text in which a half of a pair is escaped by its own unit, and not by the two units of
the character that stands for it. -/
def showHalves (s : String) : String := String.ofList (showHalvesFrom 0 s.toList)

end GraphMapper.Json
