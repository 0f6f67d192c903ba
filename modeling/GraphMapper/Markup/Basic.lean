import GraphMapper.Markup.Literal
import GraphMapper.Markup.Style
import GraphMapper.Text.Shortcode

/-!
# Markup

Tags in brackets set the style of a text and are not shown. A tag is open until a tag with a slash
in front of the same style closes it; a slash alone closes the tag that was opened last. A backslash
in front of a bracket takes the meaning of a tag away, and two backslashes stand for one. Outside
the tags, shortcodes are replaced.

## Main definitions

* `Markup.Piece`, `Markup.pieces` — the texts and the tags in a text
* `Markup.Fault` — why a text with tags cannot be shown
* `Markup.visibleText` — what is shown of a text with tags
-/

namespace GraphMapper.Markup

/-! ### Tags -/

/-- A tag: its name, and what stands behind an equals sign. -/
structure Tag where
  /-- The name. -/
  name : String
  /-- The parameters. -/
  parameters? : Option String
  deriving DecidableEq, Repr

/-- The tag with the given text between its brackets. -/
def Tag.ofChars (cs : List Char) : Tag :=
  let name := cs.takeWhile (· != '=')
  match cs.drop name.length with
  | _ :: parameters => ⟨String.ofList name, some (String.ofList parameters)⟩
  | [] => ⟨String.ofList name, none⟩

/-- The description of the style that a tag asks for. -/
def Tag.style (t : Tag) : String :=
  match t.parameters? with
  | some parameters => t.name ++ " " ++ parameters
  | none => t.name

/-- A part of a text with tags. -/
inductive Piece where
  /-- Characters that are shown. -/
  | text (cs : List Char)
  /-- A tag. -/
  | tag (t : Tag)

/-- A character with which the text of a tag starts. -/
def startsTag (c : Char) : Bool := ('a' ≤ c && c ≤ 'z') || c == '#' || c == '/' || c == '@'

/-- The text of a tag behind its bracket, and what follows the tag. -/
def tagBody? : List Char → Option (List Char × List Char)
  | [] => none
  | c :: cs =>
    let more := cs.takeWhile fun ch => ch != '[' && ch != ']'
    match cs.drop more.length with
    | ']' :: rest => if startsTag c then some (c :: more, rest) else none
    | _ => none

/-- A tag that may have backslashes in front of it: their number, its text, and what follows. -/
def tagAt? (cs : List Char) : Option (Nat × List Char × List Char) :=
  let slashes := cs.takeWhile (· == '\\')
  match cs.drop slashes.length with
  | '[' :: rest => (tagBody? rest).map fun (body, rest) => (slashes.length, body, rest)
  | _ => none

/-- What a tag with backslashes in front of it amounts to. -/
def tagPieces (slashes : Nat) (body : List Char) : List Piece :=
  let half := List.replicate (slashes / 2) '\\'
  let own := if slashes % 2 = 1 then .text ('[' :: body ++ [']']) else .tag (Tag.ofChars body)
  if half.isEmpty then [own] else [.text half, own]

/-- The text read so far, in reverse, as a piece. -/
def flush (text : List Char) : List Piece :=
  if text.isEmpty then [] else [.text text.reverse]

/-- The pieces of a text, behind the text read so far in reverse. -/
def piecesFrom : (fuel : Nat) → (text : List Char) → List Char → List Piece
  | 0, text, cs => flush (cs.reverse ++ text)
  | _, text, [] => flush text
  | fuel + 1, text, c :: cs =>
    match tagAt? (c :: cs) with
    | some (slashes, body, rest) =>
      flush text ++ tagPieces slashes body ++ piecesFrom fuel [] rest
    | none => piecesFrom fuel (c :: text) cs

/-- The pieces of a text. -/
def pieces (s : String) : List Piece := piecesFrom (s.length + 1) [] s.toList

/-! ### Showing -/

/-- Why a text with tags cannot be shown. -/
inductive Fault where
  /-- No open tag has the style that a tag closes. -/
  | unmatched (name : String)
  /-- No tag is open. -/
  | nothingOpen
  /-- The parameters of a tag with an at sign are not a literal. -/
  | badArguments (parameters : String)
  /-- A part of a colour is not a number. -/
  | badNumber
  deriving DecidableEq, Repr

/-- The text of a fault. -/
def Fault.message : Fault → String
  | .unmatched name => "closing tag '[" ++ name ++ "]' doesn't match any open tag"
  | .nothingOpen => "closing tag '[/]' has nothing to close"
  | .badArguments parameters => "error parsing '" ++ parameters ++ "'"
  | .badNumber => "a part of a colour is not a number"

/-- What has been made of the pieces so far. -/
structure State where
  /-- The characters that are shown. -/
  shown : List Char := []
  /-- The open tags, the last one first. -/
  stack : List Tag := []
  /-- The descriptions of the styles that parts of the text have. -/
  styles : List String := []

/-- The normal form of the description of a style. -/
def normalName (name : String) : Except Fault String :=
  match Style.normalForm name with
  | .ok name => .ok name
  | .error _ => .error .badNumber

/-- Parameters behind an at sign are a literal, or a name with an optional literal in
parentheses. -/
def areArguments (parameters : String) : Bool :=
  let cs := Text.trimChars parameters.toList
  let rest := cs.dropWhile fun c => isNameChar c || c == '.'
  match rest with
  | [] => true
  | '(' :: _ => isLiteral (if rest.getLast? == some ')' && !rest.contains '\n' then rest else cs)
  | _ => isLiteral cs

/-- Closes a tag. The parameters of a tag with an at sign are looked at only now. -/
def State.close (s : State) (t : Tag) : Except Fault State :=
  if t.name.toList.head? == some '@' then
    match t.parameters? with
    | some parameters =>
      if parameters.isEmpty || areArguments parameters then .ok s
      else .error (.badArguments parameters)
    | none => .ok s
  else .ok { s with styles := t.style :: s.styles }

/-- Does what a tag asks for. -/
def State.apply (s : State) (t : Tag) : Except Fault State := do
  match t.name.toList with
  | '/' :: name =>
    let name := Text.trimChars name
    if name.isEmpty then
      match s.stack with
      | [] => .error .nothingOpen
      | last :: rest => State.close { s with stack := rest } last
    else
      let normal ← normalName (String.ofList name)
      match s.stack.find? (·.name == normal) with
      | some opened => State.close { s with stack := s.stack.erase opened } opened
      | none => .error (.unmatched t.name)
  | _ =>
    let normal ← normalName t.name
    .ok { s with stack := { t with name := normal } :: s.stack }

/-- The characters with the backslashes in front of opening brackets left out. -/
def dropEscapes : List Char → List Char
  | [] => []
  | '\\' :: '[' :: cs => '[' :: dropEscapes cs
  | c :: cs => c :: dropEscapes cs

/-- Takes a piece in. -/
def State.add (s : State) : Piece → Except Fault State
  | .text cs =>
    let cs := dropEscapes cs
    .ok { s with shown := s.shown ++ Text.expandFrom (cs.length + 1) cs }
  | .tag t => s.apply t

/-- What is shown of a text with tags. -/
def visibleText (s : String) : Except Fault String := do
  let state ← (pieces s).foldlM State.add {}
  let styles := state.stack.map Tag.style ++ state.styles
  if styles.any fun style => (normalName style).toOption.isNone then .error .badNumber
  else .ok (String.ofList state.shown)

end GraphMapper.Markup
