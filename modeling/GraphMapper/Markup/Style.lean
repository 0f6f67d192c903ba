import GraphMapper.Markup.Colour
import GraphMapper.Number.Numeral
import GraphMapper.Text.Case

/-!
# Styles

A style is described by words: names of effects, which `not` turns off, a colour, the colour of
the ground behind `on`, and an address behind `link`. Two descriptions are the same style if they
have the same normal form.

## Main definitions

* `Markup.Style` — a style
* `Markup.Style.ofText` — the style that words describe
* `Markup.Style.text` — the description of a style
* `Markup.Style.normalForm` — the normal form of a description
-/

namespace GraphMapper.Markup

/-- Why words do not describe a style. -/
inductive StyleFault where
  /-- A word is not known or stands in the wrong place. -/
  | unknown
  /-- A part of a colour is not a number. -/
  | badNumber
  deriving DecidableEq, Repr

/-- A style. -/
structure Style where
  /-- The effects that are turned on or off. -/
  effects : List (String × Bool) := []
  /-- The colour. -/
  colour? : Option String := none
  /-- The colour of the ground. -/
  ground? : Option String := none
  /-- The address that it leads to. -/
  link? : Option String := none

namespace Style

/-- The effects in the order of a description, with the other words for them. -/
def effectWords : List (String × List String) :=
  [("bold", ["b"]), ("dim", ["d"]), ("italic", ["i"]), ("underline", ["u"]), ("blink", []),
    ("blink2", []), ("reverse", ["r"]), ("conceal", ["c"]), ("strike", ["s"]),
    ("underline2", ["uu"]), ("frame", []), ("encircle", []), ("overline", ["o"])]

/-- The effect that a word means. -/
def effect? (word : String) : Option String :=
  (effectWords.find? fun (name, others) => name == word || others.contains word).map (·.1)

/-! ### Colours -/

/-- What stands between a start and a closing parenthesis. -/
def inside? (start : String) (cs : List Char) : Option (List Char) :=
  let front := start.toList
  if front.isPrefixOf cs && cs.getLast? == some ')' then
    some ((cs.drop front.length).dropLast)
  else none

/-- A hexadecimal digit in small letters. -/
def isHexDigit (c : Char) : Bool := c.isDigit || ('a' ≤ c && c ≤ 'f')

/-- The parts of a colour, each at most 255, between commas. -/
def checkParts (cs : List Char) : Except StyleFault Unit := do
  let isPart (c : Char) : Bool := (Text.digitValue? c).isSome || c == ','
  if cs.isEmpty || !cs.all isPart then .error .unknown
  else
    match (String.ofList cs).splitOn "," with
    | [red, green, blue] =>
      let parts ← [red, green, blue].mapM fun part =>
        match Numeral.integer? part with
        | some n => .ok n
        | none => .error .badNumber
      if parts.all (· ≤ 255) then .ok () else .error .unknown
    | _ => .error .unknown

/-- Refuses what is not a colour: a name, six hexadecimal digits, a number, or three parts. -/
def checkColour (word : String) : Except StyleFault Unit :=
  let cs := word.toList
  if isColourName word then .ok ()
  else if cs.head? == some '#' && cs.length = 7 && (cs.drop 1).all isHexDigit then .ok ()
  else
    match inside? "color(" cs, inside? "rgb(" cs with
    | some number, _ =>
      let value := number.foldl (fun n c => n * 10 + (c.toNat - 48)) 0
      if number.isEmpty || 3 < number.length || !number.all Char.isDigit || 255 < value then
        .error .unknown
      else .ok ()
    | none, some parts => checkParts parts
    | none, none => .error .unknown

/-! ### Descriptions -/

/-- A style with an effect turned on or off. -/
def turn (s : Style) (effect : String) (on : Bool) : Style :=
  { s with effects := (effect, on) :: s.effects.filter (·.1 != effect) }

/-- A style with further words. -/
def ofWords (s : Style) : List String → Except StyleFault Style
  | [] => .ok s
  | [word] => do
    let word := Text.lower word
    if word == "on" || word == "not" || word == "link" then .error .unknown
    else
      match effect? word with
      | some effect => .ok (s.turn effect true)
      | none =>
        checkColour word
        .ok { s with colour? := some word }
  | word :: next :: rest => do
    let word := Text.lower word
    if word == "on" then
      checkColour (Text.lower next)
      ofWords { s with ground? := some (Text.lower next) } rest
    else if word == "not" then
      match effect? next with
      | some effect => ofWords (s.turn effect false) rest
      | none => .error .unknown
    else if word == "link" then ofWords { s with link? := some next } rest
    else
      match effect? word with
      | some effect => ofWords (s.turn effect true) (next :: rest)
      | none =>
        checkColour word
        ofWords { s with colour? := some word } (next :: rest)

/-- The words of some characters. -/
def words (cs : List Char) : List String :=
  let spaced := cs.map fun c => if Text.isBlank c then ' ' else c
  ((String.ofList spaced).splitOn " ").filter (!·.isEmpty)

/-- The style that a text describes. -/
def ofText (s : String) : Except StyleFault Style :=
  if Text.trim s == "none" then .ok {} else ofWords {} (words s.toList)

/-- The description of a style. -/
def text (s : Style) : String :=
  let effects := effectWords.filterMap fun (name, _) =>
    (s.effects.lookup name).map fun on => if on then name else "not " ++ name
  let ground := (s.ground?.map ("on " ++ ·)).toList
  let link := (s.link?.map ("link " ++ ·)).toList
  let words := effects ++ s.colour?.toList ++ ground ++ link
  if words.isEmpty then "none" else " ".intercalate words

/-- The normal form of a description: that of its style, or the text itself in small letters. -/
def normalForm (s : String) : Except StyleFault String :=
  match ofText s with
  | .ok style => .ok style.text
  | .error .unknown => .ok (Text.lower (Text.trim s))
  | .error .badNumber => .error .badNumber

end Style

end GraphMapper.Markup
