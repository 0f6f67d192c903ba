import GraphMapper.Text.Blank
import GraphMapper.Text.Case
import GraphMapper.Text.ShortcodeTable
import GraphMapper.Text.Width

/-!
# Shortcodes

A shortcode is the name of an emoji between colons, in any case and without blanks. Behind the name
`-emoji` or `-text` may ask for one of the two forms of the emoji. Names that no emoji has stay as
they are written.

## Main definitions

* `Text.emoji?` — the emoji of a name
* `Text.expandShortcodes` — a text with the shortcodes in it replaced
-/

namespace GraphMapper.Text

/-! ### Names -/

/-- The words of some lines. -/
def wordsOf (lines : List String) : List String := lines.flatMap (·.splitOn " ")

/-- Words in pairs. -/
def inPairs : List String → List (String × String)
  | a :: b :: rest => (a, b) :: inPairs rest
  | _ => []

/-- The value of a digit in a code point. -/
def codeDigit (c : Char) : Nat := if c.isDigit then c.toNat - 48 else c.toNat - 55

/-- The character of a code point in hexadecimal digits. -/
def charOfCode (code : String) : Char :=
  Char.ofNat (code.toList.foldl (fun n c => n * 16 + codeDigit c) 0)

/-- The characters of code points with hyphens between them. -/
def charsOfCodes (codes : String) : List Char := (codes.splitOn "-").map charOfCode

/-- The flag of a region, which is given by two small letters. -/
def flagOf (region : String) : List Char :=
  region.toList.map fun c => Char.ofNat (c.toNat - 'a'.toNat + 0x1F1E6)

/-- What stands behind a name to ask for a skin tone, and the modifiers for it. -/
def skinTones : List (String × Char) :=
  [("_light_skin_tone", Char.ofNat 0x1F3FB), ("_medium-light_skin_tone", Char.ofNat 0x1F3FC),
    ("_medium_skin_tone", Char.ofNat 0x1F3FD), ("_medium-dark_skin_tone", Char.ofNat 0x1F3FE),
    ("_dark_skin_tone", Char.ofNat 0x1F3FF)]

/-- Emoji by their names. -/
def emojiCodes : List (String × String) := inPairs (wordsOf emojiWords)

/-- The letters of regions by the names that may follow `flag_for_`. -/
def regions : List (String × String) := inPairs (wordsOf flagWords)

/-- The letters of regions by further names of their flags. -/
def ownFlags : List (String × String) := inPairs (wordsOf ownFlagWords)

/-- The names that may be followed by a skin tone. -/
def toned : List String := wordsOf tonedNames

/-- What stands in front of the suffix of a text, if it has that suffix. -/
def before? (suffix name : String) : Option String :=
  let n := suffix.toList
  let cs := name.toList
  if n.isSuffixOf cs then some (String.ofList (cs.take (cs.length - n.length))) else none

/-- An emoji in a skin tone. The modifier stands behind the first character, in the place of a
selector. -/
def inTone (tone : Char) : List Char → List Char
  | [] => []
  | c :: cs => c :: tone :: (if cs.head? == some emojiSelector then cs.drop 1 else cs)

/-- The emoji of a name without a skin tone. -/
def untoned? (name : String) : Option (List Char) :=
  match emojiCodes.lookup name with
  | some codes => some (charsOfCodes codes)
  | none =>
    let region? := (ownFlags.lookup name).orElse fun _ =>
      let cs := name.toList
      let front := "flag_for_".toList
      regions.lookup (if front.isPrefixOf cs then String.ofList (cs.drop front.length) else name)
    region?.map flagOf

/-- The emoji of a name in small letters. -/
def emoji? (name : String) : Option (List Char) :=
  (untoned? name).orElse fun _ => skinTones.findSome? fun (suffix, tone) => do
    let base ← before? suffix name
    if toned.contains base then (untoned? base).map (inTone tone) else none

/-! ### Shortcodes -/

/-- The selector for the plain form of an emoji. -/
def textSelector : Char := '\ufe0e'

/-- The name between the colons of a shortcode, and the selector that it asks for. -/
def nameAndForm (name : String) : String × List Char :=
  match before? "-emoji" name with
  | some name => (name, [emojiSelector])
  | none =>
    match before? "-text" name with
    | some name => (name, [textSelector])
    | none => (name, [])

/-- What a shortcode stands for; itself if no emoji has the name. -/
def meaning (name : List Char) : List Char :=
  let (base, form) := nameAndForm (String.ofList name)
  match emoji? (lower base) with
  | some cs => cs ++ form
  | none => ':' :: name ++ [':']

/-- A character that may stand between the colons of a shortcode. -/
def isShortcodeChar (c : Char) : Bool := c != ':' && !isBlank c

/-- The characters with the shortcodes in them replaced, of which there are fewer than `fuel`. -/
def expandFrom : (fuel : Nat) → List Char → List Char
  | 0, cs => cs
  | _, [] => []
  | fuel + 1, c :: cs =>
    if c == ':' then
      let name := cs.takeWhile isShortcodeChar
      match cs.drop name.length with
      | ':' :: rest => meaning name ++ expandFrom fuel rest
      | _ => c :: expandFrom fuel cs
    else c :: expandFrom fuel cs

/-- A text with the shortcodes in it replaced. -/
def expandShortcodes (s : String) : String :=
  String.ofList (expandFrom (s.length + 1) s.toList)

end GraphMapper.Text
