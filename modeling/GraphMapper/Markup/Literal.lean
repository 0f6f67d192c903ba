import GraphMapper.Text.Blank

/-!
# Literals

A literal is a number, a text between quotes, one of the words `None`, `True` and `False`, or a
collection of literals in brackets. What is put into a set, or is a key in braces, must not itself
be a list or stand in braces.

## Main definitions

* `Markup.isLiteral` — the texts that are literals, or several with commas between them
-/

namespace GraphMapper.Markup

/-- What was read: whether it can be a member of a set, and the characters behind it. -/
abbrev Read := Option (Bool × List Char)

/-- The characters behind blanks. -/
def skipBlanks (cs : List Char) : List Char := cs.dropWhile Text.isBlank

/-- The characters behind a given one, which comes next after blanks. -/
def behind? (c : Char) (cs : List Char) : Option (List Char) :=
  match skipBlanks cs with
  | d :: rest => if c == d then some rest else none
  | [] => none

/-- A character of a name. -/
def isNameChar (c : Char) : Bool := c.isAlphanum || c == '_' || 0x80 ≤ c.toNat

/-! ### Numbers -/

/-- Digits, between which single underscores may stand, and the characters behind them. -/
def digits? (isDigit : Char → Bool) (cs : List Char) : Option (List Char × List Char) :=
  let body := cs.takeWhile fun c => isDigit c || c == '_'
  let parts := (String.ofList body).splitOn "_"
  if parts.all (!·.isEmpty) then some (body.filter (· != '_'), cs.drop body.length) else none

/-- The characters behind an optional exponent. -/
def exponent? (cs : List Char) : Option (List Char) :=
  match cs with
  | e :: rest =>
    if e == 'e' || e == 'E' then
      let rest := if rest.head? == some '-' || rest.head? == some '+' then rest.drop 1 else rest
      (digits? Char.isDigit rest).map (·.2)
    else some cs
  | [] => some []

/-- The characters behind a number with an optional fraction and exponent, and whether it is a whole
number. -/
def decimal? (cs : List Char) : Option (Bool × List Char) :=
  match digits? Char.isDigit cs with
  | some (_, '.' :: rest) => do
    let rest := match digits? Char.isDigit rest with
      | some (_, rest) => rest
      | none => rest
    some (false, ← exponent? rest)
  | some (ds, rest) => do
    let after ← exponent? rest
    if after.length < rest.length then some (false, after)
    else if ds.head? == some '0' && ds.any (· != '0') then none
    else some (true, after)
  | none =>
    match cs with
    | '.' :: rest => do
      let (_, rest) ← digits? Char.isDigit rest
      some (false, ← exponent? rest)
    | _ => none

/-- The characters behind a number in decimal digits, and whether it is imaginary. -/
def plainNumber? (cs : List Char) : Option (Bool × List Char) :=
  (decimal? cs).map fun (_, rest) =>
    match rest with
    | c :: after => if c == 'j' || c == 'J' then (true, after) else (false, rest)
    | [] => (false, [])

/-- The digits that a letter behind a zero asks for. -/
def basedDigit? (letter : Char) : Option (Char → Bool) :=
  match letter.toLower with
  | 'x' => some fun c => c.isDigit || ('a' ≤ c && c ≤ 'f') || ('A' ≤ c && c ≤ 'F')
  | 'o' => some fun c => '0' ≤ c && c ≤ '7'
  | 'b' => some fun c => c == '0' || c == '1'
  | _ => none

/-- The characters behind a number, and whether it is imaginary. -/
def number? (cs : List Char) : Option (Bool × List Char) :=
  match cs with
  | '0' :: letter :: rest =>
    match basedDigit? letter with
    | some isDigit => (digits? isDigit rest).map fun (_, rest) => (false, rest)
    | none => plainNumber? cs
  | _ => plainNumber? cs

/-- A number with an optional sign, or the sum of such a one and an imaginary number. -/
def sum? (cs : List Char) : Read := do
  let signed := skipBlanks (if cs.head? == some '-' || cs.head? == some '+' then cs.drop 1 else cs)
  let (imaginary, rest) ← number? signed
  match skipBlanks rest with
  | c :: more =>
    if !imaginary && (c == '+' || c == '-') then
      match number? (skipBlanks more) with
      | some (true, rest) => some (true, rest)
      | _ => none
    else some (true, rest)
  | [] => some (true, rest)

/-! ### Texts and words -/

/-- The characters behind the closing quote of a text. -/
def closing? (quote : Char) : List Char → Option (List Char)
  | [] => none
  | '\\' :: _ :: cs => closing? quote cs
  | '\n' :: _ => none
  | c :: cs => if c == quote then some cs else closing? quote cs

/-- The letters that may stand in front of a quote. -/
def isMark (letters : List Char) : Bool :=
  ["", "b", "r", "u", "br", "rb"].contains (String.ofList (letters.map Char.toLower))

/-- The characters behind texts between quotes, one after the other. -/
def texts? : (fuel : Nat) → List Char → Option (List Char)
  | 0, cs => some cs
  | fuel + 1, cs =>
    let start := skipBlanks cs
    let letters := start.takeWhile Char.isAlpha
    match start.drop letters.length with
    | q :: rest =>
      if isMark letters && (q == '\'' || q == '"') then
        (closing? q rest).bind (texts? fuel)
      else some cs
    | [] => some cs

/-- A word that is a literal, or texts between quotes. -/
def word? (cs : List Char) : Read :=
  let word := cs.takeWhile isNameChar
  if ["None", "True", "False"].contains (String.ofList word) then
    some (true, cs.drop word.length)
  else
    match texts? cs.length cs with
    | some rest => if rest.length < cs.length then some (true, rest) else none
    | none => none

/-! ### Collections -/

/-- The characters behind an optional comma and a closing bracket, if they come next. -/
def closed? (bracket : Char) (comma : Bool) (cs : List Char) : Option (List Char) :=
  match behind? bracket cs with
  | some rest => some rest
  | none => if comma then (behind? ',' cs).bind (behind? bracket) else none

mutual

/-- A literal. -/
def literal? : (fuel : Nat) → List Char → Read
  | 0, _ => none
  | fuel + 1, cs =>
    match skipBlanks cs with
    | [] => none
    | '(' :: rest => items? ')' false fuel rest
    | '[' :: rest => (items? ']' false fuel rest).map fun (_, rest) => (false, rest)
    | '\x7b' :: rest => (items? '\x7d' true fuel rest).map fun (_, rest) => (false, rest)
    | c :: rest =>
      if c.isDigit || c == '.' || c == '-' || c == '+' then sum? (c :: rest)
      else word? (c :: rest)

/-- Literals with commas between them up to a closing bracket; in braces each may have a value
behind a colon, and must be fit for a set. -/
def items? (bracket : Char) (braces : Bool) : (fuel : Nat) → List Char → Read
  | 0, _ => none
  | fuel + 1, cs =>
    match behind? bracket cs with
    | some rest => some (true, rest)
    | none => do
      let (fit, rest) ← literal? fuel cs
      let rest ←
        if braces then
          match behind? ':' rest with
          | some value => (literal? fuel value).map (·.2)
          | none => some rest
        else some rest
      if braces && !fit then none
      else
        match closed? bracket true rest with
        | some rest => some (fit, rest)
        | none => do
          let rest ← behind? ',' rest
          let (others, rest) ← items? bracket braces fuel rest
          some (fit && others, rest)

end

/-- A text that is a literal, or several with commas between them. -/
def isLiteral (cs : List Char) : Bool :=
  match items? ')' false (2 * cs.length + 4) (cs ++ [')']) with
  | some (_, []) => !(skipBlanks cs).isEmpty
  | _ => false

end GraphMapper.Markup
