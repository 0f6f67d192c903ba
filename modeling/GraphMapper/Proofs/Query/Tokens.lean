import GraphMapper.Proofs.Query.Naming
import GraphMapper.Proofs.Query.Translation
import Mathlib.Data.List.SplitBy

/-!
# The tokens of a condition

The characters of a condition are cut into words, symbols and single signs, and these are told apart
as properties, parameters, keywords and comparisons. What counts as a letter beyond ASCII is left
open.

## Main definitions

* `Query.Token` — the tokens of conditions
* `Query.tokens?` — the tokens of a text
* `Query.Expression.tokens` — the tokens that an expression is written with

## Main results

* `Expression.tokens?_template` — the text of an expression is cut into the tokens of the expression
-/

namespace GraphMapper.Query

/-! ### Cutting a text -/

/-- A letter, a digit or an underscore. -/
def isWordChar (foreign : Char → Bool) (c : Char) : Bool :=
  isNameChar c || (128 ≤ c.toNat && foreign c)

/-- A name that does not start with a digit. -/
def isIdentifier (foreign : Char → Bool) : List Char → Bool
  | [] => false
  | c :: cs => !c.isDigit && (c :: cs).all (isWordChar foreign)

/-- A character of a name, a property or a parameter. -/
def inWord (foreign : Char → Bool) (c : Char) : Bool :=
  isWordChar foreign c || c == '.' || c == '$'

/-- A character of a comparison. -/
def inSymbol (c : Char) : Bool := ['=', '<', '>', '~'].contains c

/-- Two characters that are not cut apart. -/
def cling (foreign : Char → Bool) (c d : Char) : Bool :=
  (inWord foreign c && inWord foreign d) || (inSymbol c && inSymbol d)

/-- The words, symbols and signs of a text, leaving out the blanks. -/
def lexemes (foreign : Char → Bool) (cs : List Char) : List (List Char) :=
  (cs.splitBy (cling foreign)).filter (!·.all Char.isWhitespace)

/-! ### Tokens -/

/-- The words of conditions. -/
inductive Keyword where
  /-- A word that joins expressions. -/
  | junction (op : Junction)
  /-- The word that negates. -/
  | not
  /-- The word in front of `NULL`. -/
  | is
  /-- The word in front of a list. -/
  | isIn
  /-- The word for a missing value. -/
  | null
  deriving DecidableEq, Repr

/-- A token of a condition. -/
inductive Token where
  /-- A property of a node. -/
  | property (node key : String)
  /-- A parameter. -/
  | param (name : String)
  /-- A keyword. -/
  | word (w : Keyword)
  /-- A comparison. -/
  | relation (r : Relation)
  /-- An opening parenthesis. -/
  | opening
  /-- A closing parenthesis. -/
  | closing
  /-- The start of a list. -/
  | listOpening
  /-- The end of a list. -/
  | listClosing
  /-- The sign between the items of a list. -/
  | comma
  deriving DecidableEq, Repr

/-- The keyword in any case. -/
def Keyword.ofChars? (cs : List Char) : Option Keyword :=
  match cs.map Char.toUpper with
  | ['A', 'N', 'D'] => some (.junction .and)
  | ['O', 'R'] => some (.junction .or)
  | ['X', 'O', 'R'] => some (.junction .xor)
  | ['N', 'O', 'T'] => some .not
  | ['I', 'S'] => some .is
  | ['I', 'N'] => some .isIn
  | ['N', 'U', 'L', 'L'] => some .null
  | _ => none

/-- The comparison that a symbol stands for. -/
def Relation.ofChars? : List Char → Option Relation
  | ['='] => some .equal
  | ['>'] => some .greater
  | ['>', '='] => some .atLeast
  | ['<'] => some .less
  | ['<', '='] => some .atMost
  | ['=', '~'] => some .matching
  | _ => none

/-- The property that a word with a dot in it stands for. -/
def Token.property? (foreign : Char → Bool) (cs : List Char) : Option Token :=
  let node := cs.takeWhile (· != '.')
  let key := (cs.dropWhile (· != '.')).drop 1
  if isIdentifier foreign node && isIdentifier foreign key then
    some (.property (String.ofList node) (String.ofList key))
  else none

/-- The token that a word, a symbol or a sign stands for. -/
def Token.ofLexeme? (foreign : Char → Bool) : List Char → Option Token
  | ['('] => some .opening
  | [')'] => some .closing
  | ['['] => some .listOpening
  | [']'] => some .listClosing
  | [','] => some .comma
  | '$' :: name =>
    if !name.isEmpty && name.all (isWordChar foreign) then some (.param (String.ofList name))
    else none
  | cs =>
    if cs.contains '.' then property? foreign cs
    else ((Keyword.ofChars? cs).map word).or ((Relation.ofChars? cs).map relation)

/-- The tokens of a text. -/
def tokens? (foreign : Char → Bool) (cs : List Char) : Option (List Token) :=
  (lexemes foreign cs).mapM (Token.ofLexeme? foreign)

/-! ### Cutting what was written -/

section

variable {foreign : Char → Bool} {cs ds : List Char} {ts us : List Token}

/-- A sign that clings to nothing is cut out of a text. -/
theorem splitBy_append_cons {c : Char} (word : inWord foreign c = false)
    (symbol : inSymbol c = false) :
    (cs ++ c :: ds).splitBy (cling foreign) =
      cs.splitBy (cling foreign) ++ [c] :: ds.splitBy (cling foreign) := by
  have before (d : Char) : cling foreign d c = false := by simp [cling, word, symbol]
  have behind (d : Char) : cling foreign c d = false := by simp [cling, word, symbol]
  have single : (c :: ds).splitBy (cling foreign) = [c] :: ds.splitBy (cling foreign) :=
    List.splitBy_append (l := [c]) (m := ds) (by simp [behind])
  rw [List.splitBy_append_cons _ fun d _ => before d, single]

theorem tokens?_nil (foreign : Char → Bool) : tokens? foreign [] = some [] := rfl

theorem tokens?_append_blank (first : tokens? foreign cs = some ts)
    (later : tokens? foreign ds = some us) :
    tokens? foreign (cs ++ ' ' :: ds) = some (ts ++ us) := by
  rw [tokens?, lexemes] at first later ⊢
  -- the blank is cut out as a word of its own, and then left out
  rw [splitBy_append_cons rfl rfl, List.filter_append, List.mapM_append, first]
  simp [later]

theorem tokens?_append_sign {c : Char} {t : Token} (word : inWord foreign c = false)
    (symbol : inSymbol c = false) (shown : c.isWhitespace = false)
    (sign : Token.ofLexeme? foreign [c] = some t) (first : tokens? foreign cs = some ts)
    (later : tokens? foreign ds = some us) :
    tokens? foreign (cs ++ c :: ds) = some (ts ++ t :: us) := by
  rw [tokens?, lexemes] at first later ⊢
  rw [splitBy_append_cons word symbol, List.filter_append, List.mapM_append, first]
  simp [shown, sign, later]

/-- Characters that all cling together are one word or symbol. -/
theorem tokens?_of_isChain {t : Token} (nonempty : cs ≠ [])
    (chain : cs.IsChain fun c d => cling foreign c d = true)
    (shown : cs.all Char.isWhitespace = false) (known : Token.ofLexeme? foreign cs = some t) :
    tokens? foreign cs = some [t] := by
  rw [tokens?, lexemes, List.splitBy_of_isChain nonempty chain]
  simp [shown, known]

theorem tokens?_word {t : Token} (word : cs.all (inWord foreign) = true)
    (shown : cs.all Char.isWhitespace = false) (known : Token.ofLexeme? foreign cs = some t) :
    tokens? foreign cs = some [t] := by
  refine tokens?_of_isChain (by rintro rfl; cases shown) ?_ shown known
  refine List.Pairwise.isChain (List.pairwise_of_forall_mem_list fun c left d right => ?_)
  rw [List.all_eq_true] at word
  simp [cling, word c left, word d right]

theorem tokens?_junction (op : Junction) :
    tokens? foreign op.word.toList = some [.word (.junction op)] := by
  cases op <;> exact tokens?_word rfl rfl rfl

theorem tokens?_symbol (r : Relation) : tokens? foreign r.symbol.toList = some [.relation r] := by
  cases r <;>
    exact tokens?_of_isChain (by decide) (by simp [cling, Relation.symbol, inSymbol]) rfl rfl

theorem isWordChar_of_isNameChar {c : Char} (known : isNameChar c = true) :
    isWordChar foreign c = true := by
  simp [isWordChar, known]

theorem inWord_of_isWordChar {c : Char} (known : isWordChar foreign c = true) :
    inWord foreign c = true := by
  simp [inWord, known]

theorem tokens?_placeholder (foreign : Char → Bool) {name : String}
    (proper : isParameterName name = true) :
    tokens? foreign (Fragment.placeholder name).toList = some [.param name] := by
  have letters (c : Char) (member : c ∈ name.toList) : isWordChar foreign c = true :=
    isWordChar_of_isNameChar (isNameChar_of_isParameterName proper member)
  have nonempty : name.toList ≠ [] := by
    intro nothing
    simp [isParameterName, nothing] at proper
  have spelled : (Fragment.placeholder name).toList = '$' :: name.toList := by
    simp [Fragment.placeholder]
  rw [spelled]
  refine tokens?_word ?_ (by simp) ?_
  · rw [List.all_cons, Bool.and_eq_true, List.all_eq_true]
    exact ⟨by simp [inWord], fun c member => inWord_of_isWordChar (letters c member)⟩
  · have all : name.toList.all (isWordChar foreign) = true := List.all_eq_true.2 letters
    simp [Token.ofLexeme?, nonempty, all]

theorem isWordChar_of_isIdentifier (name : isIdentifier foreign cs = true) {c : Char}
    (member : c ∈ cs) : isWordChar foreign c = true := by
  cases cs with
  | nil => cases member
  | cons d cs =>
    rw [isIdentifier, Bool.and_eq_true, List.all_eq_true] at name
    exact name.2 c member

/-- The characters in front of a dot and behind it are those of the node and of the key. -/
theorem property?_append {node key : List Char} (first : isIdentifier foreign node = true)
    (second : isIdentifier foreign key = true) :
    Token.property? foreign (node ++ '.' :: key) =
      some (.property (String.ofList node) (String.ofList key)) := by
  -- a dot is no letter, so the first one is the one behind the node
  have dotless (c : Char) (member : c ∈ node) : (c != '.') = true := by
    have letter := isWordChar_of_isIdentifier first member
    rw [bne_iff_ne]
    rintro rfl
    cases letter
  rw [Token.property?, List.takeWhile_append_of_pos dotless, List.dropWhile_append_of_pos dotless]
  simp [first, second]

theorem ofLexeme?_property {node key : List Char} (first : isIdentifier foreign node = true)
    (second : isIdentifier foreign key = true) :
    Token.ofLexeme? foreign (node ++ '.' :: key) =
      some (.property (String.ofList node) (String.ofList key)) := by
  match node with
  | [] => cases first
  | c :: cs =>
    have letter := isWordChar_of_isIdentifier first List.mem_cons_self
    have dollar : c ≠ '$' := by
      rintro rfl
      cases letter
    have whole := property?_append first second
    rw [List.cons_append] at whole ⊢
    unfold Token.ofLexeme?
    split
    -- no sign on its own has a dot behind it, and a word does not start with a dollar sign
    case h_6 same => exact absurd (List.cons.inj same).1 dollar
    case h_7 => simpa using whole
    all_goals next same => simp at same

theorem tokens?_property {node key : String} (first : isIdentifier foreign node.toList = true)
    (second : isIdentifier foreign key.toList = true) :
    tokens? foreign (node ++ "." ++ key).toList = some [.property node key] := by
  have spelled : (node ++ "." ++ key).toList = node.toList ++ '.' :: key.toList := by simp
  have known := ofLexeme?_property first second
  rw [String.ofList_toList, String.ofList_toList] at known
  rw [spelled]
  refine tokens?_word ?_ (by simp) known
  rw [List.all_append, List.all_cons, Bool.and_eq_true, Bool.and_eq_true, List.all_eq_true,
    List.all_eq_true]
  exact ⟨fun c member => inWord_of_isWordChar (isWordChar_of_isIdentifier first member),
    by simp [inWord],
    fun c member => inWord_of_isWordChar (isWordChar_of_isIdentifier second member)⟩

end

/-! ### The tokens of an expression -/

/-- The tokens of the items of a list up to its end. -/
def itemTokens : List String → List Token
  | [] => [.listClosing]
  | [name] => [.param name, .listClosing]
  | name :: next :: rest => .param name :: .comma :: itemTokens (next :: rest)

/-- The tokens of a test behind its property. -/
def Test.tokens : Test String → List Token
  | .isNull => [.word .is, .word .null]
  | .isNotNull => [.word .is, .word .not, .word .null]
  | .relation r name => [.relation r, .param name]
  | .isIn names => .word .isIn :: .listOpening :: itemTokens names

namespace Expression

mutual

/-- The tokens of an expression. -/
def tokens : Expression String → List Token
  | .test node key t => .property node key :: t.tokens
  | .paren e => .opening :: (e.tokens ++ [.closing])
  | .negation e => .word .not :: e.tokens
  | .chain op es => [Token.word (.junction op)].intercalate (tokensAll es)

/-- The tokens of each of some expressions. -/
def tokensAll : List (Expression String) → List (List Token)
  | [] => []
  | e :: es => e.tokens :: tokensAll es

end

@[simp] theorem tokensAll_eq_map (es : List (Expression String)) :
    tokensAll es = es.map tokens := by
  induction es with
  | nil => rfl
  | cons e es ih => simp [tokensAll, ih]

end Expression

section

variable {foreign : Char → Bool} {cs : List Char} {ts : List Token}

/-- The items of a list are cut at the commas between them. -/
theorem tokens?_items (foreign : Char → Bool) {ss : List Slot}
    (proper : ∀ s ∈ ss, isParameterName s.name = true) :
    tokens? foreign ((Template.joined ", " (ss.map ([.slot ·]))).text.toList ++ [']']) =
      some (itemTokens (ss.map Slot.name)) := by
  have closed {cs : List Char} {ts : List Token} (first : tokens? foreign cs = some ts) :
      tokens? foreign (cs ++ [']']) = some (ts ++ [.listClosing]) :=
    tokens?_append_sign rfl rfl rfl rfl first (tokens?_nil foreign)
  induction ss with
  | nil => exact closed (tokens?_nil foreign)
  | cons s rest ih =>
    rw [List.forall_mem_cons] at proper
    have first := tokens?_placeholder foreign proper.1
    cases rest with
    | nil => simpa [itemTokens] using closed first
    | cons next rest =>
      have later := tokens?_append_blank (tokens?_nil foreign) (ih proper.2)
      have both := tokens?_append_sign (c := ',') (t := .comma) rfl rfl rfl rfl first later
      simpa [Template.joined_cons_cons, itemTokens] using both

/-- A test is read as it is written, behind whatever property. -/
theorem tokens?_test {t : Test Slot} (first : tokens? foreign cs = some ts)
    (proper : ∀ s ∈ t.template.slots, isParameterName s.name = true) :
    tokens? foreign (cs ++ t.template.text.toList) = some (ts ++ (t.map Slot.name).tokens) := by
  have isWord : tokens? foreign ['I', 'S'] = some [.word .is] := tokens?_word rfl rfl rfl
  have nullWord : tokens? foreign ['N', 'U', 'L', 'L'] = some [.word .null] :=
    tokens?_word rfl rfl rfl
  cases t with
  | isNull =>
    have words := tokens?_append_blank isWord nullWord
    simpa [Test.template, Test.tokens, Test.map] using tokens?_append_blank first words
  | isNotNull =>
    have notWord : tokens? foreign ['N', 'O', 'T'] = some [.word .not] := tokens?_word rfl rfl rfl
    have words := tokens?_append_blank isWord (tokens?_append_blank notWord nullWord)
    simpa [Test.template, Test.tokens, Test.map] using tokens?_append_blank first words
  | relation r s =>
    have named := tokens?_placeholder foreign (proper s List.mem_cons_self)
    have words := tokens?_append_blank (tokens?_symbol r) named
    simpa [Test.template, Test.tokens, Test.map] using tokens?_append_blank first words
  | isIn ss =>
    rw [Test.slots_template_isIn] at proper
    have inWord : tokens? foreign ['I', 'N'] = some [.word .isIn] := tokens?_word rfl rfl rfl
    have list := tokens?_append_sign (c := '[') (t := .listOpening) rfl rfl rfl rfl
      (tokens?_nil foreign) (tokens?_items foreign proper)
    have words := tokens?_append_blank inWord list
    simpa [Test.template, Test.tokens, Test.map, Function.comp_def] using
      tokens?_append_blank first words

theorem tokens?_joined (op : Junction) {es : List (Expression Slot)}
    (each : ∀ e ∈ es, tokens? foreign e.template.text.toList = some (e.map Slot.name).tokens) :
    tokens? foreign
        (Template.joined (" " ++ op.word ++ " ") (es.map Expression.template)).text.toList =
      some ([Token.word (.junction op)].intercalate
        (es.map fun e => (e.map Slot.name).tokens)) := by
  induction es with
  | nil => rfl
  | cons e rest ih =>
    rw [List.forall_mem_cons] at each
    cases rest with
    | nil => simpa using each.1
    | cons next rest =>
      have later := tokens?_append_blank (tokens?_junction op) (ih each.2)
      have both := tokens?_append_blank each.1 later
      simpa [Template.joined_cons_cons] using both

/-- An expression is cut into its tokens, if its properties and parameters have proper names. -/
theorem Expression.tokens?_template {e : Expression Slot}
    (tested : e.Over fun node key =>
      isIdentifier foreign node.toList = true ∧ isIdentifier foreign key.toList = true)
    (proper : ∀ s ∈ e.template.slots, isParameterName s.name = true) :
    tokens? foreign e.template.text.toList = some (e.map Slot.name).tokens := by
  induction tested with
  | test t names =>
    have whole := tokens?_test (tokens?_property names.1 names.2) proper
    simpa [template, tokens, map] using whole
  | @paren e _ ih =>
    have inner := ih (by simpa [template] using proper)
    have closed := tokens?_append_sign (c := ')') (t := .closing) rfl rfl rfl rfl inner
      (tokens?_nil foreign)
    have whole := tokens?_append_sign (c := '(') (t := .opening) rfl rfl rfl rfl
      (tokens?_nil foreign) closed
    simpa [template, tokens, map] using whole
  | @negation e _ ih =>
    have inner := ih (by simpa [template] using proper)
    have notWord : tokens? foreign ['N', 'O', 'T'] = some [.word .not] := tokens?_word rfl rfl rfl
    have whole := tokens?_append_blank notWord inner
    simpa [template, tokens, map] using whole
  | @chain op es _ ih =>
    rw [template, templates_eq_map, Template.slots_joined, List.flatMap_map] at proper
    have each (e : Expression Slot) (member : e ∈ es) :=
      ih e member fun s slot => proper s (List.mem_flatMap.2 ⟨e, member, slot⟩)
    have whole := tokens?_joined op each
    simpa [template, tokens, map, Function.comp_def] using whole

end

end GraphMapper.Query
