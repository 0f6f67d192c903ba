import GraphMapper.Proofs.Query.Tokens

/-!
# Reading conditions

The tokens of a condition are put together: parentheses first, and between them the loosest word
that joins expressions, down to the tests. A test binds tighter than `NOT`, which binds tighter than
`AND`, then `XOR`, then `OR`.

## Main definitions

* `Query.readExpression` — the expression of some pieces without open parentheses
* `Query.Expression.read` — the expression that a text denotes

## Main results

* `readExpression_pieces` — an expression that needs no more parentheses is read from its pieces
* `Expression.read_text` — and from its text
-/

namespace GraphMapper.Query

/-! ### Putting tokens together -/

/-- A token, or an expression in parentheses that has been read. -/
inductive Piece where
  /-- A token. -/
  | token (t : Token)
  /-- An expression in parentheses. -/
  | nested (e : Expression String)

/-- The items of a list up to its end, of which there is at least one. -/
def readItems : List Piece → Option (List String)
  | [.token (.param p), .token .listClosing] => some [p]
  | .token (.param p) :: .token .comma :: rest => (readItems rest).map (p :: ·)
  | _ => none

/-- The items of a list up to its end. -/
def readList : List Piece → Option (List String)
  | [.token .listClosing] => some []
  | ps => readItems ps

/-- What a property is tested for. -/
def readTest : List Piece → Option (Test String)
  | [.token (.word .is), .token (.word .null)] => some .isNull
  | [.token (.word .is), .token (.word .not), .token (.word .null)] => some .isNotNull
  | [.token (.relation r), .token (.param p)] => some (.relation r p)
  | .token (.word .isIn) :: .token .listOpening :: rest => (readList rest).map .isIn
  | _ => none

/-- A test, or an expression in parentheses. -/
def readAtom : List Piece → Option (Expression String)
  | [.nested e] => some (.paren e)
  | .token (.property node key) :: rest => (readTest rest).map (.test node key)
  | _ => none

/-- An atom behind any number of negations. -/
def readNegation : List Piece → Option (Expression String)
  | .token (.word .not) :: rest => (readNegation rest).map .negation
  | ps => readAtom ps

/-- The piece is the given word. -/
def Piece.joins (op : Junction) : Piece → Bool
  | .token (.word (.junction op')) => op == op'
  | _ => false

/-- Expressions joined by one word, each read by `next`. -/
def readChain (op : Junction) (next : List Piece → Option (Expression String))
    (ps : List Piece) : Option (Expression String) :=
  ((ps.splitOnP (Piece.joins op)).mapM next).map (Expression.joined op)

/-- The expression of some pieces: `OR` binds loosest, then `XOR`, then `AND`, then `NOT`. -/
def readExpression : List Piece → Option (Expression String) :=
  readChain .or (readChain .xor (readChain .and readNegation))

/-- Puts tokens together. The pieces of the innermost open parenthesis come first, then those of the
parentheses around it. -/
def assemble : List Piece → List (List Piece) → List Token → Option (Expression String)
  | ps, [], [] => readExpression ps
  | _, _ :: _, [] => none
  | ps, outer, .opening :: ts => assemble [] (ps :: outer) ts
  | _, [], .closing :: _ => none
  | ps, around :: outer, .closing :: ts =>
    (readExpression ps).bind fun e => assemble (around ++ [.nested e]) outer ts
  | ps, outer, t :: ts => assemble (ps ++ [.token t]) outer ts

/-- The expression that a text denotes. -/
def Expression.read (foreign : Char → Bool) (text : String) : Option (Expression String) :=
  (tokens? foreign text.toList).bind (assemble [] [])

/-! ### Reading back what was written -/

namespace Expression

mutual

/-- The pieces of an expression, of which those in parentheses have been read. -/
def pieces : Expression String → List Piece
  | .test node key t => .token (.property node key) :: t.tokens.map .token
  | .paren e => [.nested e]
  | .negation e => .token (.word .not) :: e.pieces
  | .chain op es => [Piece.token (.word (.junction op))].intercalate (piecesAll es)

/-- The pieces of each of some expressions. -/
def piecesAll : List (Expression String) → List (List Piece)
  | [] => []
  | e :: es => e.pieces :: piecesAll es

end

@[simp] theorem piecesAll_eq_map (es : List (Expression String)) :
    piecesAll es = es.map pieces := by
  induction es with
  | nil => rfl
  | cons e es ih => simp [piecesAll, ih]

end Expression

/-! #### Tests -/

theorem readItems_itemTokens (name : String) (rest : List String) :
    readItems ((itemTokens (name :: rest)).map .token) = some (name :: rest) := by
  induction rest generalizing name with
  | nil => rfl
  | cons next rest ih => simp [itemTokens, readItems, ih next]

/-- A test is read as it is written. -/
theorem readTest_tokens (t : Test String) : readTest (t.tokens.map .token) = some t := by
  cases t with
  | isNull | isNotNull | relation => rfl
  | isIn names =>
    have list : readList ((itemTokens names).map .token) = some names := by
      match names with
      | [] | [_] => rfl
      | name :: next :: rest => exact readItems_itemTokens name (next :: rest)
    simp [Test.tokens, readTest, list]

/-- The token is neither a parenthesis nor a word that joins expressions. -/
def Token.isPlain : Token → Bool
  | .opening | .closing | .word (.junction _) => false
  | _ => true

theorem isPlain_of_mem_itemTokens {names : List String} {t : Token}
    (member : t ∈ itemTokens names) : t.isPlain = true := by
  induction names using itemTokens.induct with
  | case1 =>
    obtain rfl := List.mem_singleton.1 member
    rfl
  | case2 name =>
    rcases List.mem_pair.1 member with rfl | rfl <;> rfl
  | case3 name next rest ih =>
    simp only [itemTokens, List.mem_cons] at member
    rcases member with rfl | rfl | later
    · rfl
    · rfl
    · exact ih later

theorem isPlain_of_mem_tokens {t : Test String} {token : Token} (member : token ∈ t.tokens) :
    token.isPlain = true := by
  cases t with
  | isNull | isNotNull | relation =>
    simp only [Test.tokens, List.mem_cons, List.not_mem_nil, or_false] at member
    rcases member with rfl | rfl | rfl <;> rfl
  | isIn names =>
    simp only [Test.tokens, List.mem_cons] at member
    rcases member with rfl | rfl | item
    · rfl
    · rfl
    · exact isPlain_of_mem_itemTokens item

theorem not_joins_of_isPlain {t : Token} (plain : t.isPlain = true) (op : Junction) :
    (Piece.token t).joins op = false := by
  unfold Piece.joins
  split
  · next same =>
    cases same
    cases plain
  · rfl

/-! #### Words that join expressions -/

/-- Every piece of pieces joined by a word is that word or one of the pieces. -/
theorem mem_intercalate {sep p : Piece} {pieces : List (List Piece)}
    (member : p ∈ [sep].intercalate pieces) : p = sep ∨ ∃ ps ∈ pieces, p ∈ ps := by
  induction pieces with
  | nil => cases member
  | cons ps rest ih =>
    cases rest with
    | nil => exact .inr ⟨ps, List.mem_cons_self, by simpa using member⟩
    | cons next rest =>
      rw [List.intercalate_cons_cons, List.mem_append, List.mem_append] at member
      rcases member with (first | between) | later
      · exact .inr ⟨ps, List.mem_cons_self, first⟩
      · exact .inl (List.mem_singleton.1 between)
      · exact (ih later).imp_right fun ⟨qs, known, member⟩ =>
          ⟨qs, List.mem_cons_of_mem ps known, member⟩

namespace Expression

/-- Outside of parentheses, an expression has no word that binds more loosely than itself. -/
theorem Fits.not_joins_of_mem_pieces {e : Expression String} (fits : e.Fits) {op : Junction}
    (tight : e.level < op.level) {p : Piece} (member : p ∈ e.pieces) : p.joins op = false := by
  induction fits with
  | test node key t =>
    rcases List.mem_cons.1 member with rfl | later
    · rfl
    · obtain ⟨token, known, rfl⟩ := List.mem_map.1 later
      exact not_joins_of_isPlain (isPlain_of_mem_tokens known) op
  | paren =>
    obtain rfl := List.mem_singleton.1 member
    rfl
  | @negation e _ inner ih =>
    have above : e.level < op.level := lt_of_le_of_lt inner tight
    rcases List.mem_cons.1 member with rfl | later
    · rfl
    · exact ih above later
  | @chain op' es _ _ inner ih =>
    rw [pieces, piecesAll_eq_map] at member
    rcases mem_intercalate member with rfl | ⟨ps, known, member⟩
    · have differ : op ≠ op' := by
        rintro rfl
        exact lt_irrefl _ tight
      simpa [Piece.joins] using differ
    · obtain ⟨e, operand, rfl⟩ := List.mem_map.1 known
      exact ih e operand (lt_trans (inner e operand) tight) member

end Expression

variable {op : Junction} {next : List Piece → Option (Expression String)}

/-- A chain is cut at its words, if its parts have none of them. -/
theorem splitOnP_intercalate {es : List (Expression String)} (nonempty : es ≠ [])
    (apart : ∀ e ∈ es, ∀ p ∈ e.pieces, p.joins op = false) :
    ([Piece.token (.word (.junction op))].intercalate (es.map Expression.pieces)).splitOnP
      (Piece.joins op) = es.map Expression.pieces := by
  have itself : (Piece.token (.word (.junction op))).joins op = true := by simp [Piece.joins]
  induction es with
  | nil => exact absurd rfl nonempty
  | cons e rest ih =>
    rw [List.forall_mem_cons] at apart
    cases rest with
    | nil => simpa using List.splitOnP_eq_singleton apart.1
    | cons next rest =>
      have later := ih (List.cons_ne_nil _ _) apart.2
      rw [List.map_cons, List.map_cons, List.intercalate_cons_cons, List.append_assoc,
        List.singleton_append, List.splitOnP_append_cons_of_forall_mem apart.1 _ itself,
        ← List.map_cons, later]

/-- A chain is read if its parts are. -/
theorem readChain_intercalate {es : List (Expression String)} (nonempty : es ≠ [])
    (apart : ∀ e ∈ es, ∀ p ∈ e.pieces, p.joins op = false)
    (known : ∀ e ∈ es, next e.pieces = some e) :
    readChain op next ([Piece.token (.word (.junction op))].intercalate
      (es.map Expression.pieces)) = some (.joined op es) := by
  have parts : (es.map Expression.pieces).mapM next = some es := by
    clear nonempty apart
    induction es with
    | nil => rfl
    | cons e rest ih =>
      rw [List.forall_mem_cons] at known
      simp [known.1, ih known.2]
  rw [readChain, splitOnP_intercalate nonempty apart, parts, Option.map_some]

/-- What reads all expressions that bind tighter than a word is extended to chains of that word. -/
theorem readChain_pieces (op : Junction)
    (known : ∀ e : Expression String, e.Fits → e.level < op.level → next e.pieces = some e)
    {e : Expression String} (fits : e.Fits) (tight : e.level ≤ op.level) :
    readChain op next e.pieces = some e := by
  rcases lt_or_eq_of_le tight with below | same
  -- without the word there is nothing to cut, and what reads tighter expressions reads it all
  · have apart (p : Piece) (member : p ∈ e.pieces) := fits.not_joins_of_mem_pieces below member
    rw [readChain, List.splitOnP_eq_singleton apart]
    simp [known e fits below, Expression.joined]
  · cases fits with
    | test | paren => cases op <;> cases same
    | negation => cases op <;> cases same
    | @chain op' es several fit inner =>
      have joins : op' = op := by cases op' <;> cases op <;> first | rfl | cases same
      subst joins
      have nonempty : es ≠ [] := by
        rintro rfl
        simp at several
      have whole := readChain_intercalate nonempty
        (fun e member p => (fit e member).not_joins_of_mem_pieces (inner e member))
        (fun e member => known e (fit e member) (inner e member))
      simpa [Expression.pieces, Expression.joined_of_two_le several] using whole

/-- What binds tighter than the words that join expressions is read as it is written. -/
theorem readNegation_pieces {e : Expression String} (fits : e.Fits) (tight : e.level ≤ 1) :
    readNegation e.pieces = some e := by
  induction fits with
  | test node key t => simp [Expression.pieces, readNegation, readAtom, readTest_tokens]
  | paren => rfl
  | negation _ inner ih => simp [Expression.pieces, readNegation, ih inner]
  | @chain op => cases op <;> simp [Expression.level, Junction.level] at tight

/-- An expression that needs no more parentheses is read from its pieces. -/
theorem readExpression_pieces {e : Expression String} (fits : e.Fits) :
    readExpression e.pieces = some e := by
  -- one word after the other, each reading all that the words before it read
  have two (e : Expression String) (fits : e.Fits) (tight : e.level ≤ 2) :=
    readChain_pieces .and (fun _ part below => readNegation_pieces part (Nat.le_of_lt_succ below))
      fits tight
  have three (e : Expression String) (fits : e.Fits) (tight : e.level ≤ 3) :=
    readChain_pieces .xor (fun e part below => two e part (Nat.le_of_lt_succ below)) fits tight
  refine readChain_pieces .or (fun e part below => three e part (Nat.le_of_lt_succ below)) fits ?_
  cases fits with
  | test | paren | negation => simp [Expression.level, Junction.level]
  | @chain op => cases op <;> simp [Expression.level, Junction.level]

/-! #### Parentheses -/

variable {ps : List Piece} {outer : List (List Piece)} {ts : List Token}

theorem assemble_cons {t : Token} (opening : t ≠ .opening) (closing : t ≠ .closing) :
    assemble ps outer (t :: ts) = assemble (ps ++ [.token t]) outer ts := by
  cases t <;> first | contradiction | cases outer <;> simp [assemble]

theorem assemble_append {us : List Token} (plain : ∀ t ∈ us, t.isPlain = true) :
    assemble ps outer (us ++ ts) = assemble (ps ++ us.map .token) outer ts := by
  induction us generalizing ps with
  | nil => simp
  | cons t us ih =>
    rw [List.forall_mem_cons] at plain
    have opening : t ≠ .opening := by
      rintro rfl
      exact absurd plain.1 (by decide)
    have closing : t ≠ .closing := by
      rintro rfl
      exact absurd plain.1 (by decide)
    rw [List.cons_append, assemble_cons opening closing, ih plain.2, List.map_cons,
      List.append_assoc, List.singleton_append]

theorem assemble_intercalate (ps : List Piece) {es : List (Expression String)}
    (each : ∀ e ∈ es, ∀ ps outer ts, assemble ps outer (e.tokens ++ ts) =
      assemble (ps ++ e.pieces) outer ts) :
    assemble ps outer ([Token.word (.junction op)].intercalate (es.map Expression.tokens) ++ ts) =
      assemble (ps ++ [Piece.token (.word (.junction op))].intercalate (es.map Expression.pieces))
        outer ts := by
  induction es generalizing ps with
  | nil => simp
  | cons e rest ih =>
    rw [List.forall_mem_cons] at each
    cases rest with
    | nil => simpa using each.1 ps outer ts
    | cons next rest =>
      have later := ih (ps ++ e.pieces ++ [.token (.word (.junction op))]) each.2
      simp only [List.map_cons, List.intercalate_cons_cons, List.append_assoc,
        List.singleton_append] at later ⊢
      rw [each.1, List.cons_append, assemble_cons (by simp) (by simp), List.append_assoc, later]

/-- The tokens of an expression add its pieces to those of the innermost open parenthesis. -/
theorem assemble_tokens {e : Expression String} (fits : e.Fits) (ps : List Piece)
    (outer : List (List Piece)) (ts : List Token) :
    assemble ps outer (e.tokens ++ ts) = assemble (ps ++ e.pieces) outer ts := by
  induction fits generalizing ps outer ts with
  | test node key t =>
    rw [Expression.tokens, List.cons_append, assemble_cons (by simp) (by simp),
      assemble_append fun _ member => isPlain_of_mem_tokens member, Expression.pieces,
      List.append_assoc, List.singleton_append]
  | @paren e inner ih =>
    rw [Expression.tokens, List.cons_append, List.append_assoc, List.singleton_append]
    -- what is inside is put together on its own, and read when the parenthesis is closed
    simp only [assemble]
    rw [ih, List.nil_append, assemble, readExpression_pieces inner, Option.bind_some,
      Expression.pieces]
  | @negation e _ _ ih =>
    rw [Expression.tokens, List.cons_append, assemble_cons (by simp) (by simp), ih,
      Expression.pieces, List.append_assoc, List.singleton_append]
  | @chain op es _ _ _ ih =>
    rw [Expression.tokens, Expression.pieces, Expression.tokensAll_eq_map,
      Expression.piecesAll_eq_map]
    exact assemble_intercalate ps ih

/-- An expression that needs no more parentheses is read back from its text, with the names of its
parameters. -/
theorem Expression.read_text {foreign : Char → Bool} {e : Expression Slot} (fits : e.Fits)
    (tested : e.Over fun node key =>
      isIdentifier foreign node.toList = true ∧ isIdentifier foreign key.toList = true)
    (proper : ∀ s ∈ e.template.slots, isParameterName s.name = true) :
    read foreign e.template.text = some (e.map Slot.name) := by
  have fits' := fits.map Slot.name
  have put := assemble_tokens fits' [] [] []
  rw [read, tokens?_template tested proper, Option.bind_some]
  rw [List.append_nil, List.nil_append, assemble, readExpression_pieces fits'] at put
  exact put

example : Expression.read (fun _ => false) "NOT n.a = $x AND n.b IS NULL XOR n.c > $y OR n.d = $z" =
    some (.chain .or
      [.chain .xor
        [.chain .and
          [.negation (.test "n" "a" (.relation .equal "x")), .test "n" "b" .isNull],
          .test "n" "c" (.relation .greater "y")],
        .test "n" "d" (.relation .equal "z")]) := rfl

end GraphMapper.Query
