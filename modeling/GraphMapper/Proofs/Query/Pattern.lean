import GraphMapper.Value.Basic
import Mathlib.Computability.Language

/-!
# Patterns

A text is tested against a pattern, which is a regular expression. A pattern is a choice of branches
between which bars stand. A branch is a sequence of pieces, a piece is an atom that may be followed
by a star, and an atom is a character, a dot, or a pattern in parentheses. A pattern matches a text if
the whole text is one of its words.

## Main definitions

* `Query.Pattern` — the patterns, by what they may be part of
* `Query.Pattern.chars` — how a pattern is written
* `Query.Pattern.language` — the words of a pattern
* `Query.Pattern.read?` — the pattern that a text is
* `Query.Pattern.rests` — what may be left of a text behind a word

## Main results

* `Pattern.read?_source` — a pattern is read as it is written
* `Pattern.mem_rests_iff` — a word is found exactly if there is one
-/

namespace GraphMapper.Query

open Computability

/-- What a part of a pattern may be part of. -/
inductive Pattern.Level where
  /-- What a star may follow. -/
  | atom
  /-- What stands in a sequence. -/
  | piece
  /-- What stands between bars. -/
  | branch
  /-- What stands between parentheses. -/
  | choice
  deriving DecidableEq, Repr

/-- The characters that stand for something other than themselves. -/
def isMeta (c : Char) : Bool := "\\^$.|?*+()[\x7b".toList.contains c

/-- The characters that end a line. -/
def isLineBreak (c : Char) : Bool := ['\n', '\r', '\u0085', '\u2028', '\u2029'].contains c

/-- A pattern, or a part of one. -/
inductive Pattern : Pattern.Level → Type
  /-- A character that stands for itself. -/
  | plain (c : Char) (ordinary : isMeta c = false) : Pattern .atom
  /-- A character that stands for itself behind a backslash. -/
  | escaped (c : Char) (special : isMeta c = true) : Pattern .atom
  /-- The dot: any character that does not end a line. -/
  | dot : Pattern .atom
  /-- A pattern in parentheses. -/
  | group (p : Pattern .choice) : Pattern .atom
  /-- An atom alone. -/
  | once (a : Pattern .atom) : Pattern .piece
  /-- An atom and a star: any number of words of the atom. -/
  | star (a : Pattern .atom) : Pattern .piece
  /-- The end of a sequence. -/
  | done : Pattern .branch
  /-- A piece in front of a sequence. -/
  | next (x : Pattern .piece) (b : Pattern .branch) : Pattern .branch
  /-- The last branch. -/
  | last (b : Pattern .branch) : Pattern .choice
  /-- A branch, a bar, and more branches. -/
  | bar (b : Pattern .branch) (p : Pattern .choice) : Pattern .choice

namespace Pattern

variable {ℓ : Level}

/-- How a pattern is written. -/
def chars : {ℓ : Level} → Pattern ℓ → List Char
  | _, plain c _ => [c]
  | _, escaped c _ => ['\\', c]
  | _, dot => ['.']
  | _, group p => '(' :: p.chars ++ [')']
  | _, once a => a.chars
  | _, star a => a.chars ++ ['*']
  | _, done => []
  | _, next x b => x.chars ++ b.chars
  | _, last b => b.chars
  | _, bar b p => b.chars ++ '|' :: p.chars

/-- A pattern as a text. -/
def source (p : Pattern ℓ) : String := String.ofList p.chars

/-- The words of a pattern. -/
def language : {ℓ : Level} → Pattern ℓ → Language Char
  | _, plain c _ | _, escaped c _ => {[c]}
  | _, dot => {w | ∃ c, w = [c] ∧ isLineBreak c = false}
  | _, group p => p.language
  | _, once a => a.language
  | _, star a => a.language∗
  | _, done => 1
  | _, next x b => x.language * b.language
  | _, last b => b.language
  | _, bar b p => b.language + p.language

theorem mem_language_dot {w : List Char} :
    w ∈ dot.language ↔ ∃ c, w = [c] ∧ isLineBreak c = false := Iff.rfl

/-- The branches of a pattern. -/
def branches : {ℓ : Level} → Pattern ℓ → List (Pattern .branch)
  | _, last b => [b]
  | _, bar b p => b :: p.branches
  | _, _ => []

/-! ### Reading -/

/-- What has been read of a pattern whose end has not been reached, with the latest part first. -/
structure Frame where
  /-- The branches in front of the last bar. -/
  finished : List (Pattern .branch)
  /-- The pieces behind it. -/
  pieces : List (Pattern .piece)

namespace Frame

/-- Nothing has been read. -/
def start : Frame := ⟨[], []⟩

/-- The sequence of some pieces, the latest of which comes first, in front of another one. -/
def sequence (xs : List (Pattern .piece)) (b : Pattern .branch) : Pattern .branch :=
  xs.foldl (fun b x => .next x b) b

/-- Another piece has been read. -/
def push (f : Frame) (x : Pattern .piece) : Frame := { f with pieces := x :: f.pieces }

/-- A bar has been read. -/
def bar (f : Frame) : Frame := ⟨sequence f.pieces .done :: f.finished, []⟩

/-- A star has been read, which has to follow an atom. -/
def star? (f : Frame) : Option Frame :=
  match f.pieces with
  | .once a :: xs => some { f with pieces := .star a :: xs }
  | _ => none

/-- The pattern that ends here. -/
def close (f : Frame) : Pattern .choice :=
  f.finished.foldl (fun p b => .bar b p) (.last (sequence f.pieces .done))

end Frame

/-- The pattern that characters continue, inside of patterns that are still open. -/
def readFrom : List Char → Frame → List Frame → Option (Pattern .choice)
  | [], f, outer => if outer.isEmpty then some f.close else none
  | c :: cs, f, outer =>
    if ordinary : isMeta c = false then readFrom cs (f.push (.once (.plain c ordinary))) outer
    else
      match c, cs, outer with
      | '.', cs, outer => readFrom cs (f.push (.once .dot)) outer
      | '*', cs, outer => f.star?.bind fun f => readFrom cs f outer
      | '|', cs, outer => readFrom cs f.bar outer
      | '(', cs, outer => readFrom cs .start (f :: outer)
      | ')', cs, g :: outer => readFrom cs (g.push (.once (.group f.close))) outer
      | '\\', c :: cs, outer =>
        if special : isMeta c = true then readFrom cs (f.push (.once (.escaped c special))) outer
        else none
      | _, _, _ => none

/-- The pattern that a text is. -/
def read? (s : String) : Option (Pattern .choice) := readFrom s.toList .start []

/-- What has been read once a part has been read. -/
def after : {ℓ : Level} → Pattern ℓ → Frame → Frame
  | .atom, a, f => f.push (.once a)
  | .piece, x, f => f.push x
  | .branch, done, f => f
  | .branch, next x b, f => b.after (f.push x)
  | .choice, last b, f => b.after f
  | .choice, bar b p, f => p.after (b.after f).bar

theorem after_atom (a : Pattern .atom) (f : Frame) : a.after f = f.push (.once a) := by
  cases a <;> rfl

theorem after_piece (x : Pattern .piece) (f : Frame) : x.after f = f.push x := by
  cases x <;> rfl

/-- Branches that have been finished stay as they are, and the last one grows. -/
theorem after_branch : ∀ (b : Pattern .branch) (f : Frame),
    (b.after f).finished = f.finished ∧
      Frame.sequence (b.after f).pieces .done = Frame.sequence f.pieces b
  | done, f => ⟨rfl, rfl⟩
  | next x b, f => after_branch b (f.push x)

/-- A pattern that has been read is what the frame ends as. -/
theorem close_after : ∀ (p : Pattern .choice) (finished : List (Pattern .branch)),
    (p.after ⟨finished, []⟩).close = finished.foldl (fun p b => .bar b p) p
  | last b, finished => by
    obtain ⟨same, sequence⟩ := b.after_branch ⟨finished, []⟩
    rw [after, Frame.close, same, sequence]
    rfl
  | bar b p, finished => by
    obtain ⟨same, sequence⟩ := b.after_branch ⟨finished, []⟩
    rw [after, Frame.bar, same, sequence, close_after p]
    rfl

theorem close_after_start (p : Pattern .choice) : (p.after .start).close = p := close_after p []

/-- A part of a pattern is read wherever it is written. -/
theorem readFrom_append (p : Pattern ℓ) (cs : List Char) (f : Frame) (outer : List Frame) :
    readFrom (p.chars ++ cs) f outer = readFrom cs (p.after f) outer := by
  -- a part may stand anywhere, so the induction is for all frames and for whatever follows
  induction p generalizing cs f outer with
  | plain c ordinary => rw [chars, List.singleton_append, readFrom, dif_pos ordinary, after]
  | escaped c special =>
    have backslash : isMeta '\\' ≠ false := by decide
    rw [chars, List.cons_append, List.singleton_append, readFrom, dif_neg backslash]
    simp only [special, dite_true, after]
  | dot => rfl
  | group p ih =>
    -- the parenthesis opens a frame, and its end leaves a group in the frame around it
    change readFrom ('(' :: (p.chars ++ [')'] ++ cs)) f outer = _
    rw [List.append_assoc]
    change readFrom (p.chars ++ ([')'] ++ cs)) .start (f :: outer) = _
    rw [ih]
    change readFrom cs (f.push (.once (.group (p.after .start).close))) outer = _
    rw [close_after_start, after]
  | once a ih => rw [chars, ih, after_atom, after_piece]
  | star a ih =>
    rw [chars, List.append_assoc, ih, after_atom, after_piece]
    rfl
  | done => rfl
  | next x b ihx ihb =>
    rw [chars, List.append_assoc, ihx, ihb, after_piece]
    rfl
  | last b ih => exact ih cs f outer
  | bar b p ihb ihp =>
    rw [chars, List.append_assoc, ihb]
    change readFrom (p.chars ++ cs) (b.after f).bar outer = _
    rw [ihp]
    rfl

/-- A pattern is read as it is written. -/
theorem read?_source (p : Pattern .choice) : read? p.source = some p := by
  have reads := p.readFrom_append [] .start []
  rw [List.append_nil] at reads
  rw [read?, source, String.toList_ofList, reads, readFrom, close_after_start]
  rfl

-- A star has to follow an atom, and a second one does not.
example : (read? "a*").isSome = true ∧ (read? "a**").isSome = false := by decide +kernel

/-! ### Matching -/

/-- What may be left of characters after taking words away, up to a number of times. Taking away the
empty word is of no use. -/
def restsOfMany (rests : List Char → List (List Char)) : Nat → List Char → List (List Char)
  | 0, cs => [cs]
  | n + 1, cs =>
    cs :: ((rests cs).filter (·.length < cs.length)).flatMap (restsOfMany rests n)

/-- What may be left of characters behind a word of a pattern. -/
def rests : {ℓ : Level} → Pattern ℓ → List Char → List (List Char)
  | _, plain c _, cs | _, escaped c _, cs => if cs.head? = some c then [cs.tail] else []
  | _, dot, cs => if cs.head?.any (!isLineBreak ·) then [cs.tail] else []
  | _, group p, cs => p.rests cs
  | _, once a, cs => a.rests cs
  | _, star a, cs => restsOfMany a.rests cs.length cs
  | _, done, cs => [cs]
  | _, next x b, cs => (x.rests cs).flatMap b.rests
  | _, last b, cs => b.rests cs
  | _, bar b p, cs => b.rests cs ++ p.rests cs

section

variable {remainders : List Char → List (List Char)} {L : Language Char} {w cs r : List Char} {n : Nat}

/-- Another word in front of some words. -/
theorem append_mem_kstar {v : List Char} (first : w ∈ L) (others : v ∈ L∗) : w ++ v ∈ L∗ := by
  obtain ⟨words, rfl, each⟩ := others
  exact ⟨w :: words, rfl, List.forall_mem_cons.mpr ⟨first, each⟩⟩

theorem exists_of_mem_restsOfMany
    (sound : ∀ {cs r}, r ∈ remainders cs → ∃ w ∈ L, w ++ r = cs)
    (left : r ∈ restsOfMany remainders n cs) : ∃ w ∈ L∗, w ++ r = cs := by
  induction n generalizing cs with
  | zero =>
    rw [restsOfMany, List.mem_singleton] at left
    exact ⟨[], Language.nil_mem_kstar L, by rw [left, List.nil_append]⟩
  | succ n ih =>
    rw [restsOfMany, List.mem_cons, List.mem_flatMap] at left
    rcases left with rfl | ⟨cs', first, left⟩
    · exact ⟨[], Language.nil_mem_kstar L, rfl⟩
    · obtain ⟨w, word, rfl⟩ := sound (List.mem_of_mem_filter first)
      obtain ⟨v, words, rfl⟩ := ih left
      exact ⟨w ++ v, append_mem_kstar word words, List.append_assoc ..⟩

/-- Empty words can be left out, so that every word that is taken away makes the rest shorter. -/
theorem mem_restsOfMany (complete : ∀ {w r}, w ∈ L → r ∈ remainders (w ++ r)) (words : w ∈ L∗)
    (enough : (w ++ r).length ≤ n) : r ∈ restsOfMany remainders n (w ++ r) := by
  obtain ⟨parts, rfl, each⟩ := Language.mem_kstar_iff_exists_nonempty.mp words
  clear words
  induction parts generalizing n with
  | nil =>
    cases n with
    | zero => exact List.mem_singleton_self _
    | succ n => exact List.mem_cons_self
  | cons v parts ih =>
    rw [List.forall_mem_cons] at each
    obtain ⟨⟨word, nonempty⟩, others⟩ := each
    have shorter := List.length_pos_of_ne_nil nonempty
    -- a word that is not empty makes what is left shorter, so the bound allows for the others
    rw [List.flatten_cons, List.append_assoc] at enough ⊢
    rw [List.length_append] at enough
    cases n with
    | zero => omega
    | succ n =>
      refine List.mem_cons_of_mem _ (List.mem_flatMap.mpr ⟨parts.flatten ++ r, ?_, ?_⟩)
      · refine List.mem_filter.mpr ⟨complete word, decide_eq_true ?_⟩
        have longer : (v ++ (parts.flatten ++ r)).length =
            v.length + (parts.flatten ++ r).length := List.length_append
        omega
      · exact ih others (by omega)

end

/-- What is left behind one character. -/
theorem mem_rests_char {c : Char} {cs r : List Char} :
    r ∈ (if cs.head? = some c then [cs.tail] else []) ↔ ∃ w ∈ ({[c]} : Language Char), w ++ r = cs := by
  have single (w : List Char) : w ∈ ({[c]} : Language Char) ↔ w = [c] := Iff.rfl
  simp only [single, exists_eq_left, List.singleton_append]
  cases cs with
  | nil => simp
  | cons d cs =>
    by_cases same : d = c
    · simp [same]
    · simp [eq_comm]

/-- What may be left behind a word of a pattern is found. -/
theorem mem_rests_iff (p : Pattern ℓ) {cs r : List Char} :
    r ∈ p.rests cs ↔ ∃ w ∈ p.language, w ++ r = cs := by
  induction p generalizing cs r with
  | plain c _ | escaped c _ => exact mem_rests_char
  | dot =>
    simp only [mem_language_dot]
    cases cs with
    | nil => simp +contextual [rests]
    | cons d cs => simp [rests]
  | group p ih => exact ih
  | once a ih => exact ih
  | star a ih =>
    constructor
    · exact exists_of_mem_restsOfMany fun left => ih.mp left
    · rintro ⟨w, words, rfl⟩
      exact mem_restsOfMany (fun word => ih.mpr ⟨_, word, rfl⟩) words le_rfl
  | done => simp [rests, language]
  | next x b ihx ihb =>
    simp only [rests, language, List.mem_flatMap, ihx, ihb, Language.mem_mul]
    constructor
    · rintro ⟨_, ⟨w, first, rfl⟩, v, others, rfl⟩
      exact ⟨w ++ v, ⟨w, first, v, others, rfl⟩, List.append_assoc ..⟩
    · rintro ⟨_, ⟨w, first, v, others, rfl⟩, rfl⟩
      exact ⟨v ++ r, ⟨w, first, (List.append_assoc ..).symm⟩, v, others, rfl⟩
  | last b ih => exact ih
  | bar b p ihb ihp =>
    rw [rests, List.mem_append, ihb, ihp, ← exists_or]
    exact exists_congr fun w => or_and_right.symm

/-- A text is a word of a pattern exactly if nothing need be left of it. -/
theorem mem_language_iff (p : Pattern ℓ) {w : List Char} : w ∈ p.language ↔ [] ∈ p.rests w := by
  simp [mem_rests_iff]

instance (p : Pattern ℓ) (w : List Char) : Decidable (w ∈ p.language) :=
  decidable_of_iff _ p.mem_language_iff.symm

end Pattern

end GraphMapper.Query
