import GraphMapper.Proofs.Query.Logic
import GraphMapper.Proofs.Query.Pattern

/-!
# Holding a match

The operator `like` tests whether a text holds a match of a pattern. A server matches whole texts, so
the pattern is bound with a dot and a star in front of it and behind it, and nothing around it. A bar
binds less than a sequence does. So in a pattern with several branches what is in front belongs to
the first of them, what is behind belongs to the last, and those between have to match the whole text.

## Main definitions

* `Query.Pattern.surrounded` — a pattern between any characters
* `Query.Pattern.Found` — how the branches of a surrounded pattern are found in a text
* `Query.IsWholeMatch` — texts are matched as a whole
* `Query.wholeMatch` — a way to do so

## Main results

* `Pattern.mem_language_surrounded_iff` — what a surrounded pattern matches
* `Predicate.like_found` — what the operators `like` and `nlike` are bound to, and what they hold of
-/

namespace GraphMapper.Query

open Computability

namespace Pattern

variable {ℓ : Level} {L : Language Char} {s w : List Char}

/-- Any characters of a line. -/
def anything : Pattern .piece := star dot

/-- A sequence with a piece behind it, and a choice with a piece behind its last branch. -/
def append : {ℓ : Level} → Pattern ℓ → Pattern .piece → Pattern ℓ
  | _, done, x => next x done
  | _, next y b, x => next y (b.append x)
  | _, last b, x => last (b.append x)
  | _, bar b p, x => bar b (p.append x)
  | _, a, _ => a

/-- A choice with a piece in front of its first branch. -/
def prepend : Pattern .choice → Pattern .piece → Pattern .choice
  | last b, x => last (next x b)
  | bar b p, x => bar (next x b) p

/-- A pattern with any characters in front of it and behind it. -/
def surrounded (p : Pattern .choice) : Pattern .choice := (p.append anything).prepend anything

/-! ### How it is written -/

theorem chars_append_branch : ∀ (b : Pattern .branch) (x : Pattern .piece),
    (b.append x).chars = b.chars ++ x.chars
  | done, x => by simp [append, chars]
  | next y b, x => by rw [append, chars, chars, chars_append_branch b, List.append_assoc]

theorem chars_append : ∀ (p : Pattern .choice) (x : Pattern .piece),
    (p.append x).chars = p.chars ++ x.chars
  | last b, x => chars_append_branch b x
  | bar b p, x => by
    rw [append, chars, chars, chars_append p, List.append_assoc, List.cons_append]

theorem chars_prepend (p : Pattern .choice) (x : Pattern .piece) :
    (p.prepend x).chars = x.chars ++ p.chars := by
  cases p with
  | last b => rfl
  | bar b p => simp [prepend, chars]

/-- The text that is bound is a pattern. -/
theorem source_surrounded (p : Pattern .choice) : p.surrounded.source = ".*" ++ p.source ++ ".*" := by
  rw [source, surrounded, chars_prepend, chars_append, String.ofList_append, String.ofList_append,
    ← String.append_assoc]
  rfl

/-! ### What it matches -/

theorem mem_language_anything : w ∈ anything.language ↔ ∀ c ∈ w, isLineBreak c = false := by
  constructor
  · rintro ⟨words, rfl, each⟩ c member
    obtain ⟨word, taken, member⟩ := List.mem_flatten.mp member
    obtain ⟨d, rfl, inside⟩ := each word taken
    exact List.mem_singleton.mp member ▸ inside
  · intro inside
    refine ⟨w.map ([·]), by rw [← List.flatMap_def, List.flatMap_singleton'], ?_⟩
    intro _ word
    obtain ⟨c, member, rfl⟩ := List.mem_map.mp word
    exact ⟨c, rfl, inside c member⟩

section

variable (unbroken : ∀ c ∈ s, isLineBreak c = false)

include unbroken

theorem mem_mul_anything : s ∈ L * anything.language ↔ ∃ u, u <+: s ∧ u ∈ L := by
  rw [Language.mem_mul]
  constructor
  · rintro ⟨u, word, v, -, rfl⟩
    exact ⟨u, List.prefix_append u v, word⟩
  · rintro ⟨u, ⟨v, rfl⟩, word⟩
    rw [List.forall_mem_append] at unbroken
    exact ⟨u, word, v, mem_language_anything.mpr unbroken.2, rfl⟩

theorem mem_anything_mul : s ∈ anything.language * L ↔ ∃ u, u <:+ s ∧ u ∈ L := by
  rw [Language.mem_mul]
  constructor
  · rintro ⟨u, -, v, word, rfl⟩
    exact ⟨v, List.suffix_append u v, word⟩
  · rintro ⟨v, ⟨u, rfl⟩, word⟩
    rw [List.forall_mem_append] at unbroken
    exact ⟨u, mem_language_anything.mpr unbroken.1, v, word, rfl⟩

theorem mem_anything_mul_anything :
    s ∈ anything.language * (L * anything.language) ↔ ∃ u, u <:+: s ∧ u ∈ L := by
  rw [mem_anything_mul unbroken]
  constructor
  · rintro ⟨v, tail, word⟩
    obtain ⟨u, head, word⟩ := (mem_mul_anything fun c member =>
      unbroken c (tail.subset member)).mp word
    exact ⟨u, List.infix_iff_prefix_suffix.mpr ⟨v, head, tail⟩, word⟩
  · rintro ⟨u, inside, word⟩
    obtain ⟨v, head, tail⟩ := List.infix_iff_prefix_suffix.mp inside
    exact ⟨v, tail, (mem_mul_anything fun c member =>
      unbroken c (tail.subset member)).mpr ⟨u, head, word⟩⟩

end

theorem branches_ne_nil : ∀ p : Pattern .choice, p.branches ≠ []
  | last b => List.cons_ne_nil b []
  | bar b p => List.cons_ne_nil b p.branches

/-- The words of a choice are those of its branches. -/
theorem mem_language_iff_branches : ∀ p : Pattern .choice,
    w ∈ p.language ↔ ∃ b ∈ p.branches, w ∈ b.language
  | last b => by simp [language, branches]
  | bar b p => by
    rw [language, Language.mem_add, mem_language_iff_branches p, branches, List.exists_mem_cons_iff]

theorem language_append_branch : ∀ (b : Pattern .branch) (x : Pattern .piece),
    (b.append x).language = b.language * x.language
  | done, x => by simp [append, language]
  | next y b, x => by rw [append, language, language, language_append_branch b, mul_assoc]

/-- What stands behind a pattern belongs to its last branch. -/
theorem mem_language_append (unbroken : ∀ c ∈ s, isLineBreak c = false) : ∀ p : Pattern .choice,
    s ∈ (p.append anything).language ↔ (∃ b ∈ p.branches.dropLast, s ∈ b.language) ∨
      ∃ b ∈ p.branches.getLast?, ∃ u, u <+: s ∧ u ∈ b.language
  | last b => by
    rw [append, language, language_append_branch, mem_mul_anything unbroken]
    simp [branches]
  | bar b p => by
    -- the first branch becomes one of those in front of the last
    rw [append, language, Language.mem_add, mem_language_append unbroken p, branches,
      List.dropLast_cons_of_ne_nil p.branches_ne_nil, List.getLast?_cons,
      List.getLast?_eq_some_getLast p.branches_ne_nil]
    simp [or_assoc]

/-- How the branches of a pattern are found in a text: a single one somewhere, the first one of
several at the end, the last one at the beginning, and the others as the whole text. -/
def Found (s : List Char) : List (Pattern .branch) → Prop
  | [] => False
  | [b] => ∃ u, u <:+: s ∧ u ∈ b.language
  | first :: others => (∃ u, u <:+ s ∧ u ∈ first.language) ∨
      (∃ b ∈ others.dropLast, s ∈ b.language) ∨
      ∃ b ∈ others.getLast?, ∃ u, u <+: s ∧ u ∈ b.language

/-- A surrounded pattern matches a text if its branches are found in it. -/
theorem mem_language_surrounded_iff (unbroken : ∀ c ∈ s, isLineBreak c = false)
    (p : Pattern .choice) : s ∈ p.surrounded.language ↔ Found s p.branches := by
  match p with
  | last b =>
    change s ∈ anything.language * (b.append anything).language ↔ _
    rw [language_append_branch, mem_anything_mul_anything unbroken]
    rfl
  | bar b p =>
    change s ∈ anything.language * b.language + (p.append anything).language ↔ _
    rw [Language.mem_add, mem_anything_mul unbroken, mem_language_append unbroken, branches]
    cases others : p.branches with
    | nil => exact absurd others p.branches_ne_nil
    | cons b' others => rfl

/-- Whatever is found is a match of the pattern. -/
theorem exists_infix_of_found {p : Pattern .choice} (found : Found s p.branches) :
    ∃ u, u <:+: s ∧ u ∈ p.language := by
  -- only the list of branches tells the cases apart, so the pattern itself is left behind
  have word {u : List Char} {b : Pattern .branch} (branch : b ∈ p.branches) (word : u ∈ b.language) :
      u ∈ p.language := p.mem_language_iff_branches.mpr ⟨b, branch, word⟩
  generalize p.branches = bs at found word
  match bs with
  | [] => exact found.elim
  | [b] =>
    obtain ⟨u, inside, matched⟩ := found
    exact ⟨u, inside, word List.mem_cons_self matched⟩
  | first :: b :: others =>
    rcases found with ⟨u, tail, matched⟩ | ⟨c, between, matched⟩ | ⟨c, final, u, head, matched⟩
    · exact ⟨u, tail.isInfix, word List.mem_cons_self matched⟩
    · exact ⟨s, List.infix_rfl, word (List.mem_cons_of_mem _ (List.mem_of_mem_dropLast between))
        matched⟩
    · exact ⟨u, head.isInfix, word (List.mem_cons_of_mem _ (List.mem_of_mem_getLast? final)) matched⟩

/-- A pattern with a single branch is found where it has a match. -/
theorem found_iff_of_single {p : Pattern .choice} (single : p.branches.length = 1) :
    Found s p.branches ↔ ∃ u, u <:+: s ∧ u ∈ p.language := by
  cases p with
  | last b => rfl
  | bar b p => exact absurd (List.length_eq_zero_iff.mp (Nat.succ.inj single)) p.branches_ne_nil

end Pattern

/-! ### Matching texts as a whole -/

open Pattern (Found)

/-- A server matches a text against a pattern as a whole. -/
def IsWholeMatch (matched : Value → Value → Truth) : Prop :=
  ∀ (s : String) (p : Pattern .choice),
    matched (.text s) (.text p.source) = .ofBool (decide (s.toList ∈ p.language))

/-- Matching as a whole, with nothing known of what is no text or no pattern. -/
def wholeMatch : Value → Value → Truth
  | .text s, .text t =>
    match Pattern.read? t with
    | some p => .ofBool (decide (s.toList ∈ p.language))
    | none => .unknown
  | _, _ => .unknown

theorem isWholeMatch_wholeMatch : IsWholeMatch wholeMatch := fun s p => by
  rw [wholeMatch, p.read?_source]

/-- The condition that tests a field by an operator with a pattern. -/
def patternCondition (field operator : String) (p : Pattern .choice) : Value :=
  .map [(.text field, .map [(.text operator, .text p.source)])]

namespace Predicate

variable {o : Options} {field operator : String} {op : Comparison} {p : Pattern .choice}

theorem ofWhere_patternCondition (strict : Bool)
    (plain : Connective.ofKey? (Text.lower field) = none)
    (known : Comparison.ofName? (Text.lower operator) = some op)
    (fits : ofOperator field operator op (.text p.source) =
      .ok (.test field op (.text p.source))) :
    ofWhere strict (patternCondition field operator p) =
      .ok (some (.test field op (.text p.source))) := by
  simp only [patternCondition, ofWhere, ofEntries, ofEntry, ofCondition, ofOperators, fits,
    Value.display_text, plain, known, List.isEmpty_nil, Bool.not_true, Bool.and_false]
  rfl

theorem ofName?_like : Comparison.ofName? (Text.lower "like") = some .like := by decide +kernel

theorem ofName?_nlike : Comparison.ofName? (Text.lower "nlike") = some .notLike := by
  decide +kernel

/-- A test against a pattern, which may be negated, is bound to the pattern between any
characters. -/
theorem compileWhere_patternCondition (plain : Connective.ofKey? (Text.lower field) = none)
    (namer : Namer) :
    let name := (namer.name field).1
    let bound : Value := .text (".*" ++ p.source ++ ".*")
    let test := o.nodeName ++ "." ++ field ++ " =~ " ++ Fragment.placeholder name
    compileWhere o (patternCondition field "like" p) namer =
      (.ok ⟨test, [(name, bound)]⟩, (namer.name field).2) ∧
    compileWhere o (patternCondition field "nlike" p) namer =
      (.ok ⟨"NOT " ++ test, [(name, bound)]⟩, (namer.name field).2) := by
  have like := ofWhere_patternCondition (p := p) o.strictOperators plain ofName?_like rfl
  have nlike := ofWhere_patternCondition (p := p) o.strictOperators plain ofName?_nlike rfl
  intro name bound test
  have written : test =
      o.nodeName ++ "." ++ field ++ " " ++ "=~" ++ " " ++ Fragment.placeholder name := by
    simp only [test, String.append_assoc]
    rfl
  rw [compileWhere, compileWhere, like, nlike, written]
  exact ⟨rfl, rfl⟩

/-- What tests a field against a pattern is bound to the pattern between any characters, with and
without the negation. Of the texts without line breaks it matches those in which the branches of the
pattern are found, and its negation holds of the others. What is found is a match of the pattern, and
a pattern with a single branch is found wherever it has a match. -/
theorem like_found {matched : Value → Value → Truth} (whole : IsWholeMatch matched) (o : Options)
    (plain : Connective.ofKey? (Text.lower field) = none) (p : Pattern .choice) (namer : Namer) :
    let name := (namer.name field).1
    let bound : Value := .text (".*" ++ p.source ++ ".*")
    let test := o.nodeName ++ "." ++ field ++ " =~ " ++ Fragment.placeholder name
    compileWhere o (patternCondition field "like" p) namer =
      (.ok ⟨test, [(name, bound)]⟩, (namer.name field).2) ∧
    compileWhere o (patternCondition field "nlike" p) namer =
      (.ok ⟨"NOT " ++ test, [(name, bound)]⟩, (namer.name field).2) ∧
    ∃ like nlike, ofWhere o.strictOperators (patternCondition field "like" p) = .ok (some like) ∧
      ofWhere o.strictOperators (patternCondition field "nlike" p) = .ok (some nlike) ∧
      ∀ s : String, (∀ c ∈ s.toList, isLineBreak c = false) →
        (matched (.text s) bound = .yes ↔ Found s.toList p.branches) ∧
        (Found s.toList p.branches → ∃ u, u <:+: s.toList ∧ u ∈ p.language) ∧
        (p.branches.length = 1 →
          (Found s.toList p.branches ↔ ∃ u, u <:+: s.toList ∧ u ∈ p.language)) ∧
        ∀ equal less atMost record, record field = .text s →
          let l := Logic.usual equal less atMost matched
          like.truth l record = matched (.text s) bound ∧
          (nlike.truth l record = .yes ↔ ¬ Found s.toList p.branches) := by
  intro name bound test
  obtain ⟨compiled, compiled'⟩ := compileWhere_patternCondition plain namer
  refine ⟨compiled, compiled', _, _,
    ofWhere_patternCondition o.strictOperators plain ofName?_like rfl,
    ofWhere_patternCondition o.strictOperators plain ofName?_nlike rfl, fun s unbroken => ?_⟩
  -- the bound text is itself a pattern, and the server is asked about that
  have decided : matched (.text s) bound =
      .ofBool (decide (s.toList ∈ p.surrounded.language)) := by
    rw [← whole s p.surrounded, p.source_surrounded]
  have found := p.mem_language_surrounded_iff unbroken
  have yes : matched (.text s) bound = .yes ↔ Found s.toList p.branches := by
    rw [decided, ← found]
    by_cases word : s.toList ∈ p.surrounded.language <;> simp [Truth.ofBool, word]
  refine ⟨yes, Pattern.exists_infix_of_found, Pattern.found_iff_of_single,
    fun equal less atMost record value => ?_⟩
  intro l
  simp only [truth, value]
  refine ⟨rfl, ?_⟩
  change (matched (.text s) bound).negate = .yes ↔ _
  rw [decided, ← found]
  by_cases word : s.toList ∈ p.surrounded.language <;> simp [Truth.ofBool, Truth.negate, word]

/-- A choice in parentheses is found wherever one of its branches is. -/
theorem like_found_group :
    let letter (c : Char) (ordinary : isMeta c = false) : Pattern .branch :=
      .next (.once (.plain c ordinary)) .done
    let choice : Pattern .choice := .bar (letter 'a' rfl) (.last (letter 'b' rfl))
    let p : Pattern .choice := .last (.next (.once (.group choice)) .done)
    p.source = "(a|b)" ∧ IsWholeMatch wholeMatch ∧
      (compileWhere {} (patternCondition "f" "nlike" p) (Namer.start .counting)).1 =
        .ok ⟨"NOT n.f =~ $f00000001000000010000000100000001",
          [("f00000001000000010000000100000001", .text ".*(a|b).*")]⟩ ∧
      wholeMatch (.text "xbx") (.text ".*(a|b).*") = .yes := by
  intro letter choice p
  have plain : Connective.ofKey? (Text.lower "f") = none := by decide +kernel
  obtain ⟨-, compiled, _, _, -, -, holds⟩ :=
    like_found isWholeMatch_wholeMatch {} plain p (Namer.start .counting)
  have unbroken : ∀ c ∈ "xbx".toList, isLineBreak c = false := by simp [isLineBreak]
  obtain ⟨yes, -, single, -⟩ := holds "xbx" unbroken
  have inside : ['b'] <:+: "xbx".toList := by decide
  refine ⟨rfl, isWholeMatch_wholeMatch, ?_, ?_⟩
  · rw [compiled]
    with_unfolding_all rfl
  · exact yes.mpr ((single rfl).mpr ⟨['b'], inside, by decide⟩)

/-- Without the parentheses, what is in front of the bar has to end a text and what is behind it has
to begin one. So a text that holds a match of the pattern need not be matched. -/
theorem not_matched_of_infix :
    let letter (c : Char) (ordinary : isMeta c = false) : Pattern .branch :=
      .next (.once (.plain c ordinary)) .done
    let p : Pattern .choice := .bar (letter 'a' rfl) (.last (letter 'b' rfl))
    IsWholeMatch wholeMatch ∧
      (compileWhere {} (patternCondition "f" "like" p) (Namer.start .counting)).1 =
        .ok ⟨"n.f =~ $f00000001000000010000000100000001",
          [("f00000001000000010000000100000001", .text ".*a|b.*")]⟩ ∧
      (∀ c ∈ "xbx".toList, isLineBreak c = false) ∧ (∃ u, u <:+: "xbx".toList ∧ u ∈ p.language) ∧
      wholeMatch (.text "xbx") (.text ".*a|b.*") = .no := by
  intro letter p
  have plain : Connective.ofKey? (Text.lower "f") = none := by decide +kernel
  have unbroken : ∀ c ∈ "xbx".toList, isLineBreak c = false := by simp [isLineBreak]
  have inside : ['b'] <:+: "xbx".toList := by decide
  refine ⟨isWholeMatch_wholeMatch, ?_, unbroken, ⟨['b'], inside, by decide⟩, by decide +kernel⟩
  rw [(compileWhere_patternCondition plain (Namer.start .counting)).1]
  with_unfolding_all rfl

end Predicate

end GraphMapper.Query
