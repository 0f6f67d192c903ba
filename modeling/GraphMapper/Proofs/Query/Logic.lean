import GraphMapper.Proofs.Query.Drawing

/-!
# What conditions mean

A condition has one of three truth values for a node: it holds, it does not, or nothing is known,
because some field has no value. The connectives and the comparisons of values are left open. The
boolean expression that is read back from a statement and the predicate that the statement was made
from are given their truth values independently of each other.

## Main definitions

* `Query.Logic` — connectives and comparisons with three truth values
* `Query.Expression.truth` — the truth value of an expression, if all its values are known
* `Query.Predicate.truth` — the truth value of a predicate
* `Query.Predicate.prune?` — a predicate without what cannot be stated

## Main results

* `Expression.truth_map`, `Expression.truth_congr` — the truth value of an expression depends on the
  values at its places only
* `Expression.truth_group` — the truth value of a group
-/

namespace GraphMapper.Query

/-! ### Truth values -/

/-- The three truth values. -/
inductive Truth where
  /-- It does not hold. -/
  | no
  /-- Nothing is known. -/
  | unknown
  /-- It holds. -/
  | yes
  deriving DecidableEq, Repr

/-- What is known for certain. -/
def Truth.ofBool (b : Bool) : Truth := if b then .yes else .no

/-- A logic with three truth values. -/
structure Logic where
  /-- The negation. -/
  negate : Truth → Truth
  /-- The words that join conditions. -/
  join : Junction → Truth → Truth → Truth
  /-- Two values are equal. -/
  equal : Value → Value → Truth
  /-- The first value is less than the second one. -/
  less : Value → Value → Truth
  /-- The first value is at most the second one. -/
  atMost : Value → Value → Truth
  /-- The first value is matched by the pattern that the second one is. -/
  matched : Value → Value → Truth

/-- The negation that leaves open what is open. -/
def Truth.negate : Truth → Truth
  | .no => .yes
  | .unknown => .unknown
  | .yes => .no

/-- The words that join conditions, where an open condition may still hold or not. -/
def Junction.decided : Junction → Truth → Truth → Truth
  | .and, .no, _ | .and, _, .no => .no
  | .and, .yes, t => t
  | .and, .unknown, _ => .unknown
  | .or, .yes, _ | .or, _, .yes => .yes
  | .or, .no, t => t
  | .or, .unknown, _ => .unknown
  | .xor, .no, t => t
  | .xor, .yes, t => t.negate
  | .xor, .unknown, _ => .unknown

namespace Logic

variable (l : Logic)

/-- The usual connectives, with the given comparisons. -/
def usual (equal less atMost matched : Value → Value → Truth) : Logic :=
  ⟨Truth.negate, Junction.decided, equal, less, atMost, matched⟩

/-- The truth value of conditions that are joined one after the other, from the first to the
last. -/
def joinAll (op : Junction) : List Truth → Truth
  | [] => .unknown
  | t :: ts => ts.foldl (l.join op) t

/-- The truth value of a comparison. -/
def compare (r : Relation) (v w : Value) : Truth :=
  match r with
  | .equal => l.equal v w
  | .greater => l.less w v
  | .atLeast => l.atMost w v
  | .less => l.less v w
  | .atMost => l.atMost v w
  | .matching => l.matched v w

/-- The truth value of a value being one of some others. -/
def isIn (v : Value) (items : List Value) : Truth :=
  items.foldl (fun t w => l.join .or t (l.equal v w)) .no

/-- The truth value of a condition or of its negation. -/
def negateIf (negate : Bool) (t : Truth) : Truth := if negate then l.negate t else t

end Logic

/-! ### Expressions -/

section

variable {σ τ : Type} (l : Logic) (record : String → String → Value) (lookup : σ → Option Value)

/-- The truth value of a test of a value. -/
def Test.truth (v : Value) : Test σ → Option Truth
  | .isNull => some (.ofBool v.isNull)
  | .isNotNull => some (.ofBool !v.isNull)
  | .relation r place => (lookup place).map (l.compare r v)
  | .isIn places => (places.mapM lookup).map (l.isIn v)

namespace Expression

mutual

/-- The truth value of an expression for the record that gives each property its value, if the
values at all places are found. -/
def truth : Expression σ → Option Truth
  | .test node key t => t.truth l lookup (record node key)
  | .paren e => e.truth
  | .negation e => e.truth.map l.negate
  | .chain op es => (truths es).map (l.joinAll op)

/-- The truth values of some expressions. -/
def truths : List (Expression σ) → Option (List Truth)
  | [] => some []
  | e :: es => e.truth.bind fun t => (truths es).map (t :: ·)

end

@[simp] theorem truths_eq_mapM (es : List (Expression σ)) :
    truths l record lookup es = es.mapM (truth l record lookup) := by
  induction es with
  | nil => rfl
  | cons e es ih =>
    rw [truths, ih, List.mapM_cons]
    cases e.truth l record lookup with
    | none => rfl
    | some t => cases es.mapM (truth l record lookup) <;> rfl

end Expression

end

/-- Functions that agree on a list run through it alike. -/
theorem mapM_congr {α β : Type} {f g : α → Option β} {as : List α} (same : ∀ a ∈ as, f a = g a) :
    as.mapM f = as.mapM g := by
  induction as with
  | nil => rfl
  | cons a as ih =>
    rw [List.forall_mem_cons] at same
    rw [List.mapM_cons, List.mapM_cons, same.1, ih same.2]

section

variable {σ τ : Type} {l : Logic} {record : String → String → Value}

theorem Test.truth_map (f : σ → τ) (lookup : τ → Option Value) (v : Value) (t : Test σ) :
    (t.map f).truth l lookup v = t.truth l (lookup ∘ f) v := by
  cases t with
  | isNull | isNotNull | relation => rfl
  | isIn places => simp [map, truth, List.mapM_map]

theorem Test.truth_congr {f g : Slot → Option Value} {t : Test Slot}
    (same : ∀ s ∈ t.template.slots, f s = g s) (v : Value) : t.truth l f v = t.truth l g v := by
  cases t with
  | isNull | isNotNull => rfl
  | relation r s => rw [truth, truth, same s List.mem_cons_self]
  | isIn ss =>
    rw [slots_template_isIn] at same
    rw [truth, truth, mapM_congr same]

namespace Expression

/-- Looking up other leaves is looking up the leaves they were made from. -/
theorem truth_map (f : σ → τ) (lookup : τ → Option Value) (e : Expression σ) :
    (e.map f).truth l record lookup = e.truth l record (lookup ∘ f) := by
  induction e with
  | test node key t => exact t.truth_map f lookup (record node key)
  | paren e ih => exact ih
  | negation e ih => simp only [map, truth, ih]
  | chain op es ih =>
    rw [map, mapAll_eq_map, truth, truth, truths_eq_mapM, truths_eq_mapM, List.mapM_map]
    exact congrArg _ (mapM_congr ih)

/-- Only the values at the places of an expression matter. -/
theorem truth_congr {f g : Slot → Option Value} {e : Expression Slot}
    (same : ∀ s ∈ e.template.slots, f s = g s) :
    e.truth l record f = e.truth l record g := by
  induction e with
  | test node key t => exact Test.truth_congr same (record node key)
  | paren e ih => exact ih (by simpa [template] using same)
  | negation e ih =>
    rw [truth, truth, ih (by simpa [template] using same)]
  | chain op es ih =>
    rw [template, templates_eq_map, Template.slots_joined, List.flatMap_map] at same
    have each (e : Expression Slot) (member : e ∈ es) :=
      ih e member fun s slot => same s (List.mem_flatMap.2 ⟨e, member, slot⟩)
    rw [truth, truth, truths_eq_mapM, truths_eq_mapM, mapM_congr each]

/-- The truth value of a group comes from those of its parts. -/
theorem truth_group {lookup : σ → Option Value} (op : Connective) {es : List (Expression σ)}
    {ts : List Truth} (nonempty : es ≠ []) (known : es.mapM (truth l record lookup) = some ts) :
    (group op es).truth l record lookup =
      some (l.negateIf (op == .not) (l.joinAll op.junction ts)) := by
  have inner : (joined op.junction (es.map .paren)).truth l record lookup =
      some (l.joinAll op.junction ts) := by
    match es with
    | [] => exact absurd rfl nonempty
    | [e] =>
      -- a single part stands without a word, and its truth value is that of the whole
      cases single : e.truth l record lookup with
      | none => simp [single] at known
      | some t =>
        obtain rfl : [t] = ts := by simpa [single] using known
        exact single
    | e :: e' :: rest =>
      have parts : ((e :: e' :: rest).map paren).mapM (truth l record lookup) = some ts := by
        rw [List.mapM_map]
        exact known
      simp only [List.map_cons] at parts
      simp only [joined, List.map_cons, truth, truths_eq_mapM, parts, Option.map_some]
  simp only [group]
  split
  · next negated =>
    rw [truth, truth, inner, Option.map_some]
    simp [negated, Logic.negateIf]
  · next plain =>
    rw [truth, inner]
    simp [plain, Logic.negateIf]

end Expression

end

/-! ### Predicates -/

/-- The truth value of a comparison with an operand. -/
def Comparison.truth (l : Logic) (v operand : Value) : Comparison → Truth
  | .eq => if operand.isNull then .ofBool v.isNull else l.equal v operand
  | .neq => if operand.isNull then .ofBool !v.isNull else l.negate (l.equal v operand)
  | .gt => l.less operand v
  | .gte => l.atMost operand v
  | .lt => l.less v operand
  | .lte => l.atMost v operand
  | .between =>
    match operand.items with
    | .ok [low, high] => l.join .and (l.less low v) (l.less v high)
    | _ => .unknown
  | .isIn =>
    match operand.items with
    | .ok items => l.isIn v items
    | .error _ => .unknown
  | .notIn =>
    match operand.items with
    | .ok items => l.negate (l.isIn v items)
    | .error _ => .unknown
  | .like => l.matched v (.text (".*" ++ operand.display ++ ".*"))
  | .notLike => l.negate (l.matched v (.text (".*" ++ operand.display ++ ".*")))
  | .isNull => .ofBool v.isNull

namespace Predicate

mutual

/-- The truth value of a predicate for the record that gives each field its value. Nothing is known
about tests that cannot be stated. -/
def truth (l : Logic) (record : String → Value) : Predicate → Truth
  | .group op children =>
    l.negateIf (op == .not) (l.joinAll op.junction (truths l record children))
  | .test field op operand => op.truth l (record field) operand
  | .unsupported _ _ _ | .foreign _ => .unknown

/-- The truth values of some predicates. -/
def truths (l : Logic) (record : String → Value) : List Predicate → List Truth
  | [] => []
  | p :: ps => p.truth l record :: truths l record ps

end

mutual

/-- The predicate without tests that cannot be stated and without groups of which nothing is
left. -/
def prune? : Predicate → Option Predicate
  | .group op children => groupOf op (pruneAll children)
  | .test field op operand => some (.test field op operand)
  | .unsupported _ _ _ | .foreign _ => none

/-- What is left of some predicates. -/
def pruneAll : List Predicate → List Predicate
  | [] => []
  | p :: ps => p.prune?.toList ++ pruneAll ps

end

@[simp] theorem truths_eq_map (l : Logic) (record : String → Value) (ps : List Predicate) :
    truths l record ps = ps.map (truth l record) := by
  induction ps with
  | nil => rfl
  | cons p ps ih => rw [truths, ih, List.map_cons]

end Predicate

end GraphMapper.Query
