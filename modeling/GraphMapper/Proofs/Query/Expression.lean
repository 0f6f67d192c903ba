import GraphMapper.Proofs.Query.Template

/-!
# Boolean expressions

The condition of a statement as a tree: tests of a property, expressions in parentheses, negations,
and chains of expressions joined by one word. The tree has a leaf `σ` wherever a value is needed,
which is a slot while the statement is being made and the name of a parameter when it is read back.

## Main definitions

* `Query.Expression` — boolean expressions with places for values
* `Query.Expression.template` — how an expression is written
* `Query.Expression.group` — the expression of a group of conditions
* `Query.Expression.Fits` — no part binds as loosely as what it is a part of
* `Query.Expression.Over` — every property that an expression tests is admitted

## Main results

* `Expression.text_group`, `Expression.slots_group` — a group is written as its parts are, each in
  parentheses, and has their slots
-/

namespace GraphMapper.Query

variable {σ τ : Type}

/-- The words that join boolean expressions. -/
inductive Junction where
  /-- All of them. -/
  | and
  /-- One of them. -/
  | or
  /-- An odd number of them. -/
  | xor
  deriving DecidableEq, Repr

/-- The word as it is written. -/
def Junction.word : Junction → String
  | .and => "AND"
  | .or => "OR"
  | .xor => "XOR"

/-- How loosely a word binds. -/
def Junction.level : Junction → Nat
  | .and => 2
  | .xor => 3
  | .or => 4

theorem Junction.level_pos (op : Junction) : 0 < op.level := by cases op <;> decide

/-- The word that joins the parts of a group. -/
def Connective.junction : Connective → Junction
  | .and | .not => .and
  | .or => .or
  | .xor => .xor

/-- The comparisons of a property with one value. -/
inductive Relation where
  /-- Equal to the value. -/
  | equal
  /-- Greater than the value. -/
  | greater
  /-- At least the value. -/
  | atLeast
  /-- Less than the value. -/
  | less
  /-- At most the value. -/
  | atMost
  /-- Matched by the pattern that is the value. -/
  | matching
  deriving DecidableEq, Repr

/-- The symbol of a comparison. -/
def Relation.symbol : Relation → String
  | .equal => "="
  | .greater => ">"
  | .atLeast => ">="
  | .less => "<"
  | .atMost => "<="
  | .matching => "=~"

/-- What a property is tested for. -/
inductive Test (σ : Type) where
  /-- It has no value. -/
  | isNull
  /-- It has a value. -/
  | isNotNull
  /-- It compares with a value. -/
  | relation (r : Relation) (place : σ)
  /-- It is one of the values. -/
  | isIn (places : List σ)

namespace Test

/-- The test with other leaves. -/
def map (f : σ → τ) : Test σ → Test τ
  | .isNull => .isNull
  | .isNotNull => .isNotNull
  | .relation r place => .relation r (f place)
  | .isIn places => .isIn (places.map f)

/-- How a test is written behind the property. -/
def template : Test Slot → Template
  | .isNull => [.words " IS NULL"]
  | .isNotNull => [.words " IS NOT NULL"]
  | .relation r s => [.words (" " ++ r.symbol ++ " "), .slot s]
  | .isIn ss => .words " IN [" :: (Template.joined ", " (ss.map ([.slot ·])) ++ [.words "]"])

theorem slots_template_isIn (ss : List Slot) : (isIn ss).template.slots = ss := by
  simp [template, Template.slots_joined, List.flatMap_map]

/-- A test shows each of its values once. -/
theorem places_template (t : Test Slot) : t.template.places = t.template.slots := by
  cases t with
  | isNull | isNotNull | relation => rfl
  | isIn ss => simp [template, Template.places_joined, Template.slots_joined, List.flatMap_map]

end Test

/-- A boolean expression. -/
inductive Expression (σ : Type) where
  /-- A test of a property of the node that a name stands for. -/
  | test (node key : String) (t : Test σ)
  /-- An expression in parentheses. -/
  | paren (e : Expression σ)
  /-- The negation of an expression. -/
  | negation (e : Expression σ)
  /-- Expressions joined by one word. -/
  | chain (op : Junction) (operands : List (Expression σ))

namespace Expression

/-- To prove a property of every expression, prove it of a chain whose operands have it. -/
@[induction_eliminator]
theorem inductionOn {motive : Expression σ → Prop}
    (test : ∀ node key t, motive (.test node key t))
    (paren : ∀ e, motive e → motive (.paren e))
    (negation : ∀ e, motive e → motive (.negation e))
    (chain : ∀ op es, (∀ e ∈ es, motive e) → motive (.chain op es)) (e : Expression σ) :
    motive e :=
  @Expression.rec σ motive (fun es => ∀ e ∈ es, motive e) test paren negation chain
    (fun _ member => absurd member List.not_mem_nil)
    (fun _ _ head tail _ member => (List.mem_cons.1 member).elim (fun same => same ▸ head) (tail _))
    e

mutual

/-- The expression with other leaves. -/
def map (f : σ → τ) : Expression σ → Expression τ
  | .test node key t => .test node key (t.map f)
  | .paren e => .paren (e.map f)
  | .negation e => .negation (e.map f)
  | .chain op es => .chain op (mapAll f es)

/-- The expressions with other leaves. -/
def mapAll (f : σ → τ) : List (Expression σ) → List (Expression τ)
  | [] => []
  | e :: es => e.map f :: mapAll f es

end

@[simp] theorem mapAll_eq_map (f : σ → τ) (es : List (Expression σ)) :
    mapAll f es = es.map (map f) := by
  induction es with
  | nil => rfl
  | cons e es ih => simp [mapAll, ih]

mutual

/-- How an expression is written. -/
def template : Expression Slot → Template
  | .test node key t => .words (node ++ "." ++ key) :: t.template
  | .paren e => .words "(" :: (e.template ++ [.words ")"])
  | .negation e => .words "NOT " :: e.template
  | .chain op es => Template.joined (" " ++ op.word ++ " ") (templates es)

/-- How each of some expressions is written. -/
def templates : List (Expression Slot) → List Template
  | [] => []
  | e :: es => e.template :: templates es

end

@[simp] theorem templates_eq_map (es : List (Expression Slot)) :
    templates es = es.map template := by
  induction es with
  | nil => rfl
  | cons e es ih => simp [templates, ih]

/-! ### Groups -/

/-- Expressions joined by a word, which is not needed for a single one. -/
def joined (op : Junction) : List (Expression σ) → Expression σ
  | [e] => e
  | es => .chain op es

/-- The expression of a group of conditions. -/
def group (op : Connective) (es : List (Expression σ)) : Expression σ :=
  let inner := .paren (joined op.junction (es.map .paren))
  if op = .not then .negation inner else inner

theorem joined_of_two_le {op : Junction} {es : List (Expression σ)} (several : 2 ≤ es.length) :
    joined op es = .chain op es := by
  unfold joined
  split
  · simp at several
  · rfl

theorem template_joined (op : Junction) (es : List (Expression Slot)) :
    (joined op es).template =
      Template.joined (" " ++ op.word ++ " ") (es.map template) := by
  match es with
  | [] => simp [joined, template]
  | [e] => simp [joined]
  | e :: e' :: es => simp [joined, template]

/-- What goes into parentheses, negations and chains goes into groups. -/
theorem apply_group (g : Expression σ → Expression τ) (paren : ∀ e, g (.paren e) = .paren (g e))
    (negation : ∀ e, g (.negation e) = .negation (g e))
    (chain : ∀ op es, g (.chain op es) = .chain op (es.map g)) (op : Connective)
    (es : List (Expression σ)) : g (group op es) = group op (es.map g) := by
  have inside (op : Junction) (es : List (Expression σ)) :
      g (joined op es) = joined op (es.map g) := by
    match es with
    | [] => exact chain op []
    | [e] => rfl
    | e :: e' :: es => exact chain op (e :: e' :: es)
  have parts : (es.map .paren).map g = (es.map g).map .paren := by
    rw [List.map_map, List.map_map]
    exact List.map_congr_left fun e _ => paren e
  simp only [group]
  split <;> simp only [negation, paren, inside, parts]

theorem map_group (f : σ → τ) (op : Connective) (es : List (Expression σ)) :
    (group op es).map f = group op (es.map (map f)) :=
  apply_group (map f) (fun _ => rfl) (fun _ => rfl)
    (fun op es => by rw [map, mapAll_eq_map]) op es

/-- A group is written as its parts are, each in parentheses. -/
theorem text_group (op : Connective) (es : List (Expression Slot)) :
    (group op es).template.text =
      Fragment.joinText op (es.map fun e => "(" ++ e.template.text ++ ")") := by
  have joinedText : (joined op.junction (es.map .paren)).template.text =
      (Fragment.keyword op).intercalate (es.map fun e => "(" ++ e.template.text ++ ")") := by
    rw [template_joined, Template.text_joined]
    cases op <;>
      simp [Fragment.keyword, Connective.junction, Junction.word, Function.comp_def, template,
        String.append_assoc]
  simp only [group, Fragment.joinText]
  split <;> simp [template, joinedText, String.append_assoc]

/-- A group has the slots of its parts. -/
theorem slots_group (op : Connective) (es : List (Expression Slot)) :
    (group op es).template.slots = es.flatMap fun e => e.template.slots := by
  have joinedSlots : (joined op.junction (es.map .paren)).template.slots =
      es.flatMap fun e => e.template.slots := by
    rw [template_joined, Template.slots_joined]
    simp [List.flatMap_map, template]
  simp only [group]
  split <;> simp [template, joinedSlots]

/-! ### Precedence -/

/-- How loosely an expression binds. -/
def level : Expression σ → Nat
  | .test _ _ _ | .paren _ => 0
  | .negation _ => 1
  | .chain op _ => op.level

/-- No part of the expression binds as loosely as what it is a part of, so that the expression can
be read without more parentheses. -/
inductive Fits : Expression σ → Prop
  | test (node key : String) (t : Test σ) : Fits (.test node key t)
  | paren {e : Expression σ} : Fits e → Fits (.paren e)
  | negation {e : Expression σ} : Fits e → e.level ≤ 1 → Fits (.negation e)
  | chain {op : Junction} {es : List (Expression σ)} : 2 ≤ es.length → (∀ e ∈ es, Fits e) →
      (∀ e ∈ es, e.level < op.level) → Fits (.chain op es)

theorem Fits.joined {op : Junction} {es : List (Expression σ)} (nonempty : es ≠ [])
    (fit : ∀ e ∈ es, Fits e) (tight : ∀ e ∈ es, e.level < op.level) :
    Fits (joined op es) := by
  match es with
  | [] => exact absurd rfl nonempty
  | [e] => exact fit e List.mem_cons_self
  | e :: e' :: es => exact .chain (by simp) fit tight

theorem Fits.group {op : Connective} {es : List (Expression σ)} (nonempty : es ≠ [])
    (fit : ∀ e ∈ es, Fits e) : Fits (group op es) := by
  have inner : Fits (.paren (Expression.joined op.junction (es.map .paren))) := by
    refine .paren (.joined (by simpa using nonempty) ?_ ?_)
    · simpa using fun e member => Fits.paren (fit e member)
    · simp [level, op.junction.level_pos]
  simp only [Expression.group]
  split
  · exact .negation inner (by simp [level])
  · exact inner

@[simp] theorem level_map (f : σ → τ) (e : Expression σ) : (e.map f).level = e.level := by
  cases e <;> rfl

theorem Fits.map (f : σ → τ) {e : Expression σ} (fits : e.Fits) : (e.map f).Fits := by
  induction fits with
  | test node key t => exact .test node key (t.map f)
  | paren _ ih => exact .paren ih
  | negation _ inner ih => exact .negation ih (by simpa using inner)
  | chain several _ inner ih =>
    rw [Expression.map, mapAll_eq_map]
    exact .chain (by simpa using several) (by simpa using ih) (by simpa using inner)

/-- An expression is never written as nothing. -/
theorem Fits.text_ne_empty {e : Expression Slot} (fits : Fits e) : e.template.text ≠ "" := by
  induction e with
  | test node key t => simp [template]
  | paren e _ => simp [template]
  | negation e _ => simp [template]
  | chain op es ih =>
    cases fits with
    | chain several fit _ =>
      match es with
      | e :: e' :: es =>
        have first := ih e List.mem_cons_self (fit e List.mem_cons_self)
        simp [template, Template.joined_cons_cons, first]

/-! ### Properties -/

/-- Every property that the expression tests is one of those admitted. -/
inductive Over (admitted : String → String → Prop) : Expression σ → Prop
  | test {node key : String} (t : Test σ) : admitted node key → Over admitted (.test node key t)
  | paren {e : Expression σ} : Over admitted e → Over admitted (.paren e)
  | negation {e : Expression σ} : Over admitted e → Over admitted (.negation e)
  | chain {op : Junction} {es : List (Expression σ)} : (∀ e ∈ es, Over admitted e) →
      Over admitted (.chain op es)

namespace Over

variable {admitted known : String → String → Prop}

theorem imp (implied : ∀ node key, admitted node key → known node key) {e : Expression σ}
    (tested : e.Over admitted) : e.Over known := by
  induction tested with
  | test t member => exact .test t (implied _ _ member)
  | paren _ ih => exact .paren ih
  | negation _ ih => exact .negation ih
  | chain _ ih => exact .chain ih

theorem group {op : Connective} {es : List (Expression σ)} (tested : ∀ e ∈ es, e.Over admitted) :
    (group op es).Over admitted := by
  have inner : (Expression.joined op.junction (es.map .paren)).Over admitted := by
    match es with
    | [] => exact .chain (by simp)
    | [e] => exact .paren (tested e List.mem_cons_self)
    | e :: e' :: es =>
      refine .chain fun part member => ?_
      rw [← List.map_cons, List.mem_map] at member
      obtain ⟨e, member, rfl⟩ := member
      exact .paren (tested e member)
  simp only [Expression.group]
  split
  · exact .negation (.paren inner)
  · exact .paren inner

end Over

end Expression

end GraphMapper.Query
