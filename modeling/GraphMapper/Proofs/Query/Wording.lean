import GraphMapper.Proofs.Query.Template
import Mathlib.Data.List.ReduceOption

/-!
# Wordings

A text in which the name of the node occurs is a wording: words, and places for the name between
them. Where a character is in none of the words, giving the node this character for its name and
then replacing the character by a text is the same as giving the node the text for its name.

## Main definitions

* `Query.Wording` — words and places for the name of the node
* `Query.renamed` — a text with another one in the place of a character
* `Query.keywords` — the words and signs of every statement
* `Query.SpelledWith` — texts that have one wording, whatever the name of the node is
* `Query.Template.SpelledWith` — templates with the same slots and one wording

## Main results

* `Wording.renamed_text` — replacing a character that is in none of the words
* `SpelledWith.append`, `Template.SpelledWith.append` — what is put together from texts that have
  one wording each has one wording
-/

namespace GraphMapper.Query

/-! ### Replacing a character -/

/-- The text with another one in the place of every occurrence of a character. -/
def renamed (a : Char) (b s : String) : String :=
  String.ofList (s.toList.flatMap fun c => if c = a then b.toList else [c])

@[simp] theorem renamed_append (a : Char) (b s t : String) :
    renamed a b (s ++ t) = renamed a b s ++ renamed a b t := by
  simp [renamed]

@[simp] theorem renamed_singleton (a : Char) (b : String) :
    renamed a b (String.singleton a) = b := by
  simp [renamed]

theorem renamed_of_notMem {a : Char} {s : String} (absent : a ∉ s.toList) (b : String) :
    renamed a b s = s := by
  have kept : (s.toList.flatMap fun c => if c = a then b.toList else [c]) =
      s.toList.flatMap fun c => [c] := by
    refine List.flatMap_congr fun c member => if_neg ?_
    rintro rfl
    exact absent member
  rw [renamed, kept, List.flatMap_singleton', String.ofList_toList]

/-! ### Texts -/

/-- Words, and places for the name of the node, which are the ones without a word. -/
abbrev Wording := List (Option String)

namespace Wording

/-- The text with a name in the places for it. -/
def text (x : String) (wording : Wording) : String := String.join (wording.map (·.getD x))

/-- The words. -/
def words (wording : Wording) : List String := wording.reduceOption

@[simp] theorem text_nil (x : String) : text x [] = "" := rfl

@[simp] theorem text_none (x : String) (wording : Wording) :
    text x (none :: wording) = x ++ text x wording := by
  simp [text]

@[simp] theorem text_some (x w : String) (wording : Wording) :
    text x (some w :: wording) = w ++ text x wording := by
  simp [text]

@[simp] theorem text_append (x : String) (wording more : Wording) :
    text x (wording ++ more) = text x wording ++ text x more := by
  simp [text]

@[simp] theorem words_none (wording : Wording) : words (none :: wording) = words wording := rfl

@[simp] theorem words_some (w : String) (wording : Wording) :
    words (some w :: wording) = w :: words wording := rfl

@[simp] theorem words_append (wording more : Wording) :
    words (wording ++ more) = words wording ++ words more :=
  List.reduceOption_append wording more

/-- Where no word has a character, replacing the character is giving the node another name. -/
theorem renamed_text {wording : Wording} {a : Char} (absent : ∀ w ∈ wording.words, a ∉ w.toList)
    (b : String) : renamed a b (wording.text (String.singleton a)) = wording.text b := by
  induction wording with
  | nil => rfl
  | cons part rest ih =>
    cases part with
    | none => rw [text_none, renamed_append, renamed_singleton, ih absent, text_none]
    | some w =>
      rw [words_some, List.forall_mem_cons] at absent
      rw [text_some, renamed_append, renamed_of_notMem absent.1, ih absent.2, text_some]

end Wording

/-- The words and signs that stand in statements whatever the model and the fields are called. -/
def keywords : List String :=
  ["MATCH ", "MATCH (", "CREATE (", "MERGE ", " WHERE ", " SET ", " ON CREATE SET ",
    " ON MATCH SET ", " DETACH DELETE ", " RETURN ", ") RETURN ", " RETURN COUNT(", ") AS count",
    ") > 0 AS exists", " AS ", " ORDER BY ", " DESC", " SKIP ", " LIMIT ", "NOT ", " AND ", " OR ",
    " XOR ", " IS NULL", " IS NOT NULL", " IN [", "]", " = ", " > ", " >= ", " < ", " <= ", " =~ ",
    " += ", "=", "+=", "(", ")", " \x7b", "\x7d)", ":", ": ", ".", ", ", " ", "$"]

variable {names names' : List String} {f g : String → String} {w : String}

/-- The texts have one wording, whatever the name of the node is: its words are keywords and the
given names. -/
def SpelledWith (names : List String) (f : String → String) : Prop :=
  ∃ wording : Wording, (∀ w ∈ wording.words, w ∈ keywords ∨ w ∈ names) ∧ ∀ x, f x = wording.text x

namespace SpelledWith

theorem mono (more : names ⊆ names') (spelled : SpelledWith names f) : SpelledWith names' f := by
  obtain ⟨wording, words, same⟩ := spelled
  exact ⟨wording, fun w member => (words w member).imp_right (more ·), same⟩

/-- The name of the node itself. -/
theorem node : SpelledWith names fun x => x :=
  ⟨[none], by simp [Wording.words], by simp⟩

theorem keyword (listed : w ∈ keywords) : SpelledWith names fun _ => w :=
  ⟨[some w], by simp [Wording.words, listed], by simp⟩

theorem name (member : w ∈ names) : SpelledWith names fun _ => w :=
  ⟨[some w], by simp [Wording.words, member], by simp⟩

theorem empty : SpelledWith names fun _ => "" :=
  ⟨[], by simp [Wording.words], by simp⟩

theorem append (first : SpelledWith names f) (later : SpelledWith names g) :
    SpelledWith names fun x => f x ++ g x := by
  obtain ⟨wording, words, same⟩ := first
  obtain ⟨more, words', same'⟩ := later
  refine ⟨wording ++ more, ?_, fun x => ?_⟩
  · rw [Wording.words_append]
    exact List.forall_mem_append.2 ⟨words, words'⟩
  · simp only [Wording.text_append, same, same']

/-- The name of the node behind a keyword. -/
theorem behind (listed : w ∈ keywords) : SpelledWith names fun x => w ++ x :=
  (keyword listed).append node

/-- The name of the node between two keywords. -/
theorem between {w' : String} (listed : w ∈ keywords) (listed' : w' ∈ keywords) :
    SpelledWith names fun x => w ++ x ++ w' :=
  (behind listed).append (keyword listed')

/-- A property of the node. -/
theorem property (member : w ∈ names) : SpelledWith names fun x => x ++ "." ++ w :=
  (node.append (keyword (by decide))).append (name member)

/-- What is written for a parameter. -/
theorem placeholder (member : w ∈ names) : SpelledWith names fun _ => Fragment.placeholder w :=
  (keyword (by decide)).append (name member)

theorem intercalate {α : Type} {items : List α} {g : α → String → String} (listed : w ∈ keywords)
    (each : ∀ i ∈ items, SpelledWith names (g i)) :
    SpelledWith names fun x => w.intercalate (items.map fun i => g i x) := by
  induction items with
  | nil => exact empty
  | cons i rest ih =>
    rw [List.forall_mem_cons] at each
    cases rest with
    | nil => simpa using each.1
    | cons j rest =>
      simp only [List.map_cons, String.intercalate_cons_cons]
      exact (each.1.append (keyword listed)).append (ih each.2)

end SpelledWith

/-! ### Templates -/

namespace Template

/-- The templates have the same slots and one wording, whatever the name of the node is: its words
are keywords, the given names and the names of the parameters. -/
structure SpelledWith (names : List String) (t : String → Template) : Prop where
  /-- The slots do not depend on the name of the node. -/
  slots : ∀ x, (t x).slots = (t "").slots
  /-- The texts have one wording. -/
  text : Query.SpelledWith (names ++ (t "").places.map Slot.name) fun x => (t x).text

namespace SpelledWith

variable {t u : String → Template}

theorem nil : SpelledWith names fun _ => [] := ⟨fun _ => rfl, .empty⟩

theorem append (first : SpelledWith names t) (later : SpelledWith names u) :
    SpelledWith names fun x => t x ++ u x := by
  refine ⟨fun x => by rw [slots_append, slots_append, first.slots, later.slots], ?_⟩
  simp only [text_append, places_append, List.map_append]
  exact (first.text.mono (by simp)).append (later.text.mono (by simp))

theorem words (first : Query.SpelledWith names f) (later : SpelledWith names t) :
    SpelledWith names fun x => .words (f x) :: t x := by
  refine ⟨later.slots, ?_⟩
  simp only [text_words, places_words]
  exact (first.mono (by simp)).append later.text

theorem slot (s : Slot) (later : SpelledWith names t) :
    SpelledWith names fun x => .slot s :: t x := by
  refine ⟨fun x => by rw [slots_slot, slots_slot, later.slots], ?_⟩
  simp only [text_slot, places_slot]
  exact (Query.SpelledWith.placeholder (by simp)).append (later.text.mono (by simp))

theorem reuse (s : Slot) (later : SpelledWith names t) :
    SpelledWith names fun x => .reuse s :: t x := by
  refine ⟨later.slots, ?_⟩
  simp only [text_reuse, places_reuse]
  exact (Query.SpelledWith.placeholder (by simp)).append (later.text.mono (by simp))

theorem joined {α : Type} {items : List α} {g : α → String → Template} (listed : w ∈ keywords)
    (each : ∀ i ∈ items, SpelledWith names (g i)) :
    SpelledWith names fun x => Template.joined w (items.map fun i => g i x) := by
  induction items with
  | nil => exact nil
  | cons i rest ih =>
    rw [List.forall_mem_cons] at each
    cases rest with
    | nil => simpa using each.1
    | cons j rest =>
      simp only [List.map_cons, joined_cons_cons]
      exact each.1.append (words (.keyword listed) (ih each.2))

end SpelledWith

end Template

end GraphMapper.Query
