import GraphMapper.Proofs.Query.Bindings
import GraphMapper.Query.Naming

/-!
# Templates of statements

A template is a text with places for values in it. Each place knows the value it was made for and
the three pieces that the name of its parameter is spelled with: what comes from the field, the
digits of the identifier drawn for it, and the index of an item in a list. The text and the
parameters of a template are both read off the same places, so a statement that has a template
writes and binds the same parameters.

## Main definitions

* `Query.Slot` — a value and the pieces of its parameter's name
* `Query.Template` — words and places
* `Query.Template.text`, `Query.Template.params` — the text and the parameters
* `Query.Template.slots`, `Query.Template.places` — the values to be bound, and the places in the
  text, which may show the same parameter twice

## Main results

* `Template.keepsValues_iff` — when the parameters of a template keep all its values
-/

namespace GraphMapper.Query

/-- A value to be bound, with the pieces of its parameter's name. -/
structure Slot where
  /-- What comes from the field. -/
  stem : List Char
  /-- The digits of the identifier. -/
  hex : String
  /-- The place of the value in a list, if it is an item of one. -/
  index? : Option Nat
  /-- The value. -/
  value : Value

namespace Slot

/-- The index as it is written behind the identifier. -/
def indexDigits (s : Slot) : String :=
  match s.index? with
  | none => ""
  | some i => toString i

/-- The name of the parameter. -/
def name (s : Slot) : String := String.ofList s.stem ++ s.hex ++ s.indexDigits

/-- The parameter and its value. -/
def binding (s : Slot) : String × Value := (s.name, s.value)

/-- The slot of a value that is bound to the next name for a field. -/
def draw (n : Namer) (field : String) (value : Value) : Slot :=
  ⟨nameBase field, n.supply.current, none, value⟩

/-- The slots of the items of a list, under one identifier. -/
def drawAll (n : Namer) (field : String) (items : List Value) : List Slot :=
  items.mapIdx fun i v => ⟨nameBase field, n.supply.current, some i, v⟩

@[simp] theorem fst_binding (s : Slot) : s.binding.1 = s.name := rfl

@[simp] theorem name_draw (n : Namer) (field : String) (value : Value) :
    (draw n field value).name = n.fresh field := by
  simp [name, draw, indexDigits, Namer.fresh]

@[simp] theorem value_draw (n : Namer) (field : String) (value : Value) :
    (draw n field value).value = value := rfl

theorem map_binding_drawAll (n : Namer) (field : String) (items : List Value) :
    (drawAll n field items).map binding = Fragment.numbered (n.fresh field) items := by
  refine List.ext_getElem? fun i => ?_
  cases h : items[i]? <;>
    simp [drawAll, Fragment.numbered, h, binding, name, indexDigits, Namer.fresh]

theorem map_value_drawAll (n : Namer) (field : String) (items : List Value) :
    (drawAll n field items).map value = items := by
  refine List.ext_getElem? fun i => ?_
  cases h : items[i]? <;> simp [drawAll, h]

end Slot

/-- A part of a statement. -/
inductive Part where
  /-- Words that stand in the text as they are. -/
  | words (text : String)
  /-- The place of a value. -/
  | slot (s : Slot)
  /-- Another place of a value that has a place already. -/
  | reuse (s : Slot)

namespace Part

/-- A part as it stands in the text. -/
def text : Part → String
  | .words text => text
  | .slot s | .reuse s => Fragment.placeholder s.name

/-- The value that is to be bound for a part. -/
def slot? : Part → Option Slot
  | .slot s => some s
  | .words _ | .reuse _ => none

/-- The value that a part is a place of. -/
def place? : Part → Option Slot
  | .slot s | .reuse s => some s
  | .words _ => none

end Part

/-- The parts of a statement, from the first to the last. -/
abbrev Template := List Part

namespace Template

/-- The text of a template. -/
def text (t : Template) : String := String.join (t.map Part.text)

/-- The values to be bound, in the order of their first places. -/
def slots (t : Template) : List Slot := t.filterMap Part.slot?

/-- The places of values in the text. -/
def places (t : Template) : List Slot := t.filterMap Part.place?

/-- The parameters of a template. -/
def params (t : Template) : Bindings := Bindings.merge [] (t.slots.map Slot.binding)

/-- Templates one after the other, with the same words between any two of them. -/
def joined (words : String) (ts : List Template) : Template := [Part.words words].intercalate ts

@[simp] theorem text_nil : text [] = "" := rfl

@[simp] theorem text_words (w : String) (t : Template) :
    text (.words w :: t) = w ++ text t := by
  simp [text, Part.text]

@[simp] theorem text_slot (s : Slot) (t : Template) :
    text (.slot s :: t) = Fragment.placeholder s.name ++ text t := by
  simp [text, Part.text]

@[simp] theorem text_reuse (s : Slot) (t : Template) :
    text (.reuse s :: t) = Fragment.placeholder s.name ++ text t := by
  simp [text, Part.text]

@[simp] theorem text_append (t u : Template) : text (t ++ u) = text t ++ text u := by
  simp [text]

@[simp] theorem slots_nil : slots [] = [] := rfl

@[simp] theorem slots_words (w : String) (t : Template) : slots (.words w :: t) = slots t := rfl

@[simp] theorem slots_slot (s : Slot) (t : Template) : slots (.slot s :: t) = s :: slots t := rfl

@[simp] theorem slots_reuse (s : Slot) (t : Template) : slots (.reuse s :: t) = slots t := rfl

@[simp] theorem slots_append (t u : Template) : slots (t ++ u) = slots t ++ slots u := by
  simp [slots]

@[simp] theorem places_nil : places [] = [] := rfl

@[simp] theorem places_words (w : String) (t : Template) : places (.words w :: t) = places t := rfl

@[simp] theorem places_slot (s : Slot) (t : Template) :
    places (.slot s :: t) = s :: places t := rfl

@[simp] theorem places_reuse (s : Slot) (t : Template) :
    places (.reuse s :: t) = s :: places t := rfl

@[simp] theorem places_append (t u : Template) : places (t ++ u) = places t ++ places u := by
  simp [places]

@[simp] theorem joined_nil (w : String) : joined w [] = [] := rfl

@[simp] theorem joined_singleton (w : String) (t : Template) : joined w [t] = t := by
  simp [joined]

theorem joined_cons_cons (w : String) (t u : Template) (ts : List Template) :
    joined w (t :: u :: ts) = t ++ .words w :: joined w (u :: ts) := by
  simp [joined]

theorem text_joined (w : String) (ts : List Template) :
    text (joined w ts) = w.intercalate (ts.map text) := by
  induction ts with
  | nil => simp
  | cons t rest ih =>
    cases rest with
    | nil => simp
    | cons u rest => simp [joined_cons_cons, ih, String.intercalate_cons_cons, String.append_assoc]

/-- What words do not contribute to, a joined template has from its parts. -/
theorem filterMap_joined {f : Part → Option Slot} {w : String} (nothing : f (.words w) = none)
    (ts : List Template) : (joined w ts).filterMap f = ts.flatMap (List.filterMap f) := by
  induction ts with
  | nil => rfl
  | cons t rest ih =>
    cases rest with
    | nil => simp
    | cons u rest =>
      rw [joined_cons_cons, List.flatMap_cons, ← ih]
      simp [nothing]

theorem slots_joined (w : String) (ts : List Template) :
    slots (joined w ts) = ts.flatMap slots :=
  filterMap_joined rfl ts

theorem places_joined (w : String) (ts : List Template) :
    places (joined w ts) = ts.flatMap places :=
  filterMap_joined rfl ts

theorem names_bindings (t : Template) :
    Bindings.names (t.slots.map Slot.binding) = t.slots.map Slot.name := by
  simp [Bindings.names, Function.comp_def]

/-- The parameters of a template are named once each, in the order of their first places. -/
theorem names_params (t : Template) : t.params.names = (t.slots.map Slot.name).eraseDups := by
  rw [params, Bindings.names_merge_nil, names_bindings]

/-- No value of the template is lost, and each is found under its name. -/
def KeepsValues (t : Template) : Prop :=
  t.params.length = t.slots.length ∧
    ∀ s ∈ t.slots, t.params.value? s.name = some s.value

theorem length_params_eq_iff {t : Template} :
    t.params.length = t.slots.length ↔ (t.slots.map Slot.name).Nodup := by
  rw [← names_bindings, ← Bindings.length_merge_nil_eq_iff, List.length_map]
  rfl

/-- The parameters of a template keep all its values exactly if no name occurs twice. -/
theorem keepsValues_iff {t : Template} : t.KeepsValues ↔ (t.slots.map Slot.name).Nodup := by
  refine ⟨fun kept => length_params_eq_iff.1 kept.1,
    fun distinct => ⟨length_params_eq_iff.2 distinct, fun s member => ?_⟩⟩
  rw [← names_bindings] at distinct
  have all : t.params = t.slots.map Slot.binding := by
    rw [params]
    exact Bindings.merge_of_nodup distinct
  rw [all]
  exact Bindings.value?_of_mem distinct (List.mem_map.2 ⟨s, member, rfl⟩)

end Template

end GraphMapper.Query
