import GraphMapper.Proofs.Query.Drawing

/-!
# Placeholders

The parameters of a statement can be read back from its text: behind every dollar sign stands the
name of a parameter, which ends where the text goes on with a character that no name has. If nothing
else in the text has a dollar sign, the text shows every parameter and no others, in the order in
which they were bound.

## Main definitions

* `Query.placeholders` — the names behind the dollar signs of a text
* `Query.Template.Delimited` — only places have a dollar sign, and every name ends where it should
* `Query.Operation.fieldNames` — the fields that the statement of an operation mentions

## Main results

* `Template.placeholders_text` — the names in a delimited text are those of its places
* `Operation.placeholders_compile` — a statement shows its parameters and no others
-/

namespace GraphMapper.Query

/-- The names behind the dollar signs of a text. -/
def placeholders : List Char → List String
  | [] => []
  | c :: cs =>
    if c = '$' then String.ofList (cs.takeWhile isNameChar) :: placeholders cs
    else placeholders cs

theorem placeholders_append_of_notMem {cs : List Char} (ds : List Char) (absent : '$' ∉ cs) :
    placeholders (cs ++ ds) = placeholders ds := by
  induction cs with
  | nil => rfl
  | cons c cs ih =>
    rw [List.mem_cons, not_or] at absent
    have other : c ≠ '$' := fun same => absent.1 same.symm
    simpa [placeholders, other] using ih absent.2

/-- The text does not go on with a name. -/
def EndsNames (text : String) : Prop := ∀ c ∈ text.toList.head?, isNameChar c = false

instance (text : String) : Decidable (EndsNames text) :=
  decidable_of_iff (text.toList.head?.all (!isNameChar ·) = true)
    (by simp [EndsNames, Option.all_eq_true])

@[simp] theorem isNameChar_space : isNameChar ' ' = false := by decide

@[simp] theorem isNameChar_parenthesis : isNameChar ')' = false := by decide

@[simp] theorem isNameChar_brace : isNameChar '\x7d' = false := by decide

theorem endsNames_empty : EndsNames "" := by simp [EndsNames]

theorem EndsNames.append {text more : String} (first : EndsNames text) (later : EndsNames more) :
    EndsNames (text ++ more) := by
  intro c member
  rw [String.toList_append, List.head?_append, Option.mem_def, Option.or_eq_some_iff] at member
  rcases member with early | ⟨-, late⟩
  · exact first c early
  · exact later c late

theorem endsNames_append_of_ne_empty {text : String} (more : String) (first : EndsNames text)
    (nonempty : text ≠ "") : EndsNames (text ++ more) := by
  obtain ⟨c, cs, split⟩ := List.exists_cons_of_ne_nil (mt String.toList_eq_nil_iff.1 nonempty)
  intro d member
  rw [String.toList_append, split] at member
  exact first d (by simpa [split] using member)

/-- A dollar sign with a name behind it is read as the name. -/
theorem placeholders_placeholder {name rest : String}
    (known : ∀ c ∈ name.toList, isNameChar c = true) (ends : EndsNames rest) :
    placeholders (Fragment.placeholder name ++ rest).toList =
      name :: placeholders rest.toList := by
  have stops : (name.toList ++ rest.toList).takeWhile isNameChar = name.toList := by
    rw [List.takeWhile_append_of_pos known, List.append_right_eq_self]
    cases split : rest.toList with
    | nil => rfl
    | cons c cs => simp [ends c (by simp [split])]
  -- a name holds no dollar sign, so reading goes on behind it
  have absent : '$' ∉ name.toList := fun member => absurd (known _ member) (by decide)
  have spelled : (Fragment.placeholder name ++ rest).toList =
      '$' :: (name.toList ++ rest.toList) := by
    simp [Fragment.placeholder]
  rw [spelled, placeholders, if_pos rfl, stops, String.ofList_toList,
    placeholders_append_of_notMem _ absent]

namespace Template

/-- Only places have a dollar sign, and behind a place the text does not go on with a name. -/
def Delimited : Template → Prop
  | [] => True
  | .words w :: t => '$' ∉ w.toList ∧ Delimited t
  | .slot _ :: t | .reuse _ :: t => EndsNames (text t) ∧ Delimited t

variable {t u : Template}

@[simp] theorem delimited_nil : Delimited [] := trivial

@[simp] theorem delimited_words {w : String} :
    Delimited (.words w :: t) ↔ '$' ∉ w.toList ∧ Delimited t := Iff.rfl

@[simp] theorem delimited_slot {s : Slot} :
    Delimited (.slot s :: t) ↔ EndsNames (text t) ∧ Delimited t := Iff.rfl

@[simp] theorem delimited_reuse {s : Slot} :
    Delimited (.reuse s :: t) ↔ EndsNames (text t) ∧ Delimited t := Iff.rfl

theorem Delimited.append (first : Delimited t) (later : Delimited u) (ends : EndsNames (text u)) :
    Delimited (t ++ u) := by
  induction t with
  | nil => exact later
  | cons part t ih =>
    cases part with
    | words w => exact ⟨first.1, ih first.2⟩
    | slot s | reuse s =>
      -- what ends the name is the rest of the first template, or the second one if that is empty
      have both : EndsNames (text (t ++ u)) := by
        rw [text_append]
        exact first.1.append ends
      exact ⟨both, ih first.2⟩

theorem Delimited.joined {w : String} {ts : List Template} (clean : '$' ∉ w.toList)
    (ends : EndsNames w) (nonempty : w ≠ "") (each : ∀ t ∈ ts, Delimited t) :
    Delimited (joined w ts) := by
  induction ts with
  | nil => trivial
  | cons t rest ih =>
    have first := each t List.mem_cons_self
    have later := ih fun u member => each u (List.mem_cons_of_mem t member)
    cases rest with
    | nil => simpa using first
    | cons u rest =>
      rw [joined_cons_cons]
      refine first.append ⟨clean, later⟩ ?_
      rw [text_words]
      exact endsNames_append_of_ne_empty _ ends nonempty

/-- The names in a delimited text are those of its places. -/
theorem placeholders_text (delimited : Delimited t)
    (known : ∀ s ∈ t.places, ∀ c ∈ s.name.toList, isNameChar c = true) :
    placeholders (text t).toList = t.places.map Slot.name := by
  induction t with
  | nil => rfl
  | cons part t ih =>
    cases part with
    | words w =>
      rw [text_words, String.toList_append, placeholders_append_of_notMem _ delimited.1]
      exact ih delimited.2 known
    | slot s =>
      rw [places_slot, List.forall_mem_cons] at known
      rw [text_slot, placeholders_placeholder known.1 delimited.1, ih delimited.2 known.2]
      rfl
    | reuse s =>
      rw [places_reuse, List.forall_mem_cons] at known
      rw [text_reuse, placeholders_placeholder known.1 delimited.1, ih delimited.2 known.2]
      rfl

end Template

/-! ### Expressions -/

namespace Expression

theorem delimited_places (ss : List Slot) :
    Template.Delimited (Template.joined ", " (ss.map ([.slot ·]))) := by
  refine .joined (by decide) (by decide) (by decide) fun t member => ?_
  obtain ⟨s, -, rfl⟩ := List.mem_map.1 member
  exact ⟨endsNames_empty, trivial⟩

theorem delimited_test (t : Test Slot) : t.template.Delimited := by
  cases t with
  | isNull | isNotNull => exact ⟨by decide, trivial⟩
  | relation r s =>
    refine ⟨?_, endsNames_empty, trivial⟩
    cases r <;> decide
  | isIn ss => exact ⟨by decide, (delimited_places ss).append ⟨by decide, trivial⟩ (by decide)⟩

/-- The name of a parameter ends where the expression goes on. -/
theorem delimited {e : Expression Slot}
    (tested : e.Over fun node key => '$' ∉ node.toList ∧ '$' ∉ key.toList) :
    e.template.Delimited := by
  induction tested with
  | @test node key t clean =>
    refine ⟨?_, delimited_test t⟩
    simpa [String.toList_append] using clean
  | paren _ ih => exact ⟨by decide, ih.append ⟨by decide, trivial⟩ (by decide)⟩
  | negation _ ih => exact ⟨by decide, ih⟩
  | @chain op es _ ih =>
    rw [template, templates_eq_map]
    refine .joined (by cases op <;> decide) (by cases op <;> decide) (by cases op <;> decide) ?_
    intro t member
    obtain ⟨e, operand, rfl⟩ := List.mem_map.1 member
    exact ih e operand

end Expression

/-! ### Statements -/

/-- The fields that a filter mentions. -/
def Filter.fieldNames (f : Filter) : List String :=
  f.where?.elim [] Predicate.fields ++ f.fields ++ f.order.map SortKey.field

/-- The fields that the statement of an operation mentions: those it tests, sorts by and returns. -/
def Operation.fieldNames (o : Options) : Operation → List String
  | .find search | .findOne search =>
    match search.read o with
    | .ok f => f.fieldNames
    | .error _ => []
  | .count condition | .updateAll condition _ | .destroyAll condition =>
    match condition.read o with
    | .ok p => p.elim [] Predicate.fields
    | .error _ => []
  | .findById _ | .exists _ | .create _ | .save _ | .updateOrCreate _ | .updateAttributes _ _
  | .destroy _ => []

theorem notMem_intercalate {c : Char} {sep : String} {texts : List String}
    (absent : c ∉ sep.toList) (each : ∀ text ∈ texts, c ∉ text.toList) :
    c ∉ (sep.intercalate texts).toList := by
  induction texts with
  | nil => simp
  | cons text rest ih =>
    rw [List.forall_mem_cons] at each
    cases rest with
    | nil => simpa using each.1
    | cons next rest =>
      rw [String.intercalate_cons_cons]
      simpa [absent, each.1] using ih each.2

section

variable {o : Options} {m : Model} {supply : Supply} {t : Template} {n : Namer}
  (nodeName : '$' ∉ o.nodeName.toList) (label : '$' ∉ m.label.toList)
  (idName : '$' ∉ m.idName.toList)

include nodeName

theorem notMem_returnClause {fields : List String} (clean : ∀ f ∈ fields, '$' ∉ f.toList) :
    '$' ∉ (returnClause o fields).toList := by
  unfold returnClause
  split
  · simpa using nodeName
  · have listed : '$' ∉ (Projection.text o.nodeName fields).toList := by
      refine notMem_intercalate (by decide) fun text member => ?_
      obtain ⟨f, known, rfl⟩ := List.mem_map.1 member
      simpa using ⟨nodeName, clean f known⟩
    simpa using listed

theorem notMem_orderClause {order : List SortKey} (clean : ∀ k ∈ order, '$' ∉ k.field.toList) :
    '$' ∉ (orderClause o order).toList := by
  unfold orderClause
  split
  · simp
  · have listed : '$' ∉ (SortKey.listText o.nodeName order).toList := by
      refine notMem_intercalate (by decide) fun text member => ?_
      obtain ⟨⟨field, direction⟩, known, rfl⟩ := List.mem_map.1 member
      have bare : '$' ∉ field.toList := clean _ known
      cases direction <;> simpa [SortKey.text] using ⟨nodeName, bare⟩
    simpa using listed

include label

theorem delimited_of_matching {p : Option Predicate}
    (fields : ∀ f ∈ p.elim [] Predicate.fields, '$' ∉ f.toList)
    (done : matching o m p supply = .ok (t, n)) : t.Delimited := by
  obtain ⟨e, left, rfl⟩ := matching_eq_ok_iff.1 done
  refine ⟨by simpa [matchNodes] using ⟨nodeName, label⟩, ?_⟩
  match p, e with
  | _, none => trivial
  | none, some e => cases left
  | some p, some e =>
    have tested : e.Over fun node key => '$' ∉ node.toList ∧ '$' ∉ key.toList := by
      refine (Predicate.over_of_express left).imp fun node key known => ?_
      exact ⟨known.1 ▸ nodeName, fields key known.2⟩
    exact ⟨by decide, Expression.delimited tested⟩

theorem delimited_of_nodesTemplate {p : Option Predicate} {rest : String}
    (fields : ∀ f ∈ p.elim [] Predicate.fields, '$' ∉ f.toList) (clean : '$' ∉ rest.toList)
    (ends : EndsNames rest) (done : Operation.nodesTemplate o m p rest supply = .ok (t, n)) :
    t.Delimited := by
  obtain ⟨⟨head, n₁⟩, matched, same⟩ := Except.map_eq_ok_iff.1 done
  cases same
  refine (delimited_of_matching nodeName label fields matched).append ⟨clean, trivial⟩ ?_
  simpa using ends

include idName

theorem delimited_nodeTemplate (id : Value) {rest : String} (clean : '$' ∉ rest.toList)
    (supply : Supply) : (Operation.nodeTemplate o m id rest supply).1.Delimited := by
  simp [Operation.nodeTemplate, nodePattern, EndsNames, nodeName, label, idName, clean]

theorem delimited_mergeTemplate (id data : Value) {symbol : String} (clean : '$' ∉ symbol.toList)
    (supply : Supply) : (Operation.mergeTemplate o m id data symbol supply).1.Delimited := by
  simp [Operation.mergeTemplate, nodePattern, EndsNames, nodeName, label, idName, clean]

end

theorem delimited_setting {o : Options} (nodeName : '$' ∉ o.nodeName.toList) (data : Value)
    {rest : String} (clean : '$' ∉ rest.toList) (ends : EndsNames rest) (n : Namer) :
    (Operation.setting o data rest n).1.Delimited := by
  simp [Operation.setting, nodeName, clean, ends]

theorem endsNames_counting (word field : String) (count : Value) (n : Namer) :
    EndsNames (counting word field count n).1.text := by
  unfold counting
  split <;> simp [EndsNames]

theorem delimited_counting {word : String} (clean : '$' ∉ word.toList) (field : String)
    (count : Value) (n : Namer) : (counting word field count n).1.Delimited := by
  unfold counting
  split
  · simp [EndsNames, clean]
  · trivial

namespace Operation

variable {o : Options} {m : Model} {supply : Supply} {t : Template} {n : Namer}

theorem delimited_of_findTemplate {f : Filter} (nodeName : '$' ∉ o.nodeName.toList)
    (label : '$' ∉ m.label.toList) (fields : ∀ name ∈ f.fieldNames, '$' ∉ name.toList)
    (done : findTemplate o m f supply = .ok (t, n)) : t.Delimited := by
  obtain ⟨⟨head, n₁⟩, matched, same⟩ := Except.map_eq_ok_iff.1 done
  simp only [Prod.mk.injEq] at same
  obtain ⟨rfl, rfl⟩ := same
  simp only [Filter.fieldNames, List.forall_mem_append, List.forall_mem_map] at fields
  have result := notMem_returnClause nodeName fields.1.2
  have sorted := notMem_orderClause nodeName fields.2
  have skip := delimited_counting (show '$' ∉ "SKIP".toList by decide) "skip" f.skip n₁
  have limit := delimited_counting (show '$' ∉ "LIMIT".toList by decide) "limit" f.limit
    (counting "SKIP" "skip" f.skip n₁).2
  have counts := skip.append limit (endsNames_counting _ _ _ _)
  refine (delimited_of_matching nodeName label fields.1.1 matched).append ⟨?_, counts⟩ ?_
  · simpa using ⟨result, sorted⟩
  · simp [EndsNames, returnClause]

/-- In the template of a statement only places have a dollar sign, and every name ends where it
should. -/
theorem delimited {op : Operation} (nodeName : '$' ∉ o.nodeName.toList)
    (label : '$' ∉ m.label.toList) (idName : '$' ∉ m.idName.toList)
    (fields : ∀ name ∈ op.fieldNames o, '$' ∉ name.toList)
    (done : op.template o m supply = .ok (t, n)) : t.Delimited := by
  cases op with
  | find search =>
    obtain ⟨f, read, laid⟩ := Except.bind_eq_ok_iff.1 done
    simp only [fieldNames, read] at fields
    exact delimited_of_findTemplate nodeName label fields laid
  | findOne search =>
    obtain ⟨f, read, laid⟩ := Except.bind_eq_ok_iff.1 done
    simp only [fieldNames, read] at fields
    -- only the first of the nodes is returned, which changes no field
    exact delimited_of_findTemplate (f := f.single) nodeName label fields laid
  | findById id | «exists» id | destroy id =>
    cases done
    exact delimited_nodeTemplate nodeName label idName id (by simpa using nodeName) supply
  | count condition | destroyAll condition =>
    obtain ⟨p, read, laid⟩ := Except.bind_eq_ok_iff.1 done
    simp only [fieldNames, read] at fields
    refine delimited_of_nodesTemplate nodeName label fields ?_ ?_ laid
    · simpa [returnCount] using nodeName
    · simp [EndsNames, returnCount]
  | create data =>
    obtain ⟨props, -, laid⟩ := Except.bind_eq_ok_iff.1 done
    cases laid
    simpa [EndsNames] using ⟨⟨nodeName, label⟩, nodeName⟩
  | save data | updateOrCreate data =>
    obtain ⟨id, -, laid⟩ := Except.bind_eq_ok_iff.1 done
    obtain ⟨props, -, laid⟩ := Except.bind_eq_ok_iff.1 laid
    cases laid
    exact delimited_mergeTemplate nodeName label idName id props (by decide) supply
  | updateAttributes id data =>
    obtain ⟨props, -, laid⟩ := Except.bind_eq_ok_iff.1 done
    cases laid
    refine (delimited_nodeTemplate nodeName label idName id (by simp) supply).append
      (delimited_setting nodeName props (by simpa using nodeName) (by simp [EndsNames]) _) ?_
    simp [EndsNames]
  | updateAll condition data =>
    obtain ⟨p, read, laid⟩ := Except.bind_eq_ok_iff.1 done
    obtain ⟨⟨head, n₁⟩, matched, laid⟩ := Except.bind_eq_ok_iff.1 laid
    obtain ⟨props, -, laid⟩ := Except.bind_eq_ok_iff.1 laid
    cases laid
    simp only [fieldNames, read] at fields
    refine (delimited_of_matching nodeName label fields matched).append
      (delimited_setting nodeName props (by simpa [returnCount] using nodeName)
        (by simp [EndsNames, returnCount]) _) ?_
    simp [EndsNames]

/-- A place is shown by a name that was bound, so first occurrences are the names bound. -/
theorem eraseDups_names_places {op : Operation} (done : op.template o m supply = .ok (t, n)) :
    (t.places.map Slot.name).eraseDups = t.params.names := by
  rw [Template.names_params]
  -- only the properties of a merged node are shown twice
  rcases places_eq done with once | ⟨s, known, twice⟩
  · rw [once]
  · have again : s.name ∈ t.slots.map Slot.name := List.mem_map.2 ⟨s, known, rfl⟩
    have nothing : [s.name].removeAll (t.slots.map Slot.name) = [] := by
      simpa [List.removeAll] using again
    rw [twice, List.map_append, List.eraseDups_append, List.map_singleton, nothing]
    simp

/-- A statement shows its parameters and no others, in the order in which they were bound, and every
one of them has a proper name. -/
theorem placeholders_compile {op : Operation} {st : Statement} {rest : Supply}
    (hex : supply.Hexadecimal) (nodeName : '$' ∉ o.nodeName.toList)
    (label : '$' ∉ m.label.toList) (idName : '$' ∉ m.idName.toList)
    (fields : ∀ name ∈ op.fieldNames o, '$' ∉ name.toList)
    (done : op.compile o m supply = .ok (st, rest)) :
    (placeholders st.text.toList).eraseDups = st.params.names ∧
      ∀ name ∈ st.params.names, isParameterName name = true := by
  obtain ⟨t, n, laid, rfl, -⟩ := exists_template_of_compile done
  have proper (s : Slot) (member : s ∈ t.slots) : isParameterName s.name = true :=
    (draws laid).isParameterName_of_mem hex member
  have known (s : Slot) (place : s ∈ t.places) (c : Char) (member : c ∈ s.name.toList) :
      isNameChar c = true :=
    isNameChar_of_isParameterName (proper s (mem_slots_of_mem_places laid place)) member
  have shown := Template.placeholders_text (delimited nodeName label idName fields laid) known
  constructor
  · change (placeholders t.text.toList).eraseDups = t.params.names
    rw [shown, eraseDups_names_places laid]
  · intro name member
    change name ∈ t.params.names at member
    rw [Template.names_params, List.mem_eraseDups] at member
    obtain ⟨s, bound, rfl⟩ := List.mem_map.1 member
    exact proper s bound

/-- A field outside ASCII, a dropped test and an empty list. -/
theorem placeholders_compile_updateAll :
    let op : Operation := .updateAll
      (.value (.map [(.text "or", .list [.map [(.text "größe", .map [(.text "gt", .int 3)])],
          .map [(.text "age", .map [(.text "regexp", .text "4.")])]]),
        (.text "name", .map [(.text "nin", .list [])])]))
      (.map [(.text "name", .text "Ada")])
    ∃ st rest, op.compile {} { name := "Person" } .counting = .ok (st, rest) ∧
      (placeholders st.text.toList).eraseDups = st.params.names ∧
      ∀ name ∈ st.params.names, isParameterName name = true := by
  intro op
  have compiles : (op.compile {} { name := "Person" } .counting).isOk = true := by decide +kernel
  obtain ⟨⟨st, rest⟩, done⟩ := Except.exists_eq_ok_of_isOk compiles
  exact ⟨st, rest, done, placeholders_compile Supply.hexadecimal_counting (by decide) (by decide)
    (by decide) (by decide +kernel) done⟩

end Operation

end GraphMapper.Query
