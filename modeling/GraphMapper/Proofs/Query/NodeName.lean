import GraphMapper.Proofs.Query.Placeholders
import GraphMapper.Proofs.Query.Wording

/-!
# The name of the node

The options give the node a name, which stands in a statement wherever the node is meant. For every
name the statement has the same wording: its words are keywords, the label, the names of the id and
of the fields, and the names of the parameters. So if a character is in none of them, a statement
for any name is the statement for this character with the name in the place of the character.

## Main definitions

* `Query.Options.named` — the options with another name for the node
* `Query.Expression.renode` — an expression about the node of another name
* `Query.LaidAlike` — templates of one wording, or one fault, whatever the name of the node is

## Main results

* `Predicate.express_named` — the expression of a predicate under another name of the node
* `Operation.laidAlike_template` — the template of an operation has one wording
* `Operation.compile_named` — statements differ in the name of the node only
-/

namespace GraphMapper.Query

/-- The options with another name for the node. -/
def Options.named (o : Options) (x : String) : Options := { o with nodeName := x }

variable {names : List String} {o : Options} {m : Model} {supply : Supply} {x : String}

/-! ### Expressions -/

namespace Expression

mutual

/-- The expression about the node of another name. -/
def renode (x : String) : Expression Slot → Expression Slot
  | .test _ key t => .test x key t
  | .paren e => .paren (e.renode x)
  | .negation e => .negation (e.renode x)
  | .chain op es => .chain op (renodeAll x es)

/-- The expressions about the node of another name. -/
def renodeAll (x : String) : List (Expression Slot) → List (Expression Slot)
  | [] => []
  | e :: es => e.renode x :: renodeAll x es

end

@[simp] theorem renodeAll_eq_map (x : String) (es : List (Expression Slot)) :
    renodeAll x es = es.map (renode x) := by
  induction es with
  | nil => rfl
  | cons e es ih => rw [renodeAll, ih, List.map_cons]

theorem renode_group (x : String) (op : Connective) (es : List (Expression Slot)) :
    (group op es).renode x = group op (es.map (renode x)) :=
  apply_group (renode x) (fun _ => rfl) (fun _ => rfl)
    (fun op es => by rw [renode, renodeAll_eq_map]) op es

theorem map_renode_group? (x : String) (op : Connective) (es : List (Option (Expression Slot))) :
    (group? op es.reduceOption).map (renode x) =
      group? op (es.map (Option.map (renode x))).reduceOption := by
  rw [List.reduceOption_map]
  cases es.reduceOption with
  | nil => rfl
  | cons e es => simp [group?, renode_group]

theorem renode_negatedIf (x : String) (negate : Bool) (e : Expression Slot) :
    (e.negatedIf negate).renode x = (e.renode x).negatedIf negate := by
  cases negate <;> rfl

theorem renode_draw (o : Options) (x field : String) (n : Namer) (demand : Demand) :
    ((demand.draw o field n).1.renode x, (demand.draw o field n).2) =
      demand.draw (o.named x) field n := by
  cases demand <;> rfl

theorem spelledWith_test (t : Test Slot) : Template.SpelledWith names fun _ => t.template := by
  cases t with
  | isNull | isNotNull => exact .words (.keyword (by decide)) .nil
  | relation r s =>
    refine .words (.keyword ?_) (.slot s .nil)
    cases r <;> decide
  | isIn ss =>
    have places : Template.SpelledWith names fun _ =>
        Template.joined ", " (ss.map ([.slot ·])) :=
      .joined (by decide) fun s _ => .slot s .nil
    exact .words (.keyword (by decide)) (places.append (.words (.keyword (by decide)) .nil))

/-- The expression has one wording, whatever the name of the node is. -/
theorem spelledWith_template {e : Expression Slot} (tested : e.Over fun _ key => key ∈ names) :
    Template.SpelledWith names fun x => (e.renode x).template := by
  induction tested with
  | test t key =>
    exact .words (.property key) (spelledWith_test t)
  | paren _ ih =>
    exact .words (.keyword (by decide)) (ih.append (.words (.keyword (by decide)) .nil))
  | negation _ ih => exact .words (.keyword (by decide)) ih
  | @chain op es _ ih =>
    simp only [renode, template, renodeAll_eq_map, templates_eq_map, List.map_map]
    exact .joined (by cases op <;> decide) ih

end Expression

namespace Predicate

mutual

/-- Under another name of the node a predicate has its expression about the node of this name, and
the same names are drawn for it. -/
theorem express_named (o : Options) (x : String) :
    ∀ (p : Predicate) (n : Namer), express (o.named x) p n =
      ((express o p n).1.map (Option.map (Expression.renode x)), (express o p n).2)
  | .group op children, n => by
    rw [express, express, expressAll_named o x children n]
    rcases expressAll o children n with ⟨_ | es, n₁⟩
    · rfl
    · simp only [Except.map, Expression.map_renode_group?]
  | .test field op operand, n => by
    rw [express, express, expressTest, expressTest]
    rcases op.demand operand with _ | ⟨negate, demand⟩
    · rfl
    · simp only [← Expression.renode_draw o x, Except.map, Option.map_some,
        Expression.renode_negatedIf]
  | .unsupported field name operand, n => by
    rw [express, express]
    change (if o.strictOperators then _ else _) = _
    split <;> rfl
  | .foreign value, n => by
    rw [express, express]
    split <;> rfl

theorem expressAll_named (o : Options) (x : String) :
    ∀ (ps : List Predicate) (n : Namer), expressAll (o.named x) ps n =
      ((expressAll o ps n).1.map (List.map (Option.map (Expression.renode x))),
        (expressAll o ps n).2)
  | [], n => rfl
  | p :: ps, n => by
    rw [expressAll, expressAll, express_named o x p n]
    rcases express o p n with ⟨_ | e, n₁⟩
    · rfl
    · simp only [Except.map, expressAll_named o x ps n₁]
      rcases expressAll o ps n₁ with ⟨_ | es, n₂⟩ <;> rfl

end

theorem express?_named (o : Options) (x : String) (p : Option Predicate) (n : Namer) :
    express? (o.named x) p n =
      ((express? o p n).1.map (Option.map (Expression.renode x)), (express? o p n).2) := by
  cases p with
  | none => rfl
  | some p => exact express_named o x p n

end Predicate

/-! ### Clauses -/

theorem spelledWith_matchNodes (o : Options) (label : m.label ∈ names) :
    SpelledWith names fun x => matchNodes (o.named x) m :=
  ((SpelledWith.between (by decide) (by decide)).append (.name label)).append (.keyword (by decide))

theorem spelledWith_returnCount (o : Options) :
    SpelledWith names fun x => Operation.returnCount (o.named x) :=
  .between (by decide) (by decide)

theorem spelledWith_returnClause (o : Options) {fields : List String} (known : fields ⊆ names) :
    SpelledWith names fun x => returnClause (o.named x) fields := by
  refine .append (.keyword (by decide)) ?_
  by_cases none : fields.isEmpty = true
  · simp only [none, if_true]
    exact .node
  · simp only [none]
    refine .intercalate (by decide) fun f member => ?_
    exact ((SpelledWith.property (known member)).append (.keyword (by decide))).append
      (.name (known member))

theorem spelledWith_orderClause (o : Options) {order : List SortKey}
    (known : order.map SortKey.field ⊆ names) :
    SpelledWith names fun x => orderClause (o.named x) order := by
  by_cases none : order.isEmpty = true
  · simp only [orderClause, none, if_true]
    exact .empty
  · simp only [orderClause, none]
    refine .append (.keyword (by decide)) (.intercalate (by decide) fun key member => ?_)
    have field : key.field ∈ names := known (List.mem_map_of_mem member)
    refine (SpelledWith.property field).append ?_
    cases key.direction with
    | ascending => exact .empty
    | descending => exact .keyword (by decide)

theorem spelledWith_nodePattern (o : Options) (label : m.label ∈ names) (idName : m.idName ∈ names)
    (id : Slot) : Template.SpelledWith names fun x => nodePattern (o.named x) m id := by
  refine .words ?_ (.slot id (.words (.keyword (by decide)) .nil))
  exact ((((SpelledWith.between (by decide) (by decide)).append (.name label)).append
    (.keyword (by decide))).append (.name idName)).append (.keyword (by decide))

theorem spelledWith_counting {word : String} (listed : " " ++ word ++ " " ∈ keywords)
    (field : String) (count : Value) (n : Namer) :
    Template.SpelledWith names fun _ => (counting word field count n).1 := by
  rw [counting]
  split
  · exact .words (.keyword listed) (.slot _ .nil)
  · exact .nil

/-! ### Templates -/

/-- Whatever the name of the node is, there is the same fault, or a template of one wording and the
same namer. -/
def LaidAlike (names : List String) (f : String → Except Fault (Template × Namer)) : Prop :=
  (∃ fault, ∀ x, f x = .error fault) ∨
    ∃ t n, (∀ x, f x = .ok (t x, n)) ∧ Template.SpelledWith names t

namespace LaidAlike

variable {f : String → Except Fault (Template × Namer)}

theorem ok {t : String → Template} {n : Namer} (spelled : Template.SpelledWith names t) :
    LaidAlike names fun x => .ok (t x, n) :=
  .inr ⟨t, n, fun _ => rfl, spelled⟩

/-- What goes before does not depend on the name of the node. -/
theorem after {α : Type} (first : Except Fault α)
    {g : α → String → Except Fault (Template × Namer)}
    (next : ∀ a, first = .ok a → LaidAlike names (g a)) :
    LaidAlike names fun x => first >>= fun a => g a x := by
  cases first with
  | error fault => exact .inl ⟨fault, fun _ => rfl⟩
  | ok a => exact next a rfl

theorem bind {g : String → Template × Namer → Except Fault (Template × Namer)}
    (first : LaidAlike names f) (next : ∀ t n, Template.SpelledWith names t →
      LaidAlike names fun x => g x (t x, n)) : LaidAlike names fun x => f x >>= g x := by
  rcases first with ⟨fault, refused⟩ | ⟨t, n, laid, spelled⟩
  · exact .inl ⟨fault, fun x => by simp only [refused]; rfl⟩
  · simp only [laid]
    exact next t n spelled

end LaidAlike

theorem laidAlike_matching (o : Options) (label : m.label ∈ names) {p : Option Predicate}
    (fields : p.elim [] Predicate.fields ⊆ names) (supply : Supply) :
    LaidAlike names fun x => matching (o.named x) m p supply := by
  rcases drawn : Predicate.express? o p (Namer.start supply) with ⟨fault | e, n⟩
  · refine .inl ⟨fault, fun x => ?_⟩
    simp only [matching, restriction, Predicate.express?_named, drawn, Except.map]
  · have laid (x : String) : matching (o.named x) m p supply = .ok
        (.words (matchNodes (o.named x) m) :: whereClause (e.map (Expression.renode x)), n) := by
      rw [matching_eq_ok_iff]
      exact ⟨_, by rw [Predicate.express?_named, drawn]; rfl, rfl⟩
    simp only [laid]
    refine .ok (.words (spelledWith_matchNodes o label) ?_)
    cases e with
    | none => exact .nil
    | some e =>
      cases p with
      | none => cases drawn
      | some p =>
        have tested : e.Over fun _ key => key ∈ names :=
          (Predicate.over_of_express drawn).imp fun _ _ known => fields known.2
        exact .words (.keyword (by decide)) (Expression.spelledWith_template tested)

namespace Operation

theorem laidAlike_nodesTemplate (o : Options) (label : m.label ∈ names) {p : Option Predicate}
    (fields : p.elim [] Predicate.fields ⊆ names) {rest : String → String}
    (spelled : SpelledWith names rest) (supply : Supply) :
    LaidAlike names fun x => nodesTemplate (o.named x) m p (rest x) supply :=
  (laidAlike_matching o label fields supply).bind fun _ _ head =>
    .ok (head.append (.words spelled .nil))

theorem laidAlike_findTemplate (o : Options) (label : m.label ∈ names) {f : Filter}
    (fields : f.fieldNames ⊆ names) (supply : Supply) :
    LaidAlike names fun x => findTemplate (o.named x) m f supply := by
  simp only [Filter.fieldNames, List.append_subset] at fields
  obtain ⟨⟨tested, returned⟩, sorted⟩ := fields
  refine (laidAlike_matching o label tested supply).bind fun t n head => .ok (head.append ?_)
  refine .words ((spelledWith_returnClause o returned).append (spelledWith_orderClause o sorted)) ?_
  exact (spelledWith_counting (by decide) _ _ _).append (spelledWith_counting (by decide) _ _ _)

theorem spelledWith_nodeTemplate (o : Options) (label : m.label ∈ names) (idName : m.idName ∈ names)
    (id : Value) {rest : String → String} (spelled : SpelledWith names rest) (supply : Supply) :
    Template.SpelledWith names fun x => (nodeTemplate (o.named x) m id (rest x) supply).1 :=
  .words (.keyword (by decide))
    ((spelledWith_nodePattern o label idName _).append (.words spelled .nil))

theorem spelledWith_setting (o : Options) (data : Value) {rest : String → String}
    (spelled : SpelledWith names rest) (n : Namer) :
    Template.SpelledWith names fun x => (setting (o.named x) data (rest x) n).1 :=
  .words (.between (by decide) (by decide)) (.slot _ (.words spelled .nil))

theorem spelledWith_mergeTemplate (o : Options) (label : m.label ∈ names)
    (idName : m.idName ∈ names) (id data : Value) {symbol : String} (listed : symbol ∈ keywords)
    (supply : Supply) :
    Template.SpelledWith names fun x => (mergeTemplate (o.named x) m id data symbol supply).1 := by
  have created : SpelledWith names fun x => " ON CREATE SET " ++ x ++ " = " :=
    .between (by decide) (by decide)
  have matched : SpelledWith names fun x => " ON MATCH SET " ++ x ++ " " ++ symbol ++ " " :=
    ((SpelledWith.between (by decide) (by decide)).append (.keyword listed)).append
      (.keyword (by decide))
  have returned : SpelledWith names fun x => " RETURN " ++ x := .behind (by decide)
  exact .words (.keyword (by decide)) ((spelledWith_nodePattern o label idName _).append
    (.words created (.slot _ (.words matched (.reuse _ (.words returned .nil))))))

/-- Whatever the name of the node is, an operation is refused for the same fault, or its template
has the same wording. -/
theorem laidAlike_template (o : Options) (label : m.label ∈ names) (idName : m.idName ∈ names)
    {op : Operation} (fields : op.fieldNames o ⊆ names) (supply : Supply) :
    LaidAlike names fun x => op.template (o.named x) m supply := by
  have returned : SpelledWith names fun x => " RETURN " ++ x := .behind (by decide)
  have deleted : SpelledWith names fun x => " DETACH DELETE " ++ x := .behind (by decide)
  cases op with
  | find search =>
    -- what is searched for does not depend on the name of the node
    refine LaidAlike.after (search.read o) fun f read => ?_
    simp only [fieldNames, read] at fields
    exact laidAlike_findTemplate o label fields supply
  | findOne search =>
    refine LaidAlike.after (search.read o) fun f read => ?_
    simp only [fieldNames, read] at fields
    exact laidAlike_findTemplate (f := f.single) o label fields supply
  | findById id => exact .ok (spelledWith_nodeTemplate o label idName id returned supply)
  | «exists» id =>
    have counted : SpelledWith names fun x => " RETURN COUNT(" ++ x ++ ") > 0 AS exists" :=
      .between (by decide) (by decide)
    exact .ok (spelledWith_nodeTemplate o label idName id counted supply)
  | destroy id => exact .ok (spelledWith_nodeTemplate o label idName id deleted supply)
  | count condition =>
    refine LaidAlike.after (condition.read o) fun p read => ?_
    simp only [fieldNames, read] at fields
    exact laidAlike_nodesTemplate o label fields (spelledWith_returnCount o) supply
  | destroyAll condition =>
    refine LaidAlike.after (condition.read o) fun p read => ?_
    simp only [fieldNames, read] at fields
    exact laidAlike_nodesTemplate o label fields (deleted.append (spelledWith_returnCount o)) supply
  | create data =>
    refine LaidAlike.after _ fun props _ => .ok ?_
    have head : SpelledWith names fun x => "CREATE (" ++ x ++ ":" ++ m.label ++ " " :=
      ((SpelledWith.between (by decide) (by decide)).append (.name label)).append
        (.keyword (by decide))
    have tail : SpelledWith names fun x => ") RETURN " ++ x := .behind (by decide)
    exact .words head (.slot _ (.words tail .nil))
  | save data | updateOrCreate data =>
    refine LaidAlike.after _ fun id _ => LaidAlike.after _ fun props _ => .ok ?_
    exact spelledWith_mergeTemplate o label idName id props (by decide) supply
  | updateAttributes id data =>
    have head := spelledWith_nodeTemplate o label idName id .empty supply
    exact LaidAlike.after _ fun props _ => .ok (head.append (spelledWith_setting o props returned _))
  | updateAll condition data =>
    refine LaidAlike.after (condition.read o) fun p read => ?_
    simp only [fieldNames, read] at fields
    refine (laidAlike_matching o label fields supply).bind fun t n head => ?_
    refine LaidAlike.after _ fun props _ => .ok (head.append ?_)
    exact spelledWith_setting o props (spelledWith_returnCount o) n

/-- Whatever the name of the node is, an operation is refused for the same fault, or its statement
has the same parameters and one wording: the words are keywords, the label, the names of the id and
of the fields, and the names of the parameters. Where a character is in none of these words, the
statement for any name is the statement for the character with the name in its place. -/
theorem compile_named (o : Options) (m : Model) (supply : Supply) (op : Operation) :
    (∃ fault, ∀ x, op.compile (o.named x) m supply = .error fault) ∨
    ∃ (wording : Wording) (params : Bindings) (rest : Supply),
      (∀ x, op.compile (o.named x) m supply = .ok (⟨wording.text x, params⟩, rest)) ∧
      (∀ w ∈ wording.words, w ∈ keywords ∨ w = m.label ∨ w = m.idName ∨ w ∈ op.fieldNames o ∨
        w ∈ params.names) ∧
      ∀ a, (∀ w ∈ wording.words, a ∉ w.toList) →
        ∀ b, wording.text b = renamed a b (wording.text (String.singleton a)) := by
  let names := m.label :: m.idName :: op.fieldNames o
  have alike : LaidAlike names fun x => op.template (o.named x) m supply :=
    laidAlike_template o (by simp [names]) (by simp [names]) (by simp [names]) supply
  rcases alike with ⟨fault, refused⟩ | ⟨t, n, laid, slots, wording, words, same⟩
  · refine .inl ⟨fault, fun x => ?_⟩
    simp only [compile_eq_template, refused, Except.map]
  · refine .inr ⟨wording, (t "").params, n.supply, fun x => ?_, fun w member => ?_,
      fun a absent b => (Wording.renamed_text absent b).symm⟩
    · have text : (t x).text = wording.text x := same x
      have params : (t x).params = (t "").params := by
        rw [Template.params, slots x, ← Template.params]
      simp only [compile_eq_template, laid, Except.map, written, text, params]
    · -- every place shows a value that is bound
      have shown : ∀ s ∈ (t "").places, s.name ∈ (t "").params.names := by
        intro s place
        rw [Template.names_params, List.mem_eraseDups]
        exact List.mem_map_of_mem (mem_slots_of_mem_places (laid "") place)
      have spelled := words w member
      simp only [names, List.mem_append, List.mem_cons, List.mem_map] at spelled
      rcases spelled with keyword | (label | idName | field) | ⟨s, place, rfl⟩
      · exact .inl keyword
      · exact .inr (.inl label)
      · exact .inr (.inr (.inl idName))
      · exact .inr (.inr (.inr (.inl field)))
      · exact .inr (.inr (.inr (.inr (shown s place))))

end Operation

end GraphMapper.Query
