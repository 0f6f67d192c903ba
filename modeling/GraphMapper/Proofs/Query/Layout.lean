import GraphMapper.Proofs.Query.Translation
import GraphMapper.Proofs.Results
import GraphMapper.Query.Statement

/-!
# The layout of statements

Every operation has a template: the words of its statement with places for the id, the property
map, the counts and the values of its condition. The statement that an operation is compiled to is
its template written down, so what is proved of templates holds of statements.

## Main definitions

* `Query.Operation.template` — the template of an operation, and the namer after it was made

## Main results

* `Operation.compile_eq_template` — a statement is the template of its operation written down
-/

namespace GraphMapper

namespace Query

/-! ### Drafts -/

namespace Draft

/-- The draft of a statement of which a template has been laid out. -/
def ofTemplate (t : Template) (n : Namer) : Draft := ⟨n, t.params⟩

theorem start_eq_ofTemplate (supply : Supply) :
    start supply = ofTemplate [] (Namer.start supply) := rfl

@[simp] theorem finish_ofTemplate (t : Template) (n : Namer) (text : String) :
    (ofTemplate t n).finish text = (⟨text, t.params⟩, n.supply) := rfl

/-- Words do not count for a draft. -/
@[simp] theorem ofTemplate_words (t u : Template) (w : String) (n : Namer) :
    ofTemplate (t ++ .words w :: u) n = ofTemplate (t ++ u) n := by
  simp [ofTemplate, Template.params]

theorem bind_ofTemplate (t : Template) (n : Namer) (field : String) (value : Value) :
    (ofTemplate t n).bind field value =
      (Fragment.placeholder (n.fresh field),
        ofTemplate (t ++ [.slot (.draw n field value)]) (n.name field).2) := by
  simp [bind, ofTemplate, Template.params, Bindings.merge, Slot.binding, Namer.name]

end Draft

/-- The part of a template that restricts it to a predicate. -/
def restriction (o : Options) (p : Option Predicate) (n : Namer) :
    Except Fault (Template × Namer) :=
  match Predicate.express? o p n with
  | (.error fault, _) => .error fault
  | (.ok none, n) => .ok ([], n)
  | (.ok (some e), n) => .ok (.words " WHERE " :: e.template, n)

/-- The clause of an optional expression. -/
def whereClause (e : Option (Expression Slot)) : Template :=
  e.elim [] fun e => .words " WHERE " :: e.template

theorem restriction_eq_ok_iff {o : Options} {p : Option Predicate} {n n' : Namer} {t : Template} :
    restriction o p n = .ok (t, n') ↔
      ∃ e, Predicate.express? o p n = (.ok e, n') ∧ whereClause e = t := by
  rw [restriction]
  rcases Predicate.express? o p n with ⟨_ | _ | e, n₁⟩ <;> simp [whereClause, and_comm]

theorem Draft.restrict_ofTemplate (o : Options) (p : Option Predicate) (t : Template)
    (n : Namer) :
    (ofTemplate t n).restrict o p =
      (restriction o p n).map fun (u, n) => (u.text, ofTemplate (t ++ u) n) := by
  simp only [restrict, restriction, ofTemplate, Predicate.compile?_eq_express?]
  cases drawn : Predicate.express? o p n with
  | mk result n₁ =>
    cases result with
    | error fault => rfl
    | ok e =>
      cases e with
      | none => simp [Except.map, Fragment.ofExpression?, Fragment.isEmpty, Fragment.empty]
      | some e =>
        -- an expression is never written as nothing, so there is a clause exactly if there is one
        have filled := Fragment.isEmpty_ofExpression (Predicate.fits_of_express? drawn)
        simp only [Except.map, Fragment.ofExpression?, filled]
        simp [Fragment.ofExpression, Template.params, Bindings.merge_append,
          Bindings.merge_merge_nil]

/-- The part of a template that matches nodes under a predicate. -/
def matching (o : Options) (m : Model) (p : Option Predicate) (supply : Supply) :
    Except Fault (Template × Namer) :=
  (restriction o p (Namer.start supply)).map fun (t, n) => (.words (matchNodes o m) :: t, n)

theorem matching_eq_ok_iff {o : Options} {m : Model} {p : Option Predicate} {supply : Supply}
    {t : Template} {n : Namer} :
    matching o m p supply = .ok (t, n) ↔
      ∃ e, Predicate.express? o p (Namer.start supply) = (.ok e, n) ∧
        .words (matchNodes o m) :: whereClause e = t := by
  rw [matching, Except.map_eq_ok_iff]
  constructor
  · rintro ⟨⟨u, n₁⟩, drawn, same⟩
    cases same
    obtain ⟨e, left, rfl⟩ := restriction_eq_ok_iff.1 drawn
    exact ⟨e, left, rfl⟩
  · rintro ⟨e, left, rfl⟩
    exact ⟨(whereClause e, n), restriction_eq_ok_iff.2 ⟨e, left, rfl⟩, rfl⟩

theorem matchUnder_eq_matching (o : Options) (m : Model) (p : Option Predicate)
    (supply : Supply) :
    matchUnder o m p supply =
      (matching o m p supply).map fun (t, n) => (t.text, Draft.ofTemplate t n) := by
  rw [matchUnder, Draft.start_eq_ofTemplate, Draft.restrict_ofTemplate, matching]
  cases restriction o p (Namer.start supply) with
  | error fault => rfl
  | ok drawn => simp [Except.map, bind, Except.bind, Draft.ofTemplate, Template.params]

/-- The part of a template with a count, which is left out if there is none. -/
def counting (word field : String) (count : Value) (n : Namer) : Template × Namer :=
  if count.truthy then
    ([.words (" " ++ word ++ " "), .slot (.draw n field count)], (n.name field).2)
  else ([], n)

theorem countClause_ofTemplate (word field : String) (count : Value) (t : Template)
    (n : Namer) :
    countClause word field count (Draft.ofTemplate t n) =
      ((counting word field count n).1.text,
        Draft.ofTemplate (t ++ (counting word field count n).1)
          (counting word field count n).2) := by
  simp only [countClause, counting]
  split
  · simp [Draft.bind_ofTemplate, String.append_assoc]
  · simp

/-- The part of a template that stands for the node with an id. -/
def nodePattern (o : Options) (m : Model) (id : Slot) : Template :=
  [.words ("(" ++ o.nodeName ++ ":" ++ m.label ++ " \x7b" ++ m.idName ++ ": "), .slot id,
    .words "\x7d)"]

/-! ### Operations -/

namespace Operation

/-- The template of a search. -/
def findTemplate (o : Options) (m : Model) (f : Filter) (supply : Supply) :
    Except Fault (Template × Namer) :=
  (matching o m f.where? supply).map fun (head, n) =>
    let (skip, n) := counting "SKIP" "skip" f.skip n
    let (limit, n) := counting "LIMIT" "limit" f.limit n
    (head ++ .words (returnClause o f.fields ++ orderClause o f.order) :: (skip ++ limit), n)

/-- The template of a statement about the node with an id. -/
def nodeTemplate (o : Options) (m : Model) (id : Value) (rest : String) (supply : Supply) :
    Template × Namer :=
  let n := Namer.start supply
  (.words "MATCH " :: (nodePattern o m (.draw n m.idName id) ++ [.words rest]),
    (n.name m.idName).2)

/-- The template of a statement about the nodes under a predicate. -/
def nodesTemplate (o : Options) (m : Model) (p : Option Predicate) (rest : String)
    (supply : Supply) : Except Fault (Template × Namer) :=
  (matching o m p supply).map fun (head, n) => (head ++ [.words rest], n)

/-- The end of a template that sets properties. -/
def setting (o : Options) (data : Value) (rest : String) (n : Namer) : Template × Namer :=
  ([.words (" SET " ++ o.nodeName ++ " += "), .slot (.draw n "properties" data), .words rest],
    (n.name "properties").2)

/-- The template of a statement that merges a node. -/
def mergeTemplate (o : Options) (m : Model) (id data : Value) (symbol : String)
    (supply : Supply) : Template × Namer :=
  let n := Namer.start supply
  let n' := (n.name m.idName).2
  let props : Slot := .draw n' "properties" data
  (.words "MERGE " :: (nodePattern o m (.draw n m.idName id) ++
      [.words (" ON CREATE SET " ++ o.nodeName ++ " = "), .slot props,
        .words (" ON MATCH SET " ++ o.nodeName ++ " " ++ symbol ++ " "), .reuse props,
        .words (" RETURN " ++ o.nodeName)]),
    (n'.name "properties").2)

/-- The id that a node is merged by, which has to be there. -/
def mergeId (m : Model) (data : Value) : Except Fault Value :=
  match data.member m.idName with
  | .error fault => .error (.shape fault)
  | .ok .null => .error (.compile (.idRequired m.idName m.name))
  | .ok id => .ok id

/-- The template of an operation, and the namer that is left. -/
def template (o : Options) (m : Model) (supply : Supply) :
    Operation → Except Fault (Template × Namer)
  | .find search => do findTemplate o m (← search.read o) supply
  | .findOne search => do findTemplate o m (← search.read o).single supply
  | .findById id => .ok (nodeTemplate o m id (" RETURN " ++ o.nodeName) supply)
  | .exists id =>
    .ok (nodeTemplate o m id (" RETURN COUNT(" ++ o.nodeName ++ ") > 0 AS exists") supply)
  | .count condition => do nodesTemplate o m (← condition.read o) (returnCount o) supply
  | .create data => do
    let n := Namer.start supply
    .ok ([.words ("CREATE (" ++ o.nodeName ++ ":" ++ m.label ++ " "),
      .slot (.draw n "properties" (← properties data)), .words (") RETURN " ++ o.nodeName)],
      (n.name "properties").2)
  | .save data => do
    .ok (mergeTemplate o m (← mergeId m data) (← properties data) "=" supply)
  | .updateOrCreate data => do
    .ok (mergeTemplate o m (← mergeId m data) (← properties data) "+=" supply)
  | .updateAttributes id data => do
    let (head, n) := nodeTemplate o m id "" supply
    let (tail, n) := setting o (← properties data) (" RETURN " ++ o.nodeName) n
    .ok (head ++ tail, n)
  | .updateAll condition data => do
    let (head, n) ← matching o m (← condition.read o) supply
    let (tail, n) := setting o (← properties data) (returnCount o) n
    .ok (head ++ tail, n)
  | .destroy id => .ok (nodeTemplate o m id (" DETACH DELETE " ++ o.nodeName) supply)
  | .destroyAll condition => do
    nodesTemplate o m (← condition.read o) (" DETACH DELETE " ++ o.nodeName ++ returnCount o) supply

/-- A template written down, and the supply that is left. -/
def written (drawn : Template × Namer) : Statement × Supply :=
  (⟨drawn.1.text, drawn.1.params⟩, drawn.2.supply)

theorem compileFind_eq_template (o : Options) (m : Model) (f : Filter) (supply : Supply) :
    compileFind o m f supply = (findTemplate o m f supply).map written := by
  rw [compileFind, matchUnder_eq_matching, findTemplate]
  cases matching o m f.where? supply with
  | error fault => rfl
  | ok drawn =>
    simp only [Except.map, bind, Except.bind, countClause_ofTemplate]
    simp [written, Template.params, String.append_assoc]

theorem compileMerge_eq_template (o : Options) (m : Model) (data : Value) (symbol : String)
    (supply : Supply) :
    compileMerge o m data symbol supply =
      (do
        .ok (written (mergeTemplate o m (← mergeId m data) (← properties data) symbol
          supply))) := by
  have merged (id props : Value) :
      (let named := (Draft.start supply).bind m.idName id
        let set := named.2.bind "properties" props
        set.2.finish ("MERGE " ++ nodeWithId o m named.1 ++ " ON CREATE SET " ++ o.nodeName ++ " = "
          ++ set.1 ++ " ON MATCH SET " ++ o.nodeName ++ " " ++ symbol ++ " " ++ set.1 ++ " RETURN "
          ++ o.nodeName)) = written (mergeTemplate o m id props symbol supply) := by
    simp [Draft.start_eq_ofTemplate, Draft.bind_ofTemplate, written, mergeTemplate, nodePattern,
      nodeWithId, Template.params, String.append_assoc, -String.reduceAppend]
  simp only [compileMerge, mergeId]
  cases data.member m.idName with
  | error fault => rfl
  | ok id =>
    cases properties data with
    | error fault => cases id <;> rfl
    | ok props =>
      -- a node without an id is refused before its properties are looked at
      cases id
      case null => rfl
      all_goals exact congrArg Except.ok (merged _ _)

theorem node_eq_template (o : Options) (m : Model) (id : Value) (rest : String)
    (supply : Supply) :
    (matchById o m id (Draft.start supply)).2.finish
        ((matchById o m id (Draft.start supply)).1 ++ rest) =
      written (nodeTemplate o m id rest supply) := by
  simp [matchById, Draft.start_eq_ofTemplate, Draft.bind_ofTemplate, written, nodeTemplate,
    nodePattern, nodeWithId, Template.params, String.append_assoc]

theorem nodes_eq_template (o : Options) (m : Model) (p : Option Predicate) (rest : String)
    (supply : Supply) :
    ((matchUnder o m p supply).map fun (head, d) => d.finish (head ++ rest)) =
      (nodesTemplate o m p rest supply).map written := by
  rw [matchUnder_eq_matching, nodesTemplate]
  cases matching o m p supply with
  | error fault => rfl
  | ok drawn =>
    simp [Except.map, written, Template.params]

/-- A statement is the template of its operation written down. -/
theorem compile_eq_template (o : Options) (m : Model) (supply : Supply) (op : Operation) :
    op.compile o m supply = (op.template o m supply).map written := by
  cases op with
  | find search | findOne search =>
    simp only [compile, template]
    cases search.read o with
    | error fault => rfl
    | ok f => exact compileFind_eq_template o m _ supply
  | findById id | «exists» id | destroy id =>
    -- the words behind the pattern of the node are put together in another order
    refine congrArg Except.ok (Eq.trans ?_ (node_eq_template o m id _ supply))
    simp only [String.append_assoc]
    rfl
  | count condition =>
    simp only [compile, template]
    cases condition.read o with
    | error fault => rfl
    | ok p => exact nodes_eq_template o m p _ supply
  | create data =>
    simp only [compile, template]
    cases properties data with
    | error fault => rfl
    | ok props =>
      refine congrArg Except.ok ?_
      simp [Draft.start_eq_ofTemplate, Draft.bind_ofTemplate, written, Template.params,
        String.append_assoc]
  | save data | updateOrCreate data =>
    rw [compile, template, compileMerge_eq_template]
    cases mergeId m data <;> cases properties data <;> rfl
  | updateAttributes id data =>
    simp only [compile, template]
    cases properties data with
    | error fault => rfl
    | ok props =>
      refine congrArg Except.ok ?_
      simp [matchById, Draft.start_eq_ofTemplate, Draft.bind_ofTemplate, written, nodeTemplate,
        setting, nodePattern, nodeWithId, Template.params, String.append_assoc,
        -String.reduceAppend]
  | updateAll condition data =>
    simp only [compile, template]
    cases condition.read o with
    | error fault => rfl
    | ok p =>
      simp only [bind, Except.bind, matchUnder_eq_matching]
      cases matching o m p supply with
      | error fault => rfl
      | ok drawn =>
        simp only [Except.map]
        cases properties data with
        | error fault => rfl
        | ok props =>
          refine congrArg Except.ok ?_
          simp [Draft.bind_ofTemplate, written, setting, Template.params, String.append_assoc]
  | destroyAll condition =>
    simp only [compile, template]
    cases condition.read o with
    | error fault => rfl
    | ok p =>
      refine Eq.trans ?_ (nodes_eq_template o m p _ supply)
      simp only [String.append_assoc]
      rfl

theorem exists_template_of_compile {o : Options} {m : Model} {supply rest : Supply}
    {op : Operation} {st : Statement} (done : op.compile o m supply = .ok (st, rest)) :
    ∃ t n, op.template o m supply = .ok (t, n) ∧ st = ⟨t.text, t.params⟩ ∧ rest = n.supply := by
  rw [compile_eq_template] at done
  obtain ⟨⟨t, n⟩, laid, same⟩ := Except.map_eq_ok_iff.1 done
  cases same
  exact ⟨t, n, laid, rfl, rfl⟩

end Operation

end Query

end GraphMapper
