import GraphMapper.Proofs.Query.Placeholders
import GraphMapper.Proofs.Query.Reading

/-!
# The names that a predicate takes

A predicate is compiled with a namer that may have issued names before and will issue more names
afterwards. The namer is handed from leaf to leaf, also through groups of which nothing is left, and
each leaf takes as many names as it has values to bind; all items of a list share one. If a leaf is
refused, the names that were taken so far stay taken. What a leaf binds is named by what it took.

## Main definitions

* `Query.Namer.names`, `Query.Namer.after` — the names that are next for some fields, and the namer
  that has issued them
* `Query.Predicate.takes` — the fields that a leaf takes names for
* `Query.Predicate.Refused` — a leaf is refused, after it has taken some names
* `Query.Predicate.keys` — the parameters that a leaf binds under the names it has taken
* `Query.Predicate.Served`, `Query.Predicate.Stopped` — all leaves have taken their names, or those
  in front of one that was refused
* `Query.Predicate.compileWheres` — where conditions that are compiled with one namer

## Main results

* `Predicate.served_of_express` — a predicate that is expressed takes the names of all its leaves
* `Predicate.stopped_of_express` — one that is not takes names up to the leaf that is refused
* `Predicate.exists_segments` — where conditions divide the names among them
* `Predicate.threads_namer` — a namer is only extended, and a fragment uses its own names only
-/

namespace GraphMapper.Query

/-! ### Names for several fields -/

namespace Namer

/-- The names that are next for some fields. -/
def names (n : Namer) (fields : List String) : List String :=
  fields.mapIdx fun k field =>
    String.ofList (nameBase field) ++ n.supply.hex (n.supply.drawn + k)

/-- The namer that has issued the next names for some fields. -/
def after (n : Namer) (fields : List String) : Namer :=
  fields.foldl (fun n field => (n.name field).2) n

variable {n : Namer} {field : String} {fields more : List String}

@[simp] theorem names_nil : n.names [] = [] := rfl

@[simp] theorem after_nil : n.after [] = n := rfl

theorem names_cons :
    n.names (field :: fields) = n.fresh field :: (n.name field).2.names fields := by
  simp [names, fresh, Supply.current, List.mapIdx_cons, Nat.add_assoc, Nat.add_comm 1]

theorem after_cons : n.after (field :: fields) = (n.name field).2.after fields := rfl

theorem after_append : n.after (fields ++ more) = (n.after fields).after more :=
  List.foldl_append

theorem names_append :
    n.names (fields ++ more) = n.names fields ++ (n.after fields).names more := by
  induction fields generalizing n with
  | nil => rfl
  | cons field fields ih => rw [List.cons_append, names_cons, names_cons, ih]; rfl

/-- What was issued before stays in front. -/
theorem issued_after : (n.after fields).issued = n.issued ++ n.names fields := by
  induction fields generalizing n with
  | nil => simp
  | cons field fields ih =>
    rw [after_cons, ih, names_cons, issued_name, List.append_assoc]
    rfl

end Namer

/-! ### What a leaf takes -/

/-- The number of names that a test takes: one for each value to be bound, and a single one for all
items of a list. -/
def Comparison.nameCount (operand : Value) : Comparison → Nat
  | .isNull => 0
  | .eq | .neq => if operand.isNull then 0 else 1
  | .between => 2
  | .gt | .gte | .lt | .lte | .isIn | .notIn | .like | .notLike => 1

namespace Predicate

/-- The fields that a leaf takes names for, one after the other. -/
def takes : Predicate → List String
  | .test field op operand => List.replicate (op.nameCount operand) field
  | .group _ _ | .unsupported _ _ _ | .foreign _ => []

/-- A leaf is refused, after it has taken names for some fields. The ends of a range are looked at
before a name is taken for them, the items of a list only afterwards. -/
inductive Refused (o : Options) : Predicate → Fault → List String → Prop
  | range {field : String} {operand : Value} {fault : ShapeFault} :
      rangeEnds operand = .error fault →
      Refused o (.test field .between operand) (.shape fault) []
  | membership {field : String} {op : Comparison} {operand : Value} {fault : ShapeFault} :
      op = .isIn ∨ op = .notIn → operand.items = .error fault →
      Refused o (.test field op operand) (.shape fault) [field]
  | unsupported {field name : String} {operand : Value} : o.strictOperators = true →
      Refused o (.unsupported field name operand) (.compile (.unsupportedOperator name field)) []
  | foreign {value : Value} : value.isNull = false →
      Refused o (.foreign value) (.compile (.notAPredicate value)) []

/-- A leaf is not refused. -/
def Accepted (o : Options) (l : Predicate) : Prop := ∀ fault fields, ¬ l.Refused o fault fields

/-- The parameters that a leaf binds under the names it has taken: one under each name, or one for
each item of a list, under the name with the place of the item behind it. -/
def keys (names : List String) : Predicate → List String
  | .test _ .isIn operand | .test _ .notIn operand =>
    names.flatMap fun name =>
      (List.range (operand.items.toOption.getD []).length).map fun i => name ++ toString i
  | _ => names

/-- The parameters that leaves bind, each under the names that are next when it is its turn. -/
def keysFrom (n : Namer) : List Predicate → List String
  | [] => []
  | l :: ls => l.keys (n.names l.takes) ++ keysFrom (n.after l.takes) ls

variable {o : Options} {n n' : Namer} {l p : Predicate} {ls ps : List Predicate}

theorem keysFrom_append {more : List Predicate} :
    keysFrom n (ls ++ more) = keysFrom n ls ++ keysFrom (n.after (ls.flatMap takes)) more := by
  induction ls generalizing n with
  | nil => rfl
  | cons l ls ih =>
    rw [List.cons_append, keysFrom, keysFrom, ih, List.flatMap_cons, Namer.after_append,
      List.append_assoc]

/-- Every parameter is bound by one of the leaves. -/
theorem mem_keysFrom_iff {key : String} :
    key ∈ keysFrom n ls ↔ ∃ before l later, ls = before ++ l :: later ∧
      key ∈ l.keys ((n.after (before.flatMap takes)).names l.takes) := by
  constructor
  · intro member
    induction ls generalizing n with
    | nil => cases member
    | cons l ls ih =>
      rcases List.mem_append.1 member with first | member
      · exact ⟨[], l, ls, rfl, first⟩
      · obtain ⟨before, l', later, rfl, found⟩ := ih member
        refine ⟨l :: before, l', later, rfl, ?_⟩
        rwa [List.flatMap_cons, Namer.after_append]
  · rintro ⟨before, l, later, rfl, found⟩
    rw [keysFrom_append]
    exact List.mem_append_right _ (List.mem_append_left _ found)

/-- A parameter is named by a name that was taken, or by one with an index behind it. -/
theorem exists_of_mem_keys {names : List String} {key : String} (member : key ∈ l.keys names) :
    key ∈ names ∨ ∃ base ∈ names, ∃ i : Nat, key = base ++ toString i := by
  unfold keys at member
  split at member
  · obtain ⟨base, known, index⟩ := List.mem_flatMap.1 member
    obtain ⟨i, -, rfl⟩ := List.mem_map.1 index
    exact .inr ⟨base, known, i, rfl⟩
  · obtain ⟨base, known, index⟩ := List.mem_flatMap.1 member
    obtain ⟨i, -, rfl⟩ := List.mem_map.1 index
    exact .inr ⟨base, known, i, rfl⟩
  · exact .inl member

/-! ### Predicates that are compiled -/

/-- What a test asks for takes the names of the test. -/
theorem after_of_draw {field : String} {op : Comparison} {operand : Value} {negate : Bool}
    {demand : Demand} (asked : op.demand operand = .ok (negate, demand)) :
    (demand.draw o field n).2 = n.after (test field op operand).takes := by
  cases op with
  | isNull | gt | gte | lt | lte | like | notLike =>
    cases asked
    rfl
  | eq | neq =>
    cases null : operand.isNull <;>
      · simp only [Comparison.demand, null] at asked
        cases asked
        simp [takes, Comparison.nameCount, null, Demand.draw, Namer.after]
  | between | isIn | notIn =>
    obtain ⟨_, _, same⟩ := Except.map_eq_ok_iff.1 asked
    cases same
    rfl

/-- What a test asks for is bound to the parameters of the test. -/
theorem map_name_of_draw {field : String} {op : Comparison} {operand : Value} {negate : Bool}
    {demand : Demand} (asked : op.demand operand = .ok (negate, demand)) :
    ((demand.draw o field n).1.negatedIf negate).template.slots.map Slot.name =
      (test field op operand).keys (n.names (test field op operand).takes) := by
  have same : ((demand.draw o field n).1.negatedIf negate).template.slots =
      (demand.draw o field n).1.template.slots := by
    cases negate <;> rfl
  rw [same]
  cases op with
  | isNull =>
    cases asked
    rfl
  | gt | gte | lt | lte | like | notLike =>
    cases asked
    simp [Demand.draw, Expression.template, Test.template, takes, Comparison.nameCount, keys,
      Namer.names_cons]
  | eq | neq =>
    cases null : operand.isNull <;>
      · simp only [Comparison.demand, null] at asked
        cases asked
        simp [Demand.draw, Expression.template, Test.template, takes, Comparison.nameCount, keys,
          null, Namer.names_cons]
  | between =>
    obtain ⟨_, _, same⟩ := Except.map_eq_ok_iff.1 asked
    cases same
    simp [Demand.draw, Expression.template, Test.template, Template.joined_cons_cons, takes,
      Comparison.nameCount, keys, Namer.names_cons, List.replicate]
  | isIn | notIn =>
    obtain ⟨items, known, same⟩ := Except.map_eq_ok_iff.1 asked
    cases same
    -- all items share one name, with their places behind it
    have named : (Slot.drawAll n field items).map Slot.name =
        (List.range items.length).map fun i => n.fresh field ++ toString i := by
      refine List.ext_getElem? fun i => ?_
      by_cases inside : i < items.length <;>
        simp [Slot.drawAll, inside, Slot.name, Slot.indexDigits, Namer.fresh]
    simp [Demand.draw, Expression.template, Test.slots_template_isIn, named, takes,
      Comparison.nameCount, keys, known, Except.toOption, Namer.names_cons]

/-- A test that asks for something is not refused. -/
theorem accepted_of_demand {field : String} {op : Comparison} {operand : Value}
    {asked : Bool × Demand} (known : op.demand operand = .ok asked) :
    (test field op operand).Accepted o := by
  rintro fault fields (failed | ⟨which, failed⟩ | _ | _)
  · rw [Comparison.demand, failed] at known
    cases known
  · rcases which with rfl | rfl <;>
      · rw [Comparison.demand, failed] at known
        cases known

/-- Every leaf has taken its names and has bound parameters under them. -/
structure Served (o : Options) (ls : List Predicate) (n : Namer) (bound : List String)
    (n' : Namer) : Prop where
  /-- The names were taken one leaf after the other. -/
  after : n' = n.after (ls.flatMap takes)
  /-- No leaf was refused. -/
  accepted : ∀ l ∈ ls, l.Accepted o
  /-- These are the parameters that were bound. -/
  bound : bound = keysFrom n ls

/-- A leaf was refused, and the leaves in front of it have taken their names. -/
inductive Stopped (o : Options) (n : Namer) : List Predicate → Fault → Namer → Prop
  | intro {before later : List Predicate} {l : Predicate} {fault : Fault} {fields : List String} :
      (∀ k ∈ before, k.Accepted o) → l.Refused o fault fields →
      Stopped o n (before ++ l :: later) fault (n.after (before.flatMap takes ++ fields))

theorem Served.nil (o : Options) (n : Namer) : Served o [] n [] n := ⟨rfl, by simp, rfl⟩

theorem Stopped.single {fault : Fault} {fields : List String} (refused : l.Refused o fault fields) :
    Stopped o n [l] fault (n.after fields) :=
  @Stopped.intro o n [] [] l fault fields (by simp) refused

theorem Served.append {n₁ : Namer} {bound bound' : List String} {more : List Predicate}
    (first : Served o ls n bound n₁) (rest : Served o more n₁ bound' n') :
    Served o (ls ++ more) n (bound ++ bound') n' where
  after := by rw [rest.after, first.after, List.flatMap_append, Namer.after_append]
  accepted := List.forall_mem_append.2 ⟨first.accepted, rest.accepted⟩
  bound := by rw [keysFrom_append, first.bound, rest.bound, first.after]

theorem Served.stopped {n₁ : Namer} {bound : List String} {more : List Predicate} {fault : Fault}
    (first : Served o ls n bound n₁) (rest : Stopped o n₁ more fault n') :
    Stopped o n (ls ++ more) fault n' := by
  obtain ⟨accepted, refused⟩ := rest
  rw [first.after, ← Namer.after_append, ← List.append_assoc, ← List.append_assoc,
    ← List.flatMap_append]
  exact .intro (List.forall_mem_append.2 ⟨first.accepted, accepted⟩) refused

theorem Stopped.append {fault : Fault} (stopped : Stopped o n ls fault n')
    (more : List Predicate) : Stopped o n (ls ++ more) fault n' := by
  obtain ⟨accepted, refused⟩ := stopped
  rw [List.append_assoc, List.cons_append]
  exact .intro accepted refused

open Expression (slots? slots?_some slots?_group?)

theorem served_of_chained {es : List (Option (Expression Slot))}
    (chained : Chained (fun p n e n' => Served o p.leaves n ((slots? e).map Slot.name) n')
      ps n es n') :
    Served o (leavesAll ps) n ((es.flatMap slots?).map Slot.name) n' := by
  induction chained with
  | nil n => exact .nil o n
  | cons first _ ih =>
    rw [leavesAll, List.flatMap_cons, List.map_append]
    exact first.append ih

/-- A predicate that is expressed takes the names of all its leaves. -/
theorem served_of_express {e : Option (Expression Slot)} (done : express o p n = (.ok e, n')) :
    Served o p.leaves n ((slots? e).map Slot.name) n' := by
  refine express_induction
    (motive := fun p n e n' => Served o p.leaves n ((slots? e).map Slot.name) n')
    ?group ?test ?unsupported ?foreign done
  case group =>
    intro op children n es n' chained
    rw [slots?_group?, leaves]
    exact served_of_chained chained
  case test =>
    intro field op operand n negate demand asked
    refine ⟨?_, List.forall_mem_singleton.2 (accepted_of_demand asked), ?_⟩
    · rw [after_of_draw asked, leaves, List.flatMap_singleton]
      all_goals simp
    · rw [slots?_some, map_name_of_draw asked, leaves, keysFrom, keysFrom, List.append_nil]
      all_goals simp
  case unsupported =>
    intro field name operand n loose
    refine ⟨rfl, List.forall_mem_singleton.2 ?_, rfl⟩
    rintro fault fields (_ | _ | strict | _)
    rw [loose] at strict
    cases strict
  case foreign =>
    intro value n null
    refine ⟨rfl, List.forall_mem_singleton.2 ?_, rfl⟩
    rintro fault fields (_ | _ | _ | some)
    rw [null] at some
    cases some

theorem stopped_of_expressTest {field : String} {op : Comparison} {operand : Value}
    {fault : Fault} (failed : expressTest o field op operand n = (.error fault, n')) :
    Stopped o n [test field op operand] fault n' := by
  rw [expressTest] at failed
  cases asked : op.demand operand with
  | ok asked => simp [asked] at failed
  | error shape =>
    rw [asked] at failed
    cases failed
    -- only ranges and lists have operands that do not fit
    cases op with
    | between =>
      cases ends : rangeEnds operand with
      | ok ends' => simp [Comparison.demand, ends, Except.map] at asked
      | error shape' =>
        rw [Comparison.demand, ends] at asked
        cases asked
        exact .single (.range ends)
    | isIn | notIn =>
      cases items : operand.items with
      | ok items' => simp [Comparison.demand, items, Except.map] at asked
      | error shape' =>
        rw [Comparison.demand, items] at asked
        cases asked
        exact .single (.membership (by simp) items)
    | _ => cases asked

theorem stopped_of_expressAll {fault : Fault}
    (each : ∀ p ∈ ps, ∀ n n' fault, express o p n = (.error fault, n') →
      Stopped o n p.leaves fault n')
    (failed : expressAll o ps n = (.error fault, n')) : Stopped o n (leavesAll ps) fault n' := by
  induction ps generalizing n with
  | nil => cases failed
  | cons p ps ih =>
    rw [List.forall_mem_cons] at each
    rw [expressAll] at failed
    -- either the first predicate is refused, or it has taken its names and a later one is refused
    rcases first : express o p n with ⟨_ | e, n₁⟩
    · rw [first] at failed
      cases failed
      exact (each.1 _ _ _ first).append _
    · rw [first] at failed
      rcases rest : expressAll o ps n₁ with ⟨_ | es, n₂⟩
      · simp only [rest] at failed
        cases failed
        exact (served_of_express first).stopped (ih each.2 rest)
      · simp [rest] at failed

/-- A predicate that is not expressed takes names up to the leaf that is refused. -/
theorem stopped_of_express {fault : Fault} (failed : express o p n = (.error fault, n')) :
    Stopped o n p.leaves fault n' := by
  induction p generalizing n n' fault with
  | group op children ih =>
    rw [express] at failed
    rcases all : expressAll o children n with ⟨_ | es, n₁⟩
    · rw [all] at failed
      cases failed
      exact stopped_of_expressAll (fun p member n n' fault => ih p member) all
    · simp [all] at failed
  | test field op operand =>
    rw [express] at failed
    rcases one : expressTest o field op operand n with ⟨_ | e, n₁⟩
    · rw [one] at failed
      cases failed
      exact stopped_of_expressTest one
    · simp [one] at failed
  | unsupported field name operand =>
    rw [express] at failed
    split at failed
    · next strict =>
      cases failed
      exact .single (.unsupported strict)
    · cases failed
  | «foreign» value =>
    rw [express] at failed
    split at failed
    · cases failed
    · next some =>
      cases failed
      exact .single (.foreign (eq_false_of_ne_true some))

/-! ### Fragments -/

/-- A fragment binds every parameter of its expression once. -/
theorem names_ofExpression? (e : Option (Expression Slot)) :
    (Fragment.ofExpression? e).params.names = ((slots? e).map Slot.name).eraseDups := by
  cases e with
  | none => rfl
  | some e => exact e.template.names_params

/-- A fragment shows the parameters that it binds and no others. -/
theorem placeholders_ofExpression? {e : Option (Expression Slot)}
    (done : express o p n = (.ok e, n')) (hex : n.supply.Hexadecimal)
    (nodeName : '$' ∉ o.nodeName.toList) (fields : ∀ field ∈ p.fields, '$' ∉ field.toList) :
    placeholders (Fragment.ofExpression? e).text.toList = (slots? e).map Slot.name := by
  cases e with
  | none => rfl
  | some e =>
    have tested : e.Over fun node key => '$' ∉ node.toList ∧ '$' ∉ key.toList :=
      (over_of_express done).imp fun node key known => ⟨known.1 ▸ nodeName, fields key known.2⟩
    have proper (s : Slot) (member : s ∈ e.template.slots) : isParameterName s.name = true :=
      (draws done).isParameterName_of_mem hex member
    have shown := Template.placeholders_text (Expression.delimited tested)
      fun s place c => isNameChar_of_isParameterName (proper s (e.places_template ▸ place))
    rw [e.places_template] at shown
    exact shown

theorem exists_express_of_compile {f : Fragment} (done : compile o p n = (.ok f, n')) :
    ∃ e, express o p n = (.ok e, n') ∧ Fragment.ofExpression? e = f := by
  rw [compile_eq_express, Prod.mk.injEq, Except.map_eq_ok_iff] at done
  obtain ⟨⟨e, left, written⟩, rfl⟩ := done
  exact ⟨e, Prod.ext left rfl, written⟩

theorem express_of_compile_eq_error {fault : Fault} (failed : compile o p n = (.error fault, n')) :
    express o p n = (.error fault, n') := by
  rw [compile_eq_express] at failed
  rcases left : express o p n with ⟨_ | e, n₁⟩
  · rw [left] at failed
    cases failed
    rfl
  · simp [left, Except.map] at failed

/-! ### Where conditions that share a namer -/

/-- The fragments of where conditions that are compiled with one namer, and the namer that is left.
What was issued before a fault stays issued. -/
def compileWheres (o : Options) : List Value → Namer → List (Except Fault Fragment) × Namer
  | [], n => ([], n)
  | w :: ws, n =>
    let (r, n) := compileWhere o w n
    let (rs, n) := compileWheres o ws n
    (r :: rs, n)

/-- A fragment is named by names of a segment: by one of them, or by one with an index behind it. -/
def NamedWithin (segment : List String) (f : Fragment) : Prop :=
  ∀ key ∈ f.params.names, key ∈ segment ∨ ∃ base ∈ segment, ∃ i : Nat, key = base ++ toString i

/-- What is bound while leaves take their names is named by these names. -/
theorem exists_of_mem_keysFrom {key : String} (member : key ∈ keysFrom n ls) :
    key ∈ n.names (ls.flatMap takes) ∨
      ∃ base ∈ n.names (ls.flatMap takes), ∃ i : Nat, key = base ++ toString i := by
  obtain ⟨before, l, later, rfl, found⟩ := mem_keysFrom_iff.1 member
  have inside {name : String} (taken : name ∈ (n.after (before.flatMap takes)).names l.takes) :
      name ∈ n.names ((before ++ l :: later).flatMap takes) := by
    rw [List.flatMap_append, List.flatMap_cons, Namer.names_append, Namer.names_append]
    exact List.mem_append_right _ (List.mem_append_left _ taken)
  rcases exists_of_mem_keys found with taken | ⟨base, taken, i, rfl⟩
  · exact .inl (inside taken)
  · exact .inr ⟨base, inside taken, i, rfl⟩

/-- A where condition adds a segment to the names issued, and its fragment is named within it. -/
theorem exists_segment (o : Options) (w : Value) (n : Namer) :
    ∃ segment, (compileWhere o w n).2.issued = n.issued ++ segment ∧
      ∀ f, (compileWhere o w n).1 = .ok f → NamedWithin segment f := by
  rw [compileWhere]
  cases ofWhere o.strictOperators w with
  | error issue =>
    -- a condition that is not read takes no names
    exact ⟨[], by simp, by simp⟩
  | ok p? =>
    cases p? with
    | none =>
      refine ⟨[], by simp [compile?], ?_⟩
      rintro f ⟨⟩ key ⟨⟩
    | some p =>
      simp only [compile?]
      rcases compiled : compile o p n with ⟨fault | f, n'⟩
      · have stopped := stopped_of_express (express_of_compile_eq_error compiled)
        generalize p.leaves = ls at stopped
        obtain ⟨accepted, refused⟩ := stopped
        exact ⟨_, Namer.issued_after, by simp⟩
      · obtain ⟨e, left, rfl⟩ := exists_express_of_compile compiled
        have served := served_of_express left
        refine ⟨_, by rw [served.after, Namer.issued_after], ?_⟩
        rintro f ⟨⟩ key member
        rw [names_ofExpression?, List.mem_eraseDups, served.bound] at member
        exact exists_of_mem_keysFrom member

/-- Where conditions add their segments one after the other. -/
theorem exists_segments (o : Options) (ws : List Value) (n : Namer) :
    ∃ segments : List (List String),
      (∀ k, (compileWheres o (ws.take k) n).2.issued = n.issued ++ (segments.take k).flatten) ∧
      List.Forall₂ (fun segment r => ∀ f, r = .ok f → NamedWithin segment f) segments
        (compileWheres o ws n).1 := by
  induction ws generalizing n with
  | nil => exact ⟨[], by simp [compileWheres], .nil⟩
  | cons w ws ih =>
    obtain ⟨segment, issued, named⟩ := exists_segment o w n
    obtain ⟨segments, rest, others⟩ := ih (compileWhere o w n).2
    refine ⟨segment :: segments, fun k => ?_, .cons named others⟩
    cases k with
    | zero => simp [compileWheres]
    | succ k => simp [compileWheres, rest, issued]

/-- A namer that predicates share is handed from leaf to leaf and only ever extended. A predicate
that is compiled, under whatever was issued before, adds the names that its leaves take, in their
order; one that is refused adds those of the leaves in front of the one that is refused, and what
that one took. The parameters of a fragment are those that its leaves bind under their own names,
and no others show in its text. So where conditions that are compiled one after the other, some of
them in vain, divide what is issued among them, and the fragment of each is named by its own
names. -/
theorem threads_namer (o : Options) :
    (∀ (p : Predicate) (n n' : Namer) (f : Fragment), compile o p n = (.ok f, n') →
      (∀ l ∈ p.leaves, l.Accepted o) ∧
      n' = n.after (p.leaves.flatMap takes) ∧
      n'.issued = n.issued ++ n.names (p.leaves.flatMap takes) ∧
      (∀ key, key ∈ f.params.names ↔ ∃ before l later, p.leaves = before ++ l :: later ∧
        key ∈ l.keys ((n.after (before.flatMap takes)).names l.takes)) ∧
      (n.supply.Hexadecimal → '$' ∉ o.nodeName.toList →
        (∀ field ∈ p.fields, '$' ∉ field.toList) →
        ∀ name, name ∈ placeholders f.text.toList ↔ name ∈ f.params.names)) ∧
    (∀ (p : Predicate) (n n' : Namer) (fault : Fault), compile o p n = (.error fault, n') →
      ∃ before l later fields, p.leaves = before ++ l :: later ∧
        (∀ k ∈ before, k.Accepted o) ∧ l.Refused o fault fields ∧
        n' = n.after (before.flatMap takes ++ fields) ∧
        n'.issued = n.issued ++ n.names (before.flatMap takes ++ fields)) ∧
    ∀ (ws : List Value) (n : Namer), ∃ segments : List (List String),
      (∀ k, (compileWheres o (ws.take k) n).2.issued = n.issued ++ (segments.take k).flatten) ∧
      List.Forall₂ (fun segment r => ∀ f, r = .ok f → NamedWithin segment f) segments
        (compileWheres o ws n).1 := by
  refine ⟨fun p n n' f done => ?_, fun p n n' fault failed => ?_, exists_segments o⟩
  · obtain ⟨e, left, rfl⟩ := exists_express_of_compile done
    have served := served_of_express left
    have bound (key : String) : key ∈ (Fragment.ofExpression? e).params.names ↔
        key ∈ keysFrom n p.leaves := by
      rw [names_ofExpression?, List.mem_eraseDups, served.bound]
    refine ⟨served.accepted, served.after, ?_, fun key => (bound key).trans mem_keysFrom_iff, ?_⟩
    · rw [served.after, Namer.issued_after]
    · intro hex nodeName fields name
      rw [placeholders_ofExpression? left hex nodeName fields, served.bound, bound]
  · have stopped := stopped_of_express (express_of_compile_eq_error failed)
    generalize p.leaves = ls at stopped ⊢
    obtain ⟨accepted, refused⟩ := stopped
    exact ⟨_, _, _, _, rfl, accepted, refused, rfl, Namer.issued_after⟩

/-- With a namer that has issued a name before, a range and an empty list take three more; an
operator without a counterpart between them keeps what was taken in front of it. -/
theorem threads_namer_shared :
    let o : Options := { strictOperators := true }
    let n : Namer := (Namer.start .counting).after ["id"]
    let range : Predicate := .test "age" .between (.tuple [.int 18, .int 65])
    let listed : Predicate := .test "tag" .notIn (.tuple [])
    let near : Predicate := .unsupported "place" "near" (.int 1)
    (∃ f n', compile o (.group .or [range, listed]) n = (.ok f, n') ∧
      n'.issued = n.issued ++ n.names ["age", "age", "tag"] ∧
      ∀ name, name ∈ placeholders f.text.toList ↔ name ∈ f.params.names) ∧
    ∃ fault n' fields, compile o (.group .or [listed, near, range]) n = (.error fault, n') ∧
      n'.issued = n.issued ++ n.names fields := by
  intro o n range listed near
  have compiles : (compile o (.group .or [range, listed]) n).1.isOk = true := by decide +kernel
  have fails : (compile o (.group .or [listed, near, range]) n).1.isOk = false := by decide +kernel
  have fields : ∀ field ∈ (group .or [range, listed]).fields, '$' ∉ field.toList := by
    decide +kernel
  constructor
  · obtain ⟨f, done⟩ := Except.exists_eq_ok_of_isOk compiles
    obtain ⟨-, -, issued, -, shown⟩ :=
      (threads_namer o).1 (.group .or [range, listed]) n _ f (Prod.ext done rfl)
    exact ⟨f, _, Prod.ext done rfl, issued,
      shown Supply.hexadecimal_counting (by decide +kernel) fields⟩
  · cases failed : (compile o (.group .or [listed, near, range]) n).1 with
    | ok f =>
      rw [failed] at fails
      cases fails
    | error fault =>
      obtain ⟨before, l, later, fields, -, -, -, -, issued⟩ :=
        (threads_namer o).2.1 _ n _ fault (Prod.ext failed rfl)
      exact ⟨fault, _, _, Prod.ext failed rfl, issued⟩

end Predicate

end GraphMapper.Query
