import GraphMapper.Proofs.Query.Conditions

/-!
# When a statement has a condition

A statement about many nodes touches all of them exactly if its where condition asks for that: if
there is none, or if no condition in it, at whatever depth, is stated with a known operator. What is
no where condition at all never counts as one that asks for all nodes, but is refused.

## Main definitions

* `Query.Bulk` — the operations on all nodes under a where condition
* `Query.Statement.IsRestricted` — a statement has a condition

## Main results

* `Predicate.isSome_express_iff` — a predicate has an expression if there is a test in it
* `Bulk.not_isRestricted_compile_iff` — when a statement about many nodes has no condition
-/

namespace GraphMapper.Query

/-! ### Predicates of which something is left -/

namespace Predicate

variable {o : Options} {n n' : Namer} {p : Predicate} {ps : List Predicate}
  {es : List (Option (Expression Slot))}

theorem reduceOption_ne_nil_of_chained
    (chained : Chained (fun p _ e _ => e.isSome = true ↔ ∃ l ∈ p.leaves, l.isTest = true)
      ps n es n') :
    es.reduceOption ≠ [] ↔ ∃ l ∈ leavesAll ps, l.isTest = true := by
  induction chained with
  | nil => simp [leavesAll]
  | @cons p ps n n₁ n' e es first _ ih =>
    cases e with
    | none =>
      have nothing : ¬ ∃ l ∈ p.leaves, l.isTest = true := fun some => by simpa using first.2 some
      rw [List.reduceOption_cons_of_none, ih]
      constructor
      · rintro ⟨l, leaf, test⟩
        exact ⟨l, List.mem_append_right _ leaf, test⟩
      · rintro ⟨l, leaf, test⟩
        rcases List.mem_append.1 leaf with here | later
        · exact absurd ⟨l, here, test⟩ nothing
        · exact ⟨l, later, test⟩
    | some e =>
      obtain ⟨l, leaf, test⟩ := first.1 rfl
      rw [List.reduceOption_cons_of_some]
      exact ⟨fun _ => ⟨l, List.mem_append_left _ leaf, test⟩, fun _ => List.cons_ne_nil _ _⟩

/-- A predicate has an expression exactly if there is a test in it. -/
theorem isSome_express_iff {e : Option (Expression Slot)} (done : express o p n = (.ok e, n')) :
    e.isSome = true ↔ ∃ l ∈ p.leaves, l.isTest = true := by
  refine express_induction
    (motive := fun p _ e _ => e.isSome = true ↔ ∃ l ∈ p.leaves, l.isTest = true)
    ?group ?test ?unsupported ?foreign done
  case group =>
    intro op children n es n' chained
    rw [leaves, ← reduceOption_ne_nil_of_chained chained]
    cases es.reduceOption <;> simp [Expression.group?]
  case test => simp [leaves, isTest]
  case unsupported => simp [leaves, isTest]
  case foreign => simp [leaves, isTest]

theorem isSome_express?_iff {p : Option Predicate} {e : Option (Expression Slot)}
    (done : express? o p n = (.ok e, n')) :
    e.isSome = true ↔ ∃ l ∈ leaves? p, l.isTest = true := by
  cases p with
  | none =>
    cases done
    simp
  | some p => exact isSome_express_iff done

/-- A where condition that was read has an expression exactly if one of its conditions on fields is
stated with a known operator. -/
theorem isSome_express?_iff_of_ofWhere {strict : Bool} {w : Value} {p : Option Predicate}
    {e : Option (Expression Slot)} (read : ofWhere strict w = .ok p)
    (done : express? o p n = (.ok e, n')) :
    e.isSome = true ↔ ∃ c ∈ FieldCondition.ofWhere w, c.operator?.isSome = true := by
  -- what a condition on a field is read as is a test exactly if its operator is known
  have agree {c : FieldCondition} {l : Predicate}
      (found : ofCondition strict c.field c.condition = .ok l) :
      l.isTest = true ↔ c.operator?.isSome = true := by
    have leaf := leaf_of_ofCondition found
    split at leaf
    · next op operand known =>
      obtain ⟨op', operand', asked, rfl, -⟩ := leaf
      simp [isTest, known]
    · next unknown =>
      obtain ⟨name, operand, rfl⟩ := leaf
      simp [isTest, unknown]
  rw [isSome_express?_iff done]
  constructor
  · rintro ⟨l, leaf, test⟩
    obtain ⟨c, known, found⟩ := exists_condition_of_mem_leaves read leaf
    exact ⟨c, known, (agree found).1 test⟩
  · rintro ⟨c, known, supported⟩
    obtain ⟨l, leaf, found⟩ := exists_leaf_of_mem_conditions read known
    exact ⟨l, leaf, (agree found).2 supported⟩

end Predicate

/-! ### Statements about many nodes -/

/-- The operations on all nodes under a where condition. -/
inductive Bulk where
  /-- The nodes themselves. -/
  | find
  /-- Their number. -/
  | count
  /-- New properties for them. -/
  | updateAll (data : Value.Entries)
  /-- The end of them. -/
  | destroyAll

/-- The operation under a where condition. -/
def Bulk.under (w : Value) : Bulk → Operation
  | .find => .find (.value (.map [(.text "where", w)]))
  | .count => .count (.value w)
  | .updateAll data => .updateAll (.value w) (.map data)
  | .destroyAll => .destroyAll (.value w)

/-- Behind the clause that matches the nodes of the model, the statement has a condition. -/
def Statement.IsRestricted (o : Options) (m : Model) (st : Statement) : Prop :=
  ∃ rest, st.text = matchNodes o m ++ " WHERE " ++ rest

/-- The where condition asks for all nodes: it is null, or a mapping in which no condition on a
field, at whatever depth, is stated with a known operator. -/
def AsksForAll (w : Value) : Prop :=
  w = .null ∨ w.isMap = true ∧ ∀ c ∈ FieldCondition.ofWhere w, c.operator? = none

/-- The template starts with a blank and a letter that a condition does not start with. -/
def Template.Continues (t : Template) : Prop :=
  ∃ c more, c ≠ 'W' ∧ t.text.toList = ' ' :: c :: more

namespace Bulk

variable {o : Options} {m : Model} {supply rest : Supply} {w : Value} {st : Statement}
  {e : Option (Expression Slot)} {tail : Template}

/-- A statement has a condition if its predicate has an expression, whatever continues it. -/
theorem isRestricted_iff (continues : tail.Continues)
    (text : st.text = matchNodes o m ++ (whereClause e).text ++ tail.text) :
    st.IsRestricted o m ↔ e.isSome = true := by
  cases e with
  | none =>
    obtain ⟨c, more, other, spelled⟩ := continues
    rw [Option.isSome_none, Bool.false_eq_true, iff_false]
    rintro ⟨rest, restricted⟩
    have word : " WHERE ".toList = ' ' :: 'W' :: "HERE ".toList := by decide
    -- behind the clause that matches the nodes there is one text only
    rw [text, String.append_assoc, String.append_assoc, String.append_right_inj, whereClause,
      Option.elim_none, Template.text_nil, String.empty_append] at restricted
    rw [restricted, String.toList_append, word, List.cons_append, List.cons_append,
      List.cons_inj_right, List.cons_eq_cons] at spelled
    exact other spelled.1.symm
  | some e =>
    rw [Option.isSome_some, iff_true_right rfl]
    exact ⟨e.template.text ++ tail.text, by simp [text, whereClause, String.append_assoc]⟩

/-- A filter that is a where condition and nothing else. -/
theorem ofValue_where (o : Options) (w : Value) :
    Filter.ofValue o (.map [(.text "where", w)]) =
      (Filter.liftIssue (Predicate.ofWhere o.strictOperators w)).map fun p => { where? := p } := by
  have found : Value.getD [(.text "where", w)] "where" = w := by
    simp [Value.getD, Value.get?, Value.lookup?, Value.equals]
  have absent (key : String) (other : ("where" == key) = false) :
      Value.getD [(.text "where", w)] key = .null := by
    simp [Value.getD, Value.get?, Value.lookup?, Value.equals, other]
  rw [Filter.ofValue, found, absent "fields" rfl, absent "order" rfl, absent "skip" rfl,
    absent "limit" rfl, absent "include" rfl]
  cases Predicate.ofWhere o.strictOperators w <;> rfl

/-- The statement of an operation under a where condition: the clause that matches the nodes, the
condition, and what continues the statement. -/
theorem exists_text_of_compile {b : Bulk} (done : (b.under w).compile o m supply = .ok (st, rest)) :
    ∃ p e n tail, Predicate.ofWhere o.strictOperators w = .ok p ∧
      Predicate.express? o p (Namer.start supply) = (.ok e, n) ∧ Template.Continues tail ∧
      st.text = matchNodes o m ++ (whereClause e).text ++ tail.text := by
  obtain ⟨t, n, laid, rfl, -⟩ := Operation.exists_template_of_compile done
  cases b with
  | find =>
    obtain ⟨f, read, laid⟩ := Except.bind_eq_ok_iff.1 laid
    obtain ⟨p, condition, rfl⟩ := Except.map_eq_ok_iff.1 ((ofValue_where o w).symm.trans read)
    obtain ⟨⟨head, n₁⟩, matched, same⟩ := Except.map_eq_ok_iff.1 laid
    obtain ⟨e, left, rfl⟩ := matching_eq_ok_iff.1 matched
    cases same
    refine ⟨p, e, _, [.words (" RETURN " ++ o.nodeName)],
      Filter.liftIssue_eq_ok_iff.1 condition, left, ⟨'R', _, by decide, by simp; rfl⟩, ?_⟩
    simp [returnClause, orderClause, String.append_assoc]
  | count =>
    obtain ⟨p, read, laid⟩ := Except.bind_eq_ok_iff.1 laid
    obtain ⟨⟨head, n₁⟩, matched, same⟩ := Except.map_eq_ok_iff.1 laid
    obtain ⟨e, left, rfl⟩ := matching_eq_ok_iff.1 matched
    cases same
    refine ⟨p, e, _, [.words (Operation.returnCount o)], Filter.liftIssue_eq_ok_iff.1 read, left,
      ⟨'R', _, by decide, by simp [Operation.returnCount]; rfl⟩, ?_⟩
    simp [String.append_assoc]
  | updateAll data =>
    obtain ⟨p, read, laid⟩ := Except.bind_eq_ok_iff.1 laid
    obtain ⟨⟨head, n₁⟩, matched, laid⟩ := Except.bind_eq_ok_iff.1 laid
    obtain ⟨e, left, rfl⟩ := matching_eq_ok_iff.1 matched
    obtain ⟨props, known, laid⟩ := Except.bind_eq_ok_iff.1 laid
    cases laid
    refine ⟨p, e, _, (Operation.setting o props (Operation.returnCount o) n₁).1,
      Filter.liftIssue_eq_ok_iff.1 read, left,
      ⟨'S', _, by decide, by simp [Operation.setting]; rfl⟩, ?_⟩
    simp [Operation.setting, String.append_assoc]
  | destroyAll =>
    obtain ⟨p, read, laid⟩ := Except.bind_eq_ok_iff.1 laid
    obtain ⟨⟨head, n₁⟩, matched, same⟩ := Except.map_eq_ok_iff.1 laid
    obtain ⟨e, left, rfl⟩ := matching_eq_ok_iff.1 matched
    cases same
    refine ⟨p, e, _, [.words (" DETACH DELETE " ++ o.nodeName ++ Operation.returnCount o)],
      Filter.liftIssue_eq_ok_iff.1 read, left, ⟨'D', _, by decide, by simp; rfl⟩, ?_⟩
    simp [String.append_assoc]

/-- A statement about many nodes has no condition exactly if its where condition asks for all of
them; and what is no where condition is refused. -/
theorem not_isRestricted_compile_iff (b : Bulk) (o : Options) (m : Model) (supply : Supply)
    (w : Value) :
    (∀ st rest, (b.under w).compile o m supply = .ok (st, rest) →
      (¬ st.IsRestricted o m ↔ AsksForAll w)) ∧
    (w ≠ .null → w.isMap = false →
      ∃ issue, (b.under w).compile o m supply = .error (.compile issue)) := by
  constructor
  · intro st rest done
    obtain ⟨p, e, n, tail, read, drawn, continues, text⟩ := exists_text_of_compile done
    rw [isRestricted_iff continues text, Predicate.isSome_express?_iff_of_ofWhere read drawn]
    -- what has been read is null or a mapping
    cases w with
    | null => simp [AsksForAll, FieldCondition.ofWhere]
    | map entries => simp [AsksForAll, Value.isMap]
    | _ => cases read
  · intro some bare
    have refused : Predicate.ofWhere o.strictOperators w =
        .error (.whereShape w.shortTypeName) := by
      cases w with
      | null => exact absurd rfl some
      | map entries => cases bare
      | _ => rfl
    refine ⟨.whereShape w.shortTypeName, ?_⟩
    cases b with
    | find =>
      simp only [under, Operation.compile, Search.read, ofValue_where, refused]
      rfl
    | _ =>
      simp only [under, Operation.compile, Condition.read, refused]
      rfl

/-- A group with an unknown operator and an empty group in it restricts nothing, so all nodes are
deleted; with a test next to them there is a condition, and the empty list is refused. -/
theorem not_isRestricted_compile_iff_dropped :
    let near : Value := .map [(.text "age", .map [(.text "near", .int 1)])]
    let dropped : Value := .map [(.text "or", .list [near, .map [(.text "and", .list [])]])]
    let tested : Value := .map [(.text "or", .list [near, .map [(.text "name", .null)]])]
    let compile (w : Value) := (destroyAll.under w).compile {} { name := "Person" } .counting
    ∃ st rest st' rest' issue,
      compile dropped = .ok (st, rest) ∧ ¬ st.IsRestricted {} { name := "Person" } ∧
      compile tested = .ok (st', rest') ∧ st'.IsRestricted {} { name := "Person" } ∧
      compile (.list []) = .error (.compile issue) := by
  intro near dropped tested compile
  have compiles : (compile dropped).isOk = true := by decide +kernel
  have compiles' : (compile tested).isOk = true := by decide +kernel
  have asks : ((FieldCondition.ofWhere dropped).all fun c => c.operator?.isNone) = true := by
    decide +kernel
  have asks' : ((FieldCondition.ofWhere tested).any fun c => c.operator?.isSome) = true := by
    decide +kernel
  obtain ⟨⟨st, rest⟩, done⟩ := Except.exists_eq_ok_of_isOk compiles
  obtain ⟨⟨st', rest'⟩, done'⟩ := Except.exists_eq_ok_of_isOk compiles'
  obtain ⟨issue, refused⟩ := (not_isRestricted_compile_iff destroyAll {} { name := "Person" }
    .counting (.list [])).2 Value.noConfusion rfl
  have all := (not_isRestricted_compile_iff destroyAll {} _ _ dropped).1 st rest done
  have some := (not_isRestricted_compile_iff destroyAll {} _ _ tested).1 st' rest' done'
  refine ⟨st, rest, st', rest', issue, done, all.2 (.inr ⟨rfl, ?_⟩), done', ?_, refused⟩
  · simpa using asks
  · refine not_not.1 (mt some.1 ?_)
    rintro (null | ⟨-, nothing⟩)
    · simp [tested] at null
    · obtain ⟨c, known, supported⟩ := List.any_eq_true.1 asks'
      simp [nothing c known] at supported

end Bulk

end GraphMapper.Query
