import GraphMapper.Proofs.Query.Collisions
import GraphMapper.Proofs.Query.Restriction
import GraphMapper.Proofs.Value.Entries

/-!
# What bulk statements select

The statements about all nodes under a where condition begin alike: they match the nodes of the
model and restrict them by the fragment that the condition compiles to. What they do with the nodes
stands behind that, and so does the one value that an update binds for itself. So the nodes that
are counted are the nodes that are returned, changed and deleted.

## Main definitions

* `Query.Fragment.clause` — the clause that restricts a statement to a fragment
* `Query.Bulk.ending`, `Query.Bulk.bindings` — what a bulk statement does with the selected nodes
* `Query.Filter.limitedTo` — a filter with another limit, as a value still to be read

## Main results

* `Bulk.compile_under` — a bulk statement is its selection and its ending
* `Bulk.selects_alike` — all bulk statements under one condition select the same nodes
-/

namespace GraphMapper.Query

/-! ### Names that end in no digit -/

namespace Slot

variable {a b : Slot}

/-- A slot whose field does not end in a digit runs into no other: digits are all that stands behind
the field of the other. -/
theorem not_runsInto_of_getLast? (last : ∀ c ∈ a.stem.getLast?, isHexDigit c = false)
    (digits : ∀ c ∈ b.hex.toList, isHexDigit c = true) : ¬ a.RunsInto b := by
  rintro ⟨more, nonempty, stem, same⟩
  have final := last (more.getLast nonempty) (by
    rw [stem, List.getLast?_append_of_ne_nil _ nonempty, List.getLast?_eq_some_getLast nonempty]
    rfl)
  have member : more.getLast nonempty ∈ b.hex.toList ++ b.indexDigits.toList :=
    same ▸ List.mem_append_left _ (List.getLast_mem nonempty)
  rcases List.mem_append.1 member with hex | index
  · rw [digits _ hex] at final
    cases final
  · rw [isHexDigit, isDigit_of_mem_indexDigits index, Bool.true_or] at final
    cases final

end Slot

/-! ### Fragments in statements -/

/-- The clause that restricts a statement to a fragment; none if it says nothing. -/
def Fragment.clause (f : Fragment) : String := if f.isEmpty then "" else " WHERE " ++ f.text

namespace Predicate

variable {o : Options} {p : Option Predicate} {n n' : Namer} {f : Fragment}

theorem exists_express?_of_compile? (done : compile? o p n = (.ok f, n')) :
    ∃ e, express? o p n = (.ok e, n') ∧ Fragment.ofExpression? e = f := by
  rw [compile?_eq_express?, Prod.mk.injEq, Except.map_eq_ok_iff] at done
  obtain ⟨⟨e, found, written⟩, left⟩ := done
  exact ⟨e, Prod.ext found left, written⟩

theorem params_ofExpression? (e : Option (Expression Slot)) :
    (Fragment.ofExpression? e).params =
      Bindings.merge [] ((Expression.slots? e).map Slot.binding) := by
  cases e <;> rfl

/-- The parameters of a fragment are bound as they are where nothing else has been bound. -/
theorem merge_nil_params (done : compile? o p n = (.ok f, n')) :
    Bindings.merge [] f.params = f.params := by
  obtain ⟨e, -, rfl⟩ := exists_express?_of_compile? done
  rw [params_ofExpression?, Bindings.merge_merge_nil]

/-- A fragment that says nothing has no parameters. -/
theorem params_of_isEmpty (done : compile? o p n = (.ok f, n')) (empty : f.isEmpty = true) :
    f.params = [] := by
  obtain ⟨e, drawn, rfl⟩ := exists_express?_of_compile? done
  cases e with
  | none => rfl
  | some e =>
    rw [Fragment.ofExpression?, Fragment.isEmpty_ofExpression (fits_of_express? drawn)] at empty
    cases empty

end Predicate

/-! ### Selecting nodes -/

section

variable {o : Options} {m : Model} {supply : Supply} {w : Value} {p : Option Predicate}
  {f : Fragment} {n : Namer} {fault : Fault}

theorem matchUnder_of_compile? (done : Predicate.compile? o p (Namer.start supply) = (.ok f, n)) :
    matchUnder o m p supply = .ok (matchNodes o m ++ f.clause, ⟨n, f.params⟩) := by
  simp only [matchUnder, Draft.restrict, Draft.start, done, Fragment.clause]
  by_cases empty : f.isEmpty = true
  · rw [if_pos empty, if_pos empty, Predicate.params_of_isEmpty done empty]
    rfl
  · rw [if_neg empty, if_neg empty, Predicate.merge_nil_params done]
    rfl

theorem matchUnder_of_compile?_eq_error
    (refused : Predicate.compile? o p (Namer.start supply) = (.error fault, n)) :
    matchUnder o m p supply = .error fault := by
  simp only [matchUnder, Draft.restrict, Draft.start, refused]
  rfl

/-- Reading a where condition and matching nodes under it is matching them under the fragment that
the condition compiles to. -/
theorem read_bind_matchUnder (o : Options) (m : Model) (w : Value) (supply : Supply) :
    ((Condition.value w).read o >>= fun p => matchUnder o m p supply) =
      (Predicate.compileWhere o w (Namer.start supply)).1.map fun f =>
        (matchNodes o m ++ f.clause,
          ⟨(Predicate.compileWhere o w (Namer.start supply)).2, f.params⟩) := by
  rw [Condition.read, Predicate.compileWhere]
  cases Predicate.ofWhere o.strictOperators w with
  | error issue => rfl
  | ok p =>
    rcases done : Predicate.compile? o p (Namer.start supply) with ⟨fault | f, n⟩
    · simp only [done]
      exact matchUnder_of_compile?_eq_error done
    · simp only [done]
      exact matchUnder_of_compile? done

end

/-! ### Bulk statements -/

namespace Bulk

/-- What a bulk statement does with the selected nodes, if its own value has the given name. -/
def ending (o : Options) (name : String) : Bulk → String
  | .find => " RETURN " ++ o.nodeName
  | .count => Operation.returnCount o
  | .updateAll _ =>
    " SET " ++ o.nodeName ++ " += " ++ Fragment.placeholder name ++ Operation.returnCount o
  | .destroyAll => " DETACH DELETE " ++ o.nodeName ++ Operation.returnCount o

/-- What a bulk statement binds besides its condition, under the given name. -/
def bindings (name : String) : Bulk → Bindings
  | .updateAll data => [(name, .map data)]
  | .find | .count | .destroyAll => []

/-- The supply behind a bulk statement. -/
def supplyAfter (n : Namer) : Bulk → Supply
  | .updateAll _ => (n.name "properties").2.supply
  | .find | .count | .destroyAll => n.supply

/-- The statement of a bulk operation on the nodes that a fragment selects. -/
def statement (o : Options) (m : Model) (f : Fragment) (n : Namer) (b : Bulk) : Statement :=
  ⟨matchNodes o m ++ f.clause ++ b.ending o (n.fresh "properties"),
    f.params.merge (b.bindings (n.fresh "properties"))⟩

variable {o : Options} {m : Model} {supply : Supply} {w : Value} {f : Fragment} {n : Namer}

/-- A filter with nothing but a condition returns the nodes as they are. -/
theorem compileFind_where (o : Options) (m : Model) (p : Option Predicate) (supply : Supply) :
    Operation.compileFind o m { where? := p } supply =
      matchUnder o m p supply >>= fun drawn =>
        .ok (drawn.2.finish (drawn.1 ++ (" RETURN " ++ o.nodeName))) := by
  rw [Operation.compileFind]
  cases matchUnder o m p supply with
  | error fault => rfl
  | ok drawn =>
    simp [bind, Except.bind, countClause, Value.truthy, returnClause, orderClause]

/-- A bulk statement matches the nodes under its condition and goes on with its ending. -/
theorem compile_under_eq_bind (b : Bulk) (o : Options) (m : Model) (supply : Supply) (w : Value) :
    (b.under w).compile o m supply =
      ((Condition.value w).read o >>= fun p => matchUnder o m p supply) >>= fun drawn =>
        .ok (⟨drawn.1 ++ b.ending o (drawn.2.namer.fresh "properties"),
          drawn.2.params.merge (b.bindings (drawn.2.namer.fresh "properties"))⟩,
          b.supplyAfter drawn.2.namer) := by
  cases b with
  | find =>
    have found : (under w .find).compile o m supply =
        Filter.ofValue o (.map [(.text "where", w)]) >>= fun f =>
          Operation.compileFind o m f supply := rfl
    -- a filter that has a condition only is refused exactly where the condition is
    rw [found, ofValue_where, Condition.read, bind_assoc]
    cases Filter.liftIssue (Predicate.ofWhere o.strictOperators w) with
    | error fault => rfl
    | ok p => exact compileFind_where o m p supply
  | count =>
    rw [bind_assoc]
    rfl
  | updateAll data =>
    have text (head name : String) :
        head ++ " SET " ++ o.nodeName ++ " += " ++ Fragment.placeholder name ++
          Operation.returnCount o =
        head ++ (" SET " ++ o.nodeName ++ " += " ++ Fragment.placeholder name ++
          Operation.returnCount o) := by
      simp only [String.append_assoc]
    rw [bind_assoc]
    refine bind_congr fun p => bind_congr fun drawn => ?_
    obtain ⟨head, d⟩ := drawn
    let name := d.namer.fresh "properties"
    exact congrArg (fun text => Except.ok ((⟨text, d.params.bind name (.map data)⟩ : Statement),
      d.namer.supply.advance)) (text head name)
  | destroyAll =>
    have text (head : String) :
        head ++ " DETACH DELETE " ++ o.nodeName ++ Operation.returnCount o =
        head ++ (" DETACH DELETE " ++ o.nodeName ++ Operation.returnCount o) := by
      simp only [String.append_assoc]
    rw [bind_assoc]
    refine bind_congr fun p => bind_congr fun drawn => ?_
    obtain ⟨head, d⟩ := drawn
    exact congrArg (fun text => Except.ok ((⟨text, d.params⟩ : Statement), d.namer.supply))
      (text head)

/-- A bulk statement is made of the fragment that its condition compiles to; it is refused for
nothing else. -/
theorem compile_under (b : Bulk) (o : Options) (m : Model) (supply : Supply) (w : Value) :
    (b.under w).compile o m supply =
      (Predicate.compileWhere o w (Namer.start supply)).1.map fun f =>
        (b.statement o m f (Predicate.compileWhere o w (Namer.start supply)).2,
          b.supplyAfter (Predicate.compileWhere o w (Namer.start supply)).2) := by
  rw [compile_under_eq_bind, read_bind_matchUnder]
  cases (Predicate.compileWhere o w (Namer.start supply)).1 <;> rfl

/-- The property map of an update has a name that no value of its condition has. -/
theorem fresh_properties_notMem {p : Option Predicate} (hex : supply.Hexadecimal)
    (distinct : Set.InjOn supply.hex
      (Set.Ico supply.drawn (n.name "properties").2.supply.drawn))
    (done : Predicate.compile? o p (Namer.start supply) = (.ok f, n)) :
    n.fresh "properties" ∉ f.params.names := by
  obtain ⟨e, drawn, rfl⟩ := Predicate.exists_express?_of_compile? done
  let own : Slot := .draw n "properties" .null
  have whole : Draws (Namer.start supply) (n.name "properties").2
      (Expression.slots? e ++ [own]) :=
    (Predicate.draws? drawn).append (.single _ _ _)
  rw [Predicate.params_ofExpression?, Bindings.names_merge_nil, List.mem_eraseDups, Bindings.names,
    List.map_map, List.mem_map]
  rintro ⟨s, member, same⟩
  have before := List.mem_append_left [own] member
  have last : own ∈ Expression.slots? e ++ [own] :=
    List.mem_append_right _ (List.mem_singleton.2 rfl)
  have length : s.hex.length = own.hex.length := by
    rw [whole.length_hex hex before, whole.length_hex hex last]
  have keys : (s.hex, s.index?) ≠ (own.hex, own.index?) := by
    have each := whole.nodup_keys distinct
    rw [List.map_append, List.nodup_append] at each
    exact each.2.2 _ (List.mem_map_of_mem member) _ (List.mem_singleton.2 rfl)
  have digits : ∀ c ∈ s.hex.toList, isHexDigit c = true := by
    obtain ⟨k, -, drawn⟩ := whole.exists_hex_eq before
    exact drawn ▸ (hex k).2
  have ending : ∀ c ∈ (nameBase "properties").getLast?, isHexDigit c = false := by
    intro c last
    have letter : (nameBase "properties").getLast? = some 's' := by decide +kernel
    obtain rfl : 's' = c := Option.some.inj (letter.symm.trans last)
    rfl
  have apart : s.Apart own :=
    ⟨fun runs => runs.index?_ne_none length rfl, Slot.not_runsInto_of_getLast? ending digits⟩
  refine (Slot.apart_iff_name_ne length keys).1 apart ?_
  rw [Slot.name_draw]
  exact same

end Bulk

/-! ### Limits -/

namespace Filter

/-- The value with another limit, as it may be given for a filter; null is given for a filter
without entries. -/
def limitedTo (v : Value) (limit : Nat) : Value :=
  let entries : Value.Entries := match v with
    | .map entries => entries
    | _ => []
  .map (Value.insert entries (.text "limit") (.int limit))

/-- With another limit a filter is read as it is, but for its limit. -/
theorem ofValue_limitedTo {o : Options} {v : Value} {f : Filter} (read : ofValue o v = .ok f)
    (limit : Nat) : ofValue o (limitedTo v limit) = .ok { f with limit := .int limit } := by
  have counted : count "limit" (.int limit) = .ok (.int limit) := by
    rw [count, nonNegative, if_neg (by omega)]
  have relimited {entries : Value.Entries} (read : ofValue o (.map entries) = .ok f) :
      ofValue o (limitedTo (.map entries) limit) = .ok { f with limit := .int limit } := by
    have kept (key : String) (other : "limit" ≠ key) :
        Value.getD (Value.insert entries (.text "limit") (.int limit)) key =
          Value.getD entries key := Value.getD_insert_of_ne other
    simp only [limitedTo, ofValue] at read ⊢
    rw [kept "where" (by decide), kept "fields" (by decide), kept "order" (by decide),
      kept "skip" (by decide), kept "include" (by decide), Value.getD_insert_self, counted]
    obtain ⟨where?, condition, read⟩ := Except.bind_eq_ok_iff.1 read
    obtain ⟨fields, projection, read⟩ := Except.bind_eq_ok_iff.1 read
    obtain ⟨order, sorting, read⟩ := Except.bind_eq_ok_iff.1 read
    obtain ⟨skip, skipping, read⟩ := Except.bind_eq_ok_iff.1 read
    obtain ⟨_, -, read⟩ := Except.bind_eq_ok_iff.1 read
    cases read
    rw [condition, projection, sorting, skipping]
    rfl
  cases v with
  | null =>
    -- what null describes is what a mapping without entries describes
    have none : ofValue o (.map []) = ofValue o .null := rfl
    exact relimited (none.trans read)
  | map entries => exact relimited read
  | _ => cases read

end Filter

/-! ### One selection for all -/

namespace Bulk

variable {o : Options} {m : Model} {supply : Supply} {w : Value} {f : Fragment} {n : Namer}

/-- The parameters of the condition come first in a bulk statement, with their own values. -/
theorem params_isPrefix (b : Bulk) (hex : supply.Hexadecimal)
    (distinct : Set.InjOn supply.hex (Set.Ico supply.drawn (b.supplyAfter n).drawn))
    (compiled : Predicate.compileWhere o w (Namer.start supply) = (.ok f, n)) :
    f.params <+: (b.statement o m f n).params := by
  cases b with
  | find | count | destroyAll => exact List.prefix_rfl
  | updateAll data =>
    obtain ⟨p, -, done⟩ : ∃ p, Predicate.ofWhere o.strictOperators w = .ok p ∧
        Predicate.compile? o p (Namer.start supply) = (.ok f, n) := by
      rw [Predicate.compileWhere] at compiled
      split at compiled
      · cases compiled
      · next p read => exact ⟨p, read, compiled⟩
    have new := fresh_properties_notMem hex distinct done
    refine ⟨[(n.fresh "properties", .map data)], ?_⟩
    exact (Bindings.bind_of_notMem new).symm

/-- All bulk statements under one where condition are refused alike, or select the same nodes: they
begin with the clause that matches the nodes of the model and the clause of the condition, and they
bind the parameters of the condition first. The statement for one node is the statement for many
nodes with the limit one. -/
theorem selects_alike (o : Options) (m : Model) (supply : Supply) :
    (∀ w : Value,
      (∃ fault, ∀ b : Bulk, (b.under w).compile o m supply = .error fault) ∨
      ∃ f n, Predicate.compileWhere o w (Namer.start supply) = (.ok f, n) ∧
        ∀ b : Bulk, ∃ st rest, (b.under w).compile o m supply = .ok (st, rest) ∧
          st.text = matchNodes o m ++ f.clause ++ b.ending o (n.fresh "properties") ∧
          st.params = f.params.merge (b.bindings (n.fresh "properties")) ∧
          (supply.Hexadecimal → Set.InjOn supply.hex (Set.Ico supply.drawn rest.drawn) →
            f.params <+: st.params)) ∧
    ∀ v f, Filter.ofValue o v = .ok f →
      (Operation.findOne (.value v)).compile o m supply =
          (Operation.find (.filter { f with limit := .int 1 })).compile o m supply ∧
      (Operation.findOne (.value v)).compile o m supply =
          (Operation.find (.value (Filter.limitedTo v 1))).compile o m supply := by
  constructor
  · intro w
    rcases compiled : Predicate.compileWhere o w (Namer.start supply) with ⟨fault | f, n⟩
    · refine .inl ⟨fault, fun b => ?_⟩
      rw [compile_under, compiled]
      rfl
    · refine .inr ⟨f, n, rfl, fun b => ⟨b.statement o m f n, b.supplyAfter n, ?_, rfl, rfl, ?_⟩⟩
      · rw [compile_under, compiled]
        rfl
      · intro hex distinct
        exact b.params_isPrefix hex distinct compiled
  · intro v f read
    have single : (Operation.findOne (.value v)).compile o m supply =
        (Operation.find (.filter { f with limit := .int 1 })).compile o m supply := by
      simp only [Operation.compile, Search.read, read]
      rfl
    refine ⟨single, single.trans ?_⟩
    simp only [Operation.compile, Search.read, Filter.ofValue_limitedTo read 1]
    rfl

/-- A field of the same name as the property map of an update does not get in its way: the nodes
that are deleted are the nodes that are updated, and the first of them is found under the limit
one. -/
theorem selects_alike_update :
    let w : Value := .map [(.text "properties", .map [(.text "inq", .list [.text "a", .null])]),
      (.text "age", .int 18)]
    let v : Value := .map [(.text "where", w), (.text "limit", .text "7")]
    let m : Model := { name := "Person" }
    let update : Bulk := .updateAll [(.text "seen", .bool true)]
    ∃ (f : Fragment) (name : String) (st : Statement) (rest : Supply) (st' : Statement)
        (rest' : Supply), (destroyAll.under w).compile {} m .counting = .ok (st, rest) ∧
      (update.under w).compile {} m .counting = .ok (st', rest') ∧
      st.text = matchNodes {} m ++ f.clause ++ destroyAll.ending {} name ∧
      st'.text = matchNodes {} m ++ f.clause ++ update.ending {} name ∧
      st.params = f.params ∧ f.params <+: st'.params ∧
      (Operation.findOne (.value v)).compile {} m .counting =
        (Operation.find (.value (Filter.limitedTo v 1))).compile {} m .counting := by
  intro w v m update
  have compiles : ((destroyAll.under w).compile {} m .counting).isOk = true := by decide +kernel
  have drawn : ((update.under w).compile {} m .counting).toOption.map (·.2.drawn) = some 3 := by
    decide +kernel
  have reads : (Filter.ofValue {} v).isOk = true := by decide +kernel
  obtain ⟨found, read⟩ := Except.exists_eq_ok_of_isOk reads
  obtain ⟨alike, single⟩ := selects_alike {} m .counting
  rcases alike w with ⟨fault, refused⟩ | ⟨f, n, -, selects⟩
  · rw [refused destroyAll] at compiles
    cases compiles
  · obtain ⟨st, rest, done, text, params, -⟩ := selects destroyAll
    obtain ⟨st', rest', done', text', -, kept⟩ := selects update
    rw [done'] at drawn
    have few : rest'.drawn = 3 := by simpa [Except.toOption] using drawn
    have distinct : Set.InjOn Supply.counting.hex
        (Set.Ico Supply.counting.drawn rest'.drawn) := by
      intro i left j right same
      exact Supply.counting_inj (by have := left.2; omega) (by have := right.2; omega) same
    exact ⟨f, n.fresh "properties", st, rest, st', rest', done, done', text, text', params,
      kept Supply.hexadecimal_counting distinct, (single v found read).2⟩

end Bulk

end GraphMapper.Query
