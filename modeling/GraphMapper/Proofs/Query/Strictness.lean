import GraphMapper.Proofs.Query.Entries
import GraphMapper.Proofs.Query.Layout
import GraphMapper.Proofs.Query.Reading

/-!
# Strict options only refuse

The options can ask for operators and sort orders to be written strictly. Where a strict reader
accepts what it reads, a loose reader reads the same; so a statement that is compiled under strict
options is compiled to the same text and parameters under loose ones. The two readers of a sort
entry have little in common: one looks for a word at the front, the other for a direction at the
end.

## Main definitions

* `Except.ExtendedBy` — whatever one computation yields, another one yields too
* `Query.Options.Relaxes` — options that are strict in nothing that others are not strict in

## Main results

* `SortKey.ofLooseToken_of_ofStrictToken?` — the two readers of a sort entry agree
* `Operation.compile_of_relaxes` — a statement stays what it is under looser options
-/

namespace GraphMapper

namespace Except

variable {ε α β : Type} {x x' : Except ε α}

/-- What the first computation yields, the second one yields too. -/
def ExtendedBy (x x' : Except ε α) : Prop := ∀ a, x = .ok a → x' = .ok a

namespace ExtendedBy

theorem refl (x : Except ε α) : ExtendedBy x x := fun _ done => done

theorem bind {f f' : α → Except ε β} (first : ExtendedBy x x')
    (next : ∀ a, ExtendedBy (f a) (f' a)) : ExtendedBy (x >>= f) (x' >>= f') := by
  intro b done
  obtain ⟨a, found, rest⟩ := bind_eq_ok_iff.1 done
  exact bind_eq_ok_iff.2 ⟨a, first a found, next a b rest⟩

theorem mapM {f f' : β → Except ε α} {bs : List β}
    (each : ∀ b ∈ bs, ExtendedBy (f b) (f' b)) : ExtendedBy (bs.mapM f) (bs.mapM f') := by
  induction bs with
  | nil => exact refl _
  | cons b bs ih =>
    rw [List.mapM_cons, List.mapM_cons]
    have later := ih fun c member => each c (List.mem_cons_of_mem b member)
    exact (each b List.mem_cons_self).bind fun _ => later.bind fun _ => refl _

end ExtendedBy

end Except

open GraphMapper.Except (ExtendedBy)

namespace Query

/-- The first options name the node as the second ones do, and they are not strict where those are
loose. -/
structure Options.Relaxes (o' o : Options) : Prop where
  /-- The name of the node is the same. -/
  node : o'.nodeName = o.nodeName
  /-- Operators are strict only if they were. -/
  operators : o'.strictOperators = true → o.strictOperators = true
  /-- Directions are strict only if they were. -/
  direction : o'.strictDirection = true → o.strictDirection = true

/-- Nothing is looser than what is not strict at all. -/
theorem Options.relaxes_loose (o : Options) :
    Relaxes { o with strictOperators := false, strictDirection := false } o :=
  ⟨rfl, Bool.noConfusion, Bool.noConfusion⟩

/-! ### Where conditions -/

namespace Predicate

theorem ofCondition_of_relaxed {strict strict' : Bool} (relaxed : strict' = true → strict = true)
    (field : String) (condition : Value) :
    ExtendedBy (ofCondition strict field condition) (ofCondition strict' field condition) := by
  intro p read
  match condition with
  | .map ((name, operand) :: rest) =>
    simp only [ofCondition, ofOperators] at read ⊢
    split at read
    · cases read
    · next single =>
      -- what is not refused strictly is not refused at all
      have single' : ¬ (strict' && !rest.isEmpty) = true := by
        intro several
        rw [Bool.and_eq_true] at single several
        exact single ⟨relaxed several.1, several.2⟩
      rw [if_neg single']
      exact read
  | .map [] | .null | .bool _ | .int _ | .float _ | .text _ | .list _ | .tuple _ | .set _
  | .datetime _ | .date _ => exact read

theorem ofWhere_of_relaxed {strict strict' : Bool} (relaxed : strict' = true → strict = true)
    (w : Value) : ExtendedBy (ofWhere strict w) (ofWhere strict' w) := by
  let motive : ReadingMotive :=
    { entry := fun key v p => ofEntry strict' key v = .ok p
      conditions := fun key vs ps => ofConditions strict' key vs = .ok ps
      entries := fun es ps => ofEntries strict' es = .ok ps }
  -- by induction on what the strict reader does: the readers differ at single fields only
  have step : motive.Inductive strict := by
    refine ⟨?field, ?group, fun _ => rfl, ?condition, rfl, ?oneEntry⟩
    case field =>
      intro key v p known read
      have found := ofCondition_of_relaxed relaxed key v p read
      simp only [motive, ofEntry_of_field v known, found, Except.map]
    case group =>
      intro key op v items ps known sequence found
      simp only [motive] at found ⊢
      rw [ofEntry_of_connective known sequence, found]
      rfl
    case condition =>
      intro key entries rest nodes others first later
      simp only [motive] at first later ⊢
      rw [ofConditions, first, later]
      rfl
    case oneEntry =>
      intro key v rest p others first later
      simp only [motive] at first later ⊢
      rw [ofEntries, first, later]
      rfl
  intro p read
  cases w with
  | null => exact read
  | map entries =>
    obtain ⟨nodes, found, rfl⟩ := Except.map_eq_ok_iff.1 read
    have found' : ofEntries strict' entries = .ok nodes := ofEntries_induction step entries found
    rw [ofWhere, found']
    rfl
  | _ => cases read

end Predicate

variable {o o' : Options}

namespace Predicate

theorem express_of_relaxes (relaxed : o'.Relaxes o) {p : Predicate} {n n' : Namer}
    {e : Option (Expression Slot)} (done : express o p n = (.ok e, n')) :
    express o' p n = (.ok e, n') := by
  refine express_induction (motive := fun p n e n' => express o' p n = (.ok e, n'))
    ?group ?test ?unsupported ?foreign done
  case group =>
    intro op children n es n' chained
    exact express_group_eq_ok_iff.2 ⟨es, expressAll_of_chained chained, rfl⟩
  case test =>
    intro field op operand n negate demand asked
    -- a test is written with the name of the node and nothing else of the options
    have drawn : demand.draw o' field n = demand.draw o field n := by
      cases demand <;> simp only [Demand.draw, relaxed.node]
    exact express_test_eq_ok_iff.2 ⟨negate, demand, asked, by rw [drawn], by rw [drawn]⟩
  case unsupported =>
    intro field name operand n loose
    have loose' : o'.strictOperators = false := by
      rw [← Bool.not_eq_true] at loose ⊢
      exact mt relaxed.operators loose
    exact express_unsupported_eq_ok_iff.2 ⟨loose', rfl, rfl⟩
  case foreign => exact fun value n null => express_foreign_eq_ok_iff.2 ⟨null, rfl, rfl⟩

theorem express?_of_relaxes (relaxed : o'.Relaxes o) {p : Option Predicate} {n n' : Namer}
    {e : Option (Expression Slot)} (done : express? o p n = (.ok e, n')) :
    express? o' p n = (.ok e, n') := by
  cases p with
  | none => exact done
  | some p => exact express_of_relaxes relaxed done

end Predicate

/-! ### Sort orders -/

namespace SortKey

open Text

variable {cs word blanks rest : List Char}

theorem not_isBlank_of_matchesLetter {u c : Char} (upper : isBlank u = false)
    (lower : isBlank u.toLower = false) (same : matchesLetter u c = true) : isBlank c = false := by
  simp only [matchesLetter, Bool.or_eq_true, Bool.and_eq_true, beq_iff_eq] at same
  obtain ((rfl | rfl) | ⟨-, rfl⟩) | ⟨-, rfl⟩ := same
  · exact upper
  · exact lower
  · decide
  · decide

/-- There is no blank in a word for a direction. -/
theorem not_isBlank_of_directionOf? {d : Direction} (known : directionOf? word = some d) :
    ∀ c ∈ word, isBlank c = false := by
  have spelled {letters : List Char} (same : eqIgnoringCase letters word = true)
      (plain : (letters.all fun u => !isBlank u && !isBlank u.toLower) = true) :
      ∀ c ∈ word, isBlank c = false := by
    intro c member
    rw [eqIgnoringCase, Bool.and_eq_true, beq_iff_eq, List.all_eq_true] at same
    simp only [List.all_eq_true, Bool.and_eq_true, Bool.not_eq_true'] at plain
    obtain ⟨i, bound, rfl⟩ := List.getElem_of_mem member
    have bound' : i < letters.length := same.1 ▸ bound
    have both : (letters[i], word[i]) ∈ letters.zip word := by
      rw [List.mem_iff_getElem]
      exact ⟨i, by rw [List.length_zip]; exact Nat.lt_min.2 ⟨bound', bound⟩, by simp⟩
    have plainLetter := plain _ (List.getElem_mem bound')
    exact not_isBlank_of_matchesLetter plainLetter.1 plainLetter.2 (same.2 _ both)
  rw [directionOf?] at known
  split at known
  · next same => exact spelled same (by decide)
  · split at known
    · next same => exact spelled same (by decide)
    · cases known

/-- The last word is what stands behind the last blank. -/
theorem splitLastWord_append {front : List Char} (plain : ∀ c ∈ word, isBlank c = false)
    (blank : ∀ c ∈ front.getLast?, isBlank c = true) :
    splitLastWord (front ++ word) = (front, word) := by
  have plain' : ∀ c ∈ word.reverse, (!isBlank c) = true := by
    intro c member
    rw [plain c (List.mem_reverse.1 member)]
    rfl
  -- read from behind, the word is followed by a blank or by nothing
  have stops : front.reverse.takeWhile (!isBlank ·) = [] := by
    cases reversed : front.reverse with
    | nil => rfl
    | cons c _ =>
      have last : c ∈ front.getLast? := by
        rw [← List.head?_reverse, reversed]
        rfl
      rw [List.takeWhile_cons_of_neg (by simp [blank c last])]
  have keeps : front.reverse.dropWhile (!isBlank ·) = front.reverse := by
    have whole := List.takeWhile_append_dropWhile (p := (!isBlank ·)) (l := front.reverse)
    rwa [stops] at whole
  rw [splitLastWord, List.reverse_append, List.takeWhile_append_of_pos plain',
    List.dropWhile_append_of_pos plain', stops, keeps]
  simp

/-- A word ends where the blanks begin. -/
theorem takeWhile_dropWhile_ne_nil (left : cs.dropWhile (!isBlank ·) ≠ []) :
    (cs.dropWhile (!isBlank ·)).takeWhile isBlank ≠ [] := by
  have first := List.head_dropWhile_not (!isBlank ·) left
  obtain ⟨c, rest, shape⟩ := List.exists_cons_of_ne_nil left
  simp only [shape, List.head_cons, Bool.not_eq_eq_eq_not, Bool.not_false] at first
  rw [shape, List.takeWhile_cons_of_pos first]
  exact List.cons_ne_nil _ _

/-- A trimmed entry that is read strictly is a single word, or a word and a direction with blanks
between them. -/
theorem exists_word_of_ofStrictToken? {token : String} {key : SortKey}
    (trimmed : ∀ c ∈ token.toList.getLast?, isBlank c = false)
    (read : ofStrictToken? token = some key) :
    ((∀ c ∈ token.toList, isBlank c = false) ∧ key = ⟨token, .ascending⟩) ∨
    ∃ word blanks rest, token.toList = word ++ blanks ++ rest ∧
      (word ≠ [] ∧ ∀ c ∈ word, isBlank c = false) ∧
      (blanks ≠ [] ∧ ∀ c ∈ blanks, isBlank c = true) ∧
      ∃ d, directionOf? rest = some d ∧ key = ⟨String.ofList word, d⟩ := by
  let later := token.toList.dropWhile (!isBlank ·)
  let word := token.toList.takeWhile (!isBlank ·)
  let blanks := later.takeWhile isBlank
  let rest := later.dropWhile isBlank
  have split : token.toList = word ++ blanks ++ rest := by
    rw [List.append_assoc, List.takeWhile_append_dropWhile, List.takeWhile_append_dropWhile]
  have plain : ∀ c ∈ word, isBlank c = false := fun c member => by
    simpa using List.mem_takeWhile_imp member
  have blank : ∀ c ∈ blanks, isBlank c = true := fun c member => List.mem_takeWhile_imp member
  simp only [ofStrictToken?] at read
  change (if word.isEmpty then none else if rest.isEmpty then _ else (directionOf? rest).map _) = _
    at read
  split at read
  · cases read
  · next some =>
    have some : word ≠ [] := by simpa using some
    split at read
    · next none =>
      have none : rest = [] := by simpa using none
      rw [none, List.append_nil] at split
      -- the entry would end in a blank if there were any
      have noBlank : blanks = [] := by
        by_contra left
        have last := List.getLast?_append_of_ne_nil word left
        rw [← split, List.getLast?_eq_some_getLast left] at last
        have notBlank := trimmed _ last
        rw [blank _ (List.getLast_mem left)] at notBlank
        cases notBlank
      rw [noBlank, List.append_nil] at split
      cases read
      exact .inl ⟨split ▸ plain, rfl⟩
    · obtain ⟨d, known, rfl⟩ := Option.map_eq_some_iff.1 read
      have left : later ≠ [] := by
        intro none
        rw [show rest = later.dropWhile isBlank from rfl, none] at known
        cases known
      have some' : blanks ≠ [] := takeWhile_dropWhile_ne_nil left
      exact .inr ⟨word, blanks, rest, split, ⟨some, plain⟩, ⟨some', blank⟩, d, known, rfl⟩

/-- Read loosely, an entry that ends in a direction has what stands in front of it as its field. -/
theorem ofLooseToken_of_direction {token : String} {d : Direction} {front : List Char}
    (split : token.toList = front ++ blanks ++ rest) (filled : front ≠ [])
    (head : ∀ c ∈ front.head?, isBlank c = false) (last : ∀ c ∈ front.getLast?, isBlank c = false)
    (gap : blanks ≠ []) (blank : ∀ c ∈ blanks, isBlank c = true)
    (known : directionOf? rest = some d) : ofLooseToken token = ⟨String.ofList front, d⟩ := by
  have ends : ∀ c ∈ (front ++ blanks).getLast?, isBlank c = true := by
    rw [List.getLast?_append_of_ne_nil front gap, List.getLast?_eq_some_getLast gap]
    rintro c ⟨⟩
    exact blank _ (List.getLast_mem gap)
  have cut : splitLastWord token.toList = (front ++ blanks, rest) := by
    rw [split]
    exact splitLastWord_append (not_isBlank_of_directionOf? known) ends
  simp only [ofLooseToken, cut, known, trimChars_append filled head last blank]
  rw [if_neg (by simp [filled])]

/-- An entry that is read strictly is read loosely in the same way. -/
theorem ofLooseToken_of_ofStrictToken? {token : String} {key : SortKey}
    (trimmed : ∀ c ∈ token.toList.getLast?, isBlank c = false)
    (read : ofStrictToken? token = some key) : ofLooseToken token = key := by
  rcases exists_word_of_ofStrictToken? trimmed read with ⟨plain, rfl⟩ |
    ⟨word, blanks, rest, split, ⟨some, plain⟩, ⟨gap, blank⟩, d, known, rfl⟩
  · -- a single word is the field, even if it is the word for a direction
    have nothing : ∀ c ∈ ([] : List Char).getLast?, isBlank c = true := by simp
    have alone : splitLastWord token.toList = ([], token.toList) :=
      splitLastWord_append plain nothing
    simp only [ofLooseToken, alone]
    cases directionOf? token.toList <;> rfl
  · -- the direction is the last word, and trimming leaves the field of what is in front of it
    have head : ∀ c ∈ word.head?, isBlank c = false :=
      fun c first => plain c (List.mem_of_mem_head? first)
    have last : ∀ c ∈ word.getLast?, isBlank c = false :=
      fun c final => plain c (List.mem_of_mem_getLast? final)
    exact ofLooseToken_of_direction split some head last gap blank known

/-- The entries of a sort order have been trimmed. -/
theorem not_isBlank_of_tokens {order : Value} {ts : List String} (read : tokens order = .ok ts) :
    ∀ t ∈ ts, ∀ c ∈ t.toList.getLast?, isBlank c = false := by
  have each (texts : List String) (t : String) (member : t ∈ Entries.trimmed texts) :
      ∀ c ∈ t.toList.getLast?, isBlank c = false :=
    (Entries.isTrimmed_of_mem_trimmed member).last
  cases order <;> cases read <;> exact each _

theorem ofToken_of_relaxes (relaxed : o'.Relaxes o) {token : String}
    (trimmed : ∀ c ∈ token.toList.getLast?, isBlank c = false) :
    ExtendedBy (ofToken o token) (ofToken o' token) := by
  intro key read
  rw [ofToken] at read ⊢
  by_cases strict : o.strictDirection = true
  · rw [if_pos strict] at read
    cases found : ofStrictToken? token with
    | none => simp [found] at read
    | some key' =>
      rw [found] at read
      cases read
      rw [ofLooseToken_of_ofStrictToken? trimmed found]
      split <;> rfl
  · rw [if_neg strict] at read
    rw [if_neg (mt relaxed.direction strict)]
    exact read

/-- The keys of a sort order that is read strictly are read loosely, too. -/
theorem ofOrder_of_relaxes (relaxed : o'.Relaxes o) (order : Value) :
    ExtendedBy (ofOrder o order) (ofOrder o' order) := by
  intro keys read
  rw [ofOrder] at read ⊢
  split at read
  · next some =>
    cases found : tokens order with
    | error issue => simp [found, Except.bind] at read
    | ok ts =>
      have trimmed := not_isBlank_of_tokens found
      rw [found] at read
      rw [if_pos some]
      exact Except.ExtendedBy.mapM (fun t member => ofToken_of_relaxes relaxed (trimmed t member))
        keys read
  · next none => rwa [if_neg none]

end SortKey

/-! ### Operations -/

theorem Filter.liftIssue_of_extendedBy {α : Type} {x x' : Except Issue α}
    (extended : ExtendedBy x x') : ExtendedBy (liftIssue x) (liftIssue x') := by
  intro a done
  rw [liftIssue_eq_ok_iff] at done ⊢
  exact extended a done

theorem Filter.ofValue_of_relaxes (relaxed : o'.Relaxes o) (filter : Value) :
    ExtendedBy (ofValue o filter) (ofValue o' filter) := by
  match filter with
  | .null => exact .refl _
  | .map entries =>
    refine (liftIssue_of_extendedBy (Predicate.ofWhere_of_relaxed relaxed.operators _)).bind
      fun where? => ?_
    refine (Except.ExtendedBy.refl _).bind fun fields => ?_
    exact (liftIssue_of_extendedBy (SortKey.ofOrder_of_relaxes relaxed _)).bind fun order => .refl _
  | .bool _ | .int _ | .float _ | .text _ | .list _ | .tuple _ | .set _ | .datetime _ | .date _ =>
    exact .refl _

theorem Search.read_of_relaxes (relaxed : o'.Relaxes o) (search : Search) :
    ExtendedBy (search.read o) (search.read o') := by
  cases search with
  | value v => exact Filter.ofValue_of_relaxes relaxed v
  | filter f => exact .refl _

theorem Condition.read_of_relaxes (relaxed : o'.Relaxes o) (condition : Condition) :
    ExtendedBy (condition.read o) (condition.read o') := by
  cases condition with
  | value v =>
    exact Filter.liftIssue_of_extendedBy (Predicate.ofWhere_of_relaxed relaxed.operators v)
  | predicate p => exact .refl _

theorem matchUnder_of_relaxes (relaxed : o'.Relaxes o) (m : Model) (p : Option Predicate)
    (supply : Supply) : ExtendedBy (matchUnder o m p supply) (matchUnder o' m p supply) := by
  intro r done
  have nodes : matchNodes o' m = matchNodes o m := by rw [matchNodes, matchNodes, relaxed.node]
  rw [matchUnder_eq_matching, Except.map_eq_ok_iff] at done ⊢
  obtain ⟨⟨t, n⟩, laid, rfl⟩ := done
  obtain ⟨e, drawn, rfl⟩ := matching_eq_ok_iff.1 laid
  have drawn' := Predicate.express?_of_relaxes relaxed drawn
  exact ⟨_, matching_eq_ok_iff.2 ⟨e, drawn', by rw [nodes]⟩, rfl⟩

namespace Operation

theorem extendedBy_compile (relaxed : o'.Relaxes o) (m : Model) (supply : Supply)
    (op : Operation) : ExtendedBy (op.compile o m supply) (op.compile o' m supply) := by
  have matches' := matchUnder_of_relaxes relaxed m
  have searched := Search.read_of_relaxes relaxed
  have asked := Condition.read_of_relaxes relaxed
  -- the clauses are the same words, since the node has the same name
  obtain ⟨operators, direction, node⟩ := o
  obtain ⟨operators', direction', node'⟩ := o'
  cases relaxed.node
  cases op with
  | find search =>
    exact (searched search).bind fun f => (matches' f.where? supply).bind fun _ => .refl _
  | findOne search =>
    exact (searched search).bind fun f => (matches' f.single.where? supply).bind fun _ => .refl _
  | count condition | destroyAll condition | updateAll condition data =>
    exact (asked condition).bind fun p => (matches' p supply).bind fun _ => .refl _
  | _ => exact .refl _

/-- Strict options only refuse: what is compiled under them is compiled to the same statement under
options that are strict in less, and a sort order that is read strictly has the same keys when it is
read loosely. -/
theorem compile_of_relaxes (relaxed : o'.Relaxes o) :
    (∀ (m : Model) (supply rest : Supply) (op : Operation) (st : Statement),
      op.compile o m supply = .ok (st, rest) → op.compile o' m supply = .ok (st, rest)) ∧
    ∀ (order : Value) (keys : List SortKey),
      SortKey.ofOrder o order = .ok keys → SortKey.ofOrder o' order = .ok keys :=
  ⟨fun m supply rest op st => extendedBy_compile relaxed m supply op (st, rest),
    SortKey.ofOrder_of_relaxes relaxed⟩

/-- A search with a group of tests and a sort order in mixed case, one letter of it a long s, is the
same under options that are strict in both respects and under options that are not strict at all. -/
theorem compile_of_relaxes_findOne :
    let strict : Options := { strictOperators := true, strictDirection := true }
    let order : Value := .list [.text " name\u3000De\u017fc", .text "\u00e5ge", .text "desc\tasc"]
    let keys : List SortKey := [⟨"name", .descending⟩, ⟨"\u00e5ge", .ascending⟩,
      ⟨"desc", .ascending⟩]
    let adult : Value := .map [(.text "age", .map [(.text "gte", .int 18)])]
    let filter : Value := .map [(.text "where", .map [(.text "or", .list [adult])]),
      (.text "order", order)]
    let m : Model := { name := "Person" }
    (∃ st rest, (findOne (.value filter)).compile strict m .counting = .ok (st, rest) ∧
      (findOne (.value filter)).compile {} m .counting = .ok (st, rest)) ∧
    SortKey.ofOrder {} order = .ok keys := by
  intro strict order keys adult filter m
  have compiles : ((findOne (.value filter)).compile strict m .counting).isOk = true := by
    decide +kernel
  have reads : (SortKey.ofOrder strict order).isOk = true := by decide +kernel
  have sorted : (SortKey.ofOrder strict order).toOption = some keys := by decide +kernel
  obtain ⟨⟨st, rest⟩, done⟩ := Except.exists_eq_ok_of_isOk compiles
  obtain ⟨found, read⟩ := Except.exists_eq_ok_of_isOk reads
  rw [read] at sorted
  cases sorted
  have same := compile_of_relaxes strict.relaxes_loose
  exact ⟨⟨st, rest, done, same.1 _ _ _ _ _ done⟩, same.2 _ _ read⟩

end Operation

end Query

end GraphMapper
