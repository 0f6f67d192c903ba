import GraphMapper.Proofs.Query.Entries
import GraphMapper.Proofs.Query.Strictness
import GraphMapper.Proofs.Results
import GraphMapper.Proofs.Text.UpperCase

/-!
# Reading sort orders

Which keys a sort order has is a matter of its entries. Strictly, an entry is a word, and behind it
at most a gap and the word for a direction, in any case. Loosely, every entry is a key: where it
ends in a gap and the word for a direction, the field is what stands in front of them, and otherwise
it is all of the entry. The keys as they stand in a statement are a sort order, which is read in
both ways as these keys again.

## Main definitions

* `Direction.ofWord?` — the direction that a word stands for
* `SortKey.EndsIn` — what stands in front of a direction
* `SortKey.StrictKey`, `SortKey.LooseKey` — the key of an entry
* `SortKey.StrictReading` — how a sort order with given entries is read strictly
* `SortKey.under` — a key with the name of the node in front
* `SortKey.Unbroken` — texts that cannot be mistaken for several

## Main results

* `SortKey.directionOf?_eq` — the direction of a word is the one of its upper-case form
* `SortKey.ofStrictToken?_eq_some_iff` — an entry is read strictly exactly if it has a strict key
* `SortKey.looseKey_ofLooseToken` — every entry is read loosely
* `SortKey.ofOrder_grammar` — how sort orders are read
* `SortKey.ofOrder_listText` — keys that have been written are read again
-/

namespace GraphMapper.Query

/-! ### Words for directions -/

/-- The direction that a word stands for, if it is one of the two words. -/
def Direction.ofWord? (word : String) : Option Direction :=
  [Direction.ascending, .descending].find? (·.word == word)

theorem Direction.ofWord?_eq_some_iff {word : String} {d : Direction} :
    ofWord? word = some d ↔ word = d.word := by
  cases d <;> simp [ofWord?, List.find?_cons, Direction.word]
  all_goals grind

namespace SortKey

open Text

variable {o : Options} {order : Value} {token field node : String} {d : Direction} {key : SortKey}
  {keys : List SortKey} {texts ts : List String}

theorem directionOf?_eq_some_iff {word : List Char} :
    directionOf? word = some d ↔ upper (String.ofList word) = d.word := by
  have asc : eqIgnoringCase ['A', 'S', 'C'] word = true ↔ upper (String.ofList word) = "ASC" := by
    rw [eqIgnoringCase_iff_upper (by simp [plainCapitals]) (by decide +kernel), upper,
      ← String.toList_inj]
    simp
  have desc : eqIgnoringCase ['D', 'E', 'S', 'C'] word = true ↔
      upper (String.ofList word) = "DESC" := by
    rw [eqIgnoringCase_iff_upper (by simp [plainCapitals]) (by decide +kernel), upper,
      ← String.toList_inj]
    simp
  rw [directionOf?]
  cases d <;> grind [Direction.word]

/-- The direction of a word is the one of its upper-case form. -/
theorem directionOf?_eq (word : List Char) :
    directionOf? word = Direction.ofWord? (upper (String.ofList word)) := by
  ext d
  rw [directionOf?_eq_some_iff, Direction.ofWord?_eq_some_iff]

/-! ### Entries -/

/-- The entry is the field, a gap behind it, and at the end the word for the direction, in any
case. -/
def EndsIn (token field : String) (d : Direction) : Prop :=
  ∃ gap word, IsGap gap ∧ upper word = d.word ∧ token = field ++ gap ++ word

/-- The key of an entry that is a word, with at most a direction behind it. -/
inductive StrictKey : String → SortKey → Prop
  /-- A word alone, which may be the word for a direction. -/
  | word {token : String} : IsWord token → StrictKey token ⟨token, .ascending⟩
  /-- A word and a direction. -/
  | directed {token field : String} {d : Direction} : IsWord field → EndsIn token field d →
      StrictKey token ⟨field, d⟩

/-- The key of any entry: a direction at the end counts, and all the rest is the field. -/
inductive LooseKey : String → SortKey → Prop
  /-- No direction at the end. -/
  | plain {token : String} : (∀ field d, IsTrimmed field → ¬ EndsIn token field d) →
      LooseKey token ⟨token, .ascending⟩
  /-- A direction at the end. -/
  | directed {token field : String} {d : Direction} : IsTrimmed field → EndsIn token field d →
      LooseKey token ⟨field, d⟩

theorem endsIn_iff : EndsIn token field d ↔ ∃ gap word, gap ≠ [] ∧
    (∀ c ∈ gap, isBlank c = true) ∧ directionOf? word = some d ∧
    token.toList = field.toList ++ gap ++ word := by
  constructor
  · rintro ⟨gap, word, ⟨some, blank⟩, known, rfl⟩
    refine ⟨gap.toList, word.toList, some, blank, ?_, by simp⟩
    rwa [directionOf?_eq_some_iff, String.ofList_toList]
  · rintro ⟨gap, word, some, blank, known, split⟩
    refine ⟨String.ofList gap, String.ofList word, ⟨by simpa using some, by simpa using blank⟩,
      directionOf?_eq_some_iff.1 known, ?_⟩
    rw [← String.toList_inj, split]
    simp

theorem not_endsIn_self : ¬ EndsIn token token d := by
  intro ends
  obtain ⟨gap, word, some, -, -, split⟩ := endsIn_iff.1 ends
  have shorter := congrArg List.length split
  have positive := List.length_pos_iff.2 some
  simp only [List.length_append] at shorter
  omega

theorem ofStrictToken?_of_isWord (word : IsWord token) :
    ofStrictToken? token = some ⟨token, .ascending⟩ := by
  have plain : ∀ c ∈ token.toList, (!isBlank c) = true := by simpa using word.2
  have front : token.toList.takeWhile (!isBlank ·) = token.toList :=
    List.takeWhile_eq_self_iff.2 plain
  have rest : token.toList.dropWhile (!isBlank ·) = [] := List.dropWhile_eq_nil_iff.2 plain
  have some : ¬ token.toList.isEmpty = true := by simpa using word.1
  simp only [ofStrictToken?, front, rest, List.dropWhile_nil, List.isEmpty_nil, if_neg some,
    if_true]

theorem ofStrictToken?_of_endsIn (word : IsWord field) (ends : EndsIn token field d) :
    ofStrictToken? token = some ⟨field, d⟩ := by
  obtain ⟨gap, rest, some, blank, known, split⟩ := endsIn_iff.1 ends
  have plain : ∀ c ∈ field.toList, (!isBlank c) = true := by simpa using word.2
  -- the gap starts where the word stops, and the direction where the gap stops
  have stops : (gap ++ rest).takeWhile (!isBlank ·) = [] ∧
      (gap ++ rest).dropWhile (!isBlank ·) = gap ++ rest := by
    obtain ⟨b, gap, rfl⟩ := List.exists_cons_of_ne_nil some
    have first : isBlank b = true := blank b List.mem_cons_self
    simp [first]
  have behind : rest.dropWhile isBlank = rest := dropWhile_isBlank_eq_self fun c head =>
    not_isBlank_of_directionOf? known c (List.mem_of_mem_head? head)
  have filled : ¬ rest.isEmpty = true := by
    intro none
    rw [List.isEmpty_iff.1 none] at known
    cases known
  have some' : ¬ field.toList.isEmpty = true := by simpa using word.1
  simp only [ofStrictToken?, split, List.append_assoc, List.takeWhile_append_of_pos plain,
    List.dropWhile_append_of_pos plain, stops, List.append_nil, List.dropWhile_append_of_pos blank,
    behind, if_neg some', if_neg filled, known, Option.map_some, String.ofList_toList]

/-- An entry is read strictly exactly if it has a strict key, and as this key. -/
theorem ofStrictToken?_eq_some_iff (trimmed : IsTrimmed token) :
    ofStrictToken? token = some key ↔ StrictKey token key := by
  constructor
  · intro read
    rcases exists_word_of_ofStrictToken? trimmed.last read with ⟨plain, rfl⟩ |
      ⟨word, blanks, rest, split, ⟨some, plain⟩, ⟨some', blank⟩, d, known, rfl⟩
    · exact .word ⟨trimmed.filled, plain⟩
    · refine .directed ⟨by simpa using some, by simpa using plain⟩ (endsIn_iff.2 ?_)
      exact ⟨blanks, rest, some', blank, known, by simpa using split⟩
  · rintro (word | ⟨word, ends⟩)
    · exact ofStrictToken?_of_isWord word
    · exact ofStrictToken?_of_endsIn word ends

theorem ofLooseToken_of_endsIn (trimmed : IsTrimmed field) (ends : EndsIn token field d) :
    ofLooseToken token = ⟨field, d⟩ := by
  obtain ⟨gap, word, some, blank, known, split⟩ := endsIn_iff.1 ends
  rw [ofLooseToken_of_direction split trimmed.filled trimmed.head trimmed.last some blank known,
    String.ofList_toList]

/-- A text is its last word and what stands in front of it, which ends in a blank unless there is
nothing. -/
theorem exists_splitLastWord (cs : List Char) : ∃ front word, splitLastWord cs = (front, word) ∧
    cs = front ++ word ∧ ∀ c ∈ front.getLast?, isBlank c = true := by
  refine ⟨_, _, rfl, ?_, fun c last => ?_⟩
  · rw [← List.reverse_append, List.takeWhile_append_dropWhile, List.reverse_reverse]
  · have first := List.head?_dropWhile_not (!isBlank ·) cs.reverse
    rw [List.getLast?_reverse, Option.mem_def] at last
    rw [last] at first
    simpa using first

/-- Where there is a gap in front of the word for a direction, the entry ends in this direction. -/
theorem exists_endsIn {front word : List Char} (trimmed : IsTrimmed token)
    (split : token.toList = front ++ word) (filled : front ≠ [])
    (blank : ∀ c ∈ front.getLast?, isBlank c = true) (known : directionOf? word = some d) :
    ∃ field, IsTrimmed field ∧ EndsIn token field d := by
  have head : ∀ c ∈ front.head?, isBlank c = false := by
    intro c first
    refine trimmed.head c ?_
    rw [split, List.head?_append, first]
    rfl
  obtain ⟨gap, behind, blank'⟩ := exists_dropWhile_eq front
  rw [dropWhile_isBlank_eq_self head] at behind
  obtain ⟨c, rest, shape⟩ := List.exists_cons_of_ne_nil filled
  have first : isBlank c = false := head c (by rw [shape]; rfl)
  have field : trim (String.ofList front) ≠ "" := by
    rw [Ne, ← String.toList_inj, toList_trim, String.toList_ofList]
    exact trimChars_ne_nil (shape ▸ List.mem_cons_self) first
  -- the gap is where the front stops being trimmed
  have gap' : gap ≠ [] := by
    rintro rfl
    rw [List.append_nil] at behind
    have last := List.getLast?_eq_some_getLast filled
    have notBlank := @getLast?_trimChars front
    rw [← behind] at notBlank
    exact Bool.false_ne_true ((notBlank _ last).symm.trans (blank _ last))
  refine ⟨_, isTrimmed_trim field, endsIn_iff.2 ⟨gap, word, gap', blank', known, ?_⟩⟩
  rw [toList_trim, String.toList_ofList, ← behind, split]

theorem StrictKey.isTrimmed (known : StrictKey token key) : IsTrimmed token := by
  rcases known with word | ⟨word, ends⟩
  · exact word.isTrimmed
  · obtain ⟨gap, rest, -, -, known, split⟩ := endsIn_iff.1 ends
    have filled : rest ≠ [] := by
      rintro rfl
      cases known
    refine ⟨?_, ?_, ?_⟩
    · simp [split, word.1]
    · rw [split, List.append_assoc, List.head?_append_of_ne_nil _ word.1]
      exact word.isTrimmed.head
    · rw [split, List.getLast?_append_of_ne_nil _ filled]
      exact fun c last => not_isBlank_of_directionOf? known c (List.mem_of_mem_getLast? last)

/-- Every entry is read loosely, and as its loose key. -/
theorem looseKey_ofLooseToken (trimmed : IsTrimmed token) :
    LooseKey token (ofLooseToken token) := by
  obtain ⟨front, word, cut, split, blank⟩ := exists_splitLastWord token.toList
  by_cases directed : front ≠ [] ∧ ∃ d, directionOf? word = some d
  · obtain ⟨filled, d, known⟩ := directed
    obtain ⟨field, trimmed', ends⟩ := exists_endsIn trimmed split filled blank known
    rw [ofLooseToken_of_endsIn trimmed' ends]
    exact .directed trimmed' ends
  · have alone : ofLooseToken token = ⟨token, .ascending⟩ := by
      simp only [ofLooseToken, cut]
      grind
    rw [alone]
    refine .plain fun field d trimmed' ends => ?_
    -- the field would be all of the entry, and a gap behind it
    have all : field = token := by
      have read := ofLooseToken_of_endsIn trimmed' ends
      rw [alone] at read
      exact (SortKey.mk.inj read).1.symm
    exact not_endsIn_self (all ▸ ends)

theorem isTrimmed_of_looseKey (trimmed : IsTrimmed token) (known : LooseKey token key) :
    IsTrimmed key.field := by
  cases known with
  | plain => exact trimmed
  | directed trimmed' => exact trimmed'

theorem ofToken_eq_ok_iff (strict : o.strictDirection = true) (trimmed : IsTrimmed token) :
    ofToken o token = .ok key ↔ StrictKey token key := by
  rw [ofToken, if_pos strict, ← ofStrictToken?_eq_some_iff trimmed]
  cases ofStrictToken? token <;> simp

theorem ofToken_eq_error_iff {issue : Issue} (strict : o.strictDirection = true)
    (trimmed : IsTrimmed token) : ofToken o token = .error issue ↔
      (¬ ∃ key, StrictKey token key) ∧ issue = .orderToken token := by
  simp only [ofToken, if_pos strict, ← ofStrictToken?_eq_some_iff trimmed]
  cases ofStrictToken? token <;> simp [eq_comm]

/-- An entry with a strict key is read as this key in both ways. -/
theorem ofToken_of_strictKey (trimmed : IsTrimmed token) (known : StrictKey token key) :
    ofToken o token = .ok key := by
  have read := (ofStrictToken?_eq_some_iff trimmed).2 known
  rw [ofToken]
  split
  · rw [read]
  · rw [ofLooseToken_of_ofStrictToken? trimmed.last read]

/-! ### Sort orders -/

/-- How a sort order with these entries is read strictly. -/
structure StrictReading (ts : List String) (read : Except Issue (List SortKey)) : Prop where
  /-- If every entry has a key, these are the keys, and otherwise there are none. -/
  keys : ∀ keys, read = .ok keys ↔ List.Forall₂ StrictKey ts keys
  /-- The first entry without a key is refused. -/
  refusal : ∀ issue, read = .error issue ↔ ∃ before t after, ts = before ++ t :: after ∧
    (∀ u ∈ before, ∃ key, StrictKey u key) ∧ (¬ ∃ key, StrictKey t key) ∧ issue = .orderToken t

theorem strictReading_mapM (strict : o.strictDirection = true) (trimmed : ∀ t ∈ ts, IsTrimmed t) :
    StrictReading ts (ts.mapM (ofToken o)) := by
  refine ⟨fun keys => ?_, fun issue => ?_⟩
  · rw [mapM_eq_ok_iff]
    exact forall₂_iff_of_mem fun t member key => ofToken_eq_ok_iff strict (trimmed t member)
  · rw [mapM_eq_error_iff]
    -- an entry is refused exactly if it has no key
    have same {before after : List String} {t : String} (split : ts = before ++ t :: after) :
        ((∀ u ∈ before, ∃ key, ofToken o u = .ok key) ∧ ofToken o t = .error issue) ↔
          (∀ u ∈ before, ∃ key, StrictKey u key) ∧ (¬ ∃ key, StrictKey t key) ∧
            issue = .orderToken t := by
      subst split
      rw [ofToken_eq_error_iff strict (trimmed t (by simp))]
      refine and_congr_left fun _ => forall₂_congr fun u member => exists_congr fun key => ?_
      exact ofToken_eq_ok_iff strict (trimmed u (by simp [member]))
    exact exists_congr fun before => exists_congr fun t => exists_congr fun after =>
      and_congr_right same

/-- How sort orders are read. A text has the parts between its commas and a sequence its items, and
the entries are these parts without the blanks around them, except for those that are blank. Read
strictly, there are keys exactly if every entry is a word or a word and a direction, and otherwise
the first entry that is neither is refused. Read loosely, there is a key for every entry, and its
field is not empty and has no blank at its ends. What counts as a direction is a text of which the
upper-case form is the word for one. -/
theorem ofOrder_grammar (o : Options) {order : Value} (listing : IsListing order) :
    (∃ texts, Spells order texts ∧
      (o.strictDirection = true → StrictReading (Entries.trimmed texts) (ofOrder o order)) ∧
      (o.strictDirection = false → ∃ keys, ofOrder o order = .ok keys ∧
        List.Forall₂ LooseKey (Entries.trimmed texts) keys ∧ ∀ key ∈ keys, IsTrimmed key.field)) ∧
    ∀ word, directionOf? word = Direction.ofWord? (upper (String.ofList word)) := by
  obtain ⟨texts, spelled⟩ := listing.exists_spells
  have trimmed : ∀ t ∈ Entries.trimmed texts, IsTrimmed t :=
    fun t member => Entries.isTrimmed_of_mem_trimmed member
  rw [ofOrder_of_tokens (tokens_of_spells spelled)]
  refine ⟨⟨texts, spelled, fun strict => strictReading_mapM strict trimmed, fun loose => ?_⟩,
    directionOf?_eq⟩
  have each : ∀ t ∈ Entries.trimmed texts, ofToken o t = .ok (ofLooseToken t) := by
    intro t _
    rw [ofToken, if_neg (by simp [loose])]
  refine ⟨_, mapM_eq_map each, ?_, ?_⟩
  · rw [List.forall₂_map_right_iff, List.forall₂_same]
    exact fun t member => looseKey_ofLooseToken (trimmed t member)
  · intro key member
    obtain ⟨t, member', rfl⟩ := List.mem_map.1 member
    exact isTrimmed_of_looseKey (trimmed t member') (looseKey_ofLooseToken (trimmed t member'))

/-- A list with a blank entry, a direction in mixed case with a long s in it behind a wide gap, and
an entry of two words and a direction, which is refused strictly and read loosely. -/
theorem ofOrder_grammar_refused :
    let strict : Options := { strictDirection := true }
    let order : Value := .list [.text " name\u3000De\u017fc", .text "\t", .text "first name DESC "]
    IsListing order ∧ ofOrder strict order = .error (.orderToken "first name DESC") ∧
      (¬ ∃ key, StrictKey "first name DESC" key) ∧
      ofOrder {} order = .ok [⟨"name", .descending⟩, ⟨"first name", .descending⟩] ∧
      IsTrimmed "first name" := by
  intro strict order
  have listing : IsListing order := trivial
  have refused : ofOrder strict order = .error (.orderToken "first name DESC") := by rfl
  have read : ofOrder {} order = .ok [⟨"name", .descending⟩, ⟨"first name", .descending⟩] := by rfl
  obtain ⟨⟨_, _, strictly, _⟩, _⟩ := ofOrder_grammar strict listing
  obtain ⟨⟨_, _, _, loosely⟩, _⟩ := ofOrder_grammar {} listing
  obtain ⟨_, t, _, _, _, none, issue⟩ := ((strictly rfl).refusal _).1 refused
  obtain ⟨keys, read', -, trimmed⟩ := loosely rfl
  cases issue
  rw [read] at read'
  cases read'
  exact ⟨listing, refused, none, read, trimmed ⟨"first name", .descending⟩ (by simp)⟩

/-! ### Keys that have been written -/

/-- The key with the name of the node in front of its field. -/
def under (node : String) (key : SortKey) : SortKey :=
  { key with field := node ++ "." ++ key.field }

/-- A text that can be part of an entry: there are neither blanks nor commas in it. -/
def Unbroken (s : String) : Prop := ∀ c ∈ s.toList, isBlank c = false ∧ c ≠ ','

instance (s : String) : Decidable (Unbroken s) :=
  decidable_of_iff (s.toList.all (fun c => !isBlank c && c != ',') = true) (by simp [Unbroken])

theorem isWord_under (plain : Unbroken node) (field : Unbroken key.field) :
    IsWord (under node key).field := by
  refine ⟨by simp [under], fun c member => ?_⟩
  simp only [under, String.toList_append, List.mem_append] at member
  rcases member with (first | point) | last
  · exact (plain c first).1
  · rw [show ".".toList = ['.'] from rfl, List.mem_singleton] at point
    subst point
    decide
  · exact (field c last).1

theorem text_ascending (node name : String) :
    text node ⟨name, .ascending⟩ = node ++ "." ++ name := by
  simp [text]

theorem text_descending (node name : String) :
    text node ⟨name, .descending⟩ = node ++ "." ++ name ++ " " ++ "DESC" := by
  simp only [text, String.append_assoc]
  rfl

/-- A key that has been written is an entry with this key, even if its field is called like a
direction. -/
theorem strictKey_text (plain : Unbroken node) (field : Unbroken key.field) :
    StrictKey (text node key) (under node key) := by
  have word := isWord_under plain field
  obtain ⟨name, _ | _⟩ := key
  · rw [text_ascending]
    exact .word word
  · have capital : upper "DESC" = Direction.descending.word := by decide +kernel
    rw [text_descending]
    exact .directed word ⟨" ", "DESC", isGap_space, capital, rfl⟩

theorem comma_notMem_text (plain : Unbroken node) (field : Unbroken key.field) :
    ',' ∉ (text node key).toList := by
  have node' : ',' ∉ node.toList := fun member => (plain _ member).2 rfl
  have field' : ',' ∉ key.field.toList := fun member => (field _ member).2 rfl
  obtain ⟨name, _ | _⟩ := key
  · rw [text_ascending]
    simp [node', field']
  · rw [text_descending]
    simp [node', field']

/-- What stands between commas and blanks stands between commas, with a blank in front. -/
theorem intercalate_comma_space (t : String) (ts : List String) :
    ", ".intercalate (t :: ts) = ",".intercalate (t :: ts.map (" " ++ ·)) := by
  induction ts generalizing t with
  | nil => simp
  | cons u us ih =>
    have space : ",".intercalate ((" " ++ u) :: us.map (" " ++ ·)) =
        " " ++ ",".intercalate (u :: us.map (" " ++ ·)) := by
      cases us with
      | nil => simp
      | cons v vs => simp [String.intercalate_cons_cons, String.append_assoc]
    rw [String.intercalate_cons_cons, ih, List.map_cons, String.intercalate_cons_cons, space,
      show ", " = "," ++ " " from rfl]
    simp only [String.append_assoc]

theorem trimmed_map {f : String → String} (each : ∀ t ∈ ts, IsTrimmed t ∧ trim (f t) = t) :
    Entries.trimmed (ts.map f) = ts := by
  induction ts with
  | nil => rfl
  | cons t ts ih =>
    rw [List.forall_mem_cons] at each
    obtain ⟨⟨first, same⟩, others⟩ := each
    rw [List.map_cons, Entries.trimmed_cons_of_ne (same.symm ▸ first.ne_empty), same, ih others]

/-- Entries with commas and blanks between them are found again. -/
theorem tokens_intercalate (each : ∀ t ∈ ts, IsTrimmed t ∧ ',' ∉ t.toList) :
    tokens (.text (", ".intercalate ts)) = .ok ts := by
  cases ts with
  | nil => rfl
  | cons t ts =>
    rw [List.forall_mem_cons] at each
    obtain ⟨⟨first, plain⟩, others⟩ := each
    have parts : ∀ u ∈ t :: ts.map (" " ++ ·), ',' ∉ u.toList := by
      refine List.forall_mem_cons.2 ⟨plain, List.forall_mem_map.2 fun u member => ?_⟩
      simpa using (others u member).2
    have later : Entries.trimmed (ts.map (" " ++ ·)) = ts :=
      trimmed_map fun u member => ⟨(others u member).1, (others u member).1.trim_append isGap_space⟩
    rw [intercalate_comma_space, tokens_of_spells (.joined (List.cons_ne_nil _ _) parts),
      Entries.trimmed_cons_of_ne (first.trim_eq.symm ▸ first.ne_empty), first.trim_eq, later]

/-- The entries of keys as they stand in a statement are the keys as they stand there. -/
theorem tokens_listText (plain : Unbroken node) (fields : ∀ key ∈ keys, Unbroken key.field) :
    tokens (.text (listText node keys)) = .ok (keys.map (text node)) :=
  tokens_intercalate <| List.forall_mem_map.2 fun key member =>
    ⟨(strictKey_text plain (fields key member)).isTrimmed,
      comma_notMem_text plain (fields key member)⟩

/-- Keys as they stand in a statement are a sort order: it lists every key once and in their order.
Strictly and loosely it is read as the same keys, each in its own direction, with the name of the
node in front of the field. -/
theorem ofOrder_listText (o : Options) {node : String} {keys : List SortKey} (plain : Unbroken node)
    (fields : ∀ key ∈ keys, Unbroken key.field) :
    tokens (.text (listText node keys)) = .ok (keys.map (text node)) ∧
      ofOrder o (.text (listText node keys)) = .ok (keys.map (under node)) := by
  have listed := tokens_listText plain fields
  refine ⟨listed, ?_⟩
  rw [ofOrder_of_tokens listed, mapM_eq_ok_iff, List.forall₂_map_left_iff,
    List.forall₂_map_right_iff, List.forall₂_same]
  intro key member
  have known := strictKey_text plain (fields key member)
  exact ofToken_of_strictKey known.isTrimmed known

/-- Fields that are called like directions, with and without a direction, are read again under
strict and under loose options. -/
theorem ofOrder_listText_desc :
    let keys : List SortKey := [⟨"desc", .ascending⟩, ⟨"ASC", .descending⟩, ⟨"åge", .ascending⟩]
    let order : Value := .text "m.desc, m.ASC DESC, m.åge"
    let read : List SortKey := [⟨"m.desc", .ascending⟩, ⟨"m.ASC", .descending⟩,
      ⟨"m.åge", .ascending⟩]
    Unbroken "m" ∧ (∀ key ∈ keys, Unbroken key.field) ∧
      tokens order = .ok ["m.desc", "m.ASC DESC", "m.åge"] ∧
      ofOrder { strictDirection := true } order = .ok read ∧ ofOrder {} order = .ok read := by
  intro keys order read
  have plain : Unbroken "m" := by decide
  have fields : ∀ key ∈ keys, Unbroken key.field := by decide
  have strictly := ofOrder_listText { strictDirection := true } plain fields
  have loosely := ofOrder_listText {} plain fields
  exact ⟨plain, fields, loosely.1, strictly.2, loosely.2⟩

end SortKey

end GraphMapper.Query
