import GraphMapper.Proofs.Schema.Abort
import GraphMapper.Proofs.Schema.Catalogue

/-!
# What a migration does to a catalogue

A step of a migration does to the server what its work does, and only its calls change the
catalogue that the server keeps. Once the target labels have been cleared, their unique constraints
and free-standing indexes are gone and all else is there. Creating then adds what is required.

## Main definitions

* `Act.Ensures` — what holds whenever an act has succeeded
* `Schema.IsNamed` — a catalogue whose objects have names of their own
* `Schema.survivors` — what is left when the target labels have been cleared

## Main results

* `Act.Ensures.bind` — acts are put together as what they ensure is
* `Migrator.ensures_runStep` — a step ensures what its work ensures
* `Lists.applyAll_drop_chosen` — dropping what is chosen from a report clears the target labels
* `Migrator.Keeps.ensures_drop`, `Migrator.Keeps.ensures_create` — the two halves of a migration
-/

namespace GraphMapper

/-! ### What an act ensures -/

/-- If the act succeeds in a state with the first property, its result and the state that it leaves
have the second one. -/
def Act.Ensures {σ α : Type} (pre : σ → Prop) (a : Act σ α) (post : α → σ → Prop) : Prop :=
  ∀ s x s', pre s → a.perform s = (.ok x, s') → post x s'

namespace Act.Ensures

variable {σ τ α β : Type} {pre : σ → Prop} {a : Act σ α} {post : α → σ → Prop}

theorem pure (x : α) : Ensures pre (pure x) fun y s => pre s ∧ y = x := by
  rintro s _ _ holds ⟨⟩
  exact ⟨holds, rfl⟩

/-- To yield something changes nothing. -/
theorem yield (x : α) : Ensures pre (Pure.pure x) fun _ s => pre s := by
  rintro s _ _ holds ⟨⟩
  exact holds

theorem result (r : Except Fault α) : Ensures pre (Act.result r) fun x s => pre s ∧ r = .ok x := by
  rintro s x _ holds ⟨⟩
  exact ⟨holds, rfl⟩

/-- An act that fails ensures everything. -/
theorem fail (fault : Fault) : Ensures pre (Act.fail fault : Act σ α) post := by
  rintro s x s' - ⟨⟩

/-- What the first act ensures is what the second one starts from. -/
theorem bind {f : α → Act σ β} {post' : β → σ → Prop} (first : Ensures pre a post)
    (next : ∀ x, Ensures (post x) (f x) post') : Ensures pre (a >>= f) post' := by
  intro s y s'' holds done
  rw [perform_bind] at done
  rcases ran : a.perform s with ⟨fault | x, s'⟩
  · rw [ran] at done
    cases done
  · rw [ran] at done
    exact next x s' y s'' (first s x s' holds ran) done

theorem weaken {post' : α → σ → Prop} (done : Ensures pre a post)
    (weaker : ∀ x s, post x s → post' x s) : Ensures pre a post' := by
  intro s x s' holds ran
  exact weaker x s' (done s x s' holds ran)

theorem strengthen {pre' : σ → Prop} (done : Ensures pre a post)
    (stronger : ∀ s, pre' s → pre s) : Ensures pre' a post := by
  intro s x s' holds ran
  exact done s x s' (stronger s holds) ran

/-- What does not depend on the state may be assumed. -/
theorem assume {fact : Prop} (done : fact → Ensures pre a post) :
    Ensures (fun s => pre s ∧ fact) a post := by
  rintro s x s' ⟨holds, known⟩ ran
  exact done known s x s' holds ran

/-- If the outcome of an act is a result, the state is what the act has left. -/
theorem attempt (done : Ensures pre a post) :
    Ensures pre a.attempt fun r s => ∀ x, r = .ok x → post x s := by
  rintro s _ _ holds ⟨⟩ x ended
  exact done s x _ holds (Prod.ext ended rfl)

end Act.Ensures

namespace Schema

open Act
open Query (isIdentifier isWordChar isNameChar nameChars)

variable {σ α : Type}

namespace Migrator

variable {m : Migrator σ} {pre : σ → Prop} {post : List α → σ → Prop}

/-- Telling the run log leaves the server alone. -/
theorem ensures_tell (a : Instant → Act RunLog α) (pre : σ → Prop) :
    Ensures (fun run => pre run.server) (m.tell a) fun _ run => pre run.server := by
  rintro ⟨server, log?⟩ x run' holds told
  cases log? with
  | none =>
    cases told
    exact holds
  | some log =>
    have left : (⟨server, _⟩ : Run σ) = run' := congrArg Prod.snd told
    rw [← left]
    exact holds

theorem ensures_finish (span? : Option RunLog.Span)
    (a : Instant → Act (RunLog.Span × RunLog) Unit) (pre : σ → Prop) :
    Ensures (fun run => pre run.server) (m.finish span? a) fun _ run => pre run.server := by
  cases span? with
  | none => exact .yield ()
  | some span => exact (ensures_tell _ pre).bind fun _ => .yield ()

theorem ensures_onServer {a : Act σ α} {post : α → σ → Prop} (done : Ensures pre a post) :
    Ensures (fun run => pre run.server) (onServer a) fun x run => post x run.server := by
  rintro ⟨server, log?⟩ x run' holds ran
  obtain ⟨ended, left⟩ := Prod.mk.inj ran
  rw [← left]
  exact done server x _ holds (Prod.ext ended rfl)

/-- A step ensures what its work ensures: all else that it does is to tell the run log. -/
theorem ensures_runStep (step : Step) (planned : Option (List String)) {work : Act σ (List α)}
    (done : Ensures pre work post) :
    Ensures (fun run => pre run.server) (m.runStep step planned work)
      fun items run => post items run.server := by
  rw [runStep]
  split
  · exact (ensures_tell _ pre).bind fun _ => ensures_onServer done
  · refine (ensures_tell _ pre).bind fun span? => (ensures_onServer done).attempt.bind fun r => ?_
    cases r with
    | error fault =>
      -- the step fails, so nothing is to be ensured of what it leaves
      exact ((ensures_finish _ _ fun _ => True).strengthen fun _ _ => trivial).bind fun _ => .fail _
    | ok items =>
      have ended : Ensures (fun run => post items run.server)
          (m.finish (span?.map (counted step items.length))
            (fun now => RunLog.Span.complete now .null) >>= fun _ => pure items)
          fun x run => post x run.server := by
        refine (ensures_finish _ _ (post items)).bind fun _ => (Ensures.pure items).weaken ?_
        rintro _ run ⟨holds, rfl⟩
        exact holds
      exact ended.strengthen fun run holds => holds items rfl

end Migrator

/-! ### Names -/

variable {foreign : Char → Bool} {c : Set Object} {o : Object}

/-- The objects of the catalogue have names of their own, and all names are identifiers. -/
structure IsNamed (foreign : Char → Bool) (c : Set Object) : Prop where
  /-- The names are identifiers. -/
  identified : ∀ o ∈ c, isIdentifier foreign o.name.toList = true
  /-- No two objects have the same name. -/
  distinct : ∀ o ∈ c, ∀ o' ∈ c, o.name = o'.name → o = o'

theorem IsNamed.subset {c' : Set Object} (named : IsNamed foreign c) (part : c' ⊆ c) :
    IsNamed foreign c' where
  identified o there := named.identified o (part there)
  distinct o there o' there' same := named.distinct o (part there) o' (part there') same

theorem isIdentifier_nameChars {d : Char} {cs : List Char} (letter : d.isDigit = false) :
    isIdentifier foreign (nameChars (d :: cs)) = true := by
  have spelled : nameChars (d :: cs) = (if isNameChar d then d else '_') :: nameChars cs := rfl
  have first : (if isNameChar d then d else '_').isDigit = false := by
    split
    · exact letter
    · rfl
  have all : ∀ e ∈ nameChars (d :: cs), isWordChar foreign e = true := by
    intro e member
    rw [isWordChar, Query.isNameChar_of_mem_nameChars member, Bool.true_or]
  rw [spelled] at all ⊢
  rw [isIdentifier, first, Bool.not_false, Bool.true_and, List.all_eq_true]
  exact all

/-- The name of an item is an identifier if its label is one. -/
theorem Item.isIdentifier_name {i : Item} (proper : isIdentifier foreign i.label.toList = true) :
    isIdentifier foreign i.name.toList = true := by
  have spelled : i.name.toList =
      nameChars (i.label.toList ++ ("_" ++ i.property ++ "_" ++ i.purpose.suffix).toList) := by
    simp [Item.name, objectName]
  rw [spelled]
  -- the name starts as the label does, and a label does not start with a digit
  cases chars : i.label.toList with
  | nil =>
    rw [chars] at proper
    cases proper
  | cons d cs =>
    rw [chars, isIdentifier, Bool.and_eq_true, Bool.not_eq_true'] at proper
    exact isIdentifier_nameChars proper.1

/-! ### Clearing labels -/

/-- The type of a constraint tells whether it is a unique one. -/
theorem Object.HasType.unique_iff {type : String} (reported : o.HasType type) :
    LiveEntry.uniqueTypes.contains (Text.upper type) = true ↔ o.kind = .required .unique := by
  obtain ⟨name, label, properties, kind⟩ := o
  rw [List.contains_iff_mem, LiveEntry.uniqueTypes]
  rcases kind with (_ | _ | _) | other
  · have among : Text.upper type ∈ ["UNIQUENESS", "NODE_PROPERTY_UNIQUENESS"] := by
      rcases reported with rfl | rfl <;> decide +kernel
    exact iff_of_true among rfl
  · cases reported
  · cases reported
    exact iff_of_false (by decide +kernel) (by simp)
  · cases reported
    exact iff_of_false (by simpa using other.apart) (by simp)

/-- The owner of an index tells whether it is a free-standing one. -/
theorem Object.HasOwner.index_iff {owner? : Option String} (reported : o.HasOwner owner?)
    (named : o.name ≠ "") :
    (!(Row.textOrNull owner?).truthy) = true ↔ o.kind = .required .index := by
  have owned (name : String) (nonempty : name ≠ "") :
      (Row.textOrNull (some name)).truthy = true := by
    simpa [Row.textOrNull, Value.truthy] using nonempty
  obtain ⟨name, label, properties, kind⟩ := o
  rcases kind with (_ | _ | _) | other
  · cases reported
    exact iff_of_false (by simp [owned name named]) (by simp)
  · cases reported
    exact iff_of_true rfl rfl
  · cases reported
  · cases reported
    exact iff_of_false (by simp [owned name named]) (by simp)

/-- What is reported is of the sort that is dropped if and only if the object is: the index that
belongs to a constraint is not. -/
theorem Object.IsReportedBy.concerns_iff {portion : Portion} {r : Row}
    (reported : o.IsReportedBy portion r) (named : o.name ≠ "") :
    portion.concerns r = true ↔ o.kind = .required portion.purpose := by
  obtain ⟨-, -, -, sort⟩ := reported
  cases portion with
  | constraints => exact Object.HasType.unique_iff sort
  | indexes => exact Object.HasOwner.index_iff sort named

/-- What is dropped with a portion is in it. -/
theorem Object.IsTarget.isIn {portion : Portion} {labels : List String}
    (target : o.IsTarget portion labels) : o.IsIn portion := by
  cases portion with
  | constraints =>
    rw [Object.IsIn, target.1]
    simp [Portion.purpose]
  | indexes => exact target.1

theorem IsNamed.name_ne_empty (named : IsNamed foreign c) (there : o ∈ c) : o.name ≠ "" := by
  intro empty
  have identified := named.identified o there
  rw [empty] at identified
  cases identified

namespace Lists

variable {portion : Portion} {rows : List Row} {labels : List String}

/-- The names that are chosen from a report are those of the objects on the target labels. -/
theorem name_mem_chosen_iff (lists : Lists c portion rows) (named : IsNamed foreign c)
    (there : o ∈ c) :
    o.name ∈ (portion.chosen labels rows).map (·.name) ↔ o.IsTarget portion labels := by
  rw [List.mem_map]
  constructor
  · rintro ⟨r, member, same⟩
    obtain ⟨reported, sort, label, target, head⟩ := Portion.mem_chosen_iff.1 member
    obtain ⟨o', there', shown⟩ := lists.sound r reported
    -- the row shows the object itself, since no other one has its name
    cases named.distinct o' there' o there (shown.1.symm.trans same)
    have served : r.labels = [o.label] := by rw [Row.labels, shown.2.1, Option.getD_some]
    rw [served] at head
    cases head
    exact ⟨(shown.concerns_iff (named.name_ne_empty there)).1 sort, target⟩
  · intro target
    obtain ⟨r, reported, shown⟩ := lists.complete o there target.isIn
    have head : r.labels.head? = some o.label := by rw [Row.labels, shown.2.1]; rfl
    have sort := (shown.concerns_iff (named.name_ne_empty there)).2 target.1
    exact ⟨r, Portion.mem_chosen_iff.2 ⟨reported, sort, o.label, target.2, head⟩, shown.1⟩

/-- Dropping what is chosen from a report clears the target labels. -/
theorem applyAll_drop_chosen (lists : Lists c portion rows) (named : IsNamed foreign c)
    (labels : List String) :
    Command.applyAll (((portion.chosen labels rows).map (·.name)).map (.drop portion)) c =
      {o | o ∈ c ∧ ¬ o.IsTarget portion labels} := by
  ext o
  rw [Command.mem_applyAll_drop_iff, Set.mem_ofPred_eq]
  refine and_congr_right fun there => not_congr ?_
  rw [lists.name_mem_chosen_iff named there]
  exact and_iff_right_of_imp Object.IsTarget.isIn

end Lists

/-- What is left of a catalogue when the target labels have been cleared. -/
def survivors (c : Set Object) (labels : List String) : Set Object :=
  {o | o ∈ c ∧ ∀ portion, ¬ o.IsTarget portion labels}

/-! ### Servers that keep a catalogue -/

namespace Migrator.Keeps

variable {m : Migrator σ} {catalogue : σ → Set Object}

/-- A report lists a portion of the catalogue. -/
theorem ensures_ask (keeps : m.Keeps foreign catalogue) (portion : Portion) (c : Set Object) :
    Ensures (fun server => catalogue server = c) (portion.ask m.inspector) fun live server =>
      catalogue server = c ∧
        ∃ rows, live = rows.map (·.entry portion) ∧ Lists c portion rows := by
  rintro server live server' rfl asked
  obtain ⟨same, rows, read, lists⟩ := keeps.reports portion server live server' asked
  rw [portion.mapM_read_records] at read
  cases read
  exact ⟨same, rows, rfl, lists⟩

/-- Commands are carried out one after the other. -/
theorem ensures_executeAll (keeps : m.Keeps foreign catalogue) {commands : List Command}
    (proper : ∀ command ∈ commands, command.IsProper foreign) (c : Set Object) :
    Ensures (fun server => catalogue server = c) (m.executor.executeAll (commands.map Command.text))
      fun _ server => catalogue server = Command.applyAll commands c := by
  induction commands generalizing c with
  | nil => exact .yield ()
  | cons command commands ih =>
    have carried : Ensures (fun server => catalogue server = c)
        (m.executor.execute command.text .null)
        fun _ server => catalogue server = command.apply c := by
      rintro server answer server' rfl ran
      exact keeps.executes command (proper command List.mem_cons_self) server answer server' ran
    exact carried.bind fun _ =>
      ih (fun command' member => proper command' (List.mem_cons_of_mem command member)) _

/-- A step that runs commands carries them out. -/
theorem ensures_runPlanned (keeps : m.Keeps foreign catalogue) (step : Step)
    {commands : List Command} (proper : ∀ command ∈ commands, command.IsProper foreign)
    (c : Set Object) :
    Ensures (fun run => catalogue run.server = c)
      (m.runPlanned step (commands.map Command.text))
      fun _ run => catalogue run.server = Command.applyAll commands c := by
  have worked := (keeps.ensures_executeAll proper c).bind fun _ =>
    Ensures.yield (commands.map Command.text)
  exact ensures_runStep step (some (commands.map Command.text)) worked

/-- A portion of the target labels is cleared. -/
theorem ensures_clear (keeps : m.Keeps foreign catalogue) (labels : List String) (portion : Portion)
    (named : IsNamed foreign c) :
    Ensures (fun run => catalogue run.server = c) (m.clear labels portion)
      fun _ run => catalogue run.server = {o | o ∈ c ∧ ¬ o.IsTarget portion labels} := by
  refine (ensures_runStep _ none (keeps.ensures_ask portion c)).bind fun live => ?_
  refine (Ensures.result _).bind fun planned => ?_
  rintro run dropped run' ⟨⟨same, rows, rfl, lists⟩, read⟩ ran
  rw [portion.drops_entries] at read
  cases read
  -- the statements are the texts of commands, whose names are those of objects that are there
  let names := (portion.chosen labels rows).map (·.name)
  have proper : ∀ command ∈ names.map (Command.drop portion), command.IsProper foreign := by
    intro command member
    obtain ⟨name, chosen, rfl⟩ := List.mem_map.1 member
    obtain ⟨r, reported, rfl⟩ := List.mem_map.1 chosen
    obtain ⟨o, there, shown⟩ := lists.sound r (Portion.mem_chosen_iff.1 reported).1
    rw [shown.1]
    exact named.identified o there
  have texts : ((portion.chosen labels rows).map fun r => portion.dropStatement r.name) =
      (names.map (Command.drop portion)).map Command.text := by
    rw [List.map_map, List.map_map]
    exact List.map_congr_left fun r _ => (Command.text_drop portion r.name).symm
  rw [texts] at ran
  rw [← lists.applyAll_drop_chosen named labels]
  exact keeps.ensures_runPlanned portion.dropStep proper c run dropped run' same ran

/-- The target labels are cleared of constraints, then of indexes. -/
theorem ensures_drop (keeps : m.Keeps foreign catalogue) (labels : List String)
    (named : IsNamed foreign c) :
    Ensures (fun run => catalogue run.server = c) (m.drop labels)
      fun _ run => catalogue run.server = survivors c labels := by
  rw [drop_eq_clear]
  -- the indexes are asked for when the constraints are gone, and the objects left are still named
  have named' : IsNamed foreign {o | o ∈ c ∧ ¬ o.IsTarget .constraints labels} :=
    named.subset fun o there => there.1
  refine (keeps.ensures_clear labels .constraints named).bind fun _ => ?_
  refine (keeps.ensures_clear labels .indexes named').bind fun _ => ?_
  refine (Ensures.yield _).weaken fun _ run cleared => ?_
  rw [cleared]
  ext o
  constructor
  · rintro ⟨⟨there, constraint⟩, index⟩
    refine ⟨there, fun portion => ?_⟩
    cases portion with
    | constraints => exact constraint
    | indexes => exact index
  · rintro ⟨there, free⟩
    exact ⟨⟨there, free .constraints⟩, free .indexes⟩

/-- What is required is created where the target labels have been cleared. -/
theorem ensures_create (keeps : m.Keeps foreign catalogue) {wanted : List Item}
    (labelled : ∀ i ∈ wanted, isIdentifier foreign i.label.toList = true ∧
      isIdentifier foreign i.property.toList = true)
    (apart : ∀ i ∈ wanted, ∀ j ∈ wanted, i.name = j.name → i = j)
    (free : ∀ o ∈ c, ∀ i ∈ wanted, o.name = i.name → o = i.object) :
    Ensures (fun run => catalogue run.server = c)
      (m.runPlanned .create (wanted.map Item.statement))
      fun _ run => catalogue run.server = {o | o ∈ c ∨ ∃ i ∈ wanted, o = i.object} := by
  have proper : ∀ command ∈ wanted.map fun i => Command.create i.name i,
      command.IsProper foreign := by
    intro command member
    obtain ⟨i, required, rfl⟩ := List.mem_map.1 member
    exact ⟨Item.isIdentifier_name (labelled i required).1, labelled i required⟩
  have texts : wanted.map Item.statement =
      (wanted.map fun i => Command.create i.name i).map Command.text := by
    rw [List.map_map]
    exact List.map_congr_left fun i _ => (Command.text_create i).symm
  rw [texts]
  refine (keeps.ensures_runPlanned .create proper c).weaken fun _ run carried => ?_
  rw [carried]
  ext o
  exact Command.mem_applyAll_create_iff apart free

end Migrator.Keeps

end Schema

end GraphMapper
