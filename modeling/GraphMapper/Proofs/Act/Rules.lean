import GraphMapper.Proofs.Act.Outcomes

/-!
# Rules for acts

Acts that are put together from acts which abide by a rule abide by it themselves. A rule says in
which states it applies and which entries the copy of an act may add to its record. An act that
abides by it has an outcome in each of these states and leaves another one of them.

## Main definitions

* `Act.Rule` — a rule for acts
* `Act.Abides` — an act that abides by a rule

## Main results

* `Abides.bind`, `Abides.attempt` — what is put together from acts that abide by a rule does so too
-/

namespace GraphMapper.Act

variable {σ τ α β κ : Type}

/-! ### Rules -/

/-- A rule for acts whose copies keep a record. -/
structure Rule (σ τ κ : Type) where
  /-- The state in which the copy keeps some record. -/
  keep : σ → List κ → τ
  /-- The states in which the rule applies. -/
  valid : σ → Prop
  /-- The entries that may be added. -/
  allows : κ → Prop

/-- In every state in which the rule applies the act has an outcome for which only entries are added
that the rule allows, and the rule still applies afterwards. -/
def Abides (rule : Rule σ τ κ) (a : Act σ α) (a' : Act τ α) : Prop :=
  ∀ s, rule.valid s → ∃ entries outcome s', Records rule.keep a a' s entries outcome s' ∧
    (∀ e ∈ entries, rule.allows e) ∧ rule.valid s'

/-- The rule that always applies and allows everything. -/
def Rule.free (keep : σ → List κ → τ) : Rule σ τ κ where
  keep := keep
  valid _ := True
  allows _ := True

namespace Abides

variable {rule : Rule σ τ κ} {a : Act σ α} {a' : Act τ α} {f : α → Act σ β} {f' : α → Act τ β}

theorem result (r : Except Fault α) : Abides rule (Act.result r) (Act.result r) := fun s valid =>
  ⟨[], r, s, .result r, nofun, valid⟩

protected theorem pure (x : α) : Abides rule (pure x) (pure x) := result (.ok x)

theorem bind (first : Abides rule a a') (second : ∀ x, Abides rule (f x) (f' x)) :
    Abides rule (a >>= f) (a' >>= f') := by
  intro s valid
  obtain ⟨entries, fault | x, s', records, allowed, valid'⟩ := first s valid
  · exact ⟨entries, .error fault, s', records.stop, allowed, valid'⟩
  · obtain ⟨entries', outcome, s'', records', allowed', valid''⟩ := second x s' valid'
    refine ⟨entries ++ entries', outcome, s'', records.bind records', ?_, valid''⟩
    exact fun e member => (List.mem_append.1 member).elim (allowed e) (allowed' e)

theorem attempt (done : Abides rule a a') : Abides rule a.attempt a'.attempt := by
  intro s valid
  obtain ⟨entries, outcome, s', records, allowed, valid'⟩ := done s valid
  exact ⟨entries, .ok outcome, s', records.attempt, allowed, valid'⟩

end Abides

theorem abides_recorded (entry : Except Fault α → κ) (a : Act σ α) :
    Abides (.free Prod.mk) a (a.recorded entry) := fun _ _ =>
  ⟨_, _, _, .recorded_act entry rfl, fun _ _ => trivial, trivial⟩

end GraphMapper.Act
