import GraphMapper.Act

/-!
# Outcomes of acts

An act is known by its outcomes: acts with the same outcomes are the same, so what an act does can
be stated as an equation between acts. Where the state keeps a record as well, a copy of the act may
add entries to it.

## Main definitions

* `Act.Yields` — an act that has an outcome and does nothing
* `Act.recorded` — the act that adds its outcome to a record
* `Act.Records` — an act with an outcome, whose copy keeps a record

## Main results

* `Act.ext` — acts that do the same in all states are the same
* `Act.on_bind` — on a part of a state acts follow on each other as they do on the part
* `Act.Records.bind`, `Act.Records.attempt`, `Act.Records.between` — the records of acts are put
  together as the acts are
-/

namespace GraphMapper.Act

variable {σ τ α β : Type}

/-! ### Acts as equations -/

/-- Acts that do the same in all states are the same. -/
theorem ext {a b : Act σ α} (same : ∀ s, a.perform s = b.perform s) : a = b := funext same

theorem perform_get_bind (f : σ → Act σ α) (s : σ) : (get >>= f).perform s = (f s).perform s := rfl

/-- Acts one after the other succeed if each of them does. -/
theorem perform_bind_eq_ok {a : Act σ α} {f : α → Act σ β} {y : β} {s s'' : σ}
    (done : (a >>= f).perform s = (.ok y, s'')) :
    ∃ x s', a.perform s = (.ok x, s') ∧ (f x).perform s' = (.ok y, s'') := by
  rw [perform_bind] at done
  rcases first : a.perform s with ⟨fault | x, s'⟩
  · rw [first] at done
    cases done
  · rw [first] at done
    exact ⟨x, s', rfl, done⟩

/-- Where the beginning and the end succeed, the outcome is that of what is done in between. -/
theorem perform_between {start stop : Act σ Unit} {body : Act σ α} {outcome : Except Fault α}
    {s s₁ s₂ s₃ : σ} (started : start.perform s = (.ok (), s₁))
    (done : body.perform s₁ = (outcome, s₂)) (stopped : stop.perform s₂ = (.ok (), s₃)) :
    (between start stop body).perform s = (outcome, s₃) := by
  simp only [between, perform_bind, started, perform_attempt, done, stopped, perform_result]

/-- What follows on a result matters only where there is one. -/
theorem result_bind_congr {r : Except Fault α} {f g : α → Act σ β}
    (same : ∀ x, r = .ok x → f x = g x) : result r >>= f = result r >>= g := by
  cases r with
  | error fault => rfl
  | ok x => exact same x rfl

/-- On a part of a state acts follow on each other as they do on the part. -/
theorem on_bind {get : τ → σ} {put : σ → τ → τ} (get_put : ∀ s t, get (put s t) = s)
    (put_put : ∀ s s' t, put s' (put s t) = put s' t) (a : Act σ α) (f : α → Act σ β) :
    (a >>= f).on get put = a.on get put >>= fun x => (f x).on get put := by
  refine ext fun t => ?_
  rw [perform_on, perform_bind, perform_bind, perform_on]
  rcases a.perform (get t) with ⟨fault | x, s⟩
  · rfl
  · simp only [perform_on, get_put, put_put]

/-! ### Acts that do nothing -/

/-- The act has the given outcome in every state, and leaves the state as it is. -/
def Yields (a : Act σ α) (r : Except Fault α) : Prop := ∀ s, a.perform s = (r, s)

namespace Yields

theorem eq_result {a : Act σ α} {r : Except Fault α} (yields : Yields a r) : a = Act.result r :=
  ext yields

protected theorem pure (x : α) : Yields (pure x : Act σ α) (.ok x) := fun _ => rfl

theorem result (r : Except Fault α) : Yields (Act.result r : Act σ α) r := fun _ => rfl

protected theorem bind {a : Act σ α} {r : Except Fault α} {f : α → Act σ β}
    {g : α → Except Fault β} (first : Yields a r) (next : ∀ x, Yields (f x) (g x)) :
    Yields (a >>= f) (r.bind g) := by
  intro s
  rw [perform_bind, first s]
  cases r with
  | error fault => rfl
  | ok x => exact next x s

/-- What follows on an act that succeeds. -/
theorem after {a : Act σ α} {x : α} {f : α → Act σ β} {r : Except Fault β}
    (first : Yields a (.ok x)) (next : Yields (f x) r) : Yields (a >>= f) r := by
  intro s
  rw [perform_bind, first s]
  exact next s

end Yields

/-! ### Records -/

/-- The act with its outcome added to a record. -/
def recorded {κ : Type} (entry : Except Fault α → κ) (a : Act σ α) : Act (σ × List κ) α :=
  of fun (s, record) =>
    let (r, s) := a.perform s
    (r, (s, record ++ [entry r]))

/-- From one state to another the act has the outcome. Its copy, which works on a state that keeps a
record as well, does the same and adds the entries to the record. -/
structure Records {κ : Type} (keep : σ → List κ → τ) (a : Act σ α) (a' : Act τ α) (s : σ)
    (entries : List κ) (outcome : Except Fault α) (s' : σ) : Prop where
  /-- What the act does. -/
  plain : a.perform s = (outcome, s')
  /-- What the copy does. -/
  recorded : ∀ before, a'.perform (keep s before) = (outcome, keep s' (before ++ entries))

namespace Records

variable {κ : Type} {keep : σ → List κ → τ} {a : Act σ α} {a' : Act τ α} {f : α → Act σ β}
  {f' : α → Act τ β} {s s' s'' : σ} {entries entries' : List κ} {outcome : Except Fault α}

/-- A recorded act adds its outcome to the record. -/
theorem recorded_act (entry : Except Fault α → κ) (done : a.perform s = (outcome, s')) :
    Records Prod.mk a (a.recorded entry) s [entry outcome] outcome s' where
  plain := done
  recorded before := by simp only [Act.recorded, perform_of, done]

/-- An act that does nothing records nothing. -/
theorem of_nothing (plain : a.perform s = (outcome, s))
    (recorded : ∀ before, a'.perform (keep s before) = (outcome, keep s before)) :
    Records keep a a' s [] outcome s where
  plain := plain
  recorded before := by rw [List.append_nil, recorded]

theorem result (r : Except Fault α) : Records keep (Act.result r) (Act.result r) s [] r s :=
  of_nothing rfl fun _ => rfl

protected theorem pure (x : α) : Records keep (pure x) (pure x) s [] (.ok x) s := result (.ok x)

/-- After an act that succeeds the next one goes on. -/
theorem bind {x : α} {last : Except Fault β} (first : Records keep a a' s entries (.ok x) s')
    (second : Records keep (f x) (f' x) s' entries' last s'') :
    Records keep (a >>= f) (a' >>= f') s (entries ++ entries') last s'' where
  plain := by
    rw [perform_bind, first.plain]
    exact second.plain
  recorded before := by
    rw [perform_bind, first.recorded, ← List.append_assoc]
    exact second.recorded (before ++ entries)

/-- After an act that fails there is no next one. -/
theorem stop {fault : Fault} (first : Records keep a a' s entries (.error fault) s') :
    Records keep (a >>= f) (a' >>= f') s entries (.error fault) s' where
  plain := by rw [perform_bind, first.plain]
  recorded before := by rw [perform_bind, first.recorded]

/-- An attempt records what the act records. -/
theorem attempt (done : Records keep a a' s entries outcome s') :
    Records keep a.attempt a'.attempt s entries (.ok outcome) s' where
  plain := by rw [perform_attempt, done.plain]
  recorded before := by rw [perform_attempt, done.recorded]

/-- What is recorded of a beginning that succeeds, of what is done after it, and of the end. -/
theorem between {start stop : Act σ Unit} {start' stop' : Act τ Unit} {answer : Except Fault Unit}
    {s₁ s₂ s₃ : σ} {entries₁ entries₂ entries₃ : List κ}
    (first : Records keep start start' s entries₁ (.ok ()) s₁)
    (second : Records keep a a' s₁ entries₂ outcome s₂)
    (third : Records keep stop stop' s₂ entries₃ answer s₃) :
    Records keep (between start stop a) (between start' stop' a') s
      (entries₁ ++ (entries₂ ++ entries₃)) (answer.bind fun _ => outcome) s₃ := by
  refine first.bind (second.attempt.bind ?_)
  cases answer with
  | error fault => exact third.stop
  | ok _ =>
    rw [← List.append_nil entries₃]
    exact third.bind (.result outcome)

/-- Acts that are the same record the same. -/
theorem of_eq {b : Act σ α} {b' : Act τ α} (done : Records keep b b' s entries outcome s')
    (plain : a = b) (recorded : a' = b') : Records keep a a' s entries outcome s' :=
  plain ▸ recorded ▸ done

/-- Acts that do the same in a state record the same there. -/
theorem congr {b : Act σ α} {b' : Act τ α} (done : Records keep b b' s entries outcome s')
    (plain : a.perform s = b.perform s)
    (recorded : ∀ before, a'.perform (keep s before) = b'.perform (keep s before)) :
    Records keep a a' s entries outcome s' where
  plain := plain.trans done.plain
  recorded before := (recorded before).trans (done.recorded before)

end Records

end GraphMapper.Act
