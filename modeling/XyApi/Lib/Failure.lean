import XyApi.Lib.Transaction

/-!
How a transaction fails. The `_error_iff` lemmas turn a failed computation into
the step that failed and the state it failed in, and `FailsWith` bounds the errors
a computation can end in, whatever state it starts from. `Meets` is a contract
with a condition on the state before, one on the answer and the state after a
success, and one on the error of a failure.
-/

namespace XyApi.Lib.Tx

variable {σ ε α β : Type} {s : σ} {e : ε}

section Inversion

theorem bind_error_iff {x : Tx σ ε α} {f : α → Tx σ ε β} :
    (x >>= f) s = .error e ↔
      x s = .error e ∨ ∃ a s₁, x s = .ok (a, s₁) ∧ f a s₁ = .error e := by
  cases hx : x s with
  | error => rw [bind_of_error hx]; simp
  | ok r =>
    obtain ⟨a, s₁⟩ := r
    rw [bind_of_ok hx]
    simp [and_assoc]

@[simp] theorem pure_error_iff : (pure a : Tx σ ε α) s = .error e ↔ False := by
  change Except.ok (a, s) = Except.error e ↔ _
  simp

@[simp] theorem write_error_iff : (write f : Tx σ ε Unit) s = .error e ↔ False := by
  simp [write]

@[simp] theorem fail_error_iff : (fail e' : Tx σ ε α) s = .error e ↔ e' = e := by
  simp [fail]

@[simp] theorem failIf_error_iff {c : Prop} [Decidable c] :
    (failIf c e' : Tx σ ε Unit) s = .error e ↔ c ∧ e' = e := by
  unfold failIf
  split <;> simp [*]

@[simp] theorem require_error_iff :
    (require o e' : Tx σ ε α) s = .error e ↔ o = none ∧ e' = e := by
  cases o <;> simp [require]

theorem failIf_bind_error_iff {c : Prop} [Decidable c] :
    (failIf c e' >>= g) s = .error e ↔ (c ∧ e' = e) ∨ (¬ c ∧ g () s = .error e) := by
  by_cases hc : c
  · rw [failIf_bind_of hc]; simp [hc]
  · rw [failIf_bind_of_not hc]; simp [hc]

theorem require_bind_error_iff :
    (require o e' >>= g) s = .error e ↔
      (o = none ∧ e' = e) ∨ ∃ a, o = some a ∧ g a s = .error e := by
  cases o with
  | none => simp [require]
  | some => simp [require]

end Inversion

def FailsWith (x : Tx σ ε α) (E : ε → Prop) : Prop := ∀ s e, x s = .error e → E e

namespace FailsWith

variable {E : ε → Prop}

theorem pure (a : α) : FailsWith (pure a : Tx σ ε α) E := fun _ _ h => (pure_error_iff.mp h).elim

theorem read (f : σ → α) : FailsWith (read f : Tx σ ε α) E := fun _ _ h => by cases h

theorem write (f : σ → σ) : FailsWith (write f : Tx σ ε Unit) E := fun _ _ h => by cases h

theorem failIf {c : Prop} [Decidable c] (he : E e) : FailsWith (failIf c e : Tx σ ε Unit) E :=
  fun _ _ h => (failIf_error_iff.mp h).2 ▸ he

theorem require (he : E e) : FailsWith (require o e : Tx σ ε α) E :=
  fun _ _ h => (require_error_iff.mp h).2 ▸ he

theorem bind {x : Tx σ ε α} {f : α → Tx σ ε β} (hx : FailsWith x E)
    (hf : ∀ a, FailsWith (f a) E) : FailsWith (x >>= f) E := by
  intro s e h
  rcases bind_error_iff.mp h with hFirst | ⟨a, s₁, -, hRest⟩
  · exact hx s e hFirst
  · exact hf a s₁ e hRest

theorem ite {c : Prop} [Decidable c] (hx : FailsWith x E) (hy : FailsWith y E) :
    FailsWith (if c then x else y) E := by
  split
  · exact hx
  · exact hy

theorem when {c : Prop} [Decidable c] (hx : FailsWith x E) :
    FailsWith (when c x) E :=
  ite hx (pure ())

end FailsWith

/-- From a state in `P`, a success ends in `Q` and a failure in `E`. -/
def Meets (P : σ → Prop) (x : Tx σ ε α) (Q : α → σ → Prop) (E : ε → Prop) : Prop :=
  ∀ s, P s → (∀ a s', x s = .ok (a, s') → Q a s') ∧ ∀ e, x s = .error e → E e

namespace Meets

theorem of_failsWith (hx : FailsWith x E) (h : ∀ s a s', P s → x s = .ok (a, s') → Q a s') :
    Meets P x Q E :=
  fun s hs => ⟨fun a s' => h s a s' hs, hx s⟩

theorem pure (h : ∀ s, P s → Q a s) : Meets P (pure a) Q E :=
  of_failsWith (.pure a) fun s _ _ hs hRun => by
    obtain ⟨rfl, rfl⟩ := pure_ok_iff.mp hRun
    exact h s hs

theorem read (h : ∀ s, P s → Q (f s) s) : Meets P (Tx.read f) Q E :=
  of_failsWith (.read f) fun s _ _ hs hRun => by
    obtain ⟨rfl, rfl⟩ := read_ok_iff.mp hRun
    exact h s hs

theorem write (h : ∀ s, P s → R (f s)) :
    Meets P (Tx.write f) (fun _ => R) E :=
  of_failsWith (.write f) fun s _ _ hs hRun => by
    obtain rfl := write_ok_iff.mp hRun
    exact h s hs

theorem failIf {c : Prop} [Decidable c] (he : E e) :
    Meets P (Tx.failIf c e) (fun _ s => P s ∧ ¬ c) E :=
  of_failsWith (.failIf he) fun s _ _ hs hRun => by
    obtain ⟨hc, rfl⟩ := failIf_ok_iff.mp hRun
    exact ⟨hs, hc⟩

theorem require (he : E e) :
    Meets P (Tx.require o e) (fun a s => P s ∧ o = some a) E :=
  of_failsWith (.require he) fun s _ _ hs hRun => by
    obtain ⟨ho, rfl⟩ := require_ok_iff.mp hRun
    exact ⟨hs, ho⟩

/-- What is there is not missing. -/
theorem require_some (h : Meets P (f a) Q' E) :
    Meets P (Tx.require (some a) e >>= f) Q' E := h

theorem bind {x : Tx σ ε α} {f : α → Tx σ ε β} {Q' : β → σ → Prop} (hx : Meets P x Q E)
    (hf : ∀ a, Meets (Q a) (f a) Q' E) : Meets P (x >>= f) Q' E := by
  intro s hs
  obtain ⟨hOk, hError⟩ := hx s hs
  constructor
  · intro b s' hRun
    obtain ⟨a, s₁, hFirst, hRest⟩ := bind_ok_iff.mp hRun
    exact (hf a s₁ (hOk a s₁ hFirst)).1 b s' hRest
  · intro e hRun
    rcases bind_error_iff.mp hRun with hFirst | ⟨a, s₁, hFirst, hRest⟩
    · exact hError e hFirst
    · exact (hf a s₁ (hOk a s₁ hFirst)).2 e hRest

theorem ite {c : Prop} [Decidable c] (hx : c → Meets P x Q E) (hy : ¬ c → Meets P y Q E) :
    Meets P (if c then x else y) Q E := by
  split
  · next hc => exact hx hc
  · next hc => exact hy hc

/-- A weaker condition before and a stronger one after. -/
theorem conseq (hx : Meets R x Q' E) (hP : ∀ s, P s → R s) (hQ : ∀ a s, Q' a s → Q a s) :
    Meets P x Q E := fun s hs =>
  ⟨fun a s' hRun => hQ a s' ((hx s (hP s hs)).1 a s' hRun), (hx s (hP s hs)).2⟩

/-- A fact that does not depend on the state may be taken out of the condition. -/
theorem of_and {c : Prop} (h : c → Meets P x Q E) :
    Meets (fun s => P s ∧ c) x Q E := fun s hs => h hs.2 s hs.1

theorem check {c : Prop} [Decidable c] (he : E e) (hf : ¬ c → Meets P (f ()) Q E) :
    Meets P (Tx.failIf c e >>= f) Q E :=
  bind (failIf he) fun _ => of_and hf

theorem void (h : Meets P x (fun _ => R) E) :
    Meets P x.void (fun _ => R) E :=
  bind h fun _ => pure fun _ hs => hs

end Meets

end XyApi.Lib.Tx
