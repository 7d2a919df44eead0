/-!
Database transactions over an arbitrary state. A computation that ends in an
error keeps none of its writes, and `commit` is what an outside observer sees of
it. The `_ok_iff` lemmas turn a successful computation into the facts its steps
established, so proofs never unfold the monad.
-/

namespace XyApi.Lib

/-- A computation inside one transaction: the writes so far, or an error. -/
def Tx (σ ε α : Type) : Type := σ → Except ε (α × σ)

namespace Tx

variable {σ ε α β : Type}

instance : Monad (Tx σ ε) where
  pure a := fun s => .ok (a, s)
  bind x f := fun s =>
    match x s with
    | .ok (a, s') => f a s'
    | .error e => .error e

def read (f : σ → α) : Tx σ ε α := fun s => .ok (f s, s)

def write (f : σ → σ) : Tx σ ε Unit := fun s => .ok ((), f s)

def fail (e : ε) : Tx σ ε α := fun _ => .error e

def failIf (c : Prop) [Decidable c] (e : ε) : Tx σ ε Unit :=
  if c then fail e else pure ()

def when (c : Prop) [Decidable c] (x : Tx σ ε Unit) : Tx σ ε Unit :=
  if c then x else pure ()

def require (o : Option α) (e : ε) : Tx σ ε α :=
  match o with
  | some a => pure a
  | none => fail e

def void (x : Tx σ ε α) : Tx σ ε Unit := do
  let _ ← x
  pure ()

/-- Run a nested computation whose failure undoes only its own writes. -/
def savepoint (x : Tx σ ε α) : Tx σ ε (Except ε α) := fun s =>
  match x s with
  | .ok (a, s') => .ok (.ok a, s')
  | .error e => .ok (.error e, s)

def mapErr (f : ε → ε) (x : Tx σ ε α) : Tx σ ε α := fun s =>
  match x s with
  | .ok r => .ok r
  | .error e => .error (f e)

/-- The state and the answer left by a transaction that starts in `s`. -/
def commit (x : Tx σ ε α) (s : σ) : σ × Except ε α :=
  match x s with
  | .ok (a, s') => (s', .ok a)
  | .error e => (s, .error e)

section Inversion

variable {s s' : σ} {a : α}

theorem bind_ok_iff {x : Tx σ ε α} {f : α → Tx σ ε β} :
    (x >>= f) s = .ok (b, s') ↔ ∃ a s₁, x s = .ok (a, s₁) ∧ f a s₁ = .ok (b, s') := by
  change (match x s with | .ok (a, s') => f a s' | .error e => .error e) = _ ↔ _
  cases x s with
  | error => simp
  | ok r => cases r; simp [and_assoc]

@[simp] theorem pure_ok_iff :
    (pure a : Tx σ ε α) s = .ok (a', s') ↔ a = a' ∧ s = s' := by
  change Except.ok (a, s) = Except.ok (a', s') ↔ _
  simp

theorem bind_ok (h : (x >>= f : Tx σ ε β) s = .ok (b, s')) :
    ∃ a s₁, x s = .ok (a, s₁) ∧ f a s₁ = .ok (b, s') :=
  bind_ok_iff.mp h

theorem pure_ok (h : (pure a : Tx σ ε α) s = .ok (a', s')) : a = a' ∧ s = s' :=
  pure_ok_iff.mp h

@[simp] theorem read_ok_iff :
    (read f : Tx σ ε α) s = .ok (a, s') ↔ f s = a ∧ s = s' := by
  simp [read]

@[simp] theorem write_ok_iff :
    (write f : Tx σ ε Unit) s = .ok (u, s') ↔ f s = s' := by
  simp [write]

@[simp] theorem fail_ok_iff : (fail e : Tx σ ε α) s = .ok (a, s') ↔ False := by
  simp [fail]

@[simp] theorem failIf_ok_iff {c : Prop} [Decidable c] :
    (failIf c e : Tx σ ε Unit) s = .ok (u, s') ↔ ¬ c ∧ s = s' := by
  unfold failIf
  split <;> simp [*]

@[simp] theorem require_ok_iff :
    (require o e : Tx σ ε α) s = .ok (a, s') ↔ o = some a ∧ s = s' := by
  cases o <;> simp [require]

theorem when_ok_iff {c : Prop} [Decidable c] :
    (when c x) s = .ok (u, s') ↔ (c ∧ x s = .ok (u, s')) ∨ (¬ c ∧ s = s') := by
  unfold when
  split <;> simp [*]

theorem ite_ok_iff {c : Prop} [Decidable c] {x y : Tx σ ε α} :
    (if c then x else y) s = .ok (a, s') ↔
      (c ∧ x s = .ok (a, s')) ∨ (¬ c ∧ y s = .ok (a, s')) := by
  split <;> simp [*]

@[simp] theorem void_ok_iff {x : Tx σ ε α} {u : Unit} :
    x.void s = .ok (u, s') ↔ ∃ a, x s = .ok (a, s') := by
  unfold void
  rw [bind_ok_iff]
  simp

@[simp] theorem mapErr_ok_iff {f : ε → ε} {x : Tx σ ε α} :
    x.mapErr f s = .ok (a, s') ↔ x s = .ok (a, s') := by
  unfold mapErr
  cases x s <;> simp

theorem savepoint_ok_iff {x : Tx σ ε α} {r : Except ε α} :
    x.savepoint s = .ok (r, s') ↔
      (∃ a, r = .ok a ∧ x s = .ok (a, s')) ∨ ∃ e, r = .error e ∧ x s = .error e ∧ s' = s := by
  unfold savepoint
  cases hx : x s with
  | error e =>
    simp only [Except.ok.injEq, Prod.mk.injEq]
    constructor
    · rintro ⟨rfl, rfl⟩
      exact .inr ⟨e, rfl, rfl, rfl⟩
    · rintro (⟨a, -, hOk⟩ | ⟨e', rfl, hErr, rfl⟩)
      · cases hOk
      · cases hErr
        exact ⟨rfl, rfl⟩
  | ok p =>
    simp only [Except.ok.injEq, Prod.mk.injEq]
    constructor
    · rintro ⟨rfl, rfl⟩
      exact .inl ⟨p.1, rfl, rfl⟩
    · rintro (⟨a, rfl, hOk⟩ | ⟨e, -, hErr, -⟩)
      · cases hOk
        exact ⟨rfl, rfl⟩
      · cases hErr

end Inversion

/-! A primitive at the head of a computation disappears into the state. -/

section Bind

variable {s s' : σ}

@[simp] theorem pure_bind_apply (a : α) (g : α → Tx σ ε β) : (pure a >>= g) s = g a s := rfl

@[simp] theorem read_bind_apply (f : σ → α) (g : α → Tx σ ε β) :
    (read f >>= g) s = g (f s) s := rfl

@[simp] theorem write_bind_apply (g : Unit → Tx σ ε β) :
    (write f >>= g) s = g () (f s) := rfl

@[simp] theorem fail_bind_apply (e : ε) (g : α → Tx σ ε β) :
    (fail e >>= g) s = .error e := rfl

@[simp] theorem failIf_bind_ok_iff {c : Prop} [Decidable c] :
    (failIf c e >>= g) s = .ok (b, s') ↔ ¬ c ∧ g () s = .ok (b, s') := by
  unfold failIf
  split <;> simp [*]

@[simp] theorem require_bind_ok_iff :
    (require o e >>= g) s = .ok (b, s') ↔ ∃ a, o = some a ∧ g a s = .ok (b, s') := by
  cases o <;> simp [require]

theorem bind_of_ok (h : x s = .ok (a, t)) (g : α → Tx σ ε β) :
    (x >>= g) s = g a t := by
  change (match x s with | .ok (a, s') => g a s' | .error e => .error e) = _
  rw [h]

theorem bind_of_error (h : x s = .error e) (g : α → Tx σ ε β) :
    (x >>= g) s = .error e := by
  change (match x s with | .ok (a, s') => g a s' | .error e => .error e) = _
  rw [h]

theorem failIf_bind_of {c : Prop} [Decidable c] (h : c) (g : Unit → Tx σ ε β) :
    (failIf c e >>= g) s = .error e := by
  simp [failIf, h]

theorem failIf_bind_of_not {c : Prop} [Decidable c] (h : ¬ c) (g : Unit → Tx σ ε β) :
    (failIf c e >>= g) s = g () s := by
  simp [failIf, h]

end Bind

section Commit

variable {x : Tx σ ε α} {s : σ}

/-- A transaction either leaves the state alone or leaves what its body wrote. -/
theorem commit_cases (x : Tx σ ε α) (s : σ) :
    (∃ e, x s = .error e ∧ x.commit s = (s, .error e)) ∨
      ∃ a s', x s = .ok (a, s') ∧ x.commit s = (s', .ok a) := by
  unfold commit
  cases h : x s with
  | error e => exact .inl ⟨e, rfl, rfl⟩
  | ok r => exact .inr ⟨r.1, r.2, rfl, rfl⟩

theorem commit_of_ok (h : x s = .ok (a, s')) : x.commit s = (s', .ok a) := by
  simp [commit, h]

theorem commit_of_error (h : x s = .error e) : x.commit s = (s, .error e) := by
  simp [commit, h]

/-- What a computation writes does not depend on who looks at its answer. -/
theorem commit_void (x : Tx σ ε α) (s : σ) : (x.void.commit s).1 = (x.commit s).1 := by
  unfold void
  cases hx : x s with
  | error => rw [commit_of_error hx, commit_of_error (bind_of_error hx _)]
  | ok r =>
    obtain ⟨a, s'⟩ := r
    have hVoid : (x >>= fun _ => pure ()) s = .ok ((), s') := bind_of_ok hx _
    rw [commit_of_ok hx, commit_of_ok hVoid]

theorem commit_preserves {P : σ → Prop} (hs : P s)
    (h : ∀ a s', x s = .ok (a, s') → P s') : P (x.commit s).1 := by
  rcases commit_cases x s with ⟨e, _, hc⟩ | ⟨a, s', hx, hc⟩
  · rw [hc]; exact hs
  · rw [hc]; exact h a s' hx

end Commit

/-! Computations whose success and answer do not depend on the state. -/

section Indifferent

def Indifferent (x : Tx σ ε α) : Prop :=
  ∀ s t a s', x s = .ok (a, s') → ∃ t', x t = .ok (a, t')

theorem Indifferent.pure (a : α) : Indifferent (pure a : Tx σ ε α) := fun _ t _ _ h =>
  ⟨t, pure_ok_iff.mpr ⟨(pure_ok_iff.mp h).1, rfl⟩⟩

theorem Indifferent.write (f : σ → σ) : Indifferent (write f : Tx σ ε Unit) :=
  fun _ t _ _ _ => ⟨f t, rfl⟩

theorem Indifferent.failIf (c : Prop) [Decidable c] (e : ε) :
    Indifferent (failIf c e : Tx σ ε Unit) := fun _ t _ _ h =>
  ⟨t, failIf_ok_iff.mpr ⟨(failIf_ok_iff.mp h).1, rfl⟩⟩

theorem Indifferent.require (o : Option α) (e : ε) : Indifferent (require o e : Tx σ ε α) :=
  fun _ t _ _ h => ⟨t, require_ok_iff.mpr ⟨(require_ok_iff.mp h).1, rfl⟩⟩

theorem Indifferent.bind {x : Tx σ ε α} {f : α → Tx σ ε β} (hx : Indifferent x)
    (hf : ∀ a, Indifferent (f a)) : Indifferent (x >>= f) := by
  intro s t b s' h
  obtain ⟨a, s₁, hFirst, hRest⟩ := bind_ok_iff.mp h
  obtain ⟨t₁, hFirst'⟩ := hx s t a s₁ hFirst
  obtain ⟨t', hRest'⟩ := hf a s₁ t₁ b s' hRest
  exact ⟨t', bind_ok_iff.mpr ⟨a, t₁, hFirst', hRest'⟩⟩

theorem Indifferent.ite {c : Prop} [Decidable c] (hx : Indifferent x) (hy : Indifferent y) :
    Indifferent (if c then x else y) := by
  split
  · exact hx
  · exact hy

end Indifferent

end Tx

/-! ### Runs -/

section Run

variable {σ ι : Type}

def run (step : σ → ι → σ) (s : σ) (is : List ι) : σ := is.foldl step s

variable {step : σ → ι → σ}

@[simp] theorem run_nil (s : σ) : run step s [] = s := rfl

@[simp] theorem run_cons (s : σ) (i : ι) (is : List ι) :
    run step s (i :: is) = run step (step s i) is := rfl

theorem run_append (s : σ) (is js : List ι) :
    run step s (is ++ js) = run step (run step s is) js := by
  simp [run]

/-- What every step preserves holds after every run. -/
theorem run_invariant {P : σ → Prop} (h : ∀ s i, P s → P (step s i)) {s : σ} (hs : P s)
    (is : List ι) : P (run step s is) := by
  induction is generalizing s with
  | nil => exact hs
  | cons i is ih => exact ih (h s i hs)

/-- The same, for steps that are known to be among those of the run. -/
theorem run_invariant_of_mem {P : σ → Prop} {is : List ι}
    (h : ∀ s i, i ∈ is → P s → P (step s i)) {s : σ} (hs : P s) : P (run step s is) := by
  induction is generalizing s with
  | nil => exact hs
  | cons i is ih =>
    exact ih (fun s j hj => h s j (List.mem_cons_of_mem i hj)) (h s i List.mem_cons_self hs)

/-- Every step of the run meets a condition on the state it starts from. -/
def Guarded (step : σ → ι → σ) (ok : σ → ι → Prop) : σ → List ι → Prop
  | _, [] => True
  | s, i :: is => ok s i ∧ Guarded step ok (step s i) is

instance decidableGuarded {ok : σ → ι → Prop} [∀ s i, Decidable (ok s i)] :
    (s : σ) → (is : List ι) → Decidable (Guarded step ok s is)
  | _, [] => inferInstanceAs (Decidable True)
  | s, i :: is =>
    have : Decidable (Guarded step ok (step s i) is) := decidableGuarded (step s i) is
    inferInstanceAs (Decidable (ok s i ∧ Guarded step ok (step s i) is))

theorem guarded_append :
    Guarded step ok s (is ++ js) ↔ Guarded step ok s is ∧ Guarded step ok (run step s is) js := by
  induction is generalizing s with
  | nil => simp [Guarded]
  | cons i is ih => simp [Guarded, ih, and_assoc]

theorem guarded_invariant {ok : σ → ι → Prop} {P : σ → Prop}
    (h : ∀ s i, ok s i → P s → P (step s i)) {s : σ} (hs : P s) {is : List ι}
    (hg : Guarded step ok s is) : P (run step s is) := by
  induction is generalizing s with
  | nil => exact hs
  | cons i is ih => exact ih (h s i hg.1 hs) hg.2

/-- Two runs that take the same steps, apart from silent ones, stay related. -/
theorem run_related {R : σ → σ → Prop} {ok : σ → ι → Prop} {silent : ι → Bool}
    (hLeft : ∀ s t i, silent i = true → R s t → R (step s i) t)
    (hRight : ∀ s t i, silent i = true → R s t → R s (step t i))
    (hBoth : ∀ s t i, ok s i → ok t i → R s t → R (step s i) (step t i)) {s t : σ}
    {is js : List ι} (hSame : is.filter (!silent ·) = js.filter (!silent ·))
    (hs : Guarded step ok s is) (ht : Guarded step ok t js) (h : R s t) :
    R (run step s is) (run step t js) := by
  induction is generalizing s t js with
  | nil =>
    induction js generalizing t with
    | nil => exact h
    | cons j js ihj =>
      cases hj : silent j with
      | true =>
        rw [List.filter_cons_of_neg (by simp [hj])] at hSame
        exact ihj hSame ht.2 (hRight s t j hj h)
      | false =>
        rw [List.filter_cons_of_pos (by simp [hj])] at hSame
        cases hSame
  | cons i is ih =>
    by_cases hi : silent i = true
    · rw [List.filter_cons_of_neg (by simp [hi])] at hSame
      exact ih hSame hs.2 ht (hLeft s t i hi h)
    · rw [List.filter_cons_of_pos (by simp [hi])] at hSame
      -- the other run reaches its next visible step through silent ones
      induction js generalizing t with
      | nil => cases hSame
      | cons j js ihj =>
        by_cases hj : silent j = true
        · rw [List.filter_cons_of_neg (by simp [hj])] at hSame
          exact ihj hSame ht.2 (hRight s t j hj h)
        · rw [List.filter_cons_of_pos (by simp [hj])] at hSame
          obtain ⟨rfl, hRest⟩ := List.cons.inj hSame
          rw [run_cons, run_cons]
          exact ih hRest hs.2 ht.2 (hBoth s t i hs.1 ht.1 h)

end Run

end XyApi.Lib
