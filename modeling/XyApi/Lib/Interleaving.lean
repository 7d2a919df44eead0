import XyApi.Lib.Transaction

/-!
Threads over a shared state. A schedule names, step by step, the thread that goes on and
what it meets there (the time, say). What holds of every thread is kept by a run when a
step keeps it for the thread that takes it and no step takes it from another thread. Where
threads take turns, it is enough to follow the one whose turn it is.
-/

namespace XyApi.Lib.Interleaving

structure System (σ τ : Type) where
  shared : σ
  threads : List τ

variable {σ τ ε : Type} {f : ε → σ → τ → σ × τ}

def System.step (f : ε → σ → τ → σ × τ) (sys : System σ τ) (event : Nat × ε) : System σ τ :=
  match sys.threads[event.1]? with
  | none => sys
  | some t =>
    { shared := (f event.2 sys.shared t).1
      threads := sys.threads.set event.1 (f event.2 sys.shared t).2 }

theorem step_of_getElem? {sys : System σ τ} {event : Nat × ε} {t : τ}
    (h : sys.threads[event.1]? = some t) :
    sys.step f event =
      { shared := (f event.2 sys.shared t).1
        threads := sys.threads.set event.1 (f event.2 sys.shared t).2 } := by
  simp only [System.step, h]

/-- A property of the shared state, and one of each thread in view of it. -/
def System.Holds (Shared : σ → Prop) (Own : σ → τ → Prop) (sys : System σ τ) : Prop :=
  Shared sys.shared ∧ ∀ t ∈ sys.threads, Own sys.shared t

/-- What a step owes to the thread that takes it and to the others. -/
structure Keeps (f : ε → σ → τ → σ × τ) (ok : System σ τ → Nat × ε → Prop) (Shared : σ → Prop)
    (Own : σ → τ → Prop) : Prop where
  own : ∀ {sys : System σ τ} {event : Nat × ε} {t : τ}, sys.Holds Shared Own → ok sys event →
    sys.threads[event.1]? = some t →
      Shared (f event.2 sys.shared t).1 ∧ Own (f event.2 sys.shared t).1 (f event.2 sys.shared t).2
  others : ∀ {sys : System σ τ} {event : Nat × ε} {t u : τ}, sys.Holds Shared Own →
    ok sys event → sys.threads[event.1]? = some t → u ∈ sys.threads →
      Own (f event.2 sys.shared t).1 u

theorem Keeps.run {ok : System σ τ → Nat × ε → Prop} {Shared : σ → Prop} {Own : σ → τ → Prop}
    (h : Keeps f ok Shared Own) {sys : System σ τ} (hSys : sys.Holds Shared Own)
    {events : List (Nat × ε)} (hGuarded : Guarded (System.step f) ok sys events) :
    (Lib.run (System.step f) sys events).Holds Shared Own := by
  refine guarded_invariant (fun sys event hOk hSys => ?_) hSys hGuarded
  cases hGet : sys.threads[event.1]? with
  | none => simpa only [System.step, hGet] using hSys
  | some =>
    rw [step_of_getElem? hGet]
    refine ⟨(h.own hSys hOk hGet).1, fun u hu => ?_⟩
    rcases List.mem_or_eq_of_mem_set hu with hu | rfl
    · exact h.others hSys hOk hGet hu
    · exact (h.own hSys hOk hGet).2

/-- How far a thread has come depends on its own steps only. -/
theorem thread_run {R : Nat → τ → Prop}
    (h : ∀ e s t n, R n t → R (n + 1) (f e s t).2) {i : Nat} {events : List (Nat × ε)} {n : Nat}
    {sys : System σ τ} {t : τ} (hGet : sys.threads[i]? = some t) (hR : R n t) :
    ∃ t', (run (System.step f) sys events).threads[i]? = some t' ∧
      R (n + events.countP (·.1 = i)) t' := by
  induction events generalizing n sys t with
  | nil => exact ⟨t, hGet, hR⟩
  | cons event events ih =>
    rw [run_cons]
    by_cases hEvent : event.1 = i
    · subst hEvent
      obtain ⟨hLt, -⟩ := List.getElem?_eq_some_iff.mp hGet
      rw [step_of_getElem? hGet, List.countP_cons_of_pos (by simp),
        show ∀ k, n + (k + 1) = n + 1 + k by omega]
      exact ih (List.getElem?_set_self hLt) (h _ _ _ _ hR)
    · rw [List.countP_cons_of_neg (by simpa using hEvent)]
      refine ih ?_ hR
      unfold System.step
      split
      · exact hGet
      · rw [List.getElem?_set_ne hEvent, hGet]

/-! ### Turns -/

def System.Alone (idle : τ → Bool) (sys : System σ τ) (i : Nat) : Prop :=
  ∀ j, j ≠ i → ∀ t ∈ sys.threads[j]?, idle t

instance (idle : τ → Bool) (sys : System σ τ) (i : Nat) : Decidable (sys.Alone idle i) :=
  decidable_of_iff (∀ j ∈ List.range sys.threads.length, j ≠ i → ∀ t ∈ sys.threads[j]?, idle t)
    ⟨fun h j hj t ht => h j (List.mem_range.mpr (List.getElem?_eq_some_iff.mp ht).1) hj t ht,
      fun h j _ => h j⟩

/-- What is known between turns, and in the middle of one to the thread whose turn it is. -/
def System.InTurn (idle : τ → Bool) (Good : σ → Prop) (Phase : σ → τ → Prop) (sys : System σ τ) :
    Prop :=
  Good sys.shared ∧ ∀ i t, sys.threads[i]? = some t → sys.Alone idle i → Phase sys.shared t

theorem turns_run {idle : τ → Bool} {Good : σ → Prop} {Phase : σ → τ → Prop}
    {ok : ε → σ → τ → Prop} (hGood : ∀ {s t}, Phase s t → Good s)
    (hIdle : ∀ {s t u}, idle t → idle u → Phase s t → Phase s u)
    (hStep : ∀ {e s t}, ok e s t → Phase s t → Phase (f e s t).1 (f e s t).2) {sys : System σ τ}
    (hSys : sys.InTurn idle Good Phase) {events : List (Nat × ε)}
    (hGuarded : Guarded (System.step f) (fun sys event => sys.Alone idle event.1 ∧
      ∀ t ∈ sys.threads[event.1]?, ok event.2 sys.shared t) sys events) :
    (run (System.step f) sys events).InTurn idle Good Phase := by
  refine guarded_invariant (fun sys event hOk hSys => ?_) hSys hGuarded
  obtain ⟨hAlone, hOk⟩ := hOk
  cases hGet : sys.threads[event.1]? with
  | none => simpa only [System.step, hGet] using hSys
  | some t =>
    obtain ⟨hLt, -⟩ := List.getElem?_eq_some_iff.mp hGet
    have hPhase := hStep (hOk t hGet) (hSys.2 _ t hGet hAlone)
    rw [step_of_getElem? hGet]
    refine ⟨hGood hPhase, fun j u hu hAlone' => ?_⟩
    by_cases hj : j = event.1
    · subst hj
      rw [List.getElem?_set_self hLt] at hu
      exact Option.some.inj hu ▸ hPhase
    · -- Another thread is at its turn only when this one has ended its own.
      rw [List.getElem?_set_ne (Ne.symm hj)] at hu
      exact hIdle (hAlone' _ (Ne.symm hj) _ (List.getElem?_set_self hLt)) (hAlone j hj u hu) hPhase

end XyApi.Lib.Interleaving
