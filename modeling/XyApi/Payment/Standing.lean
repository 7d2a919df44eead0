import XyApi.Payment.Clerical
import Mathlib.Logic.Relation

/-!
The freeze of one account as an abstract machine. Liabilities open and close in
any order; each remembers a status, opening one disables the account, and closing
the last one lifts the freeze and gives back what that liability remembers. The
database refines this machine: the account row and the open rows of two tables
are its state.
-/

namespace XyApi.Payment

open Lib Billing

/-- What an open liability carries: whether it froze the account, and the status
it remembers. -/
structure Liability where
  applied : Bool
  previous : Option UserStatus
  deriving DecidableEq, Repr

@[ext] structure FreezeState (κ : Type) where
  status : UserStatus
  frozen : Bool
  liabilities : κ → Option Liability

namespace FreezeState

variable {κ : Type} [DecidableEq κ]

def AnyOpen (s : FreezeState κ) : Prop := ∃ k l, s.liabilities k = some l

def Restorable (s : FreezeState κ) : Prop :=
  ∃ k l, s.liabilities k = some l ∧ l.applied = true ∧ l.previous = some .enabled

open Classical in
noncomputable def previous (s : FreezeState κ) : UserStatus :=
  if s.frozen = true ∧ s.Restorable then .enabled else s.status

def pressed (s : FreezeState κ) (k : κ) (l : Liability) : FreezeState κ where
  status := .disabled
  frozen := true
  liabilities := Function.update s.liabilities k (some l)

def closed (s : FreezeState κ) (k : κ) : FreezeState κ :=
  { s with liabilities := Function.update s.liabilities k none }

def lifted (s : FreezeState κ) (p : Option UserStatus) : FreezeState κ :=
  if s.frozen = true then
    { s with
      frozen := false
      status := if p = some .enabled ∧ s.status = .disabled then .enabled else s.status }
  else s

inductive Step (s : FreezeState κ) : FreezeState κ → Prop
  /-- A new liability, or a closed one again. -/
  | opened (k : κ) : Step s (s.pressed k ⟨true, some s.previous⟩)
  /-- An open liability grows and keeps what it remembers. -/
  | grown (k : κ) (l : Liability) (h : s.liabilities k = some l) :
      Step s (s.pressed k { l with applied := true })
  /-- A liability closes without lifting the freeze. -/
  | closed (k : κ) (h : (s.closed k).AnyOpen ∨ ∀ l, s.liabilities k = some l → l.applied = false) :
      Step s (s.closed k)
  /-- The last liability closes. -/
  | lifted (k : κ) (l : Liability) (h : s.liabilities k = some l)
      (hNone : ¬ (s.closed k).AnyOpen) : Step s ((s.closed k).lifted l.previous)
  /-- A liability that is closed already is closed again. -/
  | again (p : Option UserStatus) (hNone : ¬ s.AnyOpen) : Step s (s.lifted p)

abbrev Steps (s s' : FreezeState κ) : Prop := Relation.ReflTransGen Step s s'

theorem Steps.preserve {P : FreezeState κ → Prop} (hP : ∀ s s', Step s s' → P s → P s')
    {s s' : FreezeState κ} (h : Steps s s') (hs : P s) : P s' := by
  induction h with
  | refl => exact hs
  | tail _ hStep ih => exact hP _ _ hStep ih

@[simp] theorem closed_liabilities (s : FreezeState κ) (k k' : κ) :
    (s.closed k).liabilities k' = if k' = k then none else s.liabilities k' := by
  simp [closed, Function.update_apply]

@[simp] theorem pressed_liabilities (s : FreezeState κ) (k k' : κ) (l : Liability) :
    (s.pressed k l).liabilities k' = if k' = k then some l else s.liabilities k' := by
  simp [pressed, Function.update_apply]

omit [DecidableEq κ] in
@[simp] theorem lifted_liabilities (s : FreezeState κ) (p : Option UserStatus) :
    (s.lifted p).liabilities = s.liabilities := by
  unfold lifted
  split <;> rfl

omit [DecidableEq κ] in
theorem anyOpen_lifted {s : FreezeState κ} {p : Option UserStatus} :
    (s.lifted p).AnyOpen ↔ s.AnyOpen := by
  simp [AnyOpen]

theorem anyOpen_pressed (s : FreezeState κ) (k : κ) (l : Liability) : (s.pressed k l).AnyOpen :=
  ⟨k, l, by simp⟩

omit [DecidableEq κ] in
theorem lifted_of_not_frozen {s : FreezeState κ} {p : Option UserStatus}
    (h : s.frozen = false) : s.lifted p = s := by
  simp [lifted, h]

/-! ### The round trip -/

/-- Every open liability would give back the same status, and the account is
frozen exactly while one is open. -/
structure Balanced (s₀ : UserStatus) (s : FreezeState κ) : Prop where
  remembered : ∀ k l, s.liabilities k = some l → l = ⟨true, some s₀⟩
  whileOpen : s.AnyOpen → s.status = .disabled ∧ s.frozen = true
  otherwise : ¬ s.AnyOpen → s.status = s₀ ∧ s.frozen = false

omit [DecidableEq κ] in
theorem Balanced.previous_eq {s₀ : UserStatus} {s : FreezeState κ} (h : s.Balanced s₀) :
    s.previous = s₀ := by
  unfold previous
  by_cases hOpen : s.AnyOpen
  · obtain ⟨hStatus, hFrozen⟩ := h.whileOpen hOpen
    obtain ⟨k, l, hl⟩ := hOpen
    cases s₀ with
    | enabled =>
      have hEq := h.remembered k l hl
      exact if_pos ⟨hFrozen, k, l, hl, by simp [hEq]⟩
    | disabled =>
      rw [if_neg, hStatus]
      rintro ⟨-, k', l', hl', -, hEnabled⟩
      simp [h.remembered k' l' hl'] at hEnabled
  · obtain ⟨hStatus, hFrozen⟩ := h.otherwise hOpen
    rw [if_neg (by simp [hFrozen]), hStatus]

theorem Balanced.step {s₀ : UserStatus} {s s' : FreezeState κ} (hStep : Step s s')
    (h : s.Balanced s₀) : s'.Balanced s₀ := by
  have hPressed (k : κ) (l : Liability) (hl : l = ⟨true, some s₀⟩) :
      (s.pressed k l).Balanced s₀ := by
    refine ⟨fun k' l' hk' => ?_, fun _ => ⟨rfl, rfl⟩, fun hNone =>
      absurd (anyOpen_pressed s k l) hNone⟩
    rw [pressed_liabilities] at hk'
    split at hk'
    · cases hk'; exact hl
    · exact h.remembered k' l' hk'
  have hRemembered (k k' : κ) (l' : Liability) (hk' : (s.closed k).liabilities k' = some l') :
      l' = ⟨true, some s₀⟩ := by
    rw [closed_liabilities] at hk'
    split at hk'
    · cases hk'
    · exact h.remembered k' l' hk'
  have hSub (k : κ) (hOpen : (s.closed k).AnyOpen) : s.AnyOpen := by
    obtain ⟨k', l', hk'⟩ := hOpen
    rw [closed_liabilities] at hk'
    split at hk'
    · cases hk'
    · exact ⟨k', l', hk'⟩
  cases hStep with
  | opened k => exact hPressed k _ (by rw [h.previous_eq])
  | grown k l hl => exact hPressed k _ (by rw [h.remembered k l hl])
  | closed k hWhy =>
    refine ⟨hRemembered k, fun hOpen => h.whileOpen (hSub k hOpen), fun hNone => ?_⟩
    -- An applied liability that closes last lifts the freeze, so this one was not open.
    rcases hWhy with hOpen | hUnapplied
    · exact absurd hOpen hNone
    · refine h.otherwise fun ⟨k', l', hk'⟩ => hNone ⟨k', l', ?_⟩
      rw [closed_liabilities, if_neg]
      · exact hk'
      · rintro rfl
        have := hUnapplied l' hk'
        simp [h.remembered k' l' hk'] at this
  | lifted k l hl hNone =>
    obtain ⟨hStatus, hFrozen⟩ := h.whileOpen ⟨k, l, hl⟩
    refine ⟨fun k' l' hk' => hRemembered k k' l' (by simpa using hk'),
      fun hOpen => absurd (anyOpen_lifted.mp hOpen) hNone, fun _ => ?_⟩
    have hFrozen' : (s.closed k).frozen = true := hFrozen
    have hStatus' : (s.closed k).status = .disabled := hStatus
    rw [h.remembered k l hl]
    cases s₀ <;> simp [FreezeState.lifted, hFrozen', hStatus']
  | again p hNone =>
    rw [lifted_of_not_frozen (h.otherwise hNone).2]
    exact h

/-! ### An account that an administrator disabled -/

/-- Every open liability has frozen the account, and a freeze has one. -/
structure Tight (s : FreezeState κ) : Prop where
  applied : ∀ k l, s.liabilities k = some l → l.applied = true
  frozen : s.frozen = true → s.AnyOpen

theorem Tight.pressed {s : FreezeState κ} (h : s.Tight) (k : κ) {l : Liability}
    (hApplied : l.applied = true) : (s.pressed k l).Tight := by
  refine ⟨fun k' l' hk' => ?_, fun _ => anyOpen_pressed s k l⟩
  rw [pressed_liabilities] at hk'
  split at hk'
  · cases hk'; exact hApplied
  · exact h.applied k' l' hk'

theorem liabilities_of_closed {s : FreezeState κ} {k k' : κ} {l : Liability}
    (h : (s.closed k).liabilities k' = some l) : s.liabilities k' = some l := by
  rw [closed_liabilities] at h
  split at h
  · cases h
  · exact h

omit [DecidableEq κ] in
theorem lifted_frozen (s : FreezeState κ) (p : Option UserStatus) :
    (s.lifted p).frozen = false := by
  unfold lifted
  split
  · rfl
  · next h => simpa using h

omit [DecidableEq κ] in
theorem Tight.lifted {s : FreezeState κ} (h : ∀ k l, s.liabilities k = some l → l.applied = true)
    (p : Option UserStatus) : (s.lifted p).Tight :=
  ⟨fun k l hl => h k l (by simpa using hl), fun hFrozen => by simp [lifted_frozen] at hFrozen⟩

theorem Tight.step {s s' : FreezeState κ} (hStep : Step s s') (h : s.Tight) : s'.Tight := by
  cases hStep with
  | opened k => exact h.pressed k rfl
  | grown k => exact h.pressed k rfl
  | closed k hWhy =>
    refine ⟨fun k' l hl => h.applied k' l (liabilities_of_closed hl), fun hFrozen => ?_⟩
    rcases hWhy with hOpen | hUnapplied
    · exact hOpen
    · -- The key was not open, or it would have lifted the freeze.
      obtain ⟨k', l', hk'⟩ := h.frozen hFrozen
      refine ⟨k', l', ?_⟩
      rw [closed_liabilities, if_neg]
      · exact hk'
      · rintro rfl
        have := hUnapplied l' hk'
        simp [h.applied k' l' hk'] at this
  | lifted =>
    exact .lifted (fun k' l' hk' => h.applied k' l' (liabilities_of_closed hk')) _
  | again p => exact .lifted h.applied p

/-- The account is disabled and nothing that is open would enable it. -/
structure Held (s : FreezeState κ) : Prop extends Tight s where
  disabled : s.status = .disabled
  remembered : ∀ k l, s.liabilities k = some l → l.previous ≠ some .enabled

omit [DecidableEq κ] in
theorem Held.previous_eq {s : FreezeState κ} (h : s.Held) : s.previous = .disabled := by
  unfold previous
  rw [if_neg, h.disabled]
  rintro ⟨-, k, l, hl, -, hEnabled⟩
  exact h.remembered k l hl hEnabled

theorem pressed_remembered {s : FreezeState κ} {k : κ} {l : Liability}
    (h : ∀ k l, s.liabilities k = some l → l.previous ≠ some .enabled)
    (hPrevious : l.previous ≠ some .enabled) (k' : κ) (l' : Liability)
    (hk' : (s.pressed k l).liabilities k' = some l') : l'.previous ≠ some .enabled := by
  rw [pressed_liabilities] at hk'
  split at hk'
  · cases hk'; exact hPrevious
  · exact h k' l' hk'

omit [DecidableEq κ] in
theorem lifted_disabled {s : FreezeState κ} (h : s.status = .disabled) {p : Option UserStatus}
    (hp : p ≠ some .enabled) : (s.lifted p).status = .disabled := by
  unfold FreezeState.lifted
  split
  · simp [hp, h]
  · exact h

theorem Held.step {s s' : FreezeState κ} (hStep : Step s s') (h : s.Held) : s'.Held := by
  have hTight := h.toTight.step hStep
  cases hStep with
  | opened => exact ⟨hTight, rfl, pressed_remembered h.remembered (by simp [h.previous_eq])⟩
  | grown k l hl => exact ⟨hTight, rfl, pressed_remembered h.remembered (h.remembered k l hl)⟩
  | closed => exact ⟨hTight, h.disabled, fun k' l hl =>
    h.remembered k' l (liabilities_of_closed hl)⟩
  | lifted k l hl =>
    exact ⟨hTight, lifted_disabled (s := s.closed k) h.disabled (h.remembered k l hl), fun k' l' hk' =>
      h.remembered k' l' (liabilities_of_closed (by simpa using hk'))⟩
  | again p hNone =>
    -- Nothing is open, so there is no freeze to lift.
    have hFrozen : s.frozen = false := by
      cases hf : s.frozen with
      | false => rfl
      | true => exact absurd (h.frozen hf) hNone
    rw [lifted_of_not_frozen hFrozen]
    exact h

end FreezeState

end XyApi.Payment
