import XyApi.Payment.Standing

/-!
The race for the release of a frozen account, as an abstract machine. Transactions
each close one liability and then look for others: one that still sees an open
liability ends without lifting the freeze, and one that does not lifts it. The
freeze can only be left behind when a transaction looks while another one has
closed its liability and not committed yet.
-/

namespace XyApi.Payment

inductive Stage
  /-- Its liability is still open. -/
  | before
  /-- It has closed its liability and is looking for others. -/
  | checking
  /-- It holds the account and found it frozen. -/
  | lifting
  | lifted
  /-- It has nothing left to do with the account. -/
  | ended
  | committed
  | failed
  deriving DecidableEq, Repr

def Stage.Hidden : Stage → Prop
  | checking | lifting | lifted | ended => True
  | before | committed | failed => False

def Stage.Hopeful : Stage → Prop
  | before | checking | lifting | lifted => True
  | ended | committed | failed => False

/-- The committed state of the account and the stage of every transaction. -/
structure Race (κ ι : Type) where
  account : FreezeState κ
  stage : ι → Stage

/-- A frozen account is disabled, and one that is not has the status it started with. -/
def FreezeState.Loose {κ : Type} (s₀ : UserStatus) (s : FreezeState κ) : Prop :=
  if s.frozen = true then s.status = .disabled else s.status = s₀

def FreezeState.restored {κ : Type} (s₀ : UserStatus) (s : FreezeState κ) : FreezeState κ :=
  { s with frozen := false, status := s₀ }

namespace Race

variable {κ ι : Type} [DecidableEq κ] [DecidableEq ι]

def set (r : Race κ ι) (i : ι) (stage : Stage) : Race κ ι :=
  { r with stage := Function.update r.stage i stage }

/-- One statement of transaction `i`, which resolves the liability `key i`. -/
inductive Move (key : ι → κ) (s₀ : UserStatus) (r : Race κ ι) (i : ι) : Race κ ι → Prop
  | stay : Move key s₀ r i r
  | close (h : r.stage i = .before) : Move key s₀ r i (r.set i .checking)
  | skip (h : r.stage i = .checking) (k : κ) (hOther : k ≠ key i)
      (hOpen : r.account.liabilities k ≠ none) (hAlone : ∀ j, j ≠ i → ¬ (r.stage j).Hidden) :
      Move key s₀ r i (r.set i .ended)
  | unfrozen (h : r.stage i = .checking) (hFree : r.account.frozen = false) :
      Move key s₀ r i (r.set i .ended)
  | found (h : r.stage i = .checking) : Move key s₀ r i (r.set i .lifting)
  | lift (h : r.stage i = .lifting) : Move key s₀ r i (r.set i .lifted)
  | commit (h : r.stage i = .ended) :
      Move key s₀ r i { r.set i .committed with account := r.account.closed (key i) }
  | restore (h : r.stage i = .lifted) :
      Move key s₀ r i { r.set i .committed with
        account := (r.account.closed (key i)).restored s₀ }
  | fail (h : r.stage i ≠ .committed) : Move key s₀ r i (r.set i .failed)

/-- A liability is open exactly until its transaction commits, and a frozen account
has a transaction that may lift it or a liability that nobody is going to resolve. -/
structure Safe (key : ι → κ) (s₀ : UserStatus) (r : Race κ ι) : Prop where
  loose : r.account.Loose s₀
  remembered : ∀ k l, r.account.liabilities k = some l → l = ⟨true, some s₀⟩
  stillOpen : ∀ i, r.stage i ≠ .committed → r.account.liabilities (key i) ≠ none
  closed : ∀ i, r.stage i = .committed → r.account.liabilities (key i) = none
  hope : r.account.frozen = true → (∃ i, (r.stage i).Hopeful) ∨
    ∃ k, r.account.liabilities k ≠ none ∧ ∀ i, key i = k → r.stage i = .failed

omit [DecidableEq κ] in
omit [DecidableEq κ] in
theorem set_stage (r : Race κ ι) (i : ι) (stage : Stage) (j : ι) :
    (r.set i stage).stage j = if j = i then stage else r.stage j := by
  simp [set, Function.update_apply]

variable {r : Race κ ι}

omit [DecidableEq κ] in
/-- A move that changes no row keeps everything but the hope, which is to be shown. -/
theorem Safe.set (h : r.Safe key s₀) {stage : Stage} (hBefore : r.stage i ≠ .committed)
    (hAfter : stage ≠ .committed)
    (hope : r.account.frozen = true → (∃ j, ((r.set i stage).stage j).Hopeful) ∨
      ∃ k, r.account.liabilities k ≠ none ∧ ∀ j, key j = k → (r.set i stage).stage j = .failed) :
    (r.set i stage).Safe key s₀ where
  loose := h.loose
  remembered := h.remembered
  stillOpen j hj := by
    rw [set_stage] at hj
    split at hj
    · next hji => exact h.stillOpen j (hji ▸ hBefore)
    · exact h.stillOpen j hj
  closed j hj := by
    rw [set_stage] at hj
    split at hj
    · exact absurd hj hAfter
    · exact h.closed j hj
  hope := hope

/-- The rows after the commit of a transaction that had closed its liability. -/
theorem Safe.committed (h : r.Safe key s₀) (hInjective : Function.Injective key)
    (hBefore : r.stage i ≠ .committed) {account : FreezeState κ}
    (hRows : account.liabilities = (r.account.closed (key i)).liabilities)
    (hLoose : account.Loose s₀)
    (hope : account.frozen = true → (∃ j, j ≠ i ∧ (r.stage j).Hopeful) ∨
      ∃ k, r.account.liabilities k ≠ none ∧ ∀ j, key j = k → r.stage j = .failed)
    (hNotFailed : r.stage i ≠ .failed) :
    Safe key s₀ { r.set i .committed with account := account } where
  loose := hLoose
  remembered k l hl := h.remembered k l (FreezeState.liabilities_of_closed (hRows ▸ hl))
  stillOpen j hj := by
    simp only [set_stage] at hj
    split at hj
    · exact absurd rfl hj
    · next hji =>
        rw [hRows, FreezeState.closed_liabilities, if_neg fun hKey => hji (hInjective hKey)]
        exact h.stillOpen j hj
  closed j hj := by
    simp only [set_stage] at hj
    rw [hRows, FreezeState.closed_liabilities]
    split
    · rfl
    · next hKey =>
        rw [if_neg fun hji => hKey (congrArg key hji)] at hj
        exact h.closed j hj
  hope hFrozen := by
    rcases hope hFrozen with ⟨j, hji, hj⟩ | ⟨k, hOpen, hk⟩
    · refine .inl ⟨j, ?_⟩
      rw [set_stage, if_neg hji]
      exact hj
    · -- The liability that nobody resolves is not the one of this transaction.
      refine .inr ⟨k, ?_, fun j hj => ?_⟩
      · rw [hRows, FreezeState.closed_liabilities, if_neg]
        · exact hOpen
        · rintro rfl
          exact hNotFailed (hk i rfl)
      · rw [set_stage, if_neg]
        · exact hk j hj
        · rintro rfl
          exact hNotFailed (hk j hj)

theorem Safe.move {r' : Race κ ι} (hInjective : Function.Injective key) (h : r.Safe key s₀)
    (hMove : Move key s₀ r i r') : r'.Safe key s₀ := by
  -- A hopeful stage of the moving transaction, or an untouched reason of another one.
  have hStill {stage : Stage} (hHopeful : stage.Hopeful) (hBefore : r.stage i ≠ .committed)
      (hAfter : stage ≠ .committed) : (r.set i stage).Safe key s₀ :=
    h.set hBefore hAfter fun _ => .inl ⟨i, by rw [set_stage, if_pos rfl]; exact hHopeful⟩
  cases hMove with
  | stay => exact h
  | close hStage => exact hStill trivial (by simp [hStage]) nofun
  | found hStage => exact hStill trivial (by simp [hStage]) nofun
  | lift hStage => exact hStill trivial (by simp [hStage]) nofun
  | unfrozen hStage hFree =>
    exact h.set (by simp [hStage]) nofun fun hFrozen => by simp [hFree] at hFrozen
  | skip hStage k hOther hOpen hAlone =>
    refine h.set (by simp [hStage]) nofun fun _ => ?_
    by_cases hFailed : ∀ j, key j = k → r.stage j = .failed
    · refine .inr ⟨k, hOpen, fun j hj => ?_⟩
      rw [set_stage, if_neg]
      · exact hFailed j hj
      · rintro rfl
        exact hOther hj.symm
    · -- Whoever is to resolve the liability that was seen has not closed it yet.
      obtain ⟨j, hKey, hj⟩ : ∃ j, key j = k ∧ r.stage j ≠ .failed := by
        simpa using hFailed
      have hji : j ≠ i := by
        rintro rfl
        exact hOther hKey.symm
      refine .inl ⟨j, ?_⟩
      rw [set_stage, if_neg hji]
      have hHidden := hAlone j hji
      cases hWhere : r.stage j with
      | before => trivial
      | checking | lifting | lifted | ended => simp [hWhere, Stage.Hidden] at hHidden
      | committed => exact absurd (hKey ▸ h.closed j hWhere) hOpen
      | failed => exact absurd hWhere hj
  | commit hStage =>
    refine h.committed hInjective (by simp [hStage]) rfl h.loose (fun hFrozen => ?_)
      (by simp [hStage])
    rcases h.hope hFrozen with ⟨j, hj⟩ | hNobody
    · refine .inl ⟨j, ?_, hj⟩
      rintro rfl
      simp [hStage, Stage.Hopeful] at hj
    · exact .inr hNobody
  | restore hStage =>
    exact h.committed hInjective (by simp [hStage]) rfl rfl nofun (by simp [hStage])
  | fail hBefore =>
    refine h.set hBefore nofun fun _ => .inr ⟨key i, h.stillOpen i hBefore, fun j hj => ?_⟩
    rw [set_stage, if_pos (hInjective hj)]

omit [DecidableEq κ] [DecidableEq ι] in
/-- Once every transaction has committed and nothing is open, the freeze is gone. -/
theorem Safe.released (h : r.Safe key s₀) (hAll : ∀ i, r.stage i = .committed)
    (hNone : ¬ r.account.AnyOpen) : r.account.frozen = false ∧ r.account.status = s₀ := by
  have hFree : r.account.frozen = false := by
    cases hFrozen : r.account.frozen with
    | false => rfl
    | true =>
      rcases h.hope hFrozen with ⟨i, hi⟩ | ⟨k, hOpen, -⟩
      · simp [hAll i, Stage.Hopeful] at hi
      · obtain ⟨l, hl⟩ := Option.ne_none_iff_exists'.mp hOpen
        exact absurd ⟨k, l, hl⟩ hNone
  have hLoose := h.loose
  unfold FreezeState.Loose at hLoose
  rw [if_neg (by simp [hFree])] at hLoose
  exact ⟨hFree, hLoose⟩

end Race

end XyApi.Payment
