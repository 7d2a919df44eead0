import XyApi.Payment.Standing
import XyApi.Payment.Touch
import XyApi.Billing.Transactions

/-!
The freeze machine of an account, read off the database. Debts, reservations and
the account row are all it looks at, so most functions of a payment leave it
alone; the debt functions and the billing transitions take its steps.
-/

namespace XyApi.Payment

open Lib Billing

abbrev LiabilityKey : Type := DebtSubject ⊕ String

def debtLiability (d : PaymentDebt) : Liability := ⟨d.freezeApplied, d.previousUserStatus⟩

def shortfallLiability (r : BillingReservation) : Liability := ⟨true, r.shortfallPreviousStatus⟩

def liability (u : Int) (db : Database) : LiabilityKey → Option Liability
  | .inl subject => ((db.paymentDebts.get? subject).filter (openDebt u)).map debtLiability
  | .inr requestId =>
    ((db.reservations.get? requestId).filter (openShortfall u)).map shortfallLiability

def freezeState (u : Int) (db : Database) : Option (FreezeState LiabilityKey) :=
  (db.users.get? u).map fun user =>
    { status := user.status, frozen := user.paymentFrozen, liabilities := liability u db }

def freezing (u : Int) : Frame Database where
  rel db db' := ∀ s, freezeState u db = some s → ∃ s', freezeState u db' = some s' ∧ s.Steps s'
  refl _ s h := ⟨s, h, .refl⟩
  trans h₁ h₂ s h := by
    obtain ⟨s₁, hs₁, hSteps₁⟩ := h₁ s h
    obtain ⟨s₂, hs₂, hSteps₂⟩ := h₂ s₁ hs₁
    exact ⟨s₂, hs₂, hSteps₁.trans hSteps₂⟩

def steady : Frame Database :=
  .keeps fun db => (db.users.rows.map userStanding, db.paymentDebts, db.reservations)

section View

variable {db db' : Database}

theorem liability_congr (hDebts : db'.paymentDebts = db.paymentDebts)
    (hReservations : db'.reservations = db.reservations) : liability u db' = liability u db := by
  funext k
  cases k <;> simp [liability, hDebts, hReservations]

theorem freezeState_congr (hUser : (db'.users.get? u).map userStanding =
      (db.users.get? u).map userStanding) (hLiability : liability u db' = liability u db) :
    freezeState u db' = freezeState u db := by
  unfold freezeState
  rw [hLiability]
  cases hNew : db'.users.get? u with
  | none =>
    cases hOld : db.users.get? u with
    | none => rfl
    | some => simp [hNew, hOld] at hUser
  | some =>
    cases hOld : db.users.get? u with
    | none => simp [hNew, hOld] at hUser
    | some =>
      simp only [hNew, hOld, Option.map_some, Option.some.injEq, userStanding,
        Prod.mk.injEq] at hUser
      simp [hUser.2.1, hUser.2.2]

theorem liabilities_of_freezeState (hs : freezeState u db = some s) :
    s.liabilities = liability u db := by
  obtain ⟨user, -, rfl⟩ := Option.map_eq_some_iff.mp hs
  rfl

theorem freezeState_of_standing (hs : freezeState u db = some s)
    (hStanding : (db'.users.get? u).map userStanding = (db.users.get? u).map userStanding) :
    freezeState u db' = some { s with liabilities := liability u db' } := by
  obtain ⟨user, hUser, rfl⟩ := Option.map_eq_some_iff.mp hs
  rw [hUser] at hStanding
  obtain ⟨user', hUser', hSame⟩ := Option.map_eq_some_iff.mp hStanding
  simp only [userStanding, Prod.mk.injEq] at hSame
  simp [freezeState, hUser', hSame.2.1, hSame.2.2]

theorem freezing_of_eq (h : freezeState u db' = freezeState u db) : (freezing u).rel db db' :=
  fun s hs => ⟨s, h ▸ hs, .refl⟩

theorem standing_get?_of_rows
    (h : db'.users.rows.map userStanding = db.users.rows.map userStanding) :
    (db'.users.get? u).map userStanding = (db.users.get? u).map userStanding :=
  Table.map_get?_of_map_rows (g := Prod.fst) (fun _ => rfl) h u

theorem freezing_of_steady (h : steady.rel db db') : (freezing u).rel db db' := by
  simp only [steady, Frame.keeps, Prod.mk.injEq] at h
  exact freezing_of_eq (freezeState_congr (standing_get?_of_rows h.1)
    (liability_congr h.2.1 h.2.2))

theorem steady_of_only (hStanding : .standing ∉ touched) (hDebts : .debts ∉ touched)
    (hReservations : .reservations ∉ touched) (h : (only touched).rel db db') : steady.rel db db' := by
  simp only [steady, Frame.keeps, Prod.mk.injEq]
  exact ⟨h _ hStanding, h _ hDebts, h _ hReservations⟩

theorem anyOpen_iff (h : freezeState u db = some s) :
    s.AnyOpen ↔ HasOpenLiability db u := by
  obtain ⟨user, -, rfl⟩ := Option.map_eq_some_iff.mp h
  constructor
  · rintro ⟨k, l, hl⟩
    cases k with
    | inl =>
      obtain ⟨d, hd, -⟩ := Option.map_eq_some_iff.mp hl
      obtain ⟨hGet, hOpen⟩ := Option.filter_eq_some_iff.mp hd
      exact .inl ⟨d, Table.mem_of_get? hGet, hOpen⟩
    | inr =>
      obtain ⟨r, hr, -⟩ := Option.map_eq_some_iff.mp hl
      obtain ⟨hGet, hOpen⟩ := Option.filter_eq_some_iff.mp hr
      exact .inr ⟨r, Table.mem_of_get? hGet, hOpen⟩
  · rintro (⟨d, hd, hOpen⟩ | ⟨r, hr, hOpen⟩)
    · refine ⟨.inl d.subject, debtLiability d, ?_⟩
      simp [liability, Table.get?_of_mem hd, Option.filter, hOpen]
    · refine ⟨.inr r.requestId, shortfallLiability r, ?_⟩
      simp [liability, Table.get?_of_mem hr, Option.filter, hOpen]

theorem restorable_iff (h : freezeState u db = some s) :
    s.Restorable ↔
      (∃ d ∈ db.paymentDebts.rows, openDebt u d ∧ d.freezeApplied ∧
        d.previousUserStatus = some .enabled) ∨
      ∃ r ∈ db.reservations.rows, openShortfall u r ∧
        r.shortfallPreviousStatus = some .enabled := by
  obtain ⟨user, -, rfl⟩ := Option.map_eq_some_iff.mp h
  constructor
  · rintro ⟨k, l, hl, hApplied, hPrevious⟩
    cases k with
    | inl =>
      obtain ⟨d, hd, rfl⟩ := Option.map_eq_some_iff.mp hl
      obtain ⟨hGet, hOpen⟩ := Option.filter_eq_some_iff.mp hd
      exact .inl ⟨d, Table.mem_of_get? hGet, hOpen, hApplied, hPrevious⟩
    | inr =>
      obtain ⟨r, hr, rfl⟩ := Option.map_eq_some_iff.mp hl
      obtain ⟨hGet, hOpen⟩ := Option.filter_eq_some_iff.mp hr
      exact .inr ⟨r, Table.mem_of_get? hGet, hOpen, hPrevious⟩
  · rintro (⟨d, hd, hOpen, hApplied, hPrevious⟩ | ⟨r, hr, hOpen, hPrevious⟩)
    · refine ⟨.inl d.subject, debtLiability d, ?_, hApplied, hPrevious⟩
      simp [liability, Table.get?_of_mem hd, Option.filter, hOpen]
    · refine ⟨.inr r.requestId, shortfallLiability r, ?_, rfl, hPrevious⟩
      simp [liability, Table.get?_of_mem hr, Option.filter, hOpen]

/-- The status that the code computes for a new liability is the machine's. -/
theorem previous_eq_of_ok (hUser : db.users.get? u = some user) (hs : freezeState u db = some s)
    (h : paymentFreezePreviousUserStatusTx user db = .ok (p, db')) :
    db' = db ∧ p = s.previous := by
  obtain ⟨hSame, rfl⟩ := paymentFreezePreviousUserStatusTx_ok h
  refine ⟨hSame, ?_⟩
  have hKey : user.id = u := Table.key_of_get? hUser
  have hStatus : s.status = user.status ∧ s.frozen = user.paymentFrozen := by
    simp only [freezeState, hUser, Option.map_some] at hs
    cases hs
    exact ⟨rfl, rfl⟩
  unfold FreezeState.previous
  rw [hStatus.1, hStatus.2, restorable_iff hs, hKey]
  congr

end View

/-! ### The account row -/

section Account

/-- Rewriting the row of an account and nothing else. -/
theorem freezeState_putUser (hUser : db.users.get? user.id = some w) :
    freezeState u (db.putUser user) =
      if u = user.id then
        some { status := user.status, frozen := user.paymentFrozen, liabilities := liability u db }
      else freezeState u db := by
  have hLiability : liability u (db.putUser user) = liability u db := liability_congr rfl rfl
  unfold freezeState
  rw [hLiability]
  simp only [Database.putUser, Table.get?_put]
  split
  · next h => subst h; simp [hUser]
  · rfl

/-- Freezing an account disables it; other accounts are left alone. -/
theorem freezeState_freezeUser (hs : freezeState u db = some s) :
    freezeState u (freezeUser v db) =
      some (if u = v then { s with status := .disabled, frozen := true } else s) := by
  obtain ⟨user, hUser, rfl⟩ := Option.map_eq_some_iff.mp hs
  unfold freezeUser
  cases hv : db.users.get? v with
  | none =>
    have hne : u ≠ v := by
      rintro rfl
      rw [hUser] at hv
      cases hv
    rw [if_neg hne]
    exact hs
  | some row =>
    have hKey : row.id = v := Table.key_of_get? hv
    dsimp only
    rw [freezeState_putUser (w := row) (by rw [hKey]; exact hv)]
    simp only [hKey]
    split
    · rfl
    · exact hs

/-- Lifting the freeze of an account once nothing of it is open. -/
theorem freezeState_released (hs : freezeState u db = some s) (h : Released db v p db') :
    (HasOpenLiability db v ∧ freezeState u db' = some s) ∨
      (¬ HasOpenLiability db v ∧
        freezeState u db' = some (if u = v then s.lifted p else s)) := by
  cases h with
  | stillOpen hOpen => exact .inl ⟨hOpen, hs⟩
  | notFrozen user hNone hUser hFrozen =>
    refine .inr ⟨hNone, ?_⟩
    split
    · next huv =>
        subst huv
        have hNot : s.frozen = false := by
          simp only [freezeState, hUser, Option.map_some] at hs
          cases hs
          exact hFrozen
        rw [FreezeState.lifted_of_not_frozen hNot]
        exact hs
    · exact hs
  | lifted user hNone hUser hFrozen =>
    have hKey : user.id = v := Table.key_of_get? hUser
    refine .inr ⟨hNone, ?_⟩
    rw [freezeState_putUser (w := user) (by
      rw [show (unfrozen p user).id = v from hKey]; exact hUser)]
    simp only [show (unfrozen p user).id = v from hKey]
    split
    · next huv =>
        subst huv
        simp only [freezeState, hUser, Option.map_some] at hs
        cases hs
        simp [FreezeState.lifted, hFrozen, unfrozen]
    · exact hs

/-- A liability of an account is written and the account frozen: its machine presses
the key, and no other machine moves. -/
theorem freezing_of_pressed (hUsers : db₁.users = db.users) (hLiability : liability u db₁ =
      Function.update (liability u db) k (if v = u then some l else none))
    (hOther : v ≠ u → liability u db k = none)
    (hStep : ∀ s, v = u → freezeState u db = some s → FreezeState.Step s (s.pressed k l)) :
    (freezing u).rel db (freezeUser v db₁) := by
  intro s hs
  have hLiabilities := liabilities_of_freezeState hs
  have hWritten : freezeState u db₁ = _ := freezeState_of_standing hs (by rw [hUsers])
  rw [hLiability, ← hLiabilities] at hWritten
  refine ⟨_, freezeState_freezeUser hWritten, ?_⟩
  by_cases hvu : v = u
  · have hPressed := hStep s hvu hs
    rw [if_pos hvu.symm, if_pos hvu]
    exact .single hPressed
  · have hSame : Function.update s.liabilities k none = s.liabilities := by
      rw [Function.update_eq_self_iff, hLiabilities, hOther hvu]
    rw [if_neg (Ne.symm hvu), if_neg hvu, hSame]

/-- A liability closes and its account is released: one step of the machine. -/
theorem freezing_of_released (hOther : u ≠ v → freezeState u db₁ = freezeState u db)
    (hClosed : ∀ s, u = v → freezeState u db = some s → freezeState u db₁ = some (s.closed k))
    (hRemembered : u = v → ∀ l, liability u db k = some l → l = ⟨true, p⟩)
    (h : Released db₁ v p db') : (freezing u).rel db db' := by
  intro s hs
  have hLiabilities := liabilities_of_freezeState hs
  by_cases huv : u = v
  · have hs₁ := hClosed s huv hs
    rcases freezeState_released hs₁ h with ⟨hOpen, hs'⟩ | ⟨hNone, hs'⟩
    · refine ⟨_, hs', .single (.closed k (.inl ?_))⟩
      rw [anyOpen_iff hs₁, huv]
      exact hOpen
    · rw [if_pos huv] at hs'
      refine ⟨_, hs', ?_⟩
      have hNone' : ¬ (s.closed k).AnyOpen := by
        rw [anyOpen_iff hs₁, huv]
        exact hNone
      cases hl : s.liabilities k with
      | none =>
        have hSame : s.closed k = s := by
          ext1
          · rfl
          · rfl
          · exact Function.update_eq_self_iff.mpr hl.symm
        rw [hSame] at hNone' ⊢
        exact .single (.again p hNone')
      | some l =>
        have hEq := hRemembered huv l (hLiabilities ▸ hl)
        have hStep := FreezeState.Step.lifted k l hl hNone'
        rw [hEq] at hStep
        exact .single hStep
  · have hs₁ : freezeState u db₁ = some s := (hOther huv).trans hs
    rcases freezeState_released hs₁ h with ⟨-, hs'⟩ | ⟨-, hs'⟩
    · exact ⟨s, hs', .refl⟩
    · rw [if_neg huv] at hs'
      exact ⟨s, hs', .refl⟩

end Account

/-! ### Debts -/

section Debts

variable {db db' : Database}

theorem liability_debts
    (hGet : ∀ k, debts.get? k = if k = d.subject then some d else db.paymentDebts.get? k)
    (hDebts : db'.paymentDebts = debts) (hReservations : db'.reservations = db.reservations) :
    liability u db' = Function.update (liability u db) (.inl d.subject)
      (if openDebt u d then some (debtLiability d) else none) := by
  funext k
  cases k with
  | inl =>
    simp only [liability, hDebts, hGet, Function.update_apply, Sum.inl.injEq]
    split
    · cases hOpen : openDebt u d <;> simp [Option.filter, hOpen]
    · rfl
  | inr => simp [liability, hReservations]

theorem get?_putDebt (h : db.paymentDebts.get? d.subject = some d₀) (k : DebtSubject) :
    (db.putDebt d).paymentDebts.get? k =
      if k = d.subject then some d else db.paymentDebts.get? k := by
  simp only [Database.putDebt, Table.get?_put]
  split
  · next hk => subst hk; simp [h]
  · rfl

/-- A debt of another account is no liability of this one. -/
theorem liability_of_other (h : db.paymentDebts.get? d.subject = some d) (hUser : d.userId ≠ u) :
    liability u db (.inl d.subject) = none := by
  simp [liability, h, Option.filter, openDebt, hUser]

theorem liability_of_get?_none (h : db.paymentDebts.get? subject = none) :
    liability u db (.inl subject) = none := by
  simp [liability, h]

/-- The row a subject finds belongs to the account of the subject. -/
theorem userId_of_get? (h : db.paymentDebts.get? (orderId, userId, kind) = some d) :
    d.userId = userId ∧ d.subject = (orderId, userId, kind) := by
  have hKey : d.subject = (orderId, userId, kind) := Table.key_of_get? h
  exact ⟨congrArg (fun k : DebtSubject => k.2.1) hKey, hKey⟩

/-- Writing an open debt opens or keeps one liability of its account. -/
theorem liability_of_outstanding
    (hGet : ∀ k, debts.get? k = if k = d.subject then some d else db.paymentDebts.get? k)
    (hOpen : d.status = .outstanding) :
    liability u { db with paymentDebts := debts } =
      Function.update (liability u db) (.inl d.subject)
        (if d.userId = u then some (debtLiability d) else none) := by
  have hWritten : liability u { db with paymentDebts := debts } = _ :=
    liability_debts hGet rfl rfl
  rw [hWritten]
  simp [openDebt, hOpen]

theorem DebtAdded.freezing (h : DebtAdded env order userId debtKind quota amountMinor db db')
    (u : Int) :
    (freezing u).rel db db' := by
  cases h with
  | created id user p hNone hUser hPrevious hId hInsert =>
    refine freezing_of_pressed rfl (liability_of_outstanding (Table.get?_insert? hInsert) rfl)
      (fun _ => liability_of_get?_none hNone) fun s hu hs => ?_
    subst hu
    rw [(previous_eq_of_ok hUser hs hPrevious).2]
    exact .opened _
  | grown debt p hDebt hPrevious =>
    obtain ⟨rfl, hSubject⟩ := userId_of_get? hDebt
    have hDebt' : db.paymentDebts.get? debt.subject = some debt := hSubject ▸ hDebt
    refine freezing_of_pressed rfl
      (liability_of_outstanding (d := reopenedDebt env quota amountMinor p true debt)
        (get?_putDebt hDebt') rfl)
      (fun hne => show liability u db (.inl debt.subject) = none from
        liability_of_other hDebt' hne)
      fun s hu hs => ?_
    subst hu
    have hLiability : debtLiability (reopenedDebt env quota amountMinor p true debt) =
        ⟨true, p⟩ := by
      simp [debtLiability, reopenedDebt]
    rw [hLiability]
    cases hPrevious with
    | kept hOpen =>
      have hl : s.liabilities (.inl debt.subject) = some (debtLiability debt) := by
        rw [liabilities_of_freezeState hs]
        simp [liability, hDebt', Option.filter, openDebt, hOpen]
      exact FreezeState.Step.grown (Sum.inl debt.subject) _ hl
    | taken user p hClosed hUser hPrevious =>
      rw [(previous_eq_of_ok hUser hs hPrevious).2]
      exact .opened _

/-- A saved debt: open ones stay as they are, a resolved one is closed. -/
theorem freezing_of_saved (hGet : db.paymentDebts.get? d.subject = some d₀)
    (hApplied : d.freezeApplied = d₀.freezeApplied)
    (hPrevious : d.previousUserStatus = d₀.previousUserStatus)
    (hStatus : d.status = .outstanding → d₀.status = .outstanding)
    (hSteady : steady.rel (db.putDebt d) db₁) (h : (d.status = .outstanding ∧ db' = db₁) ∨
      (d.status = .resolved ∧ DebtReleased d db₁ db')) : (freezing u).rel db db' := by
  have hSubject : d₀.subject = d.subject := Table.key_of_get? hGet
  have hOwner : d₀.userId = d.userId := congrArg (fun k : DebtSubject => k.2.1) hSubject
  have hLiability : liability u (db.putDebt d) = _ := liability_debts (get?_putDebt hGet) rfl rfl
  have hState₁ : freezeState u db₁ = freezeState u (db.putDebt d) := by
    simp only [steady, Frame.keeps, Prod.mk.injEq] at hSteady
    exact freezeState_congr (standing_get?_of_rows hSteady.1)
      (liability_congr hSteady.2.1 hSteady.2.2)
  have hSame (hOld : liability u db (.inl d.subject) =
      if openDebt u d then some (debtLiability d) else none) :
      freezeState u db₁ = freezeState u db := by
    rw [hState₁]
    refine freezeState_congr rfl ?_
    rw [hLiability, ← hOld, Function.update_eq_self]
  have hOld : liability u db (.inl d.subject) =
      if openDebt u d₀ then some (debtLiability d) else none := by
    have hEq : debtLiability d = debtLiability d₀ := by simp [debtLiability, hApplied, hPrevious]
    rw [hEq]
    simp only [liability, hGet]
    cases hOpen : openDebt u d₀ <;> simp [Option.filter, hOpen]
  rcases h with ⟨hOpen, rfl⟩ | ⟨hResolved, hReleased⟩
  · refine freezing_of_eq (hSame ?_)
    rw [hOld]
    simp [openDebt, hOwner, hOpen, hStatus hOpen]
  · have hNot : openDebt u d = false := by simp [openDebt, hResolved]
    have hClosed (s : FreezeState LiabilityKey) (hs : freezeState u db = some s) :
        freezeState u db₁ = some (s.closed (.inl d.subject)) := by
      have hPut : freezeState u (db.putDebt d) = _ := freezeState_of_standing hs rfl
      rw [hState₁, hPut, hLiability, hNot]
      simp [FreezeState.closed, liabilities_of_freezeState hs]
    unfold DebtReleased at hReleased
    split at hReleased
    · next hApply =>
        refine freezing_of_released (k := .inl d.subject) (fun hne => hSame ?_) ?_ ?_ hReleased
        · have hne' : d₀.userId ≠ u := fun h => hne (h.symm.trans hOwner)
          rw [hOld]
          simp [openDebt, hne', hResolved]
        · exact fun s _ hs => hClosed s hs
        · intro hu l hl
          rw [hOld] at hl
          split at hl
          · cases hl
            simp [debtLiability, hApply]
          · cases hl
    · next hApply =>
        -- A debt that froze nothing closes without a release.
        subst hReleased
        intro s hs
        refine ⟨_, hClosed s hs, .single (.closed _ (.inr fun l hl => ?_))⟩
        rw [liabilities_of_freezeState hs, hOld] at hl
        split at hl
        · cases hl
          simpa [debtLiability] using hApply
        · cases hl

end Debts

end XyApi.Payment
