import XyApi.Lib.ReadCommitted
import XyApi.Payment.FreezeSteps
import XyApi.Payment.ReleaseRace

/-!
The transactions that resolve a liability, statement by statement. Each one closes
its row, counts the open debts and the open shortfalls of the account, and only then
locks the account row. Statements on rows that the freeze does not depend on are
left out.
-/

namespace XyApi.Payment

open Lib Lib.ReadCommitted Lib.Calendar Billing

variable {userId delta : Int} {r : BillingReservation} {previousStatus : Option UserStatus}


inductive FreezeRow
  | order (id : Int)
  | debt (subject : DebtSubject)
  | reservation (requestId : String)
  | user (id : Int)
  deriving DecidableEq, Repr

def FreezeRow.isLiability : FreezeRow → Bool
  | debt _ | reservation _ => true
  | order _ | user _ => false

abbrev FreezeProgram : Type := Program Database FreezeRow

/-! ### The statements -/

def updateUser (userId : Int) (change : User → User) (db : Database) : Database :=
  match db.users.get? userId with
  | some user => db.putUser (change user)
  | none => db

/-- The update that lifts a freeze, for an account whose status was read as `seen`. -/
def unfreezeColumns (previousStatus : Option UserStatus) (seen : UserStatus) (user : User) :
    User :=
  if user.paymentFrozen = true then
    { user with
      paymentFrozen := false
      status := if previousStatus = some .enabled ∧ seen = .disabled then .enabled
        else user.status }
  else user

/-- `releaseUserPaymentFreezeTx`: two counts, the lock of the account, the update. -/
def releaseProgram (userId : Int) (previousStatus : Option UserStatus) (rest : FreezeProgram) :
    FreezeProgram :=
  .select fun db =>
    if db.paymentDebts.count (openDebt userId) > 0 then rest
    else .select fun db =>
      if db.reservations.count (openShortfall userId) > 0 then rest
      else .lock (.user userId) fun db =>
        match db.users.get? userId with
        | none => .rollback
        | some user =>
          if ¬ user.paymentFrozen then rest
          else .update (.user userId)
            (updateUser userId (unfreezeColumns previousStatus user.status)) rest

def walletColumns (delta : Int) (user : User) : User := { user with quota := user.quota + delta }

/-- `applyUserQuotaDeltaTx`: the conditional update of a wallet. -/
def walletProgram (userId delta : Int) (rest : FreezeProgram) : FreezeProgram :=
  if delta = 0 then rest
  else .lock (.user userId) fun db =>
    match db.users.get? userId with
    | none => .rollback
    | some user =>
      if (delta < 0 ∧ user.quota < -delta) ∨ (0 < delta ∧ maxInt32 - delta < user.quota) then
        .rollback
      else .update (.user userId) (updateUser userId (walletColumns delta)) rest

def debtProgram (subject : DebtSubject) (close : PaymentDebt → Option PaymentDebt)
    (credit : PaymentDebt → Int) : FreezeProgram :=
  .lock (.order subject.1) fun _ => .lock (.debt subject) fun db =>
    match db.paymentDebts.get? subject with
    | none => .rollback
    | some debt =>
      match close debt with
      | none => .rollback
      | some closed =>
        let rest := walletProgram debt.userId (credit debt) .commit
        .update (.debt subject) (Database.putDebt closed)
          (if debt.freezeApplied then
            releaseProgram debt.userId debt.previousUserStatus rest
          else rest)

def reservationProgram (requestId : String) (wallet : BillingReservation → Int)
    (close : BillingReservation → BillingReservation) : FreezeProgram :=
  .lock (.reservation requestId) fun db =>
    match db.reservations.get? requestId with
    | none => .rollback
    | some r =>
      if r.status ≠ .reserved then .rollback
      else walletProgram r.userId (wallet r)
        (.update (.reservation requestId) (Database.putReservation (close r))
          (if r.shortfallFreezeApplied then
            releaseProgram r.userId r.shortfallPreviousStatus .commit
          else .commit))

inductive Resolution
  | debtByAdmin (env : PaymentEnv) (input : PaymentDebtResolutionInput) (subject : DebtSubject)
  | debtQuota (env : PaymentEnv) (subject : DebtSubject) (quota : Int)
  | debtAmount (env : PaymentEnv) (subject : DebtSubject) (amountMinor : Int)
  | settle (requestId : String) (actualQuota now : Int)
  | refund (requestId : String) (now : Int)

namespace Resolution

def key : Resolution → LiabilityKey
  | debtByAdmin _ _ subject | debtQuota _ subject _ | debtAmount _ subject _ => .inl subject
  | settle requestId _ _ | refund requestId _ => .inr requestId

def closeByAdmin (env : PaymentEnv) (input : PaymentDebtResolutionInput) (debt : PaymentDebt) :
    Option PaymentDebt :=
  if debt.status = .outstanding ∧ debt.outstandingQuota = input.expectedOutstandingQuota ∧
      debt.outstandingAmountMinor = input.expectedOutstandingAmount then
    some (adminResolvedDebt env input debt)
  else none

def closeSettled (env : PaymentEnv) (debt : PaymentDebt) : Option PaymentDebt :=
  if debt.outstandingQuota = 0 ∧ debt.outstandingAmountMinor = 0 then
    some (settledDebt env debt)
  else none

def settleRow (actualQuota now : Int) (r : BillingReservation) : BillingReservation :=
  settledReservation
    (if actualQuota - r.reservedQuota ≠ 0 then adjustedReservation r actualQuota now else r)
    actualQuota now

def program : Resolution → FreezeProgram
  | debtByAdmin env input subject => debtProgram subject (closeByAdmin env input) fun _ => 0
  | debtQuota env subject quota =>
    debtProgram subject
      (fun debt =>
        let resolved := min quota debt.outstandingQuota
        closeSettled env { debt with
          outstandingQuota := debt.outstandingQuota - resolved
          recoveredQuota := debt.recoveredQuota + resolved })
      fun debt => quota - min quota debt.outstandingQuota
  | debtAmount env subject amountMinor =>
    debtProgram subject
      (fun debt => closeSettled env { debt with
        outstandingAmountMinor := debt.outstandingAmountMinor -
          min amountMinor debt.outstandingAmountMinor })
      fun _ => 0
  | settle requestId actualQuota now =>
    reservationProgram requestId
      (fun r => if r.fundingSource = .wallet then r.reservedQuota - actualQuota else 0)
      (settleRow actualQuota now)
  | refund requestId now =>
    reservationProgram requestId
      (fun r => if r.fundingSource = .wallet then r.reservedQuota else 0)
      fun r => refundedReservation r now

end Resolution

/-! ### What the statements do to the freeze -/

section Programs

variable {u : Int} {k : LiabilityKey} {s₀ : UserStatus}

def Neutral (u : Int) (change : Database → Database) : Prop :=
  ∀ db, freezeState u (change db) = freezeState u db

def Closes (u : Int) (k : LiabilityKey) (change : Database → Database) : Prop :=
  ∀ db, freezeState u (change db) = (freezeState u db).map (·.closed k)

def Restores (u : Int) (s₀ : UserStatus) (change : Database → Database) : Prop :=
  ∀ db s, freezeState u db = some s → s.Loose s₀ → freezeState u (change db) = some (s.restored s₀)

def Ends (u : Int) : FreezeProgram → Prop
  | .commit | .rollback => True
  | .select _ => False
  | .lock _ next => ∀ db, Ends u (next db)
  | .update row change next => row.isLiability = false ∧ Neutral u change ∧ Ends u next

def Lifts (u : Int) (s₀ : UserStatus) : FreezeProgram → Prop
  | .update row change next => row.isLiability = false ∧ Restores u s₀ change ∧ Ends u next
  | .commit | .rollback | .select _ | .lock _ _ => False

/-- The program ends without lifting the freeze only if it sees an open liability or
an account that is not frozen. -/
def Checks (u : Int) (s₀ : UserStatus) : FreezeProgram → Prop
  | .select next => ∀ db, Checks u s₀ (next db) ∨ (HasOpenLiability db u ∧ Ends u (next db))
  | .lock _ next => ∀ db s, freezeState u db = some s → s.Loose s₀ →
      (s.frozen = false ∧ Ends u (next db)) ∨ Lifts u s₀ (next db)
  | .commit | .rollback | .update _ _ _ => False

def Closing (u : Int) (k : LiabilityKey) (s₀ : UserStatus) : FreezeProgram → Prop
  | .rollback => True
  | .commit | .select _ => False
  | .lock _ next => ∀ db, liability u db k = some ⟨true, some s₀⟩ → Closing u k s₀ (next db)
  | .update row change next =>
    (row.isLiability = false ∧ Neutral u change ∧ Closing u k s₀ next) ∨
      (row.isLiability = true ∧ Closes u k change ∧ Checks u s₀ next)

theorem freezeState_updateUser (change : User → User) (hId : ∀ user, (change user).id = user.id)
    (db : Database) :
    freezeState u (updateUser userId change db) =
      if u = userId then
        (db.users.get? u).map fun user =>
          { status := (change user).status, frozen := (change user).paymentFrozen
            liabilities := liability u db }
      else freezeState u db := by
  unfold updateUser
  cases hUser : db.users.get? userId with
  | none =>
    dsimp only
    split
    · next h => subst h; simp [freezeState, hUser]
    · rfl
  | some user =>
    have hKey : user.id = userId := Table.key_of_get? hUser
    dsimp only
    rw [freezeState_putUser (w := user) (by rw [hId, hKey]; exact hUser), hId, hKey]
    split
    · next h => subst h; simp [hUser]
    · rfl

theorem neutral_wallet (userId delta : Int) :
    Neutral u (updateUser userId (walletColumns delta)) := by
  intro db
  rw [freezeState_updateUser (walletColumns delta) fun _ => rfl]
  split
  · rfl
  · rfl

theorem restores_unfreeze :
    Restores u s₀ (updateUser u (unfreezeColumns (some s₀) .disabled)) := by
  intro db s hs hLoose
  rw [freezeState_updateUser _ fun user => by unfold unfreezeColumns; split <;> rfl, if_pos rfl]
  obtain ⟨user, hUser, rfl⟩ := Option.map_eq_some_iff.mp hs
  simp only [FreezeState.Loose] at hLoose
  simp only [hUser, Option.map_some, FreezeState.restored, unfreezeColumns]
  cases hFrozen : user.paymentFrozen with
  | false =>
    rw [if_neg (by simp [hFrozen])] at hLoose
    simp [hLoose, hFrozen]
  | true =>
    rw [if_pos hFrozen] at hLoose
    cases s₀ <;> simp [hLoose]

theorem freezeState_closed (hUsers : db'.users = db.users)
    (hLiability : liability u db' = Function.update (liability u db) k none) :
    freezeState u db' = (freezeState u db).map (·.closed k) := by
  unfold freezeState
  rw [hUsers, hLiability, Option.map_map]
  rfl

theorem closes_putDebt (hStatus : d.status ≠ .outstanding) :
    Closes u (.inl d.subject) (Database.putDebt d) := by
  intro db
  have hNot : openDebt u d = false := by simp [openDebt, hStatus]
  refine freezeState_closed rfl ?_
  funext k
  cases k with
  | inl subject =>
    simp only [liability, Database.putDebt, Table.get?_put, Function.update_apply,
      Sum.inl.injEq]
    split
    · cases db.paymentDebts.get? subject <;> simp [Option.filter, hNot]
    · rfl
  | inr => simp [liability, Database.putDebt]

theorem closes_putReservation (hStatus : r.status ≠ .reserved) :
    Closes u (.inr r.requestId) (Database.putReservation r) := by
  intro db
  have hNot : openShortfall u r = false := by simp [openShortfall, hStatus]
  refine freezeState_closed rfl ?_
  funext k
  cases k with
  | inl => simp [liability, Database.putReservation]
  | inr requestId =>
    simp only [liability, Database.putReservation, Table.get?_put, Function.update_apply,
      Sum.inr.injEq]
    split
    · cases db.reservations.get? requestId <;> simp [Option.filter, hNot]
    · rfl

theorem ends_wallet (h : Ends u rest) :
    Ends u (walletProgram userId delta rest) := by
  unfold walletProgram
  split
  · exact h
  · intro db
    dsimp only
    split
    · trivial
    · split
      · trivial
      · exact ⟨rfl, neutral_wallet userId delta, h⟩

theorem closing_wallet (h : Closing u k s₀ rest) :
    Closing u k s₀ (walletProgram userId delta rest) := by
  unfold walletProgram
  split
  · exact h
  · intro db _
    dsimp only
    split
    · trivial
    · split
      · trivial
      · exact .inl ⟨rfl, neutral_wallet userId delta, h⟩

theorem checks_release (h : Ends u rest) :
    Checks u s₀ (releaseProgram u (some s₀) rest) := by
  intro db
  dsimp only
  split
  · next hDebts =>
      refine .inr ⟨.inl ?_, h⟩
      simpa [Table.count, List.countP_pos_iff] using hDebts
  · refine .inl fun db => ?_
    dsimp only
    split
    · next hShortfalls =>
        refine .inr ⟨.inr ?_, h⟩
        simpa [Table.count, List.countP_pos_iff] using hShortfalls
    · refine .inl fun db s hs hLoose => ?_
      obtain ⟨user, hUser, rfl⟩ := Option.map_eq_some_iff.mp hs
      simp only [hUser]
      split
      · next hFrozen => exact .inl ⟨by simpa using hFrozen, h⟩
      · next hFrozen =>
          have hStatus : user.status = .disabled := by
            simp only [FreezeState.Loose] at hLoose
            rwa [if_pos (by simpa using hFrozen)] at hLoose
          rw [hStatus]
          exact .inr ⟨rfl, restores_unfreeze, h⟩

theorem closing_debtProgram
    (hClose : ∀ d d', close d = some d' → d'.subject = d.subject ∧ d'.status ≠ .outstanding) :
    Closing u (.inl subject) s₀ (debtProgram subject close credit) := by
  intro _ _ db hOpen
  dsimp only
  obtain ⟨d, hd, hl⟩ := Option.map_eq_some_iff.mp hOpen
  obtain ⟨hGet, hOpen⟩ := Option.filter_eq_some_iff.mp hd
  have hSubject : d.subject = subject := Table.key_of_get? hGet
  simp only [hGet]
  cases hd' : close d with
  | none => trivial
  | some d' =>
    obtain ⟨hKey, hStatus⟩ := hClose d d' hd'
    have hUser : d.userId = u := by simp [openDebt] at hOpen; exact hOpen.1
    simp only [debtLiability, Liability.mk.injEq] at hl
    rw [if_pos hl.1, hl.2, hUser]
    refine .inr ⟨rfl, ?_, checks_release (ends_wallet trivial)⟩
    rw [← hSubject, ← hKey]
    exact closes_putDebt hStatus

theorem closing_reservationProgram
    (hClose : ∀ r, (close r).requestId = r.requestId ∧ (close r).status ≠ .reserved) :
    Closing u (.inr requestId) s₀ (reservationProgram requestId wallet close) := by
  intro db hOpen
  dsimp only
  obtain ⟨r, hr, hl⟩ := Option.map_eq_some_iff.mp hOpen
  obtain ⟨hGet, hOpen⟩ := Option.filter_eq_some_iff.mp hr
  have hId : r.requestId = requestId := Table.key_of_get? hGet
  simp only [hGet]
  split
  · trivial
  · obtain ⟨hKey, hStatus⟩ := hClose r
    have hRow : r.userId = u ∧ r.shortfallFreezeApplied = true := by
      simp [openShortfall] at hOpen
      exact ⟨hOpen.1, hOpen.2.2⟩
    simp only [shortfallLiability, Liability.mk.injEq] at hl
    rw [if_pos hRow.2, hl.2, hRow.1]
    refine closing_wallet (.inr ⟨rfl, ?_, checks_release trivial⟩)
    rw [← hId, ← hKey]
    exact closes_putReservation hStatus

/-- Every resolution closes its liability first. -/
theorem Resolution.program_closing (r : Resolution) : Closing u r.key s₀ r.program := by
  have hSettled (env : PaymentEnv) (d d' : PaymentDebt) (h : closeSettled env d = some d') :
      d'.subject = d.subject ∧ d'.status ≠ .outstanding := by
    unfold closeSettled at h
    split at h
    · next hZero =>
        cases h
        rw [settledDebt_status, if_pos hZero]
        exact ⟨(settledDebt_columns env d).1, nofun⟩
    · cases h
  cases r with
  | debtByAdmin =>
    refine closing_debtProgram fun d d' h => ?_
    unfold closeByAdmin at h
    split at h
    · cases h; exact ⟨rfl, nofun⟩
    · cases h
  | debtQuota =>
    refine closing_debtProgram fun d d' h => ?_
    have hRow := hSettled _ _ _ h
    exact hRow
  | debtAmount =>
    refine closing_debtProgram fun d d' h => ?_
    have hRow := hSettled _ _ _ h
    exact hRow
  | settle =>
    refine closing_reservationProgram fun r => ?_
    unfold settleRow
    split <;> exact ⟨rfl, nofun⟩
  | refund => exact closing_reservationProgram fun r => ⟨rfl, nofun⟩

end Programs

/-! ### Run alone, the statements are the transactions of the model -/

section Serial

theorem releaseProgram_serial (h : Released db userId previousStatus db') :
    (releaseProgram userId previousStatus .commit).serial db = some db' := by
  have hCounts : HasOpenLiability db userId ↔ db.paymentDebts.count (openDebt userId) > 0 ∨
      db.reservations.count (openShortfall userId) > 0 := by
    simp [HasOpenLiability, Table.count, List.countP_pos_iff]
  simp only [releaseProgram, Program.serial]
  cases h with
  | stillOpen hOpen =>
    by_cases hDebts : db.paymentDebts.count (openDebt userId) > 0
    · rw [if_pos hDebts]
      rfl
    · rw [if_neg hDebts]
      simp only [Program.serial, if_pos ((hCounts.mp hOpen).resolve_left hDebts)]
  | notFrozen user hNone hUser hFrozen =>
    rw [hCounts, not_or] at hNone
    simp [hNone.1, hNone.2, Program.serial, hUser, hFrozen]
  | lifted user hNone hUser hFrozen =>
    rw [hCounts, not_or] at hNone
    simp [hNone.1, hNone.2, Program.serial, hUser, hFrozen, updateUser, unfreezeColumns,
      unfrozen]

/-- A release that finds the same standing does the same. -/
theorem Released.of_steady (h : Released db userId previousStatus db') (hSteady : steady.rel db₁ db)
    :
    ∃ db₂, Released db₁ userId previousStatus db₂ ∧ steady.rel db₂ db' := by
  have hSame := hSteady
  simp only [steady, Frame.keeps, Prod.mk.injEq] at hSame
  obtain ⟨hStanding, hDebts, hReservations⟩ := hSame
  have hLiability : HasOpenLiability db₁ userId ↔ HasOpenLiability db userId := by
    simp [HasOpenLiability, hDebts, hReservations]
  have hRow {user : User} (hUser : db.users.get? userId = some user) :
      ∃ user₁, db₁.users.get? userId = some user₁ ∧ userStanding user₁ = userStanding user := by
    have hMap : (db.users.get? userId).map userStanding = _ := standing_get?_of_rows hStanding
    rw [hUser, Option.map_some, eq_comm] at hMap
    obtain ⟨user₁, hUser₁, hEq⟩ := Option.map_eq_some_iff.mp hMap
    exact ⟨user₁, hUser₁, hEq⟩
  cases h with
  | stillOpen hOpen => exact ⟨db₁, .stillOpen (hLiability.mpr hOpen), hSteady⟩
  | notFrozen user hNone hUser hFrozen =>
    obtain ⟨user₁, hUser₁, hEq⟩ := hRow hUser
    simp only [userStanding, Prod.mk.injEq] at hEq
    exact ⟨db₁, .notFrozen user₁ (mt hLiability.mp hNone) hUser₁ (hEq.2.2.trans hFrozen),
      hSteady⟩
  | lifted user hNone hUser hFrozen =>
    obtain ⟨user₁, hUser₁, hEq⟩ := hRow hUser
    have hColumns : userStanding (unfrozen previousStatus user) =
        userStanding (unfrozen previousStatus user₁) := by
      simp only [userStanding, Prod.mk.injEq] at hEq ⊢
      simp [unfrozen, hEq.1, hEq.2.1]
    simp only [userStanding, Prod.mk.injEq] at hEq
    refine ⟨_, .lifted user₁ (mt hLiability.mp hNone) hUser₁ (hEq.2.2.trans hFrozen), ?_⟩
    simp only [steady, Frame.keeps, Prod.mk.injEq]
    exact ⟨Table.map_rows_put_congr (g := Prod.fst) (fun _ => rfl) hStanding hColumns,
      hDebts, hReservations⟩

theorem walletProgram_serial (h : applyUserQuotaDeltaTx userId delta db = .ok (a, db₁)) :
    (walletProgram userId delta rest).serial db = rest.serial db₁ := by
  simp only [applyUserQuotaDeltaTx, Tx.failIf_bind_ok_iff, Tx.read_bind_apply] at h
  obtain ⟨-, h⟩ := h
  unfold walletProgram
  by_cases hZero : delta = 0
  · rw [if_pos hZero] at h ⊢
    rw [(Tx.failIf_ok_iff.mp h).2]
  · rw [if_neg hZero] at h ⊢
    by_cases hNegative : delta < 0
    · rw [if_pos hNegative] at h
      simp only [Tx.require_bind_ok_iff, Option.filter_eq_some_iff, Tx.write_ok_iff,
        decide_eq_true_eq] at h
      obtain ⟨user, ⟨hUser, hEnough⟩, rfl⟩ := h
      have hWallet : user.quota - -delta = user.quota + delta := by omega
      have hFits : ¬ ((delta < 0 ∧ user.quota < -delta) ∨
          (0 < delta ∧ maxInt32 - delta < user.quota)) := by omega
      simp [Program.serial, hUser, hFits, updateUser, walletColumns, hWallet]
    · rw [if_neg hNegative] at h
      simp only [Tx.require_bind_ok_iff, Option.filter_eq_some_iff, Tx.write_ok_iff,
        decide_eq_true_eq] at h
      obtain ⟨user, ⟨hUser, hEnough⟩, rfl⟩ := h
      have hFits : ¬ ((delta < 0 ∧ user.quota < -delta) ∨
          (0 < delta ∧ maxInt32 - delta < user.quota)) := by omega
      simp [Program.serial, hUser, hFits, updateUser, walletColumns]

/-- After the row is closed: what is left is the release it asks for. -/
theorem release_serial_of_steady (hSteady : steady.rel db₁ db₂)
    (h : if applied = true then Released db₂ userId previousStatus db' else db' = db₂) :
    ∃ db₃, (if applied then releaseProgram userId previousStatus .commit
        else .commit : FreezeProgram).serial db₁ = some db₃ ∧ steady.rel db₃ db' := by
  cases applied with
  | false => exact ⟨db₁, rfl, by rw [show db' = db₂ from h]; exact hSteady⟩
  | true =>
    obtain ⟨db₃, hReleased, hSteady'⟩ := Released.of_steady h hSteady
    exact ⟨db₃, releaseProgram_serial hReleased, hSteady'⟩

/-- Closing an open debt by hand is the program of an administrator's resolution. -/
theorem debtByAdmin_serial (h : resolvePaymentDebtByAdmin env input db = .ok ((d, false), db')) :
    ∃ db₁, (Resolution.debtByAdmin env (trimmedResolution input) d.subject).program.serial db =
      some db₁ ∧ steady.rel db₁ db' := by
  obtain ⟨-, debt, order, hDebt, -, -, ⟨-, hDuplicate, -⟩ | ⟨hStatus, -, hClose⟩⟩ :=
    resolvePaymentDebtByAdmin_ok h
  · cases hDuplicate
  · obtain ⟨rfl, hQuota, hAmount, db₁, db₂, db₃, hFiled, hNoted, hReleased, hRest⟩ :=
      closeDebtByAdminTx_ok hClose
    have hGet : db.paymentDebts.get? debt.subject = some debt := (findDebtById_get? hDebt).2
    have hClosed : Resolution.closeByAdmin env (trimmedResolution input) debt =
        some (adminResolvedDebt env (trimmedResolution input) debt) :=
      if_pos ⟨hStatus, hQuota, hAmount⟩
    have hPut : steady.rel
        (db.putDebt (adminResolvedDebt env (trimmedResolution input) debt)) db₂ := by
      refine steady.trans ?_ hNoted
      simp only [steady, Frame.keeps, Prod.mk.injEq] at hFiled ⊢
      exact ⟨hFiled.1, by simp [Database.putDebt, hFiled.2.1], hFiled.2.2⟩
    obtain ⟨db₄, hSerial, hSteady⟩ := release_serial_of_steady hPut hReleased
    refine ⟨db₄, ?_, steady.trans hSteady hRest⟩
    rw [← hSerial]
    show (Resolution.debtByAdmin env (trimmedResolution input) debt.subject).program.serial db = _
    simp only [Resolution.program, debtProgram, Program.serial, hGet, hClosed, walletProgram,
      if_true]
    rfl

/-- The wallet of a refund moves first. -/
theorem refundBillingReservationTx_wallet (hStatus : r.status = .reserved)
    (hSource : r.fundingSource = .wallet)
    (h : refundBillingReservationTx r allow now db = .ok ((applied, r'), db')) :
    ∃ db₁, applyUserQuotaDeltaTx r.userId r.reservedQuota db = .ok ((), db₁) := by
  unfold refundBillingReservationTx at h
  rw [if_neg (by simp [hStatus])] at h
  obtain ⟨-, h⟩ := Tx.failIf_bind_ok_iff.mp h
  obtain ⟨f, db₁, hFunding, -⟩ := Tx.bind_ok h
  simp only [refundFundingTx, hSource] at hFunding
  obtain ⟨_, db₂, hWallet, -⟩ := Tx.bind_ok hFunding
  exact ⟨db₂, hWallet⟩

/-- A refund is the program of a refund. -/
theorem refund_serial (hRow : db.reservations.get? (trimSpace requestId) = some r)
    (hStatus : r.status = .reserved) (h : refundBillingReservation requestId now db = .ok (r', db'))
    :
    ∃ db₁, (Resolution.refund (trimSpace requestId) now).program.serial db = some db₁ ∧
      steady.rel db₁ db' := by
  obtain ⟨row, applied, hRow', hRefund⟩ := refundBillingReservation_ok h
  obtain rfl : row = r := Option.some.inj (hRow'.symm.trans hRow)
  rcases refundBillingReservationTx_ok hRefund with ⟨-, hRefunded, -⟩ |
    ⟨-, -, rfl, db₁, hBooked, hReleased⟩
  · simp [hStatus] at hRefunded
  · have hWritten : RowWritten db (refundedReservation row now) db₁ :=
      Booked.written hBooked hRow rfl
    obtain ⟨db₂, hSteady, hWallet⟩ : ∃ db₂, steady.rel db db₂ ∧ ∀ rest : FreezeProgram,
        (walletProgram row.userId (if row.fundingSource = .wallet then row.reservedQuota else 0)
          rest).serial db = rest.serial db₂ := by
      by_cases hSource : row.fundingSource = .wallet
      · obtain ⟨db₂, hMoves⟩ := refundBillingReservationTx_wallet hStatus hSource hRefund
        obtain ⟨users, hMoved, rfl⟩ := applyUserQuotaDeltaTx_ok hMoves
        refine ⟨_, ?_, fun rest => by rw [if_pos hSource]; exact walletProgram_serial hMoves⟩
        simp [steady, Frame.keeps, WalletMoved.standing hMoved]
      · exact ⟨db, steady.refl db, fun rest => by rw [if_neg hSource]; rfl⟩
    have hClosed : steady.rel (db₂.putReservation (refundedReservation row now)) db₁ := by
      simp only [steady, Frame.keeps, Prod.mk.injEq] at hSteady ⊢
      refine ⟨hWritten.standing.trans hSteady.1.symm, hWritten.debts.trans hSteady.2.1.symm, ?_⟩
      rw [hBooked.reservations_eq]
      simp [Database.putReservation, hSteady.2.2]
    obtain ⟨db₃, hSerial, hRest⟩ := release_serial_of_steady hClosed hReleased
    refine ⟨db₃, ?_, hRest⟩
    rw [← hSerial]
    simp only [Resolution.program, reservationProgram, Program.serial, hRow, hStatus, ne_eq,
      not_true_eq_false, if_false, hWallet]

end Serial

end XyApi.Payment
