import XyApi.Lib.Failure
import XyApi.Billing.ReservationSpec

/-!
Whether the failure code of a settlement tells the truth. Each quota update is
one conditional statement, and the code infers the reason of a failure from the
number of affected rows, so a missing row and a full usage counter look like a
shortage. Where the rows exist and the counter has room, the code is right.
-/

namespace XyApi.Billing

open Lib

/-! ### The session -/

structure BillingSession where
  requestId : String
  fundingSource : FundingSource
  preConsumedQuota : Int := 0
  tokenConsumed : Int := 0
  settled : Bool := false
  refunded : Bool := false
  liabilityPending : Bool := false
  subscriptionPostDelta : Int := 0
  deriving DecidableEq, Repr

/-- A transaction with `retries` tries after the first one, as long as it fails with
an error that does not stop them. What other clients do before the tries that are
left is `others`. -/
def attempts {α : Type} (x : DbTx α) (stops : Err → Bool) (others : Nat → Database → Database) :
    (retries : Nat) → Database → Database × Except Err α
  | 0, db => x.commit (others 0 db)
  | retries + 1, db =>
    match x.commit (others (retries + 1) db) with
    | (db', .ok a) => (db', .ok a)
    | (db', .error e) =>
      if stops e then (db', .error e) else attempts x stops others retries db'

def reservationStops (e : Err) : Bool :=
  e.is .billingReservationConflict || e.is .billingReservationFinalized ||
    e.is .billingReservationNotFound

def settlementStops (e : Err) : Bool :=
  reservationStops e || e.is .insufficientUserQuota || e.is .insufficientTokenQuota ||
    e.is .insufficientSubscriptionQuota || e.is .quotaOverflow

def shortfallStops (e : Err) : Bool := reservationStops e || e.is .billingAccountNotFound

section Settle

variable (others : Nat → Database → Database) (requestId : String) (targetQuota now : Int)

def persistBillingSettlementIntent : Database → Database × Except Err Unit :=
  attempts (prepareBillingReservationSettlement requestId targetQuota now) reservationStops others 2

def settleAttempts : Database → Database × Except Err BillingReservation :=
  attempts (settleBillingReservation requestId targetQuota now) settlementStops others 2

def persistBillingSettlementShortfall (failure : SettlementFailure) :
    Database → Database × Except Err BillingReservation :=
  attempts (markBillingReservationSettlementShortfall requestId targetQuota failure.code now)
    shortfallStops others 2

def recordSettlementFailure (e : Err) (db : Database) : Database × Err :=
  match billingSettlementFailureCode e with
  | none => (db, e)
  | some failure =>
    match persistBillingSettlementShortfall others requestId targetQuota now failure db with
    | (db', .ok _) => (db', e)
    | (db', .error markErr) => (db', .join e markErr)

end Settle

/-- What the other clients do around the three transactions of a settlement. -/
structure Bystanders where
  intent : Nat → Database → Database
  settlement : Nat → Database → Database
  shortfall : Nat → Database → Database

def BillingSession.afterSettlement (s : BillingSession) (actualQuota : Int)
    (r : BillingReservation) : BillingSession :=
  { s with
    subscriptionPostDelta :=
      if s.settled = false ∧ s.fundingSource = .subscription then
        s.subscriptionPostDelta + (actualQuota - s.preConsumedQuota)
      else s.subscriptionPostDelta
    preConsumedQuota := r.reservedQuota
    tokenConsumed := r.tokenReserved
    settled := true
    liabilityPending := false }

def BillingSession.settle (s : BillingSession) (actualQuota now : Int) (others : Bystanders)
    (db : Database) : BillingSession × Database × Except Err Unit :=
  if s.refunded then (s, db, .error .billingReservationFinalized)
  else
    let s := { s with liabilityPending := true }
    match persistBillingSettlementIntent others.intent s.requestId actualQuota now db with
    | (db₁, .error e) => (s, db₁, .error e)
    | (db₁, .ok _) =>
      match settleAttempts others.settlement s.requestId actualQuota now db₁ with
      | (db₂, .ok r) => (s.afterSettlement actualQuota r, db₂, .ok ())
      | (db₂, .error e) =>
        let (db₃, err) :=
          recordSettlementFailure others.shortfall s.requestId actualQuota now e db₂
        (s, db₃, .error err)

/-- Tries that end in an error end in a state in which the transaction fails so. -/
theorem attempts_error (h : attempts x stops others retries db = (db', .error e)) :
    x db' = .error e := by
  have hTry (start : Database) (hCommit : x.commit start = (db', .error e)) :
      x db' = .error e := by
    rcases Tx.commit_cases x start with ⟨e', hFail, hEq⟩ | ⟨a, s', -, hEq⟩
    · cases hEq.symm.trans hCommit
      exact hFail
    · cases hEq.symm.trans hCommit
  induction retries generalizing db with
  | zero => exact hTry _ h
  | succ retries ih =>
    simp only [attempts] at h
    split at h
    · cases h
    · next hCommit =>
        split at h
        · cases h
          exact hTry _ hCommit
        · exact ih h

/-! ### How the quota updates fail -/

section Updates

variable {userId tokenId delta now : Int} {db : Database} {e : Err}

theorem applyUserQuotaDeltaTx_error (h : applyUserQuotaDeltaTx userId delta db = .error e) :
    e = .billingAccountNotFound ∨ e = .quotaOverflow ∨
      (e = .insufficientUserQuota ∧ 0 < userId ∧
        ∀ user, db.users.get? userId = some user → user.quota < -delta) := by
  simp only [applyUserQuotaDeltaTx, Tx.failIf_bind_error_iff, Tx.read_bind_apply] at h
  rcases h with ⟨-, rfl⟩ | ⟨hId, h⟩
  · exact .inl rfl
  · split at h
    · exact .inl (Tx.failIf_error_iff.mp h).2.symm
    · split at h
      · simp only [Tx.require_bind_error_iff, Tx.write_error_iff, and_false, exists_false, or_false,
          Option.filter_eq_none_iff, decide_eq_true_eq] at h
        exact .inr (.inr ⟨h.2.symm, by omega, fun user hUser => by
          have := h.1 user hUser
          omega⟩)
      · simp only [Tx.require_bind_error_iff, Tx.write_error_iff, and_false, exists_false,
          or_false] at h
        exact .inr (.inl h.2.symm)

theorem applyTokenQuotaDeltaTx_error
    (h : applyTokenQuotaDeltaTx userId tokenId delta unlimited now db = .error e) :
    e = .billingAccountNotFound ∨ e = .quotaOverflow ∨
      (e = .insufficientTokenQuota ∧
        ∀ token, db.tokens.get? tokenId = some token → token.userId = userId →
          maxInt32 - delta < token.usedQuota ∨
            (unlimited = false ∧ token.remainQuota < delta)) := by
  simp only [applyTokenQuotaDeltaTx, Tx.failIf_bind_error_iff, Tx.read_bind_apply] at h
  rcases h with ⟨-, rfl⟩ | ⟨-, h⟩
  · exact .inl rfl
  · split at h
    · simp only [Tx.failIf_bind_error_iff, Tx.pure_error_iff, and_false, or_false] at h
      exact .inl h.2.symm
    · split at h
      · simp only [Tx.require_bind_error_iff, Tx.write_bind_apply, Tx.pure_error_iff, and_false,
          exists_false, or_false, Option.filter_eq_none_iff, Option.filter_eq_some_iff,
          decide_eq_true_eq] at h
        refine .inr (.inr ⟨h.2.symm, fun token hToken hUser => ?_⟩)
        have hRefused := h.1 token ⟨hToken, hUser⟩
        by_cases hRoom : token.usedQuota ≤ maxInt32 - delta
        · cases unlimited
          · exact .inr ⟨rfl, by simpa [hRoom] using hRefused⟩
          · simp [hRoom] at hRefused
        · exact .inl (by omega)
      · simp only [Tx.require_bind_error_iff, Tx.write_bind_apply, Tx.pure_error_iff, and_false,
          exists_false, or_false] at h
        exact .inr (.inl h.2.symm)

end Updates

/-! ### Errors that are no shortage of the account -/

def BlamesAccount (e : Err) : Prop :=
  e.is .insufficientUserQuota = true ∨ e.is .insufficientTokenQuota = true
  deriving Decidable

theorem not_blamesAccount_wrap (h : ¬ BlamesAccount cause) :
    ¬ BlamesAccount (.wrap cause detail) := by
  simpa [BlamesAccount, Err.is] using h

theorem applySubscriptionReservationDeltaTx_fails :
    (applySubscriptionReservationDeltaTx r delta).FailsWith fun e => ¬ BlamesAccount e := by
  unfold applySubscriptionReservationDeltaTx
  refine .bind (.failIf (by decide)) fun _ => .ite (.pure _) ?_
  refine .bind (.read _) fun _ => .bind (.require (by decide)) fun sub => ?_
  refine .bind (.failIf (by decide)) fun _ => .bind (.failIf (by decide)) fun _ => .ite ?_ ?_
  · refine .bind (.failIf (by decide)) fun _ => .bind (.failIf (by decide)) fun _ => ?_
    refine .bind (.failIf (not_blamesAccount_wrap (by decide))) fun _ => ?_
    exact .bind (.write _) fun _ => .pure _
  · exact .bind (.write _) fun _ => .pure _

theorem updatePreConsumeRecord_fails :
    (updatePreConsumeRecord requestId ok f).FailsWith fun e => ¬ BlamesAccount e :=
  .bind (.read _) fun _ => .bind (.require (by decide)) fun _ => .write _

theorem createLedgerEntry_fails :
    (createLedgerEntry entry).FailsWith fun e => ¬ BlamesAccount e :=
  .bind (.read _) fun _ => .bind (.require (by decide)) fun _ => .write _

theorem releaseShortfallFreezeTx_fails :
    (releaseShortfallFreezeTx r).FailsWith fun e => ¬ BlamesAccount e := by
  refine .when (.bind ?_ fun _ => .pure _)
  refine .bind ?_ fun _ => .ite (.pure _) ?_
  · refine .bind (.failIf (by decide)) fun _ => .bind (.read _) fun _ => .ite (.pure _) ?_
    exact .bind (.read _) fun _ => .pure _
  · refine .bind (.read _) fun _ => .bind (.require (by decide)) fun _ => .ite (.pure _) ?_
    exact .bind (.write _) fun _ => .pure _

/-! ### Where a settlement fails -/

section Settlement

variable {r : BillingReservation} {actualQuota now : Int} {db : Database} {e : Err}

def settlementTokenNote : String :=
  "token deleted before async task finalization; token delta skipped"

def ChargeFailed (r : BillingReservation) (delta now : Int) (db : Database) (e : Err) : Prop :=
  adjustFundingTx r delta now db = .error e ∨
    ∃ f db₁, adjustFundingTx r delta now db = .ok (f, db₁) ∧
      adjustTokenTx r delta true settlementTokenNote now db₁ = .error e

theorem adjustReservedBillingTx_error
    (h : adjustReservedBillingTx r actualQuota phase true now db = .error e)
    (hBlames : BlamesAccount e) :
    ChargeFailed r (actualQuota - r.reservedQuota) now db e := by
  simp only [adjustReservedBillingTx, Tx.failIf_bind_error_iff] at h
  rcases h with ⟨-, rfl⟩ | ⟨-, ⟨-, rfl⟩ | ⟨-, h⟩⟩
  · exact absurd hBlames (by decide)
  · exact absurd hBlames (not_blamesAccount_wrap (by decide))
  · split at h
    · exact (Tx.pure_error_iff.mp h).elim
    · rcases Tx.bind_error_iff.mp h with hFunding | ⟨f, db₁, hFunding, h⟩
      · exact .inl hFunding
      · rcases Tx.bind_error_iff.mp h with hToken | ⟨t, db₂, -, h⟩
        · exact .inr ⟨f, db₁, hFunding, hToken⟩
        · refine absurd hBlames ?_
          refine Tx.FailsWith.bind (E := fun e => ¬ BlamesAccount e) (.failIf (by decide))
            (fun _ => ?_) db₂ e h
          refine .bind (.write _) fun _ => .bind createLedgerEntry_fails fun _ => .pure _

/-- A settlement that blames the account failed in one of its two charges. -/
theorem settleBillingReservation_error (hRow : db.reservations.get? (trimSpace requestId) = some r)
    (h : settleBillingReservation requestId actualQuota now db = .error e)
    (hBlames : BlamesAccount e) :
    ChargeFailed r (actualQuota - r.reservedQuota) now db e := by
  simp only [settleBillingReservation, Tx.failIf_bind_error_iff] at h
  rcases h with ⟨-, rfl⟩ | ⟨-, h⟩
  · exact absurd hBlames (by decide)
  · rw [Tx.bind_of_ok (lockReservation_eq hRow)] at h
    rcases Tx.bind_error_iff.mp h with h | ⟨_, _, -, h⟩
    · unfold settleBillingReservationTx at h
      split at h
      · simp only [Tx.failIf_bind_error_iff, Tx.pure_error_iff, and_false, or_false] at h
        obtain ⟨-, rfl⟩ := h
        exact absurd hBlames (by decide)
      · simp only [Tx.failIf_bind_error_iff] at h
        rcases h with ⟨-, rfl⟩ | ⟨-, h⟩
        · exact absurd hBlames (not_blamesAccount_wrap (by decide))
        · rcases Tx.bind_error_iff.mp h with h | ⟨adjusted, db₁, -, h⟩
          · unfold adjustForSettlementTx at h
            split at h
            · exact adjustReservedBillingTx_error h hBlames
            · refine absurd hBlames ?_
              exact Tx.FailsWith.bind createLedgerEntry_fails (fun _ => .pure _) db e h
          · refine absurd hBlames ?_
            exact Tx.FailsWith.bind (.write _)
              (fun _ => .bind releaseShortfallFreezeTx_fails fun _ => .pure _) db₁ e h
    · exact (Tx.pure_error_iff.mp h).elim

end Settlement

/-! ### What the codes tell -/

/-- The rows that a settlement of `r` charges are there, and the token row is as the
reservation took it down, with room in its usage counter. Ids that are not positive
name no row. -/
structure AccountsInOrder (db : Database) (r : BillingReservation) (delta : Int) : Prop where
  user : r.fundingSource = .wallet → 0 < r.userId → ∃ user, db.users.get? r.userId = some user
  token : r.tokenMode ≠ .skipped → 0 < r.userId → 0 < r.tokenId →
    ∃ token, db.tokens.get? r.tokenId = some token ∧ token.userId = r.userId ∧
      (token.unlimitedQuota = true ↔ r.tokenMode = .unlimited) ∧
      token.usedQuota ≤ maxInt32 - delta

/-- The settlement moves quota: the reservation is open and held at another amount. -/
structure Moves (r : BillingReservation) (actualQuota : Int) : Prop where
  requestId : r.requestId ≠ ""
  status : r.status = .reserved
  range : ¬ quotaOutOfRange actualQuota
  quota : actualQuota ≠ r.reservedQuota

def HasUser (db : Database) (r : BillingReservation) : Prop :=
  ∃ user, db.users.get? r.userId = some user

def HasToken (db : Database) (r : BillingReservation) : Prop :=
  ∃ token, db.tokens.get? r.tokenId = some token ∧ token.userId = r.userId

/-- What the code of a failed settlement says is so. A missing token is reported
unless the funding source has refused before. -/
structure TruthfulFailure (db : Database) (r : BillingReservation) (actualQuota now : Int)
    (e : Err) : Prop where
  userShort : billingSettlementFailureCode e = some .userQuota →
    ∃ user, db.users.get? r.userId = some user ∧ user.quota < actualQuota - r.reservedQuota
  tokenShort : billingSettlementFailureCode e = some .tokenQuota →
    ∃ token, db.tokens.get? r.tokenId = some token ∧ token.userId = r.userId ∧
      token.unlimitedQuota = false ∧ token.remainQuota < actualQuota - r.reservedQuota
  userMissing : Moves r actualQuota → r.fundingSource = .wallet → ¬ HasUser db r →
    billingSettlementFailureCode e = some .accountMissing
  tokenMissing : Moves r actualQuota → r.tokenMode ≠ .skipped → ¬ HasToken db r →
    billingSettlementFailureCode e = some .accountMissing ∨
      adjustFundingTx r (actualQuota - r.reservedQuota) now db = .error e

section Codes

variable {db : Database}

theorem code_userQuota (h : billingSettlementFailureCode e = some .userQuota) :
    e.is .insufficientUserQuota = true := by
  unfold billingSettlementFailureCode at h
  split at h
  · next hUser => exact hUser
  · split at h
    · cases h
    · split at h
      · cases h
      · split at h <;> cases h

theorem code_tokenQuota (h : billingSettlementFailureCode e = some .tokenQuota) :
    e.is .insufficientTokenQuota = true := by
  unfold billingSettlementFailureCode at h
  split at h
  · cases h
  · split at h
    · next hToken => exact hToken
    · split at h
      · cases h
      · split at h <;> cases h

/-- A funding source that blames the account is a wallet that is short. -/
theorem adjustFundingTx_blames (h : adjustFundingTx r delta now db = .error e)
    (hBlames : BlamesAccount e) :
    r.fundingSource = .wallet ∧ 0 < r.userId ∧ e = .insufficientUserQuota ∧
      ∀ user, db.users.get? r.userId = some user → user.quota < delta := by
  unfold adjustFundingTx at h
  cases hSource : r.fundingSource with
  | wallet =>
    simp only [hSource] at h
    rcases Tx.bind_error_iff.mp h with hUser | ⟨_, _, -, hPure⟩
    · rcases applyUserQuotaDeltaTx_error hUser with rfl | rfl | ⟨rfl, hId, hShort⟩
      · exact absurd hBlames (by decide)
      · exact absurd hBlames (by decide)
      · refine ⟨rfl, hId, rfl, fun user hFound => ?_⟩
        simpa using hShort user hFound
    · exact (Tx.pure_error_iff.mp hPure).elim
  | subscription =>
    simp only [hSource] at h
    refine absurd hBlames ?_
    exact Tx.FailsWith.bind applySubscriptionReservationDeltaTx_fails
      (fun _ => .bind (.when updatePreConsumeRecord_fails) fun _ => .pure _) db e h
  | other =>
    simp only [hSource, Tx.fail_error_iff] at h
    subst h
    exact absurd hBlames (by decide)

/-- A token charge that blames the account found the token short or its usage
counter full. -/
theorem adjustTokenTx_blames (h : adjustTokenTx r delta true note now db = .error e)
    (hBlames : BlamesAccount e) :
    r.tokenMode ≠ .skipped ∧ 0 < r.userId ∧ 0 < r.tokenId ∧ e = .insufficientTokenQuota ∧
      ∀ token, db.tokens.get? r.tokenId = some token → token.userId = r.userId →
        maxInt32 - delta < token.usedQuota ∨
          (r.tokenMode ≠ .unlimited ∧ token.remainQuota < delta) := by
  unfold adjustTokenTx at h
  split at h
  · exact (Tx.pure_error_iff.mp h).elim
  · next hMode =>
      rcases Tx.bind_error_iff.mp h with hFirst | ⟨tokenExists, db₁, hExists, hRest⟩
      · refine absurd hBlames ?_
        exact Tx.FailsWith.bind (E := fun e => ¬ BlamesAccount e) (.failIf (by decide))
          (fun _ => .read _) db e hFirst
      · have hIds : ¬ (r.userId ≤ 0 ∨ r.tokenId ≤ 0) := by
          simp only [billingTokenExistsTx, Tx.failIf_bind_ok_iff] at hExists
          exact hExists.1
        obtain ⟨rfl, -⟩ := billingTokenExistsTx_ok hExists
        split at hRest
        · exact (Tx.pure_error_iff.mp hRest).elim
        · rcases Tx.bind_error_iff.mp hRest with hApply | ⟨_, _, -, hPure⟩
          · rcases applyTokenQuotaDeltaTx_error hApply with rfl | rfl | ⟨rfl, hShort⟩
            · exact absurd hBlames (by decide)
            · exact absurd hBlames (by decide)
            · exact ⟨hMode, by omega, by omega, rfl, by simpa using hShort⟩
          · exact (Tx.pure_error_iff.mp hPure).elim

/-- The error of a failed charge is the error of the settlement. -/
theorem settleBillingReservation_of_chargeFailed
    (hRow : db.reservations.get? (trimSpace requestId) = some r) (hMoves : Moves r actualQuota)
    (h : ChargeFailed r (actualQuota - r.reservedQuota) now db e) :
    settleBillingReservation requestId actualQuota now db = .error e := by
  have hDelta : actualQuota - r.reservedQuota ≠ 0 := by
    have := hMoves.quota
    omega
  have hId : trimSpace requestId ≠ "" := by
    have hKey : r.requestId = trimSpace requestId := Table.key_of_get? hRow
    exact hKey ▸ hMoves.requestId
  have hAdjust : adjustReservedBillingTx r actualQuota .settle true now db = .error e := by
    unfold adjustReservedBillingTx
    rw [Tx.failIf_bind_of_not hMoves.range, Tx.failIf_bind_of_not (by simp [hMoves.status]),
      if_neg hDelta]
    rcases h with hFunding | ⟨f, db₁, hFunding, hToken⟩
    · exact Tx.bind_of_error hFunding _
    · rw [Tx.bind_of_ok hFunding]
      exact Tx.bind_of_error hToken _
  have hSettle : settleBillingReservationTx r actualQuota true now db = .error e := by
    unfold settleBillingReservationTx
    rw [if_neg (by simp [hMoves.status]), Tx.failIf_bind_of_not (by simp [hMoves.status])]
    refine Tx.bind_of_error ?_ _
    rwa [adjustForSettlementTx, if_pos hDelta]
  unfold settleBillingReservation
  rw [Tx.failIf_bind_of_not (by simp [hId, hMoves.range]), Tx.bind_of_ok (lockReservation_eq hRow)]
  exact Tx.bind_of_error hSettle _

end Codes

def sampleOpen (mode : TokenMode) : BillingReservation where
  requestId := "a"
  userId := 1
  tokenId := 7
  fundingSource := .wallet
  initialQuota := 0
  reservedQuota := 0
  tokenMode := mode
  status := .reserved
  version := 1

def sampleShort : Database where
  users := .single { id := 1, quota := 5 }
  tokens := .single { id := 7, userId := 1, remainQuota := 50 }
  reservations := .single (sampleOpen .limited)

def sampleFullCounter : Database where
  users := .single { id := 1, quota := 1000 }
  tokens := .single { id := 7, userId := 1, unlimitedQuota := true, usedQuota := maxInt32 }
  reservations := .single (sampleOpen .unlimited)

def noBystanders : Bystanders := ⟨fun _ db => db, fun _ db => db, fun _ db => db⟩

def sampleFrozen : Database :=
  (BillingSession.settle { requestId := "a", fundingSource := .wallet } 10 2 noBystanders
    sampleFullCounter).2.1

end XyApi.Billing
