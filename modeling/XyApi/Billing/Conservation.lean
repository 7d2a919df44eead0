import XyApi.Billing.Transactions

/-!
The quota ledger explains every balance. A wallet is its first quota plus the
deltas recorded for it, a token likewise for both of its counters, and the
entries of a reservation add up to what the reservation holds. This is true
after any history of billing transactions and token deletions.
-/

namespace XyApi.Billing

open Lib Lib.Calendar Subscription

variable {f : FundingDelta} {loc : Location} {db₀ : Database}

def ledgerTotal (ledger : Table QuotaLedgerEntry.key) (p : QuotaLedgerEntry → Prop)
    [DecidablePred p] (column : QuotaLedgerEntry → Int) : Int :=
  ledger.sum fun e => if p e then column e else 0

def userTotal (db : Database) (u : Int) : Int :=
  ledgerTotal db.quotaLedger (fun e => e.userId = u) QuotaLedgerEntry.userQuotaDelta

def tokenRemainTotal (db : Database) (k : Int) : Int :=
  ledgerTotal db.quotaLedger (fun e => e.tokenId = k) QuotaLedgerEntry.tokenRemainQuotaDelta

def tokenUsedTotal (db : Database) (k : Int) : Int :=
  ledgerTotal db.quotaLedger (fun e => e.tokenId = k) QuotaLedgerEntry.tokenUsedQuotaDelta

def requestTotal (db : Database) (rid : String) : Int :=
  ledgerTotal db.quotaLedger (fun e => e.requestId = rid) QuotaLedgerEntry.userQuotaDelta

section Ledger

variable {db : Database}
  {p : QuotaLedgerEntry → Prop} [DecidablePred p] {column : QuotaLedgerEntry → Int}

theorem ledgerTotal_insert? (h : ledger.insert? e = some ledger') :
    ledgerTotal ledger' p column = ledgerTotal ledger p column + if p e then column e else 0 :=
  Table.sum_insert? h _

/-- An entry that records no movement changes no total of a delta column. -/
theorem NotedLedger.total_eq (h : NotedLedger db r ledger) (hColumn : ∀ phase revision note,
      column { r.ledgerEntry phase revision with note := note } = 0) :
    ledgerTotal ledger p column = ledgerTotal db.quotaLedger p column := by
  rcases h with rfl | ⟨phase, revision, note, hInsert⟩
  · rfl
  · simp [ledgerTotal_insert? hInsert, hColumn]

end Ledger

/-! ### Wallets -/

def WalletsFollow (db db' : Database) : Prop :=
  ∀ u, (db'.users.get? u).map User.quota =
    (db.users.get? u).map fun user => user.quota + (userTotal db' u - userTotal db u)

section Wallets

variable {db db' : Database} {r : BillingReservation}

theorem WalletsFollow.of_same
    (hUsers : ∀ u, (db'.users.get? u).map User.quota = (db.users.get? u).map User.quota)
    (hLedger : ∀ u, userTotal db' u = userTotal db u) : WalletsFollow db db' := by
  intro u
  rw [hUsers u, hLedger u]
  simp

theorem WalletsFollow.trans (h₁ : WalletsFollow db db₁) (h₂ : WalletsFollow db₁ db') :
    WalletsFollow db db' := by
  intro u
  have hFirst := h₁ u
  have hSecond := h₂ u
  cases hUser : db.users.get? u <;> cases hUser₁ : db₁.users.get? u <;>
    simp only [hUser, hUser₁, Option.map_none, Option.map_some, reduceCtorEq,
      Option.some.injEq] at hFirst hSecond ⊢
  · exact hSecond
  · rw [hSecond, Option.some.injEq]
    omega

theorem ReleasedBy.walletsFollow (h : ReleasedBy r db db') : WalletsFollow db db' := by
  obtain ⟨hEq, hQuota⟩ := h.users_eq
  exact .of_same hQuota fun u => by rw [hEq]; rfl

/-- The owner's wallet moves by the recorded delta, or stays while none is recorded. -/
def WalletsMoved (users users' : Table User.id) (r : BillingReservation) (f : FundingDelta) :
    Prop :=
  (f.userQuotaDelta = 0 ∧ users' = users) ∨ WalletMoved users users' r.userId f.userQuotaDelta

theorem FundingMoved.walletsMoved (h : FundingMoved db r delta f db') :
    WalletsMoved db.users db'.users r f := by
  cases h with
  | wallet _ hMoved => exact .inr hMoved
  | subscription => exact .inl ⟨rfl, rfl⟩

theorem OpenedFunding.walletsMoved (h : OpenedFunding loc db r f db') :
    WalletsMoved db.users db'.users r f := by
  cases h with
  | wallet _ hMoved => exact .inr hMoved
  | subscription => exact .inl ⟨rfl, rfl⟩

theorem WalletsMoved.walletsFollow (h : WalletsMoved db.users users r f)
    (hLedger : db.quotaLedger.insert? (ledgerWith (r.ledgerEntry phase revision) f t) = some db'.quotaLedger)
    (hUsers : db'.users = users) : WalletsFollow db db' := by
  intro u
  have hTotal : userTotal db' u - userTotal db u =
      if r.userId = u then f.userQuotaDelta else 0 := by
    simp only [userTotal, ledgerTotal_insert? hLedger, add_sub_cancel_left]
    rfl
  rw [hTotal, hUsers]
  rcases h with ⟨hZero, rfl⟩ | hMoved
  · simp [hZero]
  · simp only [hMoved.get?_eq u, Option.map_map, eq_comm (a := u)]
    rfl

theorem Booked.walletsFollow (h : Booked db r r' delta db') :
    WalletsFollow db db' := by
  obtain ⟨f, t, phase, revision, hFunding, hTokens, hLedger⟩ := h
  exact hFunding.walletsMoved.walletsFollow hLedger rfl

theorem Transition.walletsFollow (h : Transition loc rid db db') :
    WalletsFollow db db' := by
  cases h with
  | opened r f t hId hFresh hRow hFunding hTokens hLedger =>
    exact hFunding.walletsMoved.walletsFollow hLedger rfl
  | adjusted _ _ _ _ _ _ hBooked => exact hBooked.walletsFollow
  | refunded _ _ _ _ hBooked hReleased => exact hBooked.walletsFollow.trans hReleased.walletsFollow
  | settled r now hRow hStatus hLedger hReleased =>
    refine WalletsFollow.trans ?_ hReleased.walletsFollow
    exact .of_same (fun _ => rfl) fun _ => hLedger.total_eq fun _ _ _ => rfl
  | noted r r' hRow hStep hLedger =>
    exact .of_same (fun _ => rfl) fun _ => hLedger.total_eq fun _ _ _ => rfl
  | shortfall r r' _ _ _ _ _ hRow hStatus hMore hUser hPrevious hMarked hLedger =>
    obtain ⟨hEq, hQuota⟩ := freezeUser_users_eq r.userId { db with
      reservations := db.reservations.put r', quotaLedger := _ }
    refine .of_same hQuota fun u => ?_
    rw [hEq]
    exact hLedger.total_eq fun _ _ _ => rfl
  | jobs => exact .of_same (fun _ => rfl) fun _ => rfl
  | resolutions => exact .of_same (fun _ => rfl) fun _ => rfl

end Wallets

/-! ### Tokens -/

/-- Every token that is there has moved by what the ledger gained for it. -/
def TokensFollow (db db' : Database) : Prop :=
  ∀ k token', db'.tokens.get? k = some token' → ∃ token, db.tokens.get? k = some token ∧
    token'.remainQuota = token.remainQuota + (tokenRemainTotal db' k - tokenRemainTotal db k) ∧
    token'.usedQuota = token.usedQuota + (tokenUsedTotal db' k - tokenUsedTotal db k)

section Tokens

variable {db db' : Database} {r : BillingReservation}

/-- Tokens may disappear while nothing is recorded for any. -/
theorem TokensFollow.of_same
    (hTokens : ∀ k token, db'.tokens.get? k = some token → db.tokens.get? k = some token)
    (hRemain : ∀ k, tokenRemainTotal db' k = tokenRemainTotal db k)
    (hUsed : ∀ k, tokenUsedTotal db' k = tokenUsedTotal db k) : TokensFollow db db' := by
  intro k token hToken
  exact ⟨token, hTokens k token hToken, by simp [hRemain k], by simp [hUsed k]⟩

theorem TokensFollow.trans (h₁ : TokensFollow db db₁) (h₂ : TokensFollow db₁ db') :
    TokensFollow db db' := by
  intro k token₂ hToken₂
  obtain ⟨token₁, hToken₁, hRemain₂, hUsed₂⟩ := h₂ k token₂ hToken₂
  obtain ⟨token, hToken, hRemain₁, hUsed₁⟩ := h₁ k token₁ hToken₁
  exact ⟨token, hToken, by omega, by omega⟩

theorem TokensMoved.tokensFollow (h : TokensMoved db.tokens tokens r t)
    (hLedger : db.quotaLedger.insert? (ledgerWith (r.ledgerEntry phase revision) f t) = some db'.quotaLedger)
    (hTokens : db'.tokens = tokens) : TokensFollow db db' := by
  intro k token' hToken'
  have hRemain : tokenRemainTotal db' k - tokenRemainTotal db k =
      if r.tokenId = k then t.remain else 0 := by
    simp only [tokenRemainTotal, ledgerTotal_insert? hLedger, add_sub_cancel_left]
    rfl
  have hUsed : tokenUsedTotal db' k - tokenUsedTotal db k =
      if r.tokenId = k then t.used else 0 := by
    simp only [tokenUsedTotal, ledgerTotal_insert? hLedger, add_sub_cancel_left]
    rfl
  rw [hRemain, hUsed]
  rw [hTokens] at hToken'
  rcases h with ⟨hRemainZero, hUsedZero, rfl⟩ | hMoved
  · exact ⟨token', hToken', by simp [hRemainZero], by simp [hUsedZero]⟩
  · obtain ⟨time, hGet⟩ := hMoved.get?_eq k
    rw [hGet, Option.map_eq_some_iff] at hToken'
    obtain ⟨token, hToken, rfl⟩ := hToken'
    simp only [eq_comm (a := k)]
    exact ⟨token, hToken, rfl, rfl⟩

theorem ReleasedBy.tokensFollow (h : ReleasedBy r db db') : TokensFollow db db' := by
  rw [h.users_eq.1]
  exact .of_same (fun _ _ h => h) (fun _ => rfl) fun _ => rfl

theorem Booked.tokensFollow (h : Booked db r r' delta db') :
    TokensFollow db db' := by
  obtain ⟨f, t, phase, revision, hFunding, hTokens, hLedger⟩ := h
  exact hTokens.tokensFollow hLedger rfl

theorem NotedLedger.tokensFollow (h : NotedLedger db r ledger) (hLedger : db'.quotaLedger = ledger)
    (hTokens : db'.tokens = db.tokens) : TokensFollow db db' := by
  subst hLedger
  exact .of_same (fun _ _ hToken => hTokens ▸ hToken) (fun _ => h.total_eq fun _ _ _ => rfl)
    fun _ => h.total_eq fun _ _ _ => rfl

theorem Transition.tokensFollow (h : Transition loc rid db db') :
    TokensFollow db db' := by
  cases h with
  | opened r f t hId hFresh hRow hFunding hTokens hLedger => exact hTokens.tokensFollow hLedger rfl
  | adjusted _ _ _ _ _ _ hBooked => exact hBooked.tokensFollow
  | refunded _ _ _ _ hBooked hReleased => exact hBooked.tokensFollow.trans hReleased.tokensFollow
  | settled r now hRow hStatus hLedger hReleased =>
    refine TokensFollow.trans ?_ hReleased.tokensFollow
    exact hLedger.tokensFollow rfl rfl
  | noted r r' hRow hStep hLedger => exact hLedger.tokensFollow rfl rfl
  | shortfall r r' _ _ _ _ _ hRow hStatus hMore hUser hPrevious hMarked hLedger =>
    rw [(freezeUser_users_eq r.userId _).1]
    exact hLedger.tokensFollow rfl rfl
  | jobs => exact .of_same (fun _ _ h => h) (fun _ => rfl) fun _ => rfl
  | resolutions => exact .of_same (fun _ _ h => h) (fun _ => rfl) fun _ => rfl

end Tokens

/-! ### Reservations -/

def walletCharge (r : BillingReservation) : Int :=
  if r.fundingSource = .wallet ∧ r.status ≠ .refunded then r.reservedQuota else 0

/-- A stored row has left initialisation, and a settled one is settled at what it
reserved. -/
def WellClosed (r : BillingReservation) : Prop :=
  r.status ≠ .initializing ∧ (r.status = .settled → r.settledQuota = r.reservedQuota)

/-- The entries of every request add up to what its reservation holds; a request
without a reservation has none. -/
structure RequestsBalanced (db : Database) : Prop where
  total : ∀ rid, requestTotal db rid = -((db.reservations.get? rid).elim 0 walletCharge)
  closed : ∀ rid r, db.reservations.get? rid = some r → WellClosed r

section Requests

variable {db db' : Database} {r r' : BillingReservation} {rid : String}

/-- A row that is replaced while the totals follow what it holds. -/
theorem RequestsBalanced.put (h : RequestsBalanced db) (hRow : db.reservations.get? rid = some r)
    (hId : r'.requestId = r.requestId) (hReservations : db'.reservations = db.reservations.put r')
    (hTotal : ∀ id, requestTotal db' id =
      requestTotal db id - if id = rid then walletCharge r' - walletCharge r else 0)
    (hClosed : WellClosed r') : RequestsBalanced db' := by
  constructor
  · intro id
    rw [hTotal id, h.total id, hReservations, get?_put_row_eq hRow hId]
    split
    · next hid =>
        subst hid
        simp only [hRow, Option.elim_some]
        omega
    · omega
  · intro id row hGet
    rw [hReservations, get?_put_row_eq hRow hId] at hGet
    split at hGet
    · cases hGet; exact hClosed
    · exact h.closed id row hGet

/-- The row that is there may be replaced by one that holds the same. -/
theorem RequestsBalanced.note (h : RequestsBalanced db) (hRow : db.reservations.get? rid = some r)
    (hLedger : NotedLedger db r ledger) (hReservations : db'.reservations = db.reservations.put r')
    (hLedger' : db'.quotaLedger = ledger) (hId : r'.requestId = r.requestId)
    (hCharge : walletCharge r' = walletCharge r) (hClosed : WellClosed r') : RequestsBalanced db' := by
  refine h.put hRow hId hReservations (fun id => ?_) hClosed
  subst hLedger'
  have hSame : requestTotal db' id = requestTotal db id := hLedger.total_eq fun _ _ _ => rfl
  simp [hSame, hCharge]

theorem RequestsBalanced.congr (h : RequestsBalanced db)
    (hReservations : db'.reservations = db.reservations)
    (hLedger : db'.quotaLedger = db.quotaLedger) : RequestsBalanced db' := by
  obtain ⟨hTotal, hClosed⟩ := h
  constructor
  · intro id
    rw [hReservations, ← hTotal id, requestTotal, hLedger]
    rfl
  · rwa [hReservations]

theorem RequestsBalanced.released (h : RequestsBalanced db) (hReleased : ReleasedBy r db db') :
    RequestsBalanced db' :=
  h.congr hReleased.reservations_eq (by rw [hReleased.users_eq.1])

theorem FundingMoved.userQuotaDelta_eq (h : FundingMoved db r delta f db') :
    f.userQuotaDelta = if r.fundingSource = .wallet then -delta else 0 := by
  cases h with
  | wallet hSource => simp [hSource]
  | subscription hSource => simp [hSource]

theorem OpenedFunding.userQuotaDelta_eq (h : OpenedFunding loc db r f db') :
    f.userQuotaDelta = if r.fundingSource = .wallet then -r.reservedQuota else 0 := by
  cases h with
  | wallet hSource => simp [hSource]
  | subscription _ hSource => simp [hSource]

theorem Booked.requestTotal_eq (h : Booked db r r' delta db') (id : String) :
    requestTotal db' id = requestTotal db id +
      if r.requestId = id then (if r.fundingSource = .wallet then -delta else 0) else 0 := by
  obtain ⟨f, t, phase, revision, hFunding, hTokens, hLedger⟩ := h
  rw [← hFunding.userQuotaDelta_eq]
  exact ledgerTotal_insert? hLedger

theorem RequestsBalanced.booked (h : RequestsBalanced db) (hRow : db.reservations.get? rid = some r)
    (hBooked : Booked db r r' delta db') (hId : r'.requestId = r.requestId)
    (hCharge : walletCharge r' - walletCharge r = if r.fundingSource = .wallet then delta else 0)
    (hClosed : WellClosed r') : RequestsBalanced db' := by
  refine h.put hRow hId hBooked.reservations_eq (fun id => ?_) hClosed
  have hKey : r.requestId = rid := Table.key_of_get? hRow
  rw [hBooked.requestTotal_eq, hKey, hCharge]
  by_cases hid : rid = id
  · subst hid
    rw [if_pos rfl, if_pos rfl]
    split <;> omega
  · have hid' : ¬ id = rid := fun h => hid h.symm
    simp [hid, hid']

theorem Transition.requestsBalanced (h : Transition loc rid db db') (hDb : RequestsBalanced db) :
    RequestsBalanced db' := by
  cases h with
  | opened r f t hId hFresh hRow hFunding hTokens hLedger =>
    obtain ⟨hReserved, -⟩ := hFresh.columns
    have hGet := Table.get?_insert? hRow
    have hNone : db.reservations.get? r.requestId = none := (Table.rows_insert? hRow).2
    have hCharge : f.userQuotaDelta = -walletCharge r := by
      rw [hFunding.userQuotaDelta_eq]
      by_cases hSource : r.fundingSource = .wallet <;> simp [walletCharge, hReserved, hSource]
    constructor
    · intro id
      have hTotal : ledgerTotal _ (fun e => e.requestId = id) QuotaLedgerEntry.userQuotaDelta = _ :=
        ledgerTotal_insert? hLedger
      refine hTotal.trans ?_
      change requestTotal db id + _ = _
      rw [hDb.total id, hGet id]
      by_cases hid : id = r.requestId
      · subst hid
        simp [hNone, ledgerWith, BillingReservation.ledgerEntry, hCharge]
      · have hid' : ¬ r.requestId = id := fun h => hid h.symm
        simp [hid, hid', ledgerWith, BillingReservation.ledgerEntry]
    · intro id row hRow'
      rw [hGet id] at hRow'
      split at hRow'
      · cases hRow'
        simp [WellClosed, hReserved]
      · exact hDb.closed id row hRow'
  | adjusted r targetQuota now hRow hStatus hTarget hBooked =>
    refine hDb.booked hRow hBooked rfl ?_ ?_
    · by_cases hSource : r.fundingSource = .wallet <;>
        simp [walletCharge, adjustedReservation, hStatus, hSource]
    · simp [WellClosed, adjustedReservation, hStatus]
  | refunded r now hRow hStatus hBooked hReleased =>
    refine (hDb.booked hRow hBooked rfl ?_ ?_).released hReleased
    · by_cases hSource : r.fundingSource = .wallet <;>
        simp [walletCharge, refundedReservation, closedReservation, hStatus, hSource]
    · simp [WellClosed, refundedReservation, closedReservation]
  | settled r now hRow hStatus hLedger hReleased =>
    have hId : (settledReservation r r.reservedQuota now).requestId = r.requestId := rfl
    refine RequestsBalanced.released (hDb.note hRow hLedger rfl rfl hId ?_ ?_) hReleased
    · simp [walletCharge, settledReservation, closedReservation, hStatus]
    · simp [WellClosed, settledReservation, closedReservation]
  | noted r r' hRow hStep hLedger =>
    have hClosed := hDb.closed rid r hRow
    have hId : r'.requestId = r.requestId := (RowStep.noted hStep).requestId_eq
    refine hDb.note hRow hLedger rfl rfl hId ?_ ?_ <;> cases hStep
    all_goals first | rfl | exact hClosed
  | shortfall r r' targetQuota failure user previousStatus now hRow hStatus hMore hUser hPrevious
      hMarked hLedger =>
      have hClosed := hDb.closed rid r hRow
      have hId : r'.requestId = r.requestId := by rcases hMarked with ⟨rfl, -⟩ | rfl <;> rfl
      rw [(freezeUser_users_eq r.userId _).1]
      refine hDb.note hRow hLedger rfl rfl hId ?_ ?_ <;> rcases hMarked with ⟨rfl, -⟩ | rfl
      all_goals first | rfl | exact hClosed
  | jobs => exact hDb.congr rfl rfl
  | resolutions => exact hDb.congr rfl rfl

end Requests

/-! ### Histories -/

/-- A billing transaction, or a user deleting one of their tokens meanwhile. -/
inductive BillingStep
  | billing (t : BillingTx)
  | deleteToken (id userId : Int)

def BillingStep.step (loc : Location) (db : Database) : BillingStep → Database
  | billing t => t.step loc db
  | deleteToken id userId => ((deleteTokenById id userId).commit db).1

/-- The balances of `db` are those of `db₀` plus what the ledger of `db` records,
and the ledger agrees with what each reservation holds. -/
structure LedgerExplains (db₀ db : Database) : Prop where
  wallets : ∀ u, (db.users.get? u).map User.quota =
    (db₀.users.get? u).map fun user => user.quota + userTotal db u
  tokens : ∀ k token, db.tokens.get? k = some token →
    ∃ token₀, db₀.tokens.get? k = some token₀ ∧
      token.remainQuota = token₀.remainQuota + tokenRemainTotal db k ∧
      token.usedQuota = token₀.usedQuota + tokenUsedTotal db k
  status : ∀ rid r, db.reservations.get? rid = some r → r.status = .reserved ∨ r.Finalized
  held : ∀ rid r, db.reservations.get? rid = some r → r.fundingSource = .wallet →
    r.status ≠ .refunded → requestTotal db rid = -r.reservedQuota
  settled : ∀ rid r, db.reservations.get? rid = some r → r.status = .settled →
    r.settledQuota = r.reservedQuota
  refunded : ∀ rid r, db.reservations.get? rid = some r → r.status = .refunded →
    requestTotal db rid = 0

def Kept (db₀ db : Database) : Prop :=
  WalletsFollow db₀ db ∧ TokensFollow db₀ db ∧ RequestsBalanced db

theorem Kept.deleteToken (h : Kept db₀ db) (id userId : Int) :
    Kept db₀ ((deleteTokenById id userId).commit db).1 := by
  refine Tx.commit_preserves h fun _ db' hDelete => ?_
  simp only [deleteTokenById, Tx.failIf_bind_ok_iff, Tx.read_bind_apply, Tx.require_bind_ok_iff,
    Tx.write_ok_iff] at hDelete
  obtain ⟨-, _, -, rfl⟩ := hDelete
  refine ⟨h.1.trans (.of_same (fun _ => rfl) fun _ => rfl), h.2.1.trans (.of_same
    (fun k token hToken => ?_) (fun _ => rfl) fun _ => rfl), h.2.2.congr rfl rfl⟩
  rw [Table.get?_erase] at hToken
  split at hToken
  · cases hToken
  · exact hToken

theorem Kept.step (loc : Location) (h : Kept db₀ db) (s : BillingStep) :
    Kept db₀ (s.step loc db) := by
  cases s with
  | billing t =>
    refine t.step_invariant loc (fun rid db db' hStep hKept => ?_) db h
    exact ⟨hKept.1.trans hStep.walletsFollow, hKept.2.1.trans hStep.tokensFollow,
      hStep.requestsBalanced hKept.2.2⟩
  | deleteToken id userId => exact h.deleteToken id userId

theorem Kept.init (hReservations : db₀.reservations = .empty) (hLedger : db₀.quotaLedger = .empty) :
    Kept db₀ db₀ := by
  refine ⟨.of_same (fun _ => rfl) fun _ => rfl, .of_same (fun _ _ h => h) (fun _ => rfl) fun _ => rfl, ?_, ?_⟩
  · intro rid
    simp [requestTotal, ledgerTotal, hLedger, hReservations]
  · intro rid r hRow
    simp [hReservations] at hRow

/-- Started without reservations, every history of billing transactions and token
deletions leaves balances that the quota ledger explains. -/
theorem billing_history_explained (loc : Location) (db₀ : Database)
    (hReservations : db₀.reservations = .empty) (hLedger : db₀.quotaLedger = .empty)
    (history : List BillingStep) :
    LedgerExplains db₀ (run (BillingStep.step loc) db₀ history) := by
  obtain ⟨hWallets, hTokens, hRequests⟩ : Kept db₀ (run (BillingStep.step loc) db₀ history) :=
    run_invariant (fun _ s h => h.step loc s) (.init hReservations hLedger) history
  generalize run (BillingStep.step loc) db₀ history = db at *
  have hUser (u : Int) : userTotal db₀ u = 0 := by simp [userTotal, ledgerTotal, hLedger]
  have hRemain (k : Int) : tokenRemainTotal db₀ k = 0 := by
    simp [tokenRemainTotal, ledgerTotal, hLedger]
  have hUsed (k : Int) : tokenUsedTotal db₀ k = 0 := by
    simp [tokenUsedTotal, ledgerTotal, hLedger]
  refine ⟨fun u => ?_, fun k token hToken => ?_, fun rid r hRow => ?_, fun rid r hRow hSource hOpen =>
    ?_, fun rid r hRow hSettled => ?_, fun rid r hRow hRefunded => ?_⟩
  · simpa [hUser] using hWallets u
  · simpa [hRemain, hUsed] using hTokens k token hToken
  · have hClosed := (hRequests.closed rid r hRow).1
    unfold BillingReservation.Finalized
    cases hStatus : r.status <;> simp_all
  · simp [hRequests.total rid, hRow, walletCharge, hSource, hOpen]
  · exact (hRequests.closed rid r hRow).2 hSettled
  · simp [hRequests.total rid, hRow, walletCharge, hRefunded]

def sampleAccount : Database where
  users := ⟨[{ id := 1, quota := 100 }], by decide⟩
  tokens := ⟨[{ id := 1, userId := 1, remainQuota := 100 }], by decide⟩

def sampleHistory : List BillingStep :=
  [.billing (.preConsume 0 { requestId := "a", userId := 1, tokenId := 1, quota := 50 } 10),
    .billing (.extend "a" 60 11),
    .billing (.preConsume 0 { requestId := "b", userId := 1, tokenId := 1, quota := 20 } 12),
    .billing (.settle "a" 55 13),
    .deleteToken 1 1,
    .billing (.refund "b" 14)]

theorem billing_history_explained_sample :
    LedgerExplains sampleAccount (run (BillingStep.step .utc) sampleAccount sampleHistory) ∧
      (run (BillingStep.step .utc) sampleAccount sampleHistory).reservations.rows.map
        BillingReservation.status = [.settled, .refunded] ∧
      ((run (BillingStep.step .utc) sampleAccount sampleHistory).users.get? 1).map User.quota =
        some 45 :=
  ⟨billing_history_explained .utc sampleAccount rfl rfl sampleHistory, by decide, by decide⟩

/-! ### What is never taken back -/

/-- Who pays for a request, and with what. -/
def fundedBy (r : BillingReservation) : Int × Int × FundingSource × Int × Int × TokenMode :=
  (r.userId, r.tokenId, r.fundingSource, r.subscriptionId, r.subscriptionResetVersion, r.tokenMode)

/-- Entries of the quota ledger stay as they are, reservations stay with who pays for them,
and the tables of payments are left alone. -/
structure Extends (db db' : Database) : Prop where
  entries : ∀ key e, db.quotaLedger.get? key = some e → db'.quotaLedger.get? key = some e
  rows : ∀ id r, db.reservations.get? id = some r →
    ∃ r', db'.reservations.get? id = some r' ∧ fundedBy r' = fundedBy r
  payments : db'.payments = db.payments ∧ db'.paymentDebts = db.paymentDebts

theorem Extends.trans (h : Extends db db₁) (h' : Extends db₁ db') : Extends db db' where
  entries key e hEntry := h'.entries key e (h.entries key e hEntry)
  rows id r hRow := by
    obtain ⟨r₁, hRow₁, hSame₁⟩ := h.rows id r hRow
    obtain ⟨r₂, hRow₂, hSame₂⟩ := h'.rows id r₁ hRow₁
    exact ⟨r₂, hRow₂, hSame₂.trans hSame₁⟩
  payments := ⟨h'.payments.1.trans h.payments.1, h'.payments.2.trans h.payments.2⟩

def Entered (db db' : Database) : Prop :=
  (db'.quotaLedger = db.quotaLedger ∨ ∃ e, db.quotaLedger.insert? e = some db'.quotaLedger) ∧
    db'.payments = db.payments ∧ db'.paymentDebts = db.paymentDebts

theorem Booked.entered (h : Booked db r r' delta db') : Entered db db' := by
  cases h with
  | mk _ _ _ _ hFunding _ hLedger => cases hFunding <;> exact ⟨.inr ⟨_, hLedger⟩, rfl, rfl⟩

theorem Transition.entered (h : Transition loc rid db db') : Entered db db' := by
  have hNoted {r ledger} (hLedger : NotedLedger db r ledger) :
      ledger = db.quotaLedger ∨ ∃ e, db.quotaLedger.insert? e = some ledger :=
    hLedger.imp id fun ⟨_, _, _, hInsert⟩ => ⟨_, hInsert⟩
  cases h with
  | opened _ _ _ _ _ _ hFunding _ hLedger =>
    cases hFunding <;> exact ⟨.inr ⟨_, hLedger⟩, rfl, rfl⟩
  | adjusted _ _ _ _ _ _ hBooked => exact hBooked.entered
  | refunded _ _ _ _ hBooked hReleased =>
    rw [hReleased.users_eq.1]
    exact hBooked.entered
  | settled _ _ _ _ hLedger hReleased =>
    rw [hReleased.users_eq.1]
    exact ⟨hNoted hLedger, rfl, rfl⟩
  | noted _ _ _ _ hLedger => exact ⟨hNoted hLedger, rfl, rfl⟩
  | shortfall r _ _ _ _ _ _ _ _ _ _ _ _ hLedger =>
    rw [(freezeUser_users_eq r.userId _).1]
    exact ⟨hNoted hLedger, rfl, rfl⟩
  | jobs | resolutions => exact ⟨.inl rfl, rfl, rfl⟩

theorem Transition.extends (h : Transition loc rid db db') : Extends db db' where
  entries key e hEntry := by
    obtain hSame | ⟨_, hInsert⟩ := h.entered.1
    · exact hSame ▸ hEntry
    · exact Table.get?_of_insert? hInsert hEntry
  rows id r hRow := by
    rcases h.reservations_cases with hSame | ⟨_, -, -, hInsert⟩ | ⟨old, new, hOld, hStep, hPut⟩
    · exact ⟨r, hSame ▸ hRow, rfl⟩
    · exact ⟨r, Table.get?_of_insert? hInsert hRow, rfl⟩
    · rw [hPut, get?_put_row_eq hOld hStep.requestId_eq]
      split
      · next hId =>
          subst hId
          cases hRow.symm.trans hOld
          refine ⟨new, rfl, ?_⟩
          cases hStep with
          | noted hPlain => cases hPlain <;> rfl
          | _ => rfl
      · exact ⟨r, hRow, rfl⟩
  payments := h.entered.2

/-- Histories of billing only add to the record. -/
theorem billing_history_extends (loc : Location) (db : Database) (history : List BillingStep) :
    Extends db (run (BillingStep.step loc) db history) := by
  have hSame : Extends db db := ⟨fun _ _ h => h, fun _ r h => ⟨r, h, rfl⟩, rfl, rfl⟩
  refine run_invariant (fun db₁ s h => ?_) hSame history
  cases s with
  | billing t =>
    exact t.step_invariant loc (fun _ _ _ hStep h => h.trans hStep.extends) db₁ h
  | deleteToken id userId =>
    refine Tx.commit_preserves h fun _ db₂ hDelete => ?_
    simp only [deleteTokenById, Tx.failIf_bind_ok_iff, Tx.read_bind_apply,
      Tx.require_bind_ok_iff, Tx.write_ok_iff] at hDelete
    obtain ⟨-, _, -, rfl⟩ := hDelete
    exact ⟨h.entries, h.rows, h.payments⟩

end XyApi.Billing
