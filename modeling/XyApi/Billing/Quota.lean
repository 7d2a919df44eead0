import XyApi.Database

/-!
The guarded arithmetic that billing applies to wallets and API tokens. Every
update is one conditional statement: it succeeds only when the row exists and
the new value stays inside the column, and it fails without a write otherwise.
-/

namespace XyApi.Billing

open Lib

variable {userId delta tokenId : Int} {db db' : Database}

def applyUserQuotaDeltaTx (userId delta : Int) : DbTx Unit := do
  Tx.failIf (userId ≤ 0) .billingAccountNotFound
  let user? ← Tx.read fun db => db.users.get? userId
  if delta = 0 then
    Tx.failIf user?.isNone .billingAccountNotFound
  else if delta < 0 then do
    let amount := -delta
    let user ← Tx.require (user?.filter fun u => amount ≤ u.quota) .insufficientUserQuota
    Tx.write (Database.putUser { user with quota := user.quota - amount })
  else do
    let user ← Tx.require (user?.filter fun u => u.quota ≤ maxInt32 - delta) .quotaOverflow
    Tx.write (Database.putUser { user with quota := user.quota + delta })

/-- A usage delta: positive consumes, negative refunds. An unlimited token keeps
its remaining quota and only tracks what was used. Returns the deltas applied to
the remaining and the used quota. -/
def applyTokenQuotaDeltaTx (userId tokenId delta : Int) (unlimited : Bool) (now : Int) :
    DbTx (Int × Int) := do
  Tx.failIf (userId ≤ 0 ∨ tokenId ≤ 0) .billingAccountNotFound
  let token? ← Tx.read fun db => (db.tokens.get? tokenId).filter fun t => t.userId = userId
  if delta = 0 then do
    Tx.failIf token?.isNone .billingAccountNotFound
    pure (0, 0)
  else if delta > 0 then do
    let token ← Tx.require
      (token?.filter fun t => t.usedQuota ≤ maxInt32 - delta ∧ (unlimited ∨ delta ≤ t.remainQuota))
      .insufficientTokenQuota
    let remainDelta := if unlimited then 0 else -delta
    Tx.write (Database.putToken { token with
      usedQuota := token.usedQuota + delta
      remainQuota := token.remainQuota + remainDelta
      accessedTime := now })
    pure (remainDelta, delta)
  else do
    let amount := -delta
    let token ← Tx.require
      (token?.filter fun t =>
        minInt32 + amount ≤ t.usedQuota ∧ (unlimited ∨ t.remainQuota ≤ maxInt32 - amount))
      .quotaOverflow
    let remainDelta := if unlimited then 0 else amount
    Tx.write (Database.putToken { token with
      usedQuota := token.usedQuota - amount
      remainQuota := token.remainQuota + remainDelta
      accessedTime := now })
    pure (remainDelta, -amount)

def billingTokenExistsTx (userId tokenId : Int) : DbTx Bool := do
  Tx.failIf (userId ≤ 0 ∨ tokenId ≤ 0) .billingAccountNotFound
  Tx.read fun db => ((db.tokens.get? tokenId).filter fun t => t.userId = userId).isSome

def deleteTokenById (id userId : Int) : DbTx Unit := do
  Tx.failIf (id = 0 ∨ userId = 0) (.new "id 或 userId 为空！")
  let token? ← Tx.read fun db => (db.tokens.get? id).filter fun t => t.userId = userId
  let _ ← Tx.require token? .recordNotFound
  Tx.write fun db => { db with tokens := db.tokens.erase id }

def WalletMoved (users users' : Table User.id) (userId delta : Int) : Prop :=
  ∃ user, users.get? userId = some user ∧
    users' = users.put { user with quota := user.quota + delta }

def TokenMoved (tokens tokens' : Table Token.id) (userId tokenId remainDelta usedDelta : Int) :
    Prop :=
  ∃ token time, tokens.get? tokenId = some token ∧ token.userId = userId ∧
    tokens' = tokens.put { token with
      remainQuota := token.remainQuota + remainDelta
      usedQuota := token.usedQuota + usedDelta
      accessedTime := time }

theorem applyUserQuotaDeltaTx_ok (h : applyUserQuotaDeltaTx userId delta db = .ok (u, db')) :
    ∃ users, WalletMoved db.users users userId delta ∧ db' = { db with users := users } := by
  simp only [applyUserQuotaDeltaTx, Tx.failIf_bind_ok_iff, Tx.read_bind_apply] at h
  obtain ⟨-, h⟩ := h
  split at h
  · next hZero =>
      simp only [Tx.failIf_ok_iff, Option.isNone_iff_eq_none] at h
      obtain ⟨hSome, rfl⟩ := h
      obtain ⟨user, hUser⟩ := Option.ne_none_iff_exists'.mp hSome
      refine ⟨db.users, ⟨user, hUser, ?_⟩, rfl⟩
      have hKey : user.id = userId := Table.key_of_get? hUser
      subst hZero hKey
      simp [Table.put_of_get?, hUser]
  · split at h
    all_goals
      simp only [Tx.require_bind_ok_iff, Option.filter_eq_some_iff, Tx.write_ok_iff,
        Database.putUser] at h
      obtain ⟨user, ⟨hUser, -⟩, rfl⟩ := h
      refine ⟨_, ⟨user, hUser, rfl⟩, ?_⟩
      simp [sub_neg_eq_add]

def tokenRemainDelta (unlimited : Bool) (delta : Int) : Int := if unlimited then 0 else -delta

theorem applyTokenQuotaDeltaTx_ok
    (h : applyTokenQuotaDeltaTx userId tokenId delta unlimited now db = .ok (deltas, db')) :
    deltas = (tokenRemainDelta unlimited delta, delta) ∧
      ∃ tokens, TokenMoved db.tokens tokens userId tokenId deltas.1 deltas.2 ∧
        db' = { db with tokens := tokens } := by
  simp only [applyTokenQuotaDeltaTx, Tx.failIf_bind_ok_iff, Tx.read_bind_apply] at h
  obtain ⟨-, h⟩ := h
  split at h
  · next hZero =>
      simp only [Tx.failIf_bind_ok_iff, Option.isNone_iff_eq_none, Tx.pure_ok_iff] at h
      obtain ⟨hSome, rfl, rfl⟩ := h
      obtain ⟨token, hToken⟩ := Option.ne_none_iff_exists'.mp hSome
      simp only [Option.filter_eq_some_iff, decide_eq_true_eq] at hToken
      have hKey : token.id = tokenId := Table.key_of_get? hToken.1
      subst hZero hKey
      refine ⟨by simp [tokenRemainDelta], db.tokens, ⟨token, token.accessedTime, hToken.1,
        hToken.2, ?_⟩, rfl⟩
      simp [Table.put_of_get?, hToken.1]
  · split at h
    all_goals
      simp only [Tx.require_bind_ok_iff, Option.filter_eq_some_iff, decide_eq_true_eq,
        Tx.write_bind_apply, Tx.pure_ok_iff, Database.putToken] at h
      obtain ⟨token, ⟨⟨hToken, hUser⟩, -⟩, rfl, rfl⟩ := h
      refine ⟨by simp [tokenRemainDelta], _, ⟨token, now, hToken, hUser, rfl⟩, ?_⟩
      simp [sub_eq_add_neg]

theorem billingTokenExistsTx_ok (h : billingTokenExistsTx userId tokenId db = .ok (b, db')) :
    db' = db ∧ (b = true ↔ ∃ token, db.tokens.get? tokenId = some token ∧ token.userId = userId) := by
  simp only [billingTokenExistsTx, Tx.failIf_bind_ok_iff, Tx.read_ok_iff] at h
  obtain ⟨-, rfl, rfl⟩ := h
  simp [Option.any_eq_true]

/-! What the two movements mean for a single account. -/

theorem WalletMoved.get?_eq (h : WalletMoved users users' userId delta) (u : Int) :
    users'.get? u = (users.get? u).map fun user =>
      { user with quota := user.quota + if u = userId then delta else 0 } := by
  obtain ⟨user, hUser, rfl⟩ := h
  have hKey : user.id = userId := Table.key_of_get? hUser
  rw [Table.get?_put]
  by_cases hu : u = userId
  · subst hu; simp [hKey, hUser]
  · simp [hKey, hu]

theorem TokenMoved.get?_eq (h : TokenMoved tokens tokens' userId tokenId remainDelta usedDelta)
    (k : Int) :
    ∃ time, tokens'.get? k = (tokens.get? k).map fun token =>
      { token with
        remainQuota := token.remainQuota + if k = tokenId then remainDelta else 0
        usedQuota := token.usedQuota + if k = tokenId then usedDelta else 0
        accessedTime := if k = tokenId then time else token.accessedTime } := by
  obtain ⟨token, time, hToken, -, rfl⟩ := h
  refine ⟨time, ?_⟩
  have hKey : token.id = tokenId := Table.key_of_get? hToken
  rw [Table.get?_put]
  by_cases hk : k = tokenId
  · subst hk; simp [hKey, hToken]
  · simp [hKey, hk]

end XyApi.Billing
