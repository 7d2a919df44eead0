import XyApi.Lib.TableUpdate
import XyApi.Payment.Reward

/-!
What the functions on rewards do when they succeed, as far as rewards, balances and
debts are concerned. Maturing rewards updates the due rows and credits what they are
worth; a transfer then moves parts of available rewards, one row after the other.
-/

namespace XyApi.Payment

open Lib Billing

variable {records : List AffiliateRewardRecord}
    {rewards : Table AffiliateRewardRecord.id}

variable {inviterId userId now quota : Int}

def purse (u : User) : Int × Int × Int := (u.affQuota, u.affHistoryQuota, u.quota)

/-- One account moved by `delta`; whether it exists is left open. -/
def PurseMoved (users users' : Table User.id) (userId : Int) (delta : Int × Int × Int) : Prop :=
  ∀ u, (users'.get? u).map purse =
    (users.get? u).map fun x => purse x + if u = userId then delta else 0

namespace PurseMoved

theorem refl (users : Table User.id) (userId : Int) : PurseMoved users users userId 0 := by
  intro u
  simp

theorem trans (h : PurseMoved users users₁ userId delta)
    (h' : PurseMoved users₁ users' userId delta') :
    PurseMoved users users' userId (delta + delta') := by
  intro u
  have hFirst := h u
  have hSecond := h' u
  cases hUser : users.get? u with
  | none =>
    rw [hUser, Option.map_none, Option.map_eq_none_iff] at hFirst
    rw [hSecond, hFirst]
    rfl
  | some =>
    rw [hUser, Option.map_some, Option.map_eq_some_iff] at hFirst
    obtain ⟨user₁, hUser₁, hPurse⟩ := hFirst
    rw [hSecond, hUser₁, Option.map_some, Option.map_some, hPurse]
    split
    · rw [add_assoc]
    · simp

theorem put (h : users.get? userId = some user) (hId : user'.id = user.id)
    (hPurse : purse user' = purse user + delta) :
    PurseMoved users (users.put user') userId delta := by
  have hKey : user.id = userId := Table.key_of_get? h
  intro u
  rw [Table.get?_put, hId, hKey]
  split
  · next hEq =>
      subst hEq
      simp [h, hPurse]
  · simp

theorem get? (h : PurseMoved users users' userId delta) (hUser : users.get? userId = some user) :
    ∃ user', users'.get? userId = some user' ∧ purse user' = purse user + delta := by
  have hMoved := h userId
  rw [hUser, Option.map_some, if_pos rfl, Option.map_eq_some_iff] at hMoved
  exact hMoved

/-- Saving a whole row replaces what was done to it before. -/
theorem overwrite (h : PurseMoved users users₁ userId delta')
    (hUser : users.get? userId = some user) (hId : user'.id = userId)
    (hPurse : purse user' = purse user + delta) :
    PurseMoved users (users₁.put user') userId delta := by
  obtain ⟨user₁, hUser₁, -⟩ := h.get? hUser
  intro u
  rw [Table.get?_put, hId]
  split
  · next hEq =>
      subst hEq
      rw [hUser, hUser₁, Option.map_some, Option.map_some, Option.map_some, hPurse]
  · next hNe =>
      have hOther := h u
      rwa [if_neg hNe] at hOther

theorem of_eq (h : users' = users) (hDelta : delta = 0) : PurseMoved users users' userId delta := by
  subst h hDelta
  exact refl _ _

end PurseMoved

/-! ### Maturation -/

def effectiveReward (r : AffiliateRewardRecord) : Int := max 0 (r.rewardQuota - r.reversedQuota)

/-- Rows loaded from the table: each is stored, and no two are one row. -/
def LoadedRewards (records : List AffiliateRewardRecord)
    (rewards : Table AffiliateRewardRecord.id) : Prop :=
  (records.map AffiliateRewardRecord.id).Nodup ∧ ∀ r ∈ records, rewards.get? r.id = some r

theorem loadedRewards_insertionSort [DecidableRel r] :
    LoadedRewards ((rewards.rows.filter p).insertionSort r) rewards := by
  have hPerm := List.perm_insertionSort r (rewards.rows.filter p)
  refine ⟨?_, fun a ha => ?_⟩
  · rw [(hPerm.map _).nodup_iff]
    exact rewards.nodup.sublist (List.filter_sublist.map _)
  · exact Table.get?_of_mem (List.mem_filter.mp (hPerm.mem_iff.mp ha)).1

theorem LoadedRewards.mem_ids_iff (h : LoadedRewards records rewards) (hr : r ∈ rewards.rows) :
    r.id ∈ records.map AffiliateRewardRecord.id ↔ r ∈ records := by
  refine ⟨fun hMem => ?_, List.mem_map_of_mem⟩
  obtain ⟨r', hr', hId⟩ := List.mem_map.mp hMem
  have hStored := h.2 r' hr'
  rw [hId, Table.mem_iff_get?.mp hr, Option.some.injEq] at hStored
  rwa [hStored]

theorem mem_put_of_ne (h : r ∈ (rewards.put r').rows) :
    r = r' ∨ (r ∈ rewards.rows ∧ r.id ≠ r'.id) := by
  by_cases hId : r.id = r'.id
  · obtain ⟨a, -, hEq⟩ := List.mem_map.mp h
    split at hEq
    · exact .inl hEq.symm
    · next hNe => exact absurd (hEq ▸ hId) hNe
  · rw [Table.mem_iff_get?, Table.get?_put_of_ne hId, ← Table.mem_iff_get?] at h
    exact .inr ⟨h, hId⟩

theorem LoadedRewards.tail (h : LoadedRewards (record :: rest) rewards)
    (record' : AffiliateRewardRecord) (hId : record'.id = record.id) :
    LoadedRewards rest (rewards.put record') := by
  obtain ⟨hNodup, hStored⟩ := h
  rw [List.map_cons, List.nodup_cons] at hNodup
  refine ⟨hNodup.2, fun r hr => ?_⟩
  have hne : r.id ≠ record'.id := fun hEq =>
    hNodup.1 (List.mem_map.mpr ⟨r, hr, hEq.trans hId⟩)
  rw [Table.get?_put_of_ne hne]
  exact hStored r (List.mem_cons_of_mem _ hr)

theorem matureRewardsTx_ok {total total' : Int}
    (hLoaded : LoadedRewards records db.payments.affiliateRewards)
    (hPending : ∀ r ∈ records, r.status = some .pending)
    (h : matureRewardsTx total records db = .ok (total', db')) :
    total' = total + (records.map effectiveReward).sum ∧
      db' = db.withRewards ((records.map maturedReward).foldl Table.put
        db.payments.affiliateRewards) := by
  induction records generalizing total db with
  | nil =>
    cases h
    exact ⟨by simp, rfl⟩
  | cons record rest ih =>
    have hStored : (db.payments.affiliateRewards.get? record.id).filter
        (fun r => r.status = some .pending) = some record := by
      rw [hLoaded.2 record List.mem_cons_self]
      simp [hPending record List.mem_cons_self]
    have hRest := hLoaded.tail (maturedReward record) rfl
    have hRestPending : ∀ r ∈ rest, r.status = some .pending :=
      fun r hr => hPending r (List.mem_cons_of_mem _ hr)
    simp only [matureRewardsTx, Tx.read_bind_apply, hStored, Tx.write_bind_apply] at h
    by_cases hEffective : record.rewardQuota - record.reversedQuota > 0
    · simp only [if_pos hEffective, Tx.failIf_bind_ok_iff] at h
      obtain ⟨hTotal, hDb⟩ := ih hRest hRestPending h.2
      refine ⟨?_, hDb⟩
      rw [hTotal, List.map_cons, List.sum_cons, effectiveReward, max_eq_right hEffective.le]
      omega
    · simp only [if_neg hEffective] at h
      obtain ⟨hTotal, hDb⟩ := ih hRest hRestPending h
      refine ⟨?_, hDb⟩
      rw [hTotal, List.map_cons, List.sum_cons, effectiveReward, max_eq_left (by omega)]
      omega

theorem addAffiliateBalanceTx_ok (h : addAffiliateBalanceTx inviterId reward db = .ok (u, db')) :
    ∃ users, PurseMoved db.users users inviterId (reward, reward, 0) ∧
      db' = { db with users := users } := by
  simp only [addAffiliateBalanceTx, Tx.read_bind_apply, Tx.require_bind_ok_iff,
    Tx.write_ok_iff] at h
  obtain ⟨inviter, hInviter, rfl⟩ := h
  have hGet := (Option.filter_eq_some_iff.mp hInviter).1
  refine ⟨_, PurseMoved.put hGet ?_ ?_, rfl⟩
  · rfl
  · simp [purse]

def maturedRewards (inviterId now : Int) (rewards : Table AffiliateRewardRecord.id) :
    Table AffiliateRewardRecord.id :=
  rewards.updateWhere (isDue inviterId now) maturedReward maturedReward_id

def dueQuota (inviterId now : Int) (rewards : Table AffiliateRewardRecord.id) : Int :=
  rewards.sum fun r => if isDue inviterId now r then effectiveReward r else 0

theorem dueQuota_nonneg (inviterId now : Int) (rewards : Table AffiliateRewardRecord.id) :
    0 ≤ dueQuota inviterId now rewards := by
  refine List.sum_nonneg fun q hq => ?_
  obtain ⟨r, -, rfl⟩ := List.mem_map.mp hq
  split
  · exact le_max_left _ _
  · exact le_rfl

theorem foldl_put_dueRewards :
    ((dueRewards inviterId now db).map maturedReward).foldl Table.put
      db.payments.affiliateRewards = maturedRewards inviterId now db.payments.affiliateRewards := by
  have hLoaded : LoadedRewards (dueRewards inviterId now db) db.payments.affiliateRewards :=
    loadedRewards_insertionSort
  rw [Table.foldl_put_eq_updateWhere maturedReward maturedReward_id hLoaded.1 hLoaded.2]
  refine Table.updateWhere_congr fun r hr => ?_
  rw [Bool.eq_iff_iff, decide_eq_true_eq, hLoaded.mem_ids_iff hr, dueRewards,
    (List.perm_insertionSort _ _).mem_iff, List.mem_filter]
  exact and_iff_right hr

theorem sum_dueRewards :
    ((dueRewards inviterId now db).map effectiveReward).sum =
      dueQuota inviterId now db.payments.affiliateRewards := by
  rw [dueQuota, ← Table.sum_filter]
  exact ((List.perm_insertionSort PaidBefore _).map _).sum_eq

/-- Maturing rewards updates the due ones and credits what they are worth. -/
theorem settleAvailableAffiliateRewardsTx_ok
    (h : settleAvailableAffiliateRewardsTx inviterId now db = .ok (settled, db')) :
    settled = dueQuota inviterId now db.payments.affiliateRewards ∧
      ∃ users, PurseMoved db.users users inviterId (settled, settled, 0) ∧
        db' = { db.withRewards
          (maturedRewards inviterId now db.payments.affiliateRewards) with users := users } := by
  simp only [settleAvailableAffiliateRewardsTx, Tx.read_bind_apply] at h
  obtain ⟨total, db₁, hMature, h⟩ := Tx.bind_ok h
  have hPending : ∀ r ∈ dueRewards inviterId now db, r.status = some .pending := by
    intro r hr
    have hDue := (List.mem_filter.mp ((List.perm_insertionSort _ _).mem_iff.mp hr)).2
    simp only [isDue, decide_eq_true_eq] at hDue
    exact hDue.2.1
  have hLoaded : LoadedRewards (dueRewards inviterId now db) db.payments.affiliateRewards :=
    loadedRewards_insertionSort
  obtain ⟨hTotal, rfl⟩ := matureRewardsTx_ok hLoaded hPending hMature
  rw [foldl_put_dueRewards] at h
  rw [sum_dueRewards, zero_add] at hTotal
  have hNonneg := dueQuota_nonneg inviterId now db.payments.affiliateRewards
  by_cases hZero : total ≤ 0
  · rw [if_pos hZero] at h
    cases h
    exact ⟨by omega, db.users, .refl _ _, rfl⟩
  · rw [if_neg hZero, Tx.bind_ok_iff] at h
    obtain ⟨u, db₂, hAdd, h⟩ := h
    cases h
    obtain ⟨users, hMoved, rfl⟩ := addAffiliateBalanceTx_ok hAdd
    exact ⟨hTotal, users, hMoved, rfl⟩

/-! ### Transfers -/

/-- Parts of available rewards of an inviter moved to the wallet, one after the
other, `moved` altogether. -/
inductive Transfers (inviterId : Int) :
    Table AffiliateRewardRecord.id → Int → Table AffiliateRewardRecord.id → Prop
  | done (rewards : Table AffiliateRewardRecord.id) : Transfers inviterId rewards 0 rewards
  | move {rewards rewards' : Table AffiliateRewardRecord.id} {moved : Int}
      (r : AffiliateRewardRecord) (moveQuota : Int) (hRow : rewards.get? r.id = some r)
      (hInviter : r.inviterId = inviterId) (hAvailable : isAvailable r = true)
      (hPos : 0 < moveQuota) (hLe : moveQuota ≤ transferableQuota r)
      (hRest : Transfers inviterId (rewards.put (transferredReward moveQuota r r)) moved rewards') :
      Transfers inviterId rewards (moveQuota + moved) rewards'

def UsedUp (inviterId : Int) (rewards : Table AffiliateRewardRecord.id) : Prop :=
  ∀ r ∈ rewards.rows, r.inviterId = inviterId → isAvailable r = true → transferableQuota r ≤ 0

theorem transferRewardsTx_ok (hLoaded : LoadedRewards records db.payments.affiliateRewards)
    (hRecords : ∀ r ∈ records, r.inviterId = inviterId ∧ isAvailable r = true)
    (hOthers : 0 < remaining → ∀ r ∈ db.payments.affiliateRewards.rows, r.inviterId = inviterId → isAvailable r = true → r ∈ records ∨ transferableQuota r ≤ 0)
    (hRemaining : 0 ≤ remaining) (h : transferRewardsTx remaining records db = .ok (u, db')) :
    ∃ moved rewards, Transfers inviterId db.payments.affiliateRewards moved rewards ∧
      db' = db.withRewards rewards ∧ moved ≤ remaining ∧
      (moved = remaining ∨ UsedUp inviterId rewards) := by
  induction records generalizing remaining db with
  | nil =>
    cases h
    refine ⟨0, _, .done _, rfl, hRemaining, ?_⟩
    rcases hRemaining.eq_or_lt with hZero | hPos
    · exact .inl hZero
    · exact .inr fun r hr hInviter hAvailable =>
        (hOthers hPos r hr hInviter hAvailable).resolve_left List.not_mem_nil
  | cons record rest ih =>
    unfold transferRewardsTx at h
    by_cases hNone : remaining ≤ 0
    · rw [if_pos hNone] at h
      cases h
      exact ⟨0, _, .done _, rfl, hRemaining, .inl (by omega)⟩
    rw [if_neg hNone] at h
    have hStored := hLoaded.2 record List.mem_cons_self
    have hRestRecords : ∀ r ∈ rest, r.inviterId = inviterId ∧ isAvailable r = true :=
      fun r hr => hRecords r (List.mem_cons_of_mem _ hr)
    by_cases hEmpty : transferableQuota record ≤ 0
    · rw [if_pos hEmpty] at h
      have hRestLoaded := hLoaded.tail record rfl
      rw [Table.put_of_get? hStored] at hRestLoaded
      refine ih hRestLoaded hRestRecords (fun hPos r hr hInviter hAvailable => ?_) hRemaining h
      rcases hOthers hPos r hr hInviter hAvailable with hMem | hDone
      · rcases List.mem_cons.mp hMem with rfl | hMem
        · exact .inr hEmpty
        · exact .inl hMem
      · exact .inr hDone
    · rw [if_neg hEmpty] at h
      set moveQuota := if remaining < transferableQuota record then remaining
        else transferableQuota record with hMove
      have hBounds : 0 < moveQuota ∧ moveQuota ≤ transferableQuota record ∧
          moveQuota ≤ remaining ∧
          (moveQuota = remaining ∨ moveQuota = transferableQuota record) := by
        rw [hMove]
        split <;> omega
      simp only [writePayments, Tx.write_bind_apply] at h
      rw [Table.updateWhere_eq_put hStored fun _ => decide_eq_true_iff] at h
      -- Where quota remains to be moved, the reward at hand has been used up.
      have hOthers' : 0 < remaining - moveQuota → ∀ r ∈ (db.payments.affiliateRewards.put
          (transferredReward moveQuota record record)).rows, r.inviterId = inviterId →
          isAvailable r = true → r ∈ rest ∨ transferableQuota r ≤ 0 := by
        intro hPos r hr hInviter hAvailable
        rcases mem_put_of_ne hr with rfl | ⟨hr, hNe⟩
        · simp only [transferableQuota, transferredReward] at hBounds ⊢
          exact .inr (by omega)
        · refine (hOthers (by omega) r hr hInviter hAvailable).imp_left fun hMem => ?_
          exact (List.mem_cons.mp hMem).resolve_left fun hEq => hNe (hEq ▸ rfl)
      obtain ⟨moved, rewards, hTransfers, rfl, hLe, hEnd⟩ :=
        ih (hLoaded.tail (transferredReward moveQuota record record) rfl) hRestRecords
          hOthers' (by omega) h
      exact ⟨moveQuota + moved, rewards, .move record moveQuota hStored
        (hRecords record List.mem_cons_self).1 (hRecords record List.mem_cons_self).2
        hBounds.1 hBounds.2.1 hTransfers, rfl, by omega, hEnd.imp (by omega) id⟩

theorem markTransferredAffiliateRewardsTx_ok (hQuota : 0 < quota)
    (h : markTransferredAffiliateRewardsTx inviterId quota db = .ok (u, db')) :
    (inviterId = 0 ∧ db' = db) ∨
      ∃ moved rewards, Transfers inviterId db.payments.affiliateRewards moved rewards ∧
        db' = db.withRewards rewards ∧ moved ≤ quota ∧
        (moved = quota ∨ UsedUp inviterId rewards) := by
  unfold markTransferredAffiliateRewardsTx at h
  by_cases hZero : inviterId = 0
  · rw [if_pos (.inl hZero)] at h
    exact .inl ⟨hZero, (Tx.pure_ok h).2.symm⟩
  · rw [if_neg (by omega)] at h
    simp only [Tx.read_bind_apply] at h
    have hMem : ∀ r, r ∈ availableRewards inviterId db ↔
        r ∈ db.payments.affiliateRewards.rows ∧ r.inviterId = inviterId ∧
          isAvailable r = true := by
      intro r
      rw [availableRewards, (List.perm_insertionSort _ _).mem_iff, List.mem_filter,
        decide_eq_true_eq]
    refine .inr (transferRewardsTx_ok loadedRewards_insertionSort (fun r hr => ?_)
      (fun _ r hr hInviter hAvailable => .inl ?_) hQuota.le h)
    · exact ((hMem r).mp hr).2
    · exact (hMem r).mpr ⟨hr, hInviter, hAvailable⟩

/-- A transfer settles what is due, marks rewards as transferred and moves the quota. -/
theorem transferAffQuotaToQuota_ok
    (h : transferAffQuotaToQuota policy userId quota now db = .ok (u, db')) :
    ∃ user moved rewards, 0 < quota ∧ db.users.get? userId = some user ∧
      quota ≤ user.affQuota + dueQuota userId now db.payments.affiliateRewards ∧
      0 ≤ user.quota ∧ user.quota + quota ≤ maxInt32 ∧
      PurseMoved db.users db'.users userId
        (dueQuota userId now db.payments.affiliateRewards - quota,
          dueQuota userId now db.payments.affiliateRewards, quota) ∧
      Transfers userId (maturedRewards userId now db.payments.affiliateRewards) moved rewards ∧
      db'.payments.affiliateRewards = rewards ∧ db'.paymentDebts = db.paymentDebts ∧
      db'.payments.topUps = db.payments.topUps ∧
      ((userId = 0 ∧ moved = 0) ∨ moved ≤ quota ∧ (moved = quota ∨ UsedUp userId rewards)) := by
  simp only [transferAffQuotaToQuota, Tx.failIf_bind_ok_iff, Tx.read_bind_apply,
    Tx.require_bind_ok_iff] at h
  obtain ⟨hArgs, user, hUser, h⟩ := h
  obtain ⟨settled, db₁, hSettle, h⟩ := Tx.bind_ok h
  obtain ⟨rfl, users, hMoved, rfl⟩ := settleAvailableAffiliateRewardsTx_ok hSettle
  simp only [Tx.failIf_bind_ok_iff] at h
  obtain ⟨hRange, hEnough, hWallet, h⟩ := h
  obtain ⟨_, db₂, hMark, h⟩ := Tx.bind_ok h
  obtain rfl := Tx.write_ok_iff.mp h
  have hQuota : 0 < quota := by omega
  have hId : user.id = userId := Table.key_of_get? hUser
  have hMarked : ∃ moved rewards, db₂ = { db.withRewards rewards with users := users } ∧
      Transfers userId (maturedRewards userId now db.payments.affiliateRewards) moved rewards ∧
      ((userId = 0 ∧ moved = 0) ∨
        moved ≤ quota ∧ (moved = quota ∨ UsedUp userId rewards)) := by
    rcases markTransferredAffiliateRewardsTx_ok hQuota hMark with
      ⟨hZero, rfl⟩ | ⟨moved, rewards, hTransfers, rfl, hLe, hEnd⟩
    · exact ⟨0, _, rfl, .done _, .inl ⟨hZero, rfl⟩⟩
    · exact ⟨moved, rewards, rfl, hTransfers, .inr ⟨hLe, hEnd⟩⟩
  obtain ⟨moved, rewards, rfl, hTransfers, hEnd⟩ := hMarked
  refine ⟨user, moved, rewards, hQuota, hUser, by omega, by omega, by omega,
    hMoved.overwrite hUser hId ?_, hTransfers, rfl, rfl, rfl, hEnd⟩
  simp [purse, add_sub_assoc]

end XyApi.Payment
