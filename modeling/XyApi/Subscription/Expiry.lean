import Mathlib.Data.List.Dedup
import XyApi.Payment.Reversal

/-!
Expiry of subscriptions. The scheduler reads a batch of due subscriptions and then works
through their users, one transaction each: it marks what is due of the user as expired and
takes the user out of the group that the last of the expired subscriptions granted, unless
another active subscription grants a group. The users of a batch are the keys of a map, so
they come in any order.
-/

namespace XyApi.Subscription

open Lib

variable {subs : Table UserSubscription.id} {last : UserSubscription} {userId now other : Int}
    {db : Database} {users : List Int}

def Due (now : Int) (sub : UserSubscription) : Prop :=
  sub.status = .active ∧ 0 < sub.endTime ∧ sub.endTime ≤ now
  deriving Decidable

def Upgrades (userId now : Int) (sub : UserSubscription) : Prop :=
  sub.userId = userId ∧ sub.status = .active ∧ sub.endTime > now ∧ sub.upgradeGroup ≠ ""
  deriving Decidable

def Transition (userId : Int) (sub : UserSubscription) : Prop :=
  sub.userId = userId ∧ sub.status = .expired ∧
    (sub.downgradeGroup ≠ "" ∨ sub.upgradeGroup ≠ "")
  deriving Decidable

/-- The subscription of a list that ends last; among several, the one with the largest id. -/
def lastEnding : List UserSubscription → Option UserSubscription
  | [] => none
  | sub :: rest =>
    match lastEnding rest with
    | none => some sub
    | some other => if endsBefore sub other then some other else some sub

def getUserGroupByIdTx (userId : Int) : DbTx String := do
  Tx.failIf (userId ≤ 0) (.new "invalid userId")
  Tx.read fun db => ((db.users.get? userId).map User.group).getD ""

def expiryTarget (lastExpired : UserSubscription) (currentGroup : String) : String :=
  let target := trimSpace lastExpired.downgradeGroup
  if target ≠ "" then target
  else
    let upgradeGroup := trimSpace lastExpired.upgradeGroup
    let prevGroup := trimSpace lastExpired.prevUserGroup
    if upgradeGroup = "" ∨ prevGroup = "" then ""
    else if currentGroup ≠ upgradeGroup then ""
    else prevGroup

def expireRows (userId now : Int) (subs : Table UserSubscription.id) :
    Table UserSubscription.id :=
  subs.updateWhere (fun s => s.userId = userId ∧ Due now s) (fun s => { s with status := .expired })
    fun _ => rfl

def lastExpired (userId : Int) (subs : Table UserSubscription.id) : Option UserSubscription :=
  lastEnding (subs.rows.filter fun s => Transition userId s)

def leaveExpiredGroupTx (userId : Int) (last : UserSubscription) : DbTx Unit := do
  let currentGroup ← getUserGroupByIdTx userId
  let target := expiryTarget last currentGroup
  Tx.when (target ≠ "" ∧ target ≠ currentGroup) (Payment.moveUserGroupTx userId target)

def expireUserTx (userId now : Int) : DbTx Nat := do
  let rowsAffected ← Tx.read fun db =>
    (db.subscriptions.rows.filter fun s => s.userId = userId ∧ Due now s).length
  Tx.write fun db => { db with subscriptions := expireRows userId now db.subscriptions }
  let upgraded ← Tx.read fun db => db.subscriptions.rows.any fun s => Upgrades userId now s
  if upgraded then pure rowsAffected
  else do
    let last? ← Tx.read fun db => lastExpired userId db.subscriptions
    match last? with
    | none => pure rowsAffected
    | some last => do
        leaveExpiredGroupTx userId last
        pure rowsAffected

def dueUsers (limit now : Int) (db : Database) : List Int :=
  let subs := ((db.subscriptions.rows.filter fun s => Due now s).insertionSort endsBefore).take
    (if limit ≤ 0 then 200 else limit.toNat)
  ((subs.map UserSubscription.userId).filter (0 < ·)).dedup

/-- The users of a batch in a given order; users that the order does not name come last. -/
def inOrder (order users : List Int) : List Int :=
  order.dedup.filter (· ∈ users) ++ users.filter (· ∉ order)

def expireUsers (now : Int) : List Int → Nat → Database → Database × Nat × Option Err
  | [], expiredCount, db => (db, expiredCount, none)
  | userId :: rest, expiredCount, db =>
    match (expireUserTx userId now).commit db with
    | (db', .ok n) => expireUsers now rest (expiredCount + n) db'
    | (db', .error e) => (db', expiredCount, some e)

def expireDueSubscriptions (limit now : Int) (order : List Int) (db : Database) :
    Database × Nat × Option Err :=
  expireUsers now (inOrder order (dueUsers limit now db)) 0 db

/-! ### The last subscription to end -/

theorem endsBefore_total : endsBefore a b ∨ endsBefore b a := by
  unfold endsBefore
  omega

theorem endsBefore_trans {a b c : UserSubscription} (hab : endsBefore a b)
    (hbc : endsBefore b c) : endsBefore a c := by
  unfold endsBefore at *
  omega

theorem id_eq_of_endsBefore {a b : UserSubscription} (hab : endsBefore a b)
    (hba : endsBefore b a) : a.id = b.id := by
  unfold endsBefore at *
  omega

theorem lastEnding_eq_none {subs : List UserSubscription} :
    lastEnding subs = none ↔ subs = [] := by
  cases subs with
  | nil => simp [lastEnding]
  | cons sub rest =>
    unfold lastEnding
    cases lastEnding rest with
    | none => simp
    | some =>
      simp only [reduceCtorEq, iff_false]
      split <;> simp

theorem lastEnding_spec {subs : List UserSubscription} (h : lastEnding subs = some last) :
    last ∈ subs ∧ ∀ sub ∈ subs, endsBefore sub last := by
  induction subs generalizing last with
  | nil => cases h
  | cons sub rest ih =>
    unfold lastEnding at h
    have hSelf : endsBefore sub sub := .inr ⟨rfl, le_rfl⟩
    cases hRest : lastEnding rest with
    | none =>
      rw [hRest] at h
      cases h
      simp [lastEnding_eq_none.mp hRest, hSelf]
    | some other =>
      obtain ⟨hMem, hBound⟩ := ih hRest
      simp only [hRest] at h
      split at h
      · rename_i hLe
        cases h
        exact ⟨List.mem_cons_of_mem _ hMem, List.forall_mem_cons.mpr ⟨hLe, hBound⟩⟩
      · rename_i hLe
        cases h
        have hOther := (endsBefore_total).resolve_left hLe
        exact ⟨List.mem_cons_self, List.forall_mem_cons.mpr
          ⟨hSelf, fun s hs => endsBefore_trans (hBound s hs) hOther⟩⟩

theorem lastExpired_spec (h : lastExpired userId subs = some last) :
    last ∈ subs.rows ∧ Transition userId last ∧
      ∀ sub ∈ subs.rows, Transition userId sub → endsBefore sub last := by
  obtain ⟨hMem, hBound⟩ := lastEnding_spec h
  simp only [List.mem_filter, decide_eq_true_eq] at hMem hBound
  exact ⟨hMem.1, hMem.2, fun sub hSub hT => hBound sub ⟨hSub, hT⟩⟩

/-- The last of the expired subscriptions is the one that no other ends after. -/
theorem lastExpired_eq (hMem : last ∈ subs.rows) (hLast : Transition userId last)
    (hBound : ∀ sub ∈ subs.rows, Transition userId sub → endsBefore sub last) :
    lastExpired userId subs = some last := by
  cases hFound : lastExpired userId subs with
  | none =>
    have hNil := List.filter_eq_nil_iff.mp (lastEnding_eq_none.mp hFound) last hMem
    exact absurd (decide_eq_true hLast) hNil
  | some other =>
    obtain ⟨hOther, hT, hMax⟩ := lastExpired_spec hFound
    have hId := id_eq_of_endsBefore (hBound other hOther hT) (hMax last hMem hLast)
    have hGet := Table.get?_of_mem hOther
    rw [hId, Table.get?_of_mem hMem] at hGet
    exact hGet.symm

/-! ### What the transaction of one user does -/

def groupOf (db : Database) (userId : Int) : Option String :=
  (db.users.get? userId).map User.group

def groupLeft (last : UserSubscription) (currentGroup : String) : String :=
  if expiryTarget last currentGroup = "" then currentGroup else expiryTarget last currentGroup

def groupAfterExpiry (userId now : Int) (subs : Table UserSubscription.id)
    (currentGroup : String) : String :=
  if subs.rows.any fun s => Upgrades userId now s then currentGroup
  else
    match lastExpired userId subs with
    | none => currentGroup
    | some last => groupLeft last currentGroup

theorem groupAfterExpiry_of_upgraded {sub : UserSubscription} (hMem : sub ∈ subs.rows)
    (hSub : Upgrades userId now sub) (currentGroup : String) :
    groupAfterExpiry userId now subs currentGroup = currentGroup :=
  if_pos (List.any_eq_true.mpr ⟨sub, hMem, decide_eq_true hSub⟩)

theorem groupAfterExpiry_of_none (hNone : ∀ sub ∈ subs.rows, ¬ Upgrades userId now sub)
    (currentGroup : String) :
    groupAfterExpiry userId now subs currentGroup =
      ((lastExpired userId subs).map fun last => groupLeft last currentGroup).getD currentGroup := by
  have hAny : ¬ (subs.rows.any fun s => Upgrades userId now s) = true := by
    simpa only [List.any_eq_true, decide_eq_true_eq, not_exists, not_and] using hNone
  rw [groupAfterExpiry, if_neg hAny]
  cases lastExpired userId subs <;> rfl

theorem moveUserGroupTx_ok (userId : Int) (group : String) (db : Database) :
    ∃ db', Payment.moveUserGroupTx userId group db = .ok ((), db') ∧
      db'.subscriptions = db.subscriptions ∧
      ∀ id, groupOf db' id = if id = userId then (groupOf db userId).map fun _ => group
        else groupOf db id := by
  unfold Payment.moveUserGroupTx
  rw [Tx.read_bind_apply]
  cases hUser : db.users.get? userId with
  | none =>
    refine ⟨db, rfl, rfl, fun id => ?_⟩
    split
    · next hId => simp [hId, groupOf, hUser]
    · rfl
  | some user =>
    have hKey : user.id = userId := Table.key_of_get? hUser
    refine ⟨_, rfl, rfl, fun id => ?_⟩
    simp only [groupOf, Database.putUser, Table.get?_put, hKey]
    split
    · next hId => simp [hId, hUser]
    · rfl

theorem groupOf_unchanged {f : String → String}
    (hf : ∀ group, groupOf db userId = some group → f group = group) (id : Int) :
    groupOf db id = if id = userId then (groupOf db userId).map f else groupOf db id := by
  split
  · next hId =>
      rw [hId]
      cases hGroup : groupOf db userId with
      | none => rfl
      | some group => rw [Option.map_some, hf group hGroup]
  · rfl

theorem leaveExpiredGroupTx_ok (hUser : 0 < userId) (last : UserSubscription) (db : Database) :
    ∃ db', leaveExpiredGroupTx userId last db = .ok ((), db') ∧
      db'.subscriptions = db.subscriptions ∧
      ∀ id, groupOf db' id =
        if id = userId then (groupOf db userId).map (groupLeft last) else groupOf db id := by
  have hCurrent : getUserGroupByIdTx userId db = .ok ((groupOf db userId).getD "", db) := by
    rw [getUserGroupByIdTx, Tx.failIf_bind_of_not (not_le.mpr hUser)]
    rfl
  rw [leaveExpiredGroupTx, Tx.bind_of_ok hCurrent]
  set target := expiryTarget last ((groupOf db userId).getD "") with hTarget
  by_cases hMove : target ≠ "" ∧ target ≠ (groupOf db userId).getD ""
  · obtain ⟨db', hOk, hSubs, hGroups⟩ := moveUserGroupTx_ok userId target db
    refine ⟨db', by simpa only [Tx.when, if_pos hMove] using hOk, hSubs, fun id => ?_⟩
    rw [hGroups id]
    cases hGroup : groupOf db userId with
    | none => rfl
    | some =>
      rw [hGroup, Option.getD_some] at hTarget
      simp only [Option.map_some, groupLeft, ← hTarget, if_neg hMove.1]
  · refine ⟨db, by simp only [Tx.when, if_neg hMove]; rfl, rfl, groupOf_unchanged ?_⟩
    intro group hGroup
    rw [hGroup, Option.getD_some] at hMove hTarget
    simp only [groupLeft, ← hTarget]
    by_cases hEmpty : target = ""
    · rw [if_pos hEmpty]
    · rw [if_neg hEmpty]
      exact not_not.mp fun hNe => hMove ⟨hEmpty, hNe⟩

theorem expireUserTx_ok (hUser : 0 < userId) (now : Int) (db : Database) :
    ∃ n db', expireUserTx userId now db = .ok (n, db') ∧
      db'.subscriptions = expireRows userId now db.subscriptions ∧
      ∀ id, groupOf db' id =
        if id = userId then
          (groupOf db userId).map
            (groupAfterExpiry userId now (expireRows userId now db.subscriptions))
        else groupOf db id := by
  unfold expireUserTx
  simp only [Tx.read_bind_apply, Tx.write_bind_apply]
  generalize expireRows userId now db.subscriptions = subs
  let marked : Database := { db with subscriptions := subs }
  by_cases hUp : (subs.rows.any fun s => Upgrades userId now s) = true
  · rw [if_pos hUp]
    exact ⟨_, marked, rfl, rfl, groupOf_unchanged fun g _ => if_pos hUp⟩
  · rw [if_neg hUp, Tx.read_bind_apply]
    cases hLast : lastExpired userId subs with
    | none =>
      refine ⟨_, marked, rfl, rfl, groupOf_unchanged fun g _ => ?_⟩
      rw [groupAfterExpiry, if_neg hUp, hLast]
    | some last =>
      obtain ⟨db', hOk, hSubs, hGroups⟩ := leaveExpiredGroupTx_ok hUser last marked
      refine ⟨_, db', Tx.bind_of_ok hOk _, hSubs, fun id => ?_⟩
      have hAfter : groupAfterExpiry userId now subs = groupLeft last := by
        funext g
        rw [groupAfterExpiry, if_neg hUp, hLast]
      rw [hGroups id, hAfter]
      rfl

/-! ### A whole round -/

theorem mem_inOrder {order : List Int} {id : Int} : id ∈ inOrder order users ↔ id ∈ users := by
  simp only [inOrder, List.mem_append, List.mem_filter, List.mem_dedup, decide_eq_true_eq]
  tauto

theorem inOrder_perm {order users : List Int} (hUsers : users.Nodup) :
    (inOrder order users).Perm users := by
  have hNodup : (inOrder order users).Nodup := by
    refine List.nodup_append'.mpr ⟨(List.nodup_dedup order).filter _, hUsers.filter _, ?_⟩
    intro id hFirst hSecond
    have hIn := List.mem_dedup.mp (List.mem_of_mem_filter hFirst)
    have hOut := (List.mem_filter.mp hSecond).2
    exact of_decide_eq_true hOut hIn
  exact (List.perm_ext_iff_of_nodup hNodup hUsers).mpr fun _ => mem_inOrder

theorem dueUsers_pos {limit : Int} (h : userId ∈ dueUsers limit now db) : 0 < userId := by
  have hMem := List.mem_dedup.mp h
  exact of_decide_eq_true (List.mem_filter.mp hMem).2

def markExpired (userId now : Int) (sub : UserSubscription) : UserSubscription :=
  if sub.userId = userId ∧ Due now sub then { sub with status := .expired } else sub

theorem rows_expireRows :
    (expireRows userId now subs).rows = subs.rows.map (markExpired userId now) := by
  refine List.map_congr_left fun s _ => ?_
  simp only [markExpired, decide_eq_true_eq]

@[simp] theorem markExpired_userId :
    (markExpired userId now sub).userId = sub.userId := by
  unfold markExpired
  split <;> rfl

theorem markExpired_of_ne {sub : UserSubscription} (h : sub.userId ≠ userId) (now : Int) :
    markExpired userId now sub = sub :=
  if_neg fun hDue => h hDue.1

theorem markExpired_comm (hNe : userId ≠ other) :
    markExpired userId now (markExpired other now sub) =
      markExpired other now (markExpired userId now sub) := by
  by_cases hUser : sub.userId = userId
  · have hOther : sub.userId ≠ other := fun h => hNe (hUser.symm.trans h)
    have hMarked : (markExpired userId now sub).userId ≠ other := by rwa [markExpired_userId]
    rw [markExpired_of_ne hOther, markExpired_of_ne hMarked]
  · rw [markExpired_of_ne hUser, markExpired_of_ne (by rwa [markExpired_userId])]

theorem expireRows_comm (hNe : userId ≠ other) :
    expireRows userId now (expireRows other now subs) =
      expireRows other now (expireRows userId now subs) := by
  apply Table.ext_rows
  simp only [rows_expireRows, List.map_map]
  exact List.map_congr_left fun s _ => markExpired_comm hNe

/-- The rows of one user are not touched by the expiry of another. -/
theorem filter_expireRows (hNe : userId ≠ other) {p : UserSubscription → Bool}
    (hp : ∀ s, p s = true → s.userId = userId) :
    (expireRows other now subs).rows.filter p = subs.rows.filter p := by
  rw [rows_expireRows]
  induction subs.rows with
  | nil => rfl
  | cons s rest ih =>
    simp only [List.map_cons, List.filter_cons, ih]
    by_cases hOther : s.userId = other
    · have hSkip : ∀ r : UserSubscription, r.userId = other → p r = false := fun r hr =>
        Bool.eq_false_iff.mpr fun hTrue => hNe ((hp r hTrue).symm.trans hr)
      simp [hSkip s hOther, hSkip (markExpired other now s) (by simpa using hOther)]
    · rw [markExpired_of_ne hOther]

theorem any_eq_of_filter_eq {α : Type} {p : α → Bool} {rows rows' : List α}
    (h : rows.filter p = rows'.filter p) : rows.any p = rows'.any p := by
  rw [Bool.eq_iff_iff, List.any_eq_true, List.any_eq_true]
  simp only [← List.mem_filter, h]

theorem groupAfterExpiry_congr {subs' : Table UserSubscription.id}
    (h : ∀ p : UserSubscription → Bool, (∀ s, p s = true → s.userId = userId) → subs.rows.filter p = subs'.rows.filter p)
    :
    groupAfterExpiry userId now subs = groupAfterExpiry userId now subs' := by
  have hLast : lastExpired userId subs = lastExpired userId subs' := by
    rw [lastExpired, lastExpired, h _ fun s hs => (of_decide_eq_true hs).1]
  have hAny := any_eq_of_filter_eq
    (h (fun s => Upgrades userId now s) fun s hs => (of_decide_eq_true hs).1)
  funext group
  rw [groupAfterExpiry, groupAfterExpiry, hAny, hLast]

/-- What becomes of a user's group is up to the rows of that user. -/
theorem groupAfterExpiry_of_ne (hNe : userId ≠ other) :
    groupAfterExpiry userId now (expireRows userId now (expireRows other now subs)) =
      groupAfterExpiry userId now (expireRows userId now subs) := by
  rw [expireRows_comm hNe]
  exact groupAfterExpiry_congr fun p hp => filter_expireRows hNe hp

theorem expireUsers_spec (hPos : ∀ id ∈ users, 0 < id) (hNodup : users.Nodup) (count : Nat)
    (db : Database) :
    (expireUsers now users count db).2.2 = none ∧
    ∀ userId, groupOf (expireUsers now users count db).1 userId =
      if userId ∈ users then
        (groupOf db userId).map
          (groupAfterExpiry userId now (expireRows userId now db.subscriptions))
      else groupOf db userId := by
  induction users generalizing count db with
  | nil => exact ⟨rfl, fun userId => by simp [expireUsers]⟩
  | cons first rest ih =>
    obtain ⟨hFirst, hRest⟩ := List.forall_mem_cons.mp hPos
    obtain ⟨hNotMem, hNodup⟩ := List.nodup_cons.mp hNodup
    obtain ⟨n, db', hOk, hSubs, hGroups⟩ := expireUserTx_ok hFirst now db
    have hStep : expireUsers now (first :: rest) count db =
        expireUsers now rest (count + n) db' := by
      rw [expireUsers, Tx.commit_of_ok hOk]
    obtain ⟨hNone, hTail⟩ := ih hRest hNodup (count + n) db'
    rw [hStep]
    refine ⟨hNone, fun userId => ?_⟩
    rw [hTail userId, hGroups userId, hSubs]
    by_cases hId : userId = first
    · subst hId
      simp [hNotMem]
    · simp only [hId, if_false, List.mem_cons, false_or, groupAfterExpiry_of_ne hId]

/-- What the transaction of every user preserves holds after a round. -/
theorem expireUsers_invariant {P : Database → Prop}
    (h : ∀ userId db, 0 < userId → P db → P ((expireUserTx userId now).commit db).1)
    (hPos : ∀ id ∈ users, 0 < id) (count : Nat) (hdb : P db) :
    P (expireUsers now users count db).1 := by
  induction users generalizing count db with
  | nil => exact hdb
  | cons first rest ih =>
    obtain ⟨hFirst, hRest⟩ := List.forall_mem_cons.mp hPos
    have hStep := h first db hFirst hdb
    unfold expireUsers
    rcases Tx.commit_cases (expireUserTx first now) db with ⟨e, -, hc⟩ | ⟨n, db', -, hc⟩
    · rw [hc] at hStep ⊢
      exact hStep
    · rw [hc] at hStep ⊢
      exact ih hRest _ hStep

/-- A round succeeds, and each user of its batch ends in the group their own rows decide. -/
theorem expireDueSubscriptions_spec (limit now : Int) (order : List Int) (db : Database) :
    (expireDueSubscriptions limit now order db).2.2 = none ∧
    ∀ userId, groupOf (expireDueSubscriptions limit now order db).1 userId =
      if userId ∈ dueUsers limit now db then
        (groupOf db userId).map
          (groupAfterExpiry userId now (expireRows userId now db.subscriptions))
      else groupOf db userId := by
  have hUsers : (dueUsers limit now db).Nodup := List.nodup_dedup _
  have hPerm := @inOrder_perm order _ hUsers
  have hPos : ∀ id ∈ inOrder order (dueUsers limit now db), 0 < id := fun id hId =>
    dueUsers_pos (mem_inOrder.mp hId)
  obtain ⟨hNone, hGroups⟩ := expireUsers_spec hPos (hPerm.nodup_iff.mpr hUsers) 0 db
  refine ⟨hNone, fun userId => ?_⟩
  rw [expireDueSubscriptions, hGroups userId]
  simp only [hPerm.mem_iff]

end XyApi.Subscription
