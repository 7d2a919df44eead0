import XyApi.Subscription.Expiry

/-!
Cancellation beside expiry. A cancelled subscription moves its user to the strongest group
that the other active subscriptions grant; an expired one leaves the user where they are as
long as any other active subscription grants a group. The two ways to end a subscription
agree where no other upgrade is left and where the strongest one left is the user's group.
-/

namespace XyApi.Subscription

open Lib

variable (env : PaymentEnv)
open Payment (PaymentEnv)

variable {userId now : Int} {group : String} {sub : UserSubscription}
    {subs : Table UserSubscription.id}

def adminInvalidateUserSubscriptionTx (userSubscriptionId now : Int) : DbTx Unit := do
  let sub? ← Tx.read fun db => db.subscriptions.get? userSubscriptionId
  let sub ← Tx.require sub? .recordNotFound
  let ended := { sub with status := .cancelled, endTime := now }
  Tx.write (Database.putSubscription ended)
  Payment.downgradeUserGroupForSubscriptionTx env ended now

def adminInvalidateUserSubscription (userSubscriptionId now : Int) : DbTx Unit := do
  Tx.failIf (userSubscriptionId ≤ 0) (.new "invalid userSubscriptionId")
  adminInvalidateUserSubscriptionTx env userSubscriptionId now

/-! ### What a cancellation does -/

def activeUpgrades (sub : UserSubscription) (now : Int) (subs : Table UserSubscription.id) :
    List UserSubscription :=
  (subs.rows.filter fun s =>
    s.userId = sub.userId ∧ s.status = .active ∧ s.endTime > now ∧ s.id ≠ sub.id ∧
      s.upgradeGroup ≠ "").insertionSort
    fun a b => b.startTime < a.startTime ∨ (a.startTime = b.startTime ∧ b.id ≤ a.id)

def cancelTarget (sub : UserSubscription) (currentGroup : String) : String :=
  if trimSpace sub.downgradeGroup ≠ "" then trimSpace sub.downgradeGroup
  else if currentGroup ≠ trimSpace sub.upgradeGroup then ""
  else trimSpace sub.prevUserGroup

def groupAfterCancel (sub : UserSubscription) (others : List UserSubscription)
    (currentGroup : String) : String :=
  let remaining := Payment.remainingUpgrade env currentGroup none
    (decide (currentGroup = trimSpace sub.upgradeGroup)) others
  if ¬ remaining.2 then currentGroup
  else
    match remaining.1 with
    | some (group, _) => group
    | none =>
      if cancelTarget sub currentGroup = "" then currentGroup else cancelTarget sub currentGroup

theorem whenMove_ok {db : Database} (target : String) {c : Prop} [Decidable c]
    (hGroup : groupOf db userId = some group) :
    ∃ db', Tx.when c (Payment.moveUserGroupTx userId target) db = .ok ((), db') ∧
      groupOf db' userId = some (if c then target else group) := by
  by_cases hc : c
  · obtain ⟨db', hOk, -, hGroups⟩ := moveUserGroupTx_ok userId target db
    refine ⟨db', by simpa only [Tx.when, if_pos hc] using hOk, ?_⟩
    rw [hGroups, if_pos rfl, hGroup, Option.map_some, if_pos hc]
  · refine ⟨db, by simp only [Tx.when, if_neg hc]; rfl, ?_⟩
    rw [hGroup, if_neg hc]

theorem downgradeUserGroupForSubscriptionTx_ok (sub : UserSubscription) (now : Int) (db : Database)
    (hUser : 0 < sub.userId) (hUpgrade : trimSpace sub.upgradeGroup ≠ "")
    (hGroup : groupOf db sub.userId = some group) :
    ∃ db', Payment.downgradeUserGroupForSubscriptionTx env sub now db = .ok ((), db') ∧ groupOf db'
      sub.userId = some (groupAfterCancel env sub (activeUpgrades sub now db.subscriptions) group)
      := by
  have hCurrent : ((db.users.get? sub.userId).map User.group).getD "" = group := by
    rw [← groupOf, hGroup, Option.getD_some]
  unfold Payment.downgradeUserGroupForSubscriptionTx
  rw [if_neg fun h => hUpgrade h.2, Tx.failIf_bind_of_not (not_le.mpr hUser),
    Tx.read_bind_apply, hCurrent, Tx.read_bind_apply, ← activeUpgrades, groupAfterCancel]
  dsimp only
  generalize Payment.remainingUpgrade env group none _ _ = remaining
  obtain ⟨best, managed⟩ := remaining
  dsimp only
  cases managed with
  | false => exact ⟨db, rfl, hGroup⟩
  | true =>
    have hManaged : ¬ ¬ (true = true) := not_not.mpr rfl
    rw [if_neg hManaged, if_neg hManaged]
    cases best with
    | some found =>
      obtain ⟨db', hOk, hAfter⟩ := whenMove_ok found.1 (c := found.1 ≠ group) hGroup
      refine ⟨db', hOk, hAfter.trans ?_⟩
      by_cases hSame : found.1 = group
      · rw [if_neg (not_not.mpr hSame)]
        exact congrArg some hSame.symm
      · rw [if_pos hSame]
    | none =>
      obtain ⟨db', hOk, hAfter⟩ := whenMove_ok (cancelTarget sub group)
        (c := cancelTarget sub group ≠ "" ∧ cancelTarget sub group ≠ group) hGroup
      refine ⟨db', by unfold cancelTarget at hOk; exact hOk, hAfter.trans ?_⟩
      by_cases hEmpty : cancelTarget sub group = ""
      · rw [if_neg fun h => h.1 hEmpty, if_pos hEmpty]
      · rw [if_neg hEmpty]
        by_cases hSame : cancelTarget sub group = group
        · rw [if_neg fun h => h.2 hSame, hSame]
        · rw [if_pos ⟨hEmpty, hSame⟩]

theorem mem_activeUpgrades {s : UserSubscription} :
    s ∈ activeUpgrades sub now subs ↔
      s ∈ subs.rows ∧ Upgrades sub.userId now s ∧ s.id ≠ sub.id := by
  unfold activeUpgrades Upgrades
  rw [List.mem_insertionSort, List.mem_filter, decide_eq_true_eq]
  tauto

theorem adminInvalidateUserSubscription_group {env : PaymentEnv} {db : Database}
    (hSub : db.subscriptions.get? sub.id = some sub) (hId : 0 < sub.id) (hUser : 0 < sub.userId)
    (hUpgrade : trimSpace sub.upgradeGroup ≠ "") (hGroup : groupOf db sub.userId = some group) :
    groupOf ((adminInvalidateUserSubscription env sub.id now).commit db).1 sub.userId =
      some (groupAfterCancel env sub (activeUpgrades sub now db.subscriptions) group) := by
  let ended : UserSubscription := { sub with status := .cancelled, endTime := now }
  obtain ⟨db', hOk, hAfter⟩ := downgradeUserGroupForSubscriptionTx_ok env ended now
    (Database.putSubscription ended db) hUser hUpgrade hGroup
  have hRun : adminInvalidateUserSubscription env sub.id now db = .ok ((), db') := by
    rw [adminInvalidateUserSubscription, Tx.failIf_bind_of_not (not_le.mpr hId),
      adminInvalidateUserSubscriptionTx, Tx.read_bind_apply, hSub]
    exact hOk
  have hOthers : activeUpgrades ended now (db.subscriptions.put ended) =
      activeUpgrades sub now db.subscriptions := by
    unfold activeUpgrades
    rw [Table.filter_put_of_not fun s hs => decide_eq_false fun h => h.2.2.2.1 hs]
  rw [Tx.commit_of_ok hRun, ← hOthers]
  exact hAfter

/-! ### Where the two agree -/

/-- The strongest group that the user's other subscriptions grant is the group the user is
in, or no other subscription grants one and none that expired ends after this one. -/
def EndsAlike (sub : UserSubscription) (now : Int) (subs : Table UserSubscription.id)
    (currentGroup : String) : Prop :=
  (Payment.remainingUpgrade env currentGroup none
    (decide (currentGroup = trimSpace sub.upgradeGroup))
    (activeUpgrades sub now subs)).1.map Prod.fst = some currentGroup ∨
  (activeUpgrades sub now subs = [] ∧
    ∀ s ∈ subs.rows, Transition sub.userId s → endsBefore s sub)

theorem markExpired_cases (userId now : Int) (sub : UserSubscription) :
    (sub.userId = userId ∧ Due now sub ∧
      markExpired userId now sub = { sub with status := .expired }) ∨
    markExpired userId now sub = sub := by
  unfold markExpired
  split
  · next h => exact .inl ⟨h.1, h.2, rfl⟩
  · exact .inr rfl

theorem upgrades_of_markExpired (h : Upgrades userId now (markExpired userId now sub)) :
    Upgrades userId now sub := by
  rcases markExpired_cases userId now sub with ⟨-, -, hMark⟩ | hMark
  · rw [hMark] at h
    cases h.2.1
  · rwa [hMark] at h

theorem not_due_of_upgrades (h : Upgrades userId now sub) : markExpired userId now sub = sub :=
  if_neg fun hDue => absurd hDue.2.2.2 (not_le.mpr h.2.2.1)

/-- The row that expires last, if it is the only one due and none ends after it. -/
theorem lastExpired_of_only (hSub : subs.get? sub.id = some sub) (hDue : Due now sub)
    (hUpgrade : sub.upgradeGroup ≠ "")
    (hOnly : ∀ s ∈ subs.rows, s.userId = sub.userId → Due now s → s.id = sub.id)
    (hLast : ∀ s ∈ subs.rows, Transition sub.userId s → endsBefore s sub) :
    lastExpired sub.userId (expireRows sub.userId now subs) =
      some { sub with status := .expired } := by
  have hMark : markExpired sub.userId now sub = { sub with status := .expired } :=
    if_pos ⟨rfl, hDue⟩
  apply lastExpired_eq
  · rw [rows_expireRows]
    exact List.mem_map.mpr ⟨sub, Table.mem_of_get? hSub, hMark⟩
  · exact ⟨rfl, rfl, .inr hUpgrade⟩
  · intro s hs hT
    rw [rows_expireRows] at hs
    obtain ⟨s₀, hs₀, rfl⟩ := List.mem_map.mp hs
    rcases markExpired_cases sub.userId now s₀ with ⟨hUser, hDue₀, hEq⟩ | hEq
    · have hGet := Table.get?_of_mem hs₀
      rw [hOnly s₀ hs₀ hUser hDue₀, hSub] at hGet
      cases hGet
      rw [hEq]
      exact .inr ⟨rfl, le_rfl⟩
    · rw [hEq] at hT ⊢
      exact hLast s₀ hs₀ hT

theorem groupLeft_eq_cancelTarget (hUpgrade : trimSpace sub.upgradeGroup ≠ "")
    (hGroup : group = trimSpace sub.upgradeGroup) :
    groupLeft { sub with status := .expired } group =
      if cancelTarget sub group = "" then group else cancelTarget sub group := by
  have hTarget : expiryTarget { sub with status := .expired } group = cancelTarget sub group := by
    unfold expiryTarget cancelTarget
    by_cases hDown : trimSpace sub.downgradeGroup = ""
    · by_cases hPrev : trimSpace sub.prevUserGroup = ""
      · simp [hDown, hPrev]
      · simp [hDown, hPrev, hUpgrade, hGroup]
    · simp [hDown]
  rw [groupLeft, hTarget]

theorem groupAfterCancel_of_best {env : PaymentEnv} {others : List UserSubscription}
    (hBest : (Payment.remainingUpgrade env group none (decide (group = trimSpace sub.upgradeGroup)) others).1.map Prod.fst = some group)
    :
    groupAfterCancel env sub others group = group := by
  unfold groupAfterCancel
  generalize Payment.remainingUpgrade env group none _ _ = remaining at hBest
  obtain ⟨best, managed⟩ := remaining
  obtain ⟨found, rfl, hFound⟩ := Option.map_eq_some_iff.mp hBest
  dsimp only
  split
  · rfl
  · exact hFound

theorem groupAfterCancel_nil (hGroup : group = trimSpace sub.upgradeGroup) :
    groupAfterCancel env sub [] group = if cancelTarget sub group = "" then group else cancelTarget
      sub group := by
  simp [groupAfterCancel, Payment.remainingUpgrade, ← hGroup]

theorem groupAfterExpiry_of_others (hOthers : activeUpgrades sub now subs ≠ []) (group : String) :
    groupAfterExpiry sub.userId now (expireRows sub.userId now subs) group = group := by
  obtain ⟨s, hs⟩ := List.exists_mem_of_ne_nil _ hOthers
  obtain ⟨hMem, hUp, -⟩ := mem_activeUpgrades.mp hs
  refine groupAfterExpiry_of_upgraded ?_ hUp group
  rw [rows_expireRows]
  exact List.mem_map.mpr ⟨s, hMem, not_due_of_upgrades hUp⟩

theorem no_upgrades_of_nil (hSub : subs.get? sub.id = some sub) (hDue : Due now sub)
    (hNone : activeUpgrades sub now subs = []) :
    ∀ s ∈ (expireRows sub.userId now subs).rows, ¬ Upgrades sub.userId now s := by
  intro s hs hUp
  rw [rows_expireRows] at hs
  obtain ⟨s₀, hs₀, rfl⟩ := List.mem_map.mp hs
  have hUp₀ := upgrades_of_markExpired hUp
  -- the ending subscription itself no longer reaches beyond now
  have hNe : s₀.id ≠ sub.id := fun hId => by
    have hGet := Table.get?_of_mem hs₀
    rw [hId, hSub] at hGet
    cases hGet
    exact absurd hDue.2.2 (not_le.mpr hUp₀.2.2.1)
  have hMem := mem_activeUpgrades.mpr ⟨hs₀, hUp₀, hNe⟩
  rw [hNone] at hMem
  cases hMem

def sampleUpgrade (id : Int) (group prevGroup : String) (endTime : Int) : UserSubscription :=
  { id := id, userId := 1, planId := id, startTime := id, endTime := endTime,
    upgradeGroup := group, prevUserGroup := prevGroup }

def sampleSingle : Database where
  users := .single { id := 1, group := "vip" }
  subscriptions := .single (sampleUpgrade 1 "vip" "default" 100)

theorem sampleSingle_ends :
    sampleSingle.subscriptions.get? 1 = some (sampleUpgrade 1 "vip" "default" 100) ∧
      Due 100 (sampleUpgrade 1 "vip" "default" 100) ∧ 1 ∈ dueUsers 0 100 sampleSingle ∧
      trimSpace "vip" = "vip" ∧ groupOf sampleSingle 1 = some "vip" ∧
      activeUpgrades (sampleUpgrade 1 "vip" "default" 100) 100 sampleSingle.subscriptions = [] ∧
      sampleSingle.subscriptions.rows.all (fun s => s.id = 1 ∧ ¬ Transition 1 s) = true := by
  decide +kernel

def sampleOverlap : Database where
  users := .single { id := 1, group := "svip" }
  subscriptions :=
    ⟨[sampleUpgrade 1 "vip" "default" 1000, sampleUpgrade 2 "svip" "vip" 100], by decide⟩

end XyApi.Subscription
