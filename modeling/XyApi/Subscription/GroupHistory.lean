import XyApi.Subscription.Cancellation
import XyApi.Subscription.Epoch

/-!
The group of a user over histories of purchases and expiries. A subscription remembers the
group the user was in when it was bought. As long as a user's upgrades do not overlap, that is
the group from before the first upgrade, and each expiry leads back to it. Where upgrades
overlap, the group remembered may itself be one that a subscription granted.
-/

namespace XyApi.Subscription

open Lib Lib.Calendar

variable {sub : UserSubscription} {subs : Table UserSubscription.id} {buyer : Int}

/-- The calls that change a user's group through subscriptions. -/
inductive GroupCall
  | purchase (userId : Int) (plan : SubscriptionPlan) (source : String)
      (excludeOrderId excludePaymentOrderId now : Int)
  | expireDue (limit now : Int) (order : List Int)

def GroupCall.step (loc : Location) (db : Database) : GroupCall → Database
  | purchase userId plan source excludeOrderId excludePaymentOrderId now =>
    ((createUserSubscriptionFromPlanTx loc userId plan source excludeOrderId
      excludePaymentOrderId now).commit db).1
  | expireDue limit now order => (expireDueSubscriptions limit now order db).1

def ActiveUpgrade (userId : Int) (sub : UserSubscription) : Prop :=
  sub.userId = userId ∧ sub.status = .active ∧ sub.upgradeGroup ≠ ""
  deriving Decidable

/-- The user is in the group of one of their active subscriptions or, if none of those has a
group, in the group from before the first upgrade. -/
def GroupJustified (userId : Int) (original : String) (db : Database) : Prop :=
  (∃ sub ∈ db.subscriptions.rows, ActiveUpgrade userId sub ∧
    groupOf db userId = some sub.upgradeGroup) ∨
  ((∀ sub ∈ db.subscriptions.rows, ¬ ActiveUpgrade userId sub) ∧
    groupOf db userId = some original)

def endOfPurchase (loc : Location) (plan : SubscriptionPlan) (now : Int) (db : Database) :
    Option Int :=
  match calcPlanEndTime loc now (normalizeDefaults plan) db with
  | .ok result => some result.1
  | .error _ => none

/-- A user buys an upgrade only while no other upgrade of theirs is active, and it ends after
the earlier ones. -/
def GroupCall.Apart (loc : Location) (userId : Int) (db : Database) : GroupCall → Prop
  | purchase buyer plan _ _ _ now =>
    buyer = userId → trimSpace plan.downgradeGroup = "" ∧
      (trimSpace plan.upgradeGroup ≠ "" →
        (∀ sub ∈ db.subscriptions.rows, ¬ ActiveUpgrade userId sub) ∧
        ∀ endTime, endOfPurchase loc plan now db = some endTime → 0 < endTime ∧
          ∀ sub ∈ db.subscriptions.rows, sub.userId = userId → sub.upgradeGroup ≠ "" →
            sub.endTime < endTime)
  | expireDue _ _ _ => True

/-! ### The invariant -/

/-- A row of a user whose upgrades were all bought in the original group. -/
structure Told (original : String) (sub : UserSubscription) : Prop where
  downgrade : sub.downgradeGroup = ""
  trimmed : trimSpace sub.upgradeGroup = sub.upgradeGroup
  ends : sub.upgradeGroup ≠ "" → 0 < sub.endTime
  previous : sub.upgradeGroup ≠ "" →
    sub.prevUserGroup = if sub.upgradeGroup = original then "" else original

/-- The one active upgrade of a user, which ends last of all their upgrades. -/
structure Holder (userId : Int) (subs : Table UserSubscription.id) (sub : UserSubscription) :
    Prop where
  mem : sub ∈ subs.rows
  active : ActiveUpgrade userId sub
  only : ∀ s ∈ subs.rows, ActiveUpgrade userId s → s.id = sub.id
  last : ∀ s ∈ subs.rows, s.userId = userId → s.upgradeGroup ≠ "" → endsBefore s sub

structure GroupTold (userId : Int) (original : String) (db : Database) : Prop where
  told : ∀ sub ∈ db.subscriptions.rows, sub.userId = userId → Told original sub
  group : ((∀ sub ∈ db.subscriptions.rows, ¬ ActiveUpgrade userId sub) ∧
      groupOf db userId = some original) ∨
    ∃ sub, Holder userId db.subscriptions sub ∧ groupOf db userId = some sub.upgradeGroup

theorem GroupTold.justified (h : GroupTold userId original db) :
    GroupJustified userId original db := by
  rcases h.group with hNone | ⟨sub, hHolder, hGroup⟩
  · exact .inr hNone
  · exact .inl ⟨sub, hHolder.mem, hHolder.active, hGroup⟩

/-- Only the user's own rows and group matter. -/
theorem GroupTold.congr (h : GroupTold userId original db)
    (hRows : ∀ sub : UserSubscription, sub.userId = userId →
      (sub ∈ db'.subscriptions.rows ↔ sub ∈ db.subscriptions.rows))
    (hGroup : groupOf db' userId = groupOf db userId) : GroupTold userId original db' := by
  refine ⟨fun sub hSub hUser => h.told sub ((hRows sub hUser).mp hSub) hUser, ?_⟩
  rw [hGroup]
  refine h.group.imp (fun hNone => ⟨fun sub hSub hUp => ?_, hNone.2⟩) ?_
  · exact hNone.1 sub ((hRows sub hUp.1).mp hSub) hUp
  · rintro ⟨sub, hHolder, hIn⟩
    refine ⟨sub, ⟨(hRows sub hHolder.active.1).mpr hHolder.mem, hHolder.active, ?_, ?_⟩, hIn⟩
    · exact fun s hs hUp => hHolder.only s ((hRows s hUp.1).mp hs) hUp
    · exact fun s hs hUser => hHolder.last s ((hRows s hUser).mp hs) hUser

/-! ### Expiry keeps it -/

theorem markExpired_eq :
    ∃ status, markExpired userId now sub = { sub with status := status } := by
  rcases markExpired_cases userId now sub with ⟨-, -, h⟩ | h
  · exact ⟨_, h⟩
  · exact ⟨sub.status, h⟩

theorem activeUpgrade_of_markExpired (h : ActiveUpgrade userId (markExpired userId now sub)) :
    ActiveUpgrade userId sub ∧ markExpired userId now sub = sub := by
  rcases markExpired_cases userId now sub with ⟨-, -, hMark⟩ | hMark
  · rw [hMark] at h
    cases h.2.1
  · exact ⟨hMark ▸ h, hMark⟩

theorem mem_expireRows :
    sub ∈ (expireRows userId now subs).rows ↔
      ∃ s ∈ subs.rows, markExpired userId now s = sub := by
  rw [rows_expireRows, List.mem_map]

theorem Told.markExpired (h : Told original sub) : Told original (markExpired userId now sub) := by
  obtain ⟨status, hMark⟩ := markExpired_eq
  rw [hMark]
  exact ⟨h.downgrade, h.trimmed, h.ends, h.previous⟩

theorem Told.expiryTarget_eq (h : Told original sub) (group : String) :
    expiryTarget sub group =
      if sub.upgradeGroup = "" ∨ trimSpace sub.prevUserGroup = "" ∨ group ≠ sub.upgradeGroup
      then "" else trimSpace sub.prevUserGroup := by
  have hDown : ¬ trimSpace sub.downgradeGroup ≠ "" := by
    rw [h.downgrade]
    exact not_not.mpr rfl
  unfold expiryTarget
  dsimp only
  rw [if_neg hDown, h.trimmed]
  by_cases hUp : sub.upgradeGroup = ""
  · rw [if_pos (.inl hUp), if_pos (.inl hUp)]
  · by_cases hPrev : trimSpace sub.prevUserGroup = ""
    · rw [if_pos (.inr hPrev), if_pos (.inr (.inl hPrev))]
    · rw [if_neg (not_or.mpr ⟨hUp, hPrev⟩)]
      by_cases hGroup : group = sub.upgradeGroup
      · rw [if_neg (not_not.mpr hGroup),
          if_neg (not_or.mpr ⟨hUp, not_or.mpr ⟨hPrev, not_not.mpr hGroup⟩⟩)]
      · rw [if_pos hGroup, if_pos (.inr (.inr hGroup))]

/-- An upgrade that expired does not move a user who is in the original group. -/
theorem Told.groupLeft_original (h : Told original sub) : groupLeft sub original = original := by
  have hTarget : expiryTarget sub original = "" := by
    rw [h.expiryTarget_eq, if_pos]
    by_cases hUpgrade : sub.upgradeGroup = ""
    · exact .inl hUpgrade
    · have hPrev := h.previous hUpgrade
      by_cases hSame : sub.upgradeGroup = original
      · rw [if_pos hSame] at hPrev
        rw [hPrev]
        exact .inr (.inl rfl)
      · exact .inr (.inr (Ne.symm hSame))
  rw [groupLeft, if_pos hTarget]

/-- An upgrade that expired leads from its group back to the original one. -/
theorem Told.groupLeft_upgrade (h : Told original sub) (hOriginal : original ≠ "")
    (hTrim : trimSpace original = original) (hUpgrade : sub.upgradeGroup ≠ "") :
    groupLeft sub sub.upgradeGroup = original := by
  by_cases hSame : sub.upgradeGroup = original
  · rw [hSame]
    exact h.groupLeft_original
  · have hPrev : trimSpace sub.prevUserGroup = original := by
      rw [h.previous hUpgrade, if_neg hSame, hTrim]
    have hTarget : expiryTarget sub sub.upgradeGroup = original := by
      rw [h.expiryTarget_eq, if_neg, hPrev]
      rw [hPrev]
      rintro (hNone | hNone | hNe)
      · exact hUpgrade hNone
      · exact hOriginal hNone
      · exact hNe rfl
    rw [groupLeft, hTarget, if_neg hOriginal]

/-- Everything that holds of the rows before an expiry and does not mention the status. -/
theorem forall_expireRows {P : UserSubscription → Prop}
    (hP : ∀ sub ∈ subs.rows, P (markExpired userId now sub)) :
    ∀ sub ∈ (expireRows userId now subs).rows, P sub := by
  intro sub hSub
  obtain ⟨s, hs, rfl⟩ := mem_expireRows.mp hSub
  exact hP s hs

theorem no_activeUpgrade_expireRows (now : Int)
    (hNone : ∀ sub ∈ subs.rows, ¬ ActiveUpgrade userId sub) :
    ∀ sub ∈ (expireRows userId now subs).rows, ¬ ActiveUpgrade userId sub :=
  forall_expireRows fun sub hSub hUp => hNone sub hSub (activeUpgrade_of_markExpired hUp).1

/-- Without an active upgrade the user stays in the original group. -/
theorem groupAfterExpiry_of_original
    (hTold : ∀ sub ∈ subs.rows, sub.userId = userId → Told original sub)
    (hNone : ∀ sub ∈ subs.rows, ¬ ActiveUpgrade userId sub) :
    groupAfterExpiry userId now subs original = original := by
  rw [groupAfterExpiry_of_none fun sub hSub hUp => hNone sub hSub ⟨hUp.1, hUp.2.1, hUp.2.2.2⟩]
  cases hLast : lastExpired userId subs with
  | none => rfl
  | some last =>
    obtain ⟨hMem, hT, -⟩ := lastExpired_spec hLast
    exact (hTold last hMem hT.1).groupLeft_original

/-- The holder that has not ended still holds. -/
theorem Holder.expireRows_of_not_due (h : Holder userId subs sub)
    (hKept : markExpired userId now sub = sub) :
    Holder userId (expireRows userId now subs) sub := by
  refine ⟨mem_expireRows.mpr ⟨sub, h.mem, hKept⟩, h.active, ?_, ?_⟩
  · refine forall_expireRows fun s hs hUp => ?_
    obtain ⟨hActive, hEq⟩ := activeUpgrade_of_markExpired hUp
    rw [hEq]
    exact h.only s hs hActive
  · refine forall_expireRows fun s hs hUser hUpgrade => ?_
    obtain ⟨status, hMark⟩ := markExpired_eq
    rw [hMark] at hUser hUpgrade ⊢
    exact h.last s hs hUser hUpgrade

/-- Once the holder has ended, no active upgrade is left. -/
theorem Holder.none_of_due (h : Holder userId subs sub) (hDue : Due now sub) :
    ∀ s ∈ (expireRows userId now subs).rows, ¬ ActiveUpgrade userId s := by
  refine forall_expireRows fun s hs hUp => ?_
  obtain ⟨hActive, hEq⟩ := activeUpgrade_of_markExpired hUp
  have hGet := Table.get?_of_mem hs
  rw [h.only s hs hActive, Table.get?_of_mem h.mem] at hGet
  cases hGet
  rw [markExpired, if_pos ⟨hActive.1, hDue⟩] at hUp
  cases hUp.2.1

/-- The holder is the last of the expired subscriptions once it has ended. -/
theorem Holder.lastExpired_of_due (hTold : ∀ s ∈ subs.rows, s.userId = userId → Told original s)
    (h : Holder userId subs sub) (hDue : Due now sub) :
    lastExpired userId (expireRows userId now subs) = some { sub with status := .expired } := by
  have hMark : markExpired userId now sub = { sub with status := .expired } :=
    if_pos ⟨h.active.1, hDue⟩
  refine lastExpired_eq (mem_expireRows.mpr ⟨sub, h.mem, hMark⟩)
    ⟨h.active.1, rfl, .inr h.active.2.2⟩ ?_
  refine forall_expireRows fun s hs hT => ?_
  obtain ⟨status, hEq⟩ := markExpired_eq
  rw [hEq] at hT ⊢
  have hUpgrade : s.upgradeGroup ≠ "" :=
    hT.2.2.resolve_left (not_not.mpr (hTold s hs hT.1).downgrade)
  exact h.last s hs hT.1 hUpgrade

theorem GroupTold.expireUser (h : GroupTold userId original db) (hOriginal : original ≠ "")
    (hTrim : trimSpace original = original)
    (hSubs : db'.subscriptions = expireRows userId now db.subscriptions)
    (hGroup : groupOf db' userId = (groupOf db userId).map
      (groupAfterExpiry userId now (expireRows userId now db.subscriptions))) :
    GroupTold userId original db' := by
  have hTold : ∀ sub ∈ (expireRows userId now db.subscriptions).rows, sub.userId = userId →
      Told original sub := forall_expireRows fun s hs hUser => by
    rw [markExpired_userId] at hUser
    exact (h.told s hs hUser).markExpired
  refine ⟨by rwa [hSubs], ?_⟩
  rw [hGroup, hSubs]
  rcases h.group with ⟨hNone, hIn⟩ | ⟨sub, hHolder, hIn⟩
  · have hStill := no_activeUpgrade_expireRows now hNone
    rw [hIn, Option.map_some, groupAfterExpiry_of_original hTold hStill]
    exact .inl ⟨hStill, rfl⟩
  · rw [hIn, Option.map_some]
    have hSubTold := h.told sub hHolder.mem hHolder.active.1
    have hUpgrade := hHolder.active.2.2
    by_cases hDue : Due now sub
    · have hStill := hHolder.none_of_due hDue
      rw [groupAfterExpiry_of_none fun s hs hUp => hStill s hs ⟨hUp.1, hUp.2.1, hUp.2.2.2⟩,
        hHolder.lastExpired_of_due h.told hDue]
      have hExpired : Told original { sub with status := .expired } :=
        ⟨hSubTold.downgrade, hSubTold.trimmed, hSubTold.ends, hSubTold.previous⟩
      have hLeft : groupLeft { sub with status := .expired } sub.upgradeGroup = original :=
        hExpired.groupLeft_upgrade hOriginal hTrim hUpgrade
      rw [Option.map_some, Option.getD_some, hLeft]
      exact .inl ⟨hStill, rfl⟩
    · have hKept : markExpired userId now sub = sub := if_neg fun hMark => hDue hMark.2
      have hEnd : sub.endTime > now := not_le.mp fun hLe =>
        hDue ⟨hHolder.active.2.1, hSubTold.ends hUpgrade, hLe⟩
      have hHolds := hHolder.expireRows_of_not_due hKept
      rw [groupAfterExpiry_of_upgraded hHolds.mem
        ⟨hHolder.active.1, hHolder.active.2.1, hEnd, hUpgrade⟩]
      exact .inr ⟨sub, hHolds, rfl⟩

theorem GroupTold.expireOther (h : GroupTold userId original db) (hNe : userId ≠ other)
    (hSubs : db'.subscriptions = expireRows other now db.subscriptions)
    (hGroup : groupOf db' userId = groupOf db userId) : GroupTold userId original db' := by
  refine h.congr (fun sub hUser => ?_) hGroup
  have hKept : ∀ s : UserSubscription, s.userId = userId → markExpired other now s = s :=
    fun s hs => markExpired_of_ne (fun hOther => hNe (hs.symm.trans hOther)) now
  rw [hSubs, mem_expireRows]
  constructor
  · rintro ⟨s, hs, rfl⟩
    rw [markExpired_userId] at hUser
    rwa [hKept s hUser]
  · exact fun hSub => ⟨sub, hSub, hKept sub hUser⟩

theorem GroupTold.expireDue (h : GroupTold userId original db) (hOriginal : original ≠ "")
    (hTrim : trimSpace original = original) (limit : Int) (order : List Int) :
    GroupTold userId original (expireDueSubscriptions limit now order db).1 := by
  refine expireUsers_invariant (P := GroupTold userId original) (fun id db hId hdb => ?_)
    (fun id hMem => dueUsers_pos (mem_inOrder.mp hMem)) 0 h
  obtain ⟨n, db', hOk, hSubs, hGroups⟩ := expireUserTx_ok hId now db
  rw [Tx.commit_of_ok hOk]
  by_cases hUser : userId = id
  · subst hUser
    exact hdb.expireUser hOriginal hTrim hSubs (by rw [hGroups, if_pos rfl])
  · exact hdb.expireOther hUser hSubs (by rw [hGroups, if_neg hUser])

/-! ### Purchases keep it -/

theorem upgradeUserGroupTx_other (h : upgradeUserGroupTx buyer group db = .ok (previous, db'))
    {id : Int} (hId : id ≠ buyer) :
    groupOf db' id = groupOf db id := by
  rw [upgradeUserGroupTx, Tx.read_bind_apply] at h
  cases hUser : db.users.get? buyer with
  | none =>
    simp only [hUser, Tx.pure_ok_iff] at h
    rw [h.2]
  | some =>
    simp only [hUser] at h
    split at h
    · rw [(Tx.pure_ok h).2]
    · rw [Tx.write_bind_apply, Tx.pure_ok_iff] at h
      rw [← h.2, groupOf, Database.putUser, Table.get?_put_of_ne, groupOf]
      rwa [Table.key_of_get? hUser]

theorem upgradeUserGroupTx_own (h : upgradeUserGroupTx buyer group db = .ok (previous, db'))
    (hCurrent : groupOf db buyer = some current) :
    (previous = if group = "" ∨ current = group then "" else current) ∧
      groupOf db' buyer = some (if group = "" then current else group) := by
  obtain ⟨user, hUser, hGroup⟩ := Option.map_eq_some_iff.mp hCurrent
  rw [upgradeUserGroupTx, Tx.read_bind_apply, hUser] at h
  dsimp only at h
  rw [hGroup] at h
  split at h
  · next hSame =>
      cases h
      rw [if_pos hSame, hCurrent]
      refine ⟨rfl, congrArg some ?_⟩
      split
      · rfl
      · next hNe => exact hSame.resolve_left hNe
  · next hSame =>
      cases h
      have hKey : user.id = buyer := Table.key_of_get? hUser
      rw [if_neg hSame, if_neg (not_or.mp hSame).1]
      refine ⟨rfl, ?_⟩
      rw [groupOf, Database.putUser, ← hKey, Table.get?_put_self (b := user)]
      · rfl
      · exact hKey ▸ hUser

/-- The row that a purchase of the user adds. -/
theorem GroupTold.insert (h : GroupTold userId original db)
    (hInsert : db.subscriptions.insert? sub = some subs) (hSubs : db'.subscriptions = subs)
    (hTold : Told original sub)
    (hPlain : sub.upgradeGroup = "" → groupOf db' userId = groupOf db userId)
    (hUpgrade : sub.upgradeGroup ≠ "" → ActiveUpgrade userId sub ∧ (∀ s ∈ db.subscriptions.rows, ¬ ActiveUpgrade userId s) ∧ (∀ s ∈ db.subscriptions.rows, s.userId = userId → s.upgradeGroup ≠ "" → s.endTime < sub.endTime) ∧ groupOf db' userId = some sub.upgradeGroup)
    :
    GroupTold userId original db' := by
  have hMem : ∀ s, s ∈ db'.subscriptions.rows ↔ s ∈ db.subscriptions.rows ∨ s = sub := fun s => by
    rw [hSubs, (Table.rows_insert? hInsert).1, List.mem_append, List.mem_singleton]
  refine ⟨fun s hs hUser => ?_, ?_⟩
  · rcases (hMem s).mp hs with hOld | rfl
    · exact h.told s hOld hUser
    · exact hTold
  · by_cases hUp : sub.upgradeGroup = ""
    · have hOld : ∀ s ∈ db'.subscriptions.rows, s.upgradeGroup ≠ "" → s ∈ db.subscriptions.rows :=
        fun s hs hs' => ((hMem s).mp hs).resolve_right fun hEq => hs' (hEq ▸ hUp)
      rw [hPlain hUp]
      refine h.group.imp (fun hNone => ⟨fun s hs hs' => ?_, hNone.2⟩) ?_
      · exact hNone.1 s (hOld s hs hs'.2.2) hs'
      · rintro ⟨s, hHolder, hIn⟩
        refine ⟨s, ⟨(hMem s).mpr (.inl hHolder.mem), hHolder.active, ?_, ?_⟩, hIn⟩
        · exact fun x hx hx' => hHolder.only x (hOld x hx hx'.2.2) hx'
        · exact fun x hx hUser hx' => hHolder.last x (hOld x hx hx') hUser hx'
    · obtain ⟨hActive, hNone, hEarlier, hIn⟩ := hUpgrade hUp
      refine .inr ⟨sub, ⟨(hMem sub).mpr (.inr rfl), hActive, ?_, ?_⟩, hIn⟩
      · intro s hs hs'
        exact ((hMem s).mp hs).elim (fun hOld => absurd hs' (hNone s hOld)) (congrArg _)
      · intro s hs hUser hs'
        rcases (hMem s).mp hs with hOld | rfl
        · exact .inl (hEarlier s hOld hUser hs')
        · exact .inr ⟨rfl, le_rfl⟩

/-- The upgrade of a purchase and the row that remembers it. -/
theorem GroupTold.upgrade (h : GroupTold userId original db)
    (hInsert : db.subscriptions.insert? sub = some subs) (hSubs : db'.subscriptions = subs)
    (hMove : upgradeUserGroupTx userId sub.upgradeGroup db = .ok (sub.prevUserGroup, moved))
    (hGroup : groupOf db' userId = groupOf moved userId) (hUser : sub.userId = userId)
    (hActive : sub.status = .active) (hDown : sub.downgradeGroup = "")
    (hTrimmed : trimSpace sub.upgradeGroup = sub.upgradeGroup)
    (hUp : sub.upgradeGroup ≠ "" → (∀ s ∈ db.subscriptions.rows, ¬ ActiveUpgrade userId s) ∧ 0 < sub.endTime ∧ ∀ s ∈ db.subscriptions.rows, s.userId = userId → s.upgradeGroup ≠ "" → s.endTime < sub.endTime)
    : GroupTold userId original db' := by
  obtain ⟨current, hCurrent⟩ : ∃ current, groupOf db userId = some current :=
    h.group.elim (fun hNone => ⟨_, hNone.2⟩) fun ⟨s, _, hIn⟩ => ⟨_, hIn⟩
  obtain ⟨hPrevious, hMoved⟩ := upgradeUserGroupTx_own hMove hCurrent
  -- an upgrade is bought in the original group
  have hBought : sub.upgradeGroup ≠ "" → current = original := fun hNe => by
    rcases h.group with ⟨-, hIn⟩ | ⟨s, hHolder, -⟩
    · exact Option.some.inj (hCurrent.symm.trans hIn)
    · exact absurd hHolder.active ((hUp hNe).1 s hHolder.mem)
  refine h.insert hInsert hSubs ⟨hDown, hTrimmed, fun hNe => (hUp hNe).2.1, fun hNe => ?_⟩
    (fun hNone => ?_) fun hNe => ⟨⟨hUser, hActive, hNe⟩, (hUp hNe).1, (hUp hNe).2.2, ?_⟩
  · rw [hPrevious, ← hBought hNe]
    simp only [hNe, false_or, eq_comm]
  · rw [hGroup, hMoved, if_pos hNone, hCurrent]
  · rw [hGroup, hMoved, if_neg hNe]

theorem GroupTold.purchase (h : GroupTold userId original db)
    (hApart : (GroupCall.purchase buyer plan source excludeOrderId excludePaymentOrderId now).Apart loc userId db)
    (hOk : createUserSubscriptionFromPlanTx loc buyer plan source excludeOrderId excludePaymentOrderId now db = .ok (sub, db'))
    : GroupTold userId original db' := by
  obtain ⟨id, endTime, previous, users, subs, hEnd, hMove, rfl, hInsert, rfl⟩ :=
    createUserSubscriptionFromPlanTx_row hOk
  by_cases hBuyer : buyer = userId
  · subst hBuyer
    obtain ⟨hDown, hUp⟩ := hApart rfl
    have hEndOf : endOfPurchase loc plan now db = some endTime := by
      rw [endOfPurchase, hEnd]
    refine h.upgrade hInsert rfl hMove rfl rfl rfl ?_ ?_ fun hNe => ?_
    · rw [newUserSubscription_downgradeGroup, normalizeDefaults_downgradeGroup, hDown]
    · rw [newUserSubscription_upgradeGroup, trimSpace_trimSpace]
    · rw [newUserSubscription_upgradeGroup, normalizeDefaults_upgradeGroup] at hNe
      exact ⟨(hUp hNe).1, (hUp hNe).2 endTime hEndOf⟩
  · refine h.congr (fun s hs => ?_) (upgradeUserGroupTx_other hMove (Ne.symm hBuyer))
    change s ∈ subs.rows ↔ _
    rw [(Table.rows_insert? hInsert).1, List.mem_append, List.mem_singleton]
    refine or_iff_left fun hEq => hBuyer ?_
    rw [← hs, hEq]
    rfl

/-! ### Histories -/

theorem group_justified_of_apart (loc : Location) (userId : Int) (original : String)
    (hOriginal : original ≠ "") (hTrim : trimSpace original = original) (db : Database)
    (hGroup : groupOf db userId = some original)
    (hFresh : ∀ sub ∈ db.subscriptions.rows, sub.userId ≠ userId) (calls : List GroupCall)
    (hApart : Guarded (GroupCall.step loc) (GroupCall.Apart loc userId) db calls) :
    GroupJustified userId original (run (GroupCall.step loc) db calls) := by
  have hStart : GroupTold userId original db :=
    ⟨fun sub hSub hUser => absurd hUser (hFresh sub hSub),
      .inl ⟨fun sub hSub hUp => hFresh sub hSub hUp.1, hGroup⟩⟩
  refine (guarded_invariant (P := GroupTold userId original) ?_ hStart hApart).justified
  intro db call hCall h
  cases call with
  | purchase =>
    exact Tx.commit_preserves h fun sub db' hOk => h.purchase hCall hOk
  | expireDue limit now order => exact h.expireDue hOriginal hTrim limit order

def sampleGroupPlan (id : Int) (group : String) (seconds : Int) : SubscriptionPlan :=
  { id := id, durationUnit := .custom, customSeconds := seconds, upgradeGroup := group }

def sampleNewcomer : Database where
  users := .single { id := 1, group := "default" }

def sampleOneUpgrade : List GroupCall :=
  [.purchase 1 (sampleGroupPlan 1 "vip" 50) "order" 0 0 10, .expireDue 0 100 []]

theorem sampleOneUpgrade_texts :
    trimSpace "default" = "default" ∧ trimSpace (sampleGroupPlan 1 "vip" 50).downgradeGroup = "" ∧
      endOfPurchase .utc (sampleGroupPlan 1 "vip" 50) 10 sampleNewcomer = some 60 := by
  decide +kernel

theorem group_justified_of_apart_one :
    GroupJustified 1 "default" (run (GroupCall.step .utc) sampleNewcomer sampleOneUpgrade) := by
  obtain ⟨hTrim, hDown, hEnd⟩ := sampleOneUpgrade_texts
  have hRows : ∀ sub, sub ∉ sampleNewcomer.subscriptions.rows := fun _ => List.not_mem_nil
  have hApart : (GroupCall.purchase 1 (sampleGroupPlan 1 "vip" 50) "order" 0 0 10).Apart .utc 1
      sampleNewcomer := by
    refine fun _ => ⟨hDown, fun _ => ⟨fun sub hSub => absurd hSub (hRows sub), ?_⟩⟩
    intro endTime h
    cases hEnd.symm.trans h
    exact ⟨by omega, fun sub hSub => absurd hSub (hRows sub)⟩
  exact group_justified_of_apart .utc 1 "default" (by simp) hTrim sampleNewcomer rfl
    (fun sub hSub => absurd hSub (hRows sub)) sampleOneUpgrade ⟨hApart, trivial, trivial⟩

def sampleTwoUpgrades : List GroupCall :=
  [.purchase 1 (sampleGroupPlan 1 "vip" 1000) "order" 0 0 10,
    .purchase 1 (sampleGroupPlan 2 "svip" 50) "order" 0 0 20, .expireDue 0 100 []]

theorem sampleTwoUpgrades_end :
    groupOf (run (GroupCall.step .utc) sampleNewcomer sampleTwoUpgrades) 1 = some "svip" ∧
      (run (GroupCall.step .utc) sampleNewcomer sampleTwoUpgrades).subscriptions.rows.all
        (fun s => s.upgradeGroup = "svip" → ¬ ActiveUpgrade 1 s) = true := by
  decide +kernel

/-- The user stays in the group of the subscription that ended. -/
theorem ended_upgrade_keeps_group :
    ¬ GroupJustified 1 "default"
      (run (GroupCall.step .utc) sampleNewcomer sampleTwoUpgrades) := by
  obtain ⟨hGroup, hRows⟩ := sampleTwoUpgrades_end
  rintro (⟨sub, hSub, hUp, hIn⟩ | ⟨-, hIn⟩)
  · rw [hGroup] at hIn
    exact of_decide_eq_true (List.all_eq_true.mp hRows sub hSub) (Option.some.inj hIn).symm hUp
  · rw [hGroup] at hIn
    exact absurd (Option.some.inj hIn) (by simp)

end XyApi.Subscription
