import XyApi.Subscription.Reset

/-!
Creation of a subscription from a plan: the checks on the plan, the cap on
purchases, the end of the term and the first quota period. A subscription stores
the reset period it was bought with, so later edits of the plan do not reach it.
-/

namespace XyApi.Subscription

open Lib Lib.Calendar

def maxSubscriptionDurationYears : Int := 100

def maxSubscriptionDurationMonths : Int := maxSubscriptionDurationYears * 12

def maxSubscriptionDurationDays : Int := maxSubscriptionDurationYears * 366 + 25

def maxSubscriptionDurationHours : Int := maxSubscriptionDurationDays * 24

def maxSubscriptionDurationSeconds : Int := maxSubscriptionDurationDays * 24 * 60 * 60

def validSubscriptionCurrency (currency : String) : Bool :=
  currency.utf8ByteSize = 3 ∧ currency.toList.all fun c => 'A' ≤ c ∧ c ≤ 'Z'

def checkDuration (value max : Int) (subject unit : String) : DbTx Unit :=
  Tx.failIf (value ≤ 0 ∨ value > max)
    (.new (subject ++ "必须在 1 到 " ++ toString max ++ unit ++ "之间"))

def validateDuration (plan : SubscriptionPlan) : DbTx Unit :=
  match plan.durationUnit with
  | .year => checkDuration plan.durationValue maxSubscriptionDurationYears "套餐年限" " "
  | .month => checkDuration plan.durationValue maxSubscriptionDurationMonths "套餐月数" " "
  | .day => checkDuration plan.durationValue maxSubscriptionDurationDays "套餐天数" " "
  | .hour => checkDuration plan.durationValue maxSubscriptionDurationHours "套餐小时数" " "
  | .custom =>
    checkDuration plan.customSeconds maxSubscriptionDurationSeconds "套餐自定义时长" " 秒"
  | .other _ => Tx.fail (.new "套餐时长单位无效")

def validateResetPeriod (plan : SubscriptionPlan) : DbTx Unit :=
  match plan.quotaResetPeriod with
  | .blank | .known .never | .known .daily | .known .weekly | .known .monthly => pure ()
  | .known .custom =>
    checkDuration plan.quotaResetCustomSeconds maxSubscriptionDurationSeconds
      "自定义重置周期" " 秒"
  | .other _ => Tx.fail (.new "套餐额度重置周期无效")

def validateSubscriptionPlan (plan : SubscriptionPlan) : DbTx Unit := do
  let stripePriceId := trimSpace plan.stripePriceId
  Tx.failIf (stripePriceId ≠ "" ∧
    (¬ "price_".toList.isPrefixOf stripePriceId.toList ∨ stripePriceId.utf8ByteSize > 128))
    (.new "旧 Stripe 循环订阅 Price ID 必须以 price_ 开头且不超过 128 个字符")
  Tx.failIf (plan.priceAmount.all fun price => price < 0 ∨ price > 9999)
    (.new "套餐价格必须是 0 到 9999 之间的有限数值")
  Tx.failIf (¬ validSubscriptionCurrency (toUpper (trimSpace plan.currency)))
    (.new "套餐币种配置无效")
  Tx.failIf (plan.maxPurchasePerUser < 0) (.new "购买上限不能为负数")
  Tx.failIf (plan.totalAmount < 0) (.new "套餐总额度不能为负数")
  validateDuration plan
  validateResetPeriod plan

def calcPlanEndTime (loc : Location) (start : Int) (plan : SubscriptionPlan) : DbTx Int := do
  validateSubscriptionPlan plan
  match plan.durationUnit with
  | .year => pure (addDate loc start plan.durationValue 0 0)
  | .month => pure (addDate loc start 0 plan.durationValue 0)
  | .day => pure (addSeconds start (plan.durationValue * 24 * 60 * 60))
  | .hour => pure (addSeconds start (plan.durationValue * 60 * 60))
  | .custom => pure (addSeconds start plan.customSeconds)
  | .other text => Tx.fail (.new ("invalid duration_unit: " ++ text))

def countSubscriptionPurchaseSlotsTx (userId planId excludeOrderId excludePaymentOrderId now : Int) :
    DbTx Nat := do
  Tx.failIf (userId ≤ 0 ∨ planId ≤ 0) (.new "invalid subscription purchase count")
  Tx.read fun db =>
    (db.subscriptions.count fun s => s.userId = userId ∧ s.planId = planId) +
      db.subscriptionOrders.count fun o =>
        o.userId = userId ∧ o.planId = planId ∧
          ((o.status = .pending ∧ o.reserveUntil > now) ∨ o.status = .manualReview) ∧
          (excludeOrderId > 0 → o.id ≠ excludeOrderId) ∧
          (excludePaymentOrderId > 0 → o.paymentOrderId ≠ some excludePaymentOrderId)

def upgradeUserGroupTx (userId : Int) (upgradeGroup : String) : DbTx String := do
  let user? ← Tx.read fun db => db.users.get? userId
  match user? with
  | none => pure ""
  | some user =>
    if upgradeGroup = "" ∨ user.group = upgradeGroup then pure ""
    else do
      Tx.write (Database.putUser { user with group := upgradeGroup })
      pure user.group

def newUserSubscription (loc : Location) (id userId : Int) (plan : SubscriptionPlan)
    (source prevGroup : String) (now endTime : Int) : UserSubscription :=
  let nextReset := calcNextResetTime loc now plan endTime
  { id := id
    userId := userId
    planId := plan.id
    amountTotal := plan.totalAmount
    usageAccountingVersion := 1
    startTime := now
    endTime := endTime
    source := source
    lastResetTime := if nextReset > 0 then now else 0
    nextResetTime := nextReset
    quotaResetPeriod := .known (normalizeResetPeriod plan.quotaResetPeriod)
    quotaResetCustomSeconds := plan.quotaResetCustomSeconds
    upgradeGroup := trimSpace plan.upgradeGroup
    prevUserGroup := prevGroup
    downgradeGroup := trimSpace plan.downgradeGroup
    allowWalletOverflow := plan.allowWalletOverflow.getD true }

section Groups

variable (loc : Location) (id userId : Int) (plan : SubscriptionPlan) (source prevGroup : String)
  (now endTime : Int)

theorem newUserSubscription_upgradeGroup :
    (newUserSubscription loc id userId plan source prevGroup now endTime).upgradeGroup =
      trimSpace plan.upgradeGroup := rfl

theorem newUserSubscription_downgradeGroup :
    (newUserSubscription loc id userId plan source prevGroup now endTime).downgradeGroup =
      trimSpace plan.downgradeGroup := rfl

end Groups

def insertSubscription (sub : UserSubscription) : DbTx UserSubscription := do
  let subs? ← Tx.read fun db => db.subscriptions.insert? sub
  let subs ← Tx.require subs? .duplicatedKey
  Tx.write fun db => { db with subscriptions := subs }
  pure sub

def checkPurchaseLimitTx (userId : Int) (plan : SubscriptionPlan)
    (excludeOrderId excludePaymentOrderId now : Int) : DbTx Unit :=
  Tx.when (plan.maxPurchasePerUser > 0) do
    let usedSlots ← countSubscriptionPurchaseSlotsTx userId plan.id excludeOrderId
      excludePaymentOrderId now
    Tx.failIf ((usedSlots : Int) ≥ plan.maxPurchasePerUser) .subscriptionPurchaseLimit

def createUserSubscriptionFromPlanTx (loc : Location) (userId : Int) (plan : SubscriptionPlan)
    (source : String) (excludeOrderId excludePaymentOrderId now : Int) :
    DbTx UserSubscription := do
  Tx.failIf (plan.id = 0) (.new "invalid plan")
  Tx.failIf (userId ≤ 0) (.new "invalid user id")
  let plan := normalizeDefaults plan
  validateSubscriptionPlan plan
  let user? ← Tx.read fun db => db.users.get? userId
  let _ ← Tx.require user? .recordNotFound
  checkPurchaseLimitTx userId plan excludeOrderId excludePaymentOrderId now
  let endTime ← calcPlanEndTime loc now plan
  let prevGroup ← upgradeUserGroupTx userId (trimSpace plan.upgradeGroup)
  let id ← Tx.read fun db => Database.nextId (db.subscriptions.rows.map UserSubscription.id)
  insertSubscription (newUserSubscription loc id userId plan source prevGroup now endTime)

end XyApi.Subscription
