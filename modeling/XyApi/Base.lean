/-!
Vocabulary shared by the modelled packages: machine-integer bounds, the string
helpers the source applies to its inputs, account status and errors. Quotas,
identifiers and timestamps are integers; the code compares against the bounds
below wherever a column could overflow, and so does the model.
-/

namespace XyApi

def maxInt32 : Int := 2147483647

def minInt32 : Int := -2147483648

def maxInt64 : Int := 9223372036854775807

def int64 (n : Int) : Int := Int.bmod n 18446744073709551616

theorem int64_of_mem (hLow : -9223372036854775808 ≤ n) (hHigh : n < 9223372036854775808) :
    int64 n = n := by
  unfold int64
  rw [Int.bmod_eq_of_le] <;> omega

/-- The white space that trimming removes: the Unicode property `White_Space`. -/
def isSpace (c : Char) : Bool :=
  let n := c.val.toNat
  (9 ≤ n && n ≤ 13) || n == 0x20 || n == 0x85 || n == 0xA0 || n == 0x1680 ||
    (0x2000 ≤ n && n ≤ 0x200a) || n == 0x2028 || n == 0x2029 || n == 0x202f ||
    n == 0x205f || n == 0x3000

private def trimEnd (cs : List Char) : List Char := (cs.reverse.dropWhile isSpace).reverse

def trimSpace (s : String) : String := String.ofList (trimEnd (s.toList.dropWhile isSpace))

private theorem dropWhile_idem (cs : List Char) :
    (cs.dropWhile isSpace).dropWhile isSpace = cs.dropWhile isSpace := by
  induction cs with
  | nil => rfl
  | cons c cs ih =>
    by_cases hc : isSpace c
    · simpa [hc] using ih
    · simp [hc]

private theorem dropWhile_trimEnd (h : cs.dropWhile isSpace = cs) :
    (trimEnd cs).dropWhile isSpace = trimEnd cs := by
  cases cs with
  | nil => rfl
  | cons c cs =>
    have hc : isSpace c = false := by
      cases hSpace : isSpace c with
      | false => rfl
      | true =>
        have hLength := congrArg List.length h
        rw [List.dropWhile_cons_of_pos hSpace, List.length_cons] at hLength
        have hLe := (List.dropWhile_suffix isSpace (l := cs)).length_le
        omega
    have hHead : ∃ ds, trimEnd (c :: cs) = c :: ds := by
      unfold trimEnd
      rw [List.reverse_cons, List.dropWhile_append]
      split
      · exact ⟨[], by simp [hc]⟩
      · exact ⟨_, by simp; rfl⟩
    obtain ⟨ds, hds⟩ := hHead
    rw [hds, List.dropWhile_cons_of_neg (by simp [hc])]

theorem trimSpace_trimSpace (s : String) : trimSpace (trimSpace s) = trimSpace s := by
  unfold trimSpace
  rw [String.toList_ofList, dropWhile_trimEnd (dropWhile_idem _)]
  congr 1
  unfold trimEnd
  rw [List.reverse_reverse, dropWhile_idem]

private theorem mem_dropWhile {c : Char} {cs : List Char} (hMem : c ∈ cs)
    (hSpace : isSpace c = false) : c ∈ cs.dropWhile isSpace := by
  induction cs with
  | nil => exact hMem
  | cons d cs ih =>
    cases hd : isSpace d with
    | false => rwa [List.dropWhile_cons_of_neg (by simp [hd])]
    | true =>
      rw [List.dropWhile_cons_of_pos hd]
      obtain rfl | hRest := List.mem_cons.mp hMem
      · simp [hd] at hSpace
      · exact ih hRest

theorem trimSpace_ne_empty {s : String} {c : Char} (hMem : c ∈ s.toList)
    (hSpace : isSpace c = false) : trimSpace s ≠ "" := by
  intro h
  have hEnd : trimEnd (s.toList.dropWhile isSpace) = [] := by
    simpa [trimSpace] using congrArg String.toList h
  have hKept : c ∈ trimEnd (s.toList.dropWhile isSpace) :=
    List.mem_reverse.mpr
      (mem_dropWhile (List.mem_reverse.mpr (mem_dropWhile hMem hSpace)) hSpace)
  simp [hEnd] at hKept

/-- Upper case, letter by letter; beyond ASCII letters are left as they are. -/
def toUpper (s : String) : String := String.ofList (s.toList.map Char.toUpper)

private theorem toUpper_cases (c : Char) :
    (c.toUpper = c ∧ ¬ (97 ≤ c.val.toNat ∧ c.val.toNat ≤ 122)) ∨
      (97 ≤ c.val.toNat ∧ c.val.toNat ≤ 122 ∧ c.toUpper.val.toNat = c.val.toNat - 32) := by
  unfold Char.toUpper
  split
  · rename_i h
    obtain ⟨hLow, hHigh⟩ := h
    rw [UInt32.le_iff_toNat_le] at hLow hHigh
    have hLow : 97 ≤ c.val.toNat := hLow
    have hHigh : c.val.toNat ≤ 122 := hHigh
    refine .inr ⟨hLow, hHigh, ?_⟩
    rw [UInt32.toNat_add]
    have hShift : ('A'.val - 'a'.val).toNat = 4294967264 := by decide
    rw [hShift]
    omega
  · rename_i h
    rw [UInt32.le_iff_toNat_le, UInt32.le_iff_toNat_le] at h
    exact .inl ⟨rfl, h⟩

private theorem isSpace_toUpper (c : Char) : isSpace c.toUpper = isSpace c := by
  rcases toUpper_cases c with ⟨h, -⟩ | ⟨hLow, hHigh, hUpper⟩
  · rw [h]
  · rw [Bool.eq_iff_iff]
    simp only [isSpace, hUpper, Bool.or_eq_true, Bool.and_eq_true, decide_eq_true_eq, beq_iff_eq]
    omega

private theorem char_toUpper_toUpper (c : Char) : c.toUpper.toUpper = c.toUpper := by
  rcases toUpper_cases c with ⟨h, -⟩ | ⟨hLow, hHigh, hUpper⟩
  · rw [h, h]
  · rcases toUpper_cases c.toUpper with ⟨h, -⟩ | ⟨hLow', -, -⟩
    · exact h
    · omega

theorem trimSpace_toUpper : trimSpace (toUpper s) = toUpper (trimSpace s) := by
  have hSpace : isSpace ∘ Char.toUpper = isSpace := funext isSpace_toUpper
  unfold trimSpace toUpper trimEnd
  simp only [String.toList_ofList, List.dropWhile_map, ← List.map_reverse, hSpace]

theorem toUpper_toUpper : toUpper (toUpper s) = toUpper s := by
  unfold toUpper
  rw [String.toList_ofList, List.map_map]
  congr 1
  exact List.map_congr_left fun c _ => char_toUpper_toUpper c

def toLower (s : String) : String := String.ofList (s.toList.map Char.toLower)

def equalFold (s t : String) : Bool := decide (toLower s = toLower t)

private def takeBytes : Nat → List Char → List Char
  | _, [] => []
  | n, c :: cs => if c.utf8Size ≤ n then c :: takeBytes (n - c.utf8Size) cs else []

/-- The longest beginning of a text that is whole characters and at most `n` bytes. -/
def truncateBytes (n : Nat) (s : String) : String := String.ofList (takeBytes n s.toList)

/-- A decimal integer with an optional sign, as `strconv.Atoi` reads it. -/
def atoi (s : String) : Option Int :=
  let digits (cs : List Char) : Option Int :=
    if cs ≠ [] ∧ cs.all Char.isDigit then
      some (cs.foldl (fun n c => n * 10 + (c.toNat - 48 : Nat)) 0)
    else none
  let value? :=
    match s.toList with
    | '-' :: cs => (digits cs).map fun n => -n
    | '+' :: cs => digits cs
    | cs => digits cs
  value?.filter fun n => -maxInt64 - 1 ≤ n ∧ n ≤ maxInt64

/-- Account status; the source has no third value. -/
inductive UserStatus
  | enabled
  | disabled
  deriving DecidableEq, Repr

inductive Err
  | billingReservationNotFound
  | billingReservationConflict
  | billingReservationFinalized
  | billingAccountNotFound
  | insufficientUserQuota
  | insufficientTokenQuota
  | insufficientSubscriptionQuota
  | noActiveSubscription
  | quotaOverflow
  | userPaymentFreezeOpen
  | billingReservationReviewRequired
  | billingReservationVersionConflict
  | billingAdminResolutionConflict
  | billingAdminResolutionInvalid
  | taskNotPersisted
  | subscriptionPurchaseLimit
  | subscriptionOrderSnapshotMissing
  | topUpStatusInvalid
  | paymentQuoteNotFound
  | paymentQuoteExpired
  | paymentQuoteConsumed
  | paymentOrderNotFound
  | paymentEventConflict
  | paymentEventInvalid
  | paymentManualReview
  | paymentAmountMismatch
  | paymentCurrencyMismatch
  | paymentProviderMismatch
  | paymentMethodMismatch
  | paymentIdempotencyConflict
  | paymentInFlightOrderLimit
  | paymentUserUnavailable
  | paymentTradeNoCollision
  | paymentTerminalAdminDecision
  | paymentConfigurationVersionConflict
  | paymentTaskLeaseLost
  | paymentSingleLimitExceeded
  | paymentDailyLimitExceeded
  | paymentLimitDayBoundary
  | paymentAuditInvalid
  | paymentAuditNotFound
  | paymentAuditConflict
  | legacyPaymentContractUnavailable
  | legacySubscriptionContractUnavailable
  | legacyTopUpQuotaSnapshotUnavailable
  /-- The row a query requires does not exist. -/
  | recordNotFound
  /-- A unique index rejected an insert. -/
  | duplicatedKey
  /-- A recursion of the model ran out of fuel; no such error exists in the source. -/
  | outOfFuel
  | new (text : String)
  /-- An error with a detail appended, as `fmt.Errorf` builds with `%w: detail`. -/
  | wrap (cause : Err) (detail : String)
  /-- Two causes at once, as `fmt.Errorf` builds with `%w: %w`. -/
  | join (outer inner : Err)
  deriving DecidableEq, Repr

def Err.is (e target : Err) : Bool :=
  decide (e = target) ||
    match e with
    | .wrap cause _ => cause.is target
    | .join outer inner => outer.is target || inner.is target
    | _ => false

def Err.text : Err → String
  | billingReservationNotFound => "billing reservation not found"
  | billingReservationConflict => "billing reservation conflicts with the existing request"
  | billingReservationFinalized => "billing reservation is already finalized"
  | billingAccountNotFound => "billing account not found"
  | insufficientUserQuota => "insufficient user quota"
  | insufficientTokenQuota => "insufficient token quota"
  | insufficientSubscriptionQuota => "insufficient subscription quota"
  | noActiveSubscription => "no active subscription"
  | quotaOverflow => "quota update exceeds the supported range"
  | userPaymentFreezeOpen => "user has unresolved payment or billing liability"
  | billingReservationReviewRequired =>
    "billing reservation must be marked for administrator review"
  | billingReservationVersionConflict => "billing reservation version has changed"
  | billingAdminResolutionConflict =>
    "billing reservation admin resolution conflicts with an existing action"
  | billingAdminResolutionInvalid => "invalid billing reservation admin resolution"
  | taskNotPersisted => "task is not persisted"
  | subscriptionPurchaseLimit => "已达到该套餐购买上限"
  | subscriptionOrderSnapshotMissing =>
    "subscription order snapshot missing; manual review required"
  | topUpStatusInvalid => "topup status invalid"
  | paymentQuoteNotFound => "payment quote not found"
  | paymentQuoteExpired => "payment quote expired"
  | paymentQuoteConsumed => "payment quote already consumed"
  | paymentOrderNotFound => "payment order not found"
  | paymentEventConflict => "payment event payload conflict"
  | paymentEventInvalid => "invalid normalized payment event"
  | paymentManualReview => "payment requires manual review"
  | paymentAmountMismatch => "payment amount mismatch"
  | paymentCurrencyMismatch => "payment currency mismatch"
  | paymentProviderMismatch => "payment provider identity mismatch"
  | paymentMethodMismatch => "payment method mismatch"
  | paymentIdempotencyConflict => "payment request id was reused for a different quote"
  | paymentInFlightOrderLimit => "too many in-flight payment orders for this provider"
  | paymentUserUnavailable => "payment user is no longer available"
  | paymentTradeNoCollision => "payment trade number collision limit reached"
  | paymentTerminalAdminDecision => "payment was rejected or voided by an administrator"
  | paymentConfigurationVersionConflict => "payment configuration version conflict"
  | paymentTaskLeaseLost => "payment task lease lost"
  | paymentSingleLimitExceeded => "payment amount exceeds the channel single-payment limit"
  | paymentDailyLimitExceeded => "payment channel daily limit is unavailable"
  | paymentLimitDayBoundary =>
    "payment order would cross the configured daily limit boundary"
  | paymentAuditInvalid => "invalid payment audit action"
  | paymentAuditNotFound => "payment audit subject not found"
  | paymentAuditConflict => "payment audit state conflict"
  | legacyPaymentContractUnavailable =>
    "legacy payment contract cannot be reconstructed safely"
  | legacySubscriptionContractUnavailable =>
    "legacy subscription contract snapshot is unavailable"
  | legacyTopUpQuotaSnapshotUnavailable => "legacy top-up quota snapshot is unavailable"
  | recordNotFound => "record not found"
  | duplicatedKey => "duplicated key not allowed"
  | outOfFuel => ""
  | new text => text
  | wrap cause detail => cause.text ++ ": " ++ detail
  | join outer inner => outer.text ++ ": " ++ inner.text

end XyApi
