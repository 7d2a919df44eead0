import XyApi.Payment.Reversal

/-!
The credit that a partial reversal takes back. It is the rounded share of the
order's credit, so it grows with the reversed amount from nothing to all of the
credit. The saturation report counts the largest quota itself as out of range,
so a credit of exactly that size can be granted and cannot be taken back in full.
-/

namespace XyApi.Payment

open Lib

variable {order : PaymentOrder} {targetAmount : Int}

def reversalShare (order : PaymentOrder) (targetAmount : Int) : Int :=
  decimalDivRound (order.creditQuota * targetAmount) order.expectedAmountMinor

theorem saturateQuota_of_mem (hLow : minInt32 < value) (hHigh : value < maxInt32) :
    saturateQuota value = (value, false) := by
  rw [saturateQuota, if_neg (by omega), if_neg (by omega)]

theorem reversalTargetQuotaTx_eq (hExpected : order.expectedAmountMinor ≠ 0)
    (hNonneg : 0 ≤ reversalShare order targetAmount)
    (hCredit : reversalShare order targetAmount ≤ order.creditQuota)
    (hMax : reversalShare order targetAmount < maxInt32) (db : Database) :
    reversalTargetQuotaTx order targetAmount db =
      .ok (reversalShare order targetAmount, db) := by
  have hLow : minInt32 < reversalShare order targetAmount := by
    unfold minInt32
    omega
  have hSaturate := saturateQuota_of_mem hLow hMax
  unfold reversalTargetQuotaTx
  rw [Tx.failIf_bind_ok_iff]
  refine ⟨hExpected, ?_⟩
  rw [← reversalShare, hSaturate, Tx.failIf_bind_ok_iff]
  exact ⟨by simp only [Bool.false_eq_true, false_or]; omega, rfl⟩

section

variable (hCredit : 0 ≤ order.creditQuota) (hExpected : 0 < order.expectedAmountMinor)
include hCredit hExpected

theorem reversalShare_mono (ha : 0 ≤ a) (h : a ≤ b) :
    reversalShare order a ≤ reversalShare order b :=
  decimalDivRound_mono hExpected (Int.mul_nonneg hCredit ha)
    (Int.mul_le_mul_of_nonneg_left h hCredit)

theorem reversalShare_expected :
    reversalShare order order.expectedAmountMinor = order.creditQuota :=
  decimalDivRound_mul hExpected hCredit

omit hCredit in
theorem reversalShare_zero : reversalShare order 0 = 0 := by
  rw [reversalShare, Int.mul_zero, decimalDivRound_zero hExpected]

theorem reversalShare_mem (ha : 0 ≤ a) (h : a ≤ order.expectedAmountMinor) :
    0 ≤ reversalShare order a ∧ reversalShare order a ≤ order.creditQuota := by
  constructor
  · rw [← reversalShare_zero hExpected]
    exact reversalShare_mono hCredit hExpected le_rfl ha
  · rw [← reversalShare_expected hCredit hExpected]
    exact reversalShare_mono hCredit hExpected ha h

end

def sampleTopUpOrder (creditQuota : Int) : PaymentOrder where
  id := 1
  tradeNo := "T1"
  userId := 1
  orderKind := .topUp
  provider := .epay
  currency := "CNY"
  expectedAmountMinor := 100
  creditQuota := creditQuota

def sampleAwaiting (order : PaymentOrder) : Database where
  users := .single { id := 1 }
  payments := {
    orders := .single order
    topUps := .single {
      id := 1, tradeNo := order.tradeNo, userId := order.userId
      paymentOrderId := some order.id, paymentProvider := some order.provider } }

end XyApi.Payment
