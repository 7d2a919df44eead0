import XyApi.Billing.TransactionSpec

/-!
The billing transactions of the program as one type of steps. Each one locks the
rows it needs and commits or fails as a whole, so a history of the program is a
sequence of these, in whatever order the clients got their turns. Calls that are
several transactions, the settlement of a job and a reconciliation pass, are
shown to be nothing more than that.
-/

namespace XyApi.Billing

open Lib Lib.Calendar Subscription

inductive BillingTx
  | preConsume (fuel : Nat) (input : BillingReservationInput) (now : Int)
  | extend (requestId : String) (targetQuota now : Int)
  | prepare (requestId : String) (targetQuota now : Int)
  | advance (requestId : String) (targetQuota now : Int)
  | markShortfall (requestId : String) (targetQuota : Int) (failureCode : String) (now : Int)
  | settle (requestId : String) (actualQuota now : Int)
  | refund (requestId : String) (now : Int)
  | createTask (task : Task) (requestId : String) (targetQuota now : Int)
  | prepareTask (taskId : Int) (requestId : String) (actualQuota now : Int)
  | settleTask (taskId : Int) (requestId : String) (actualQuota now : Int)
  | refundTask (taskId : Int) (requestId : String) (now : Int)
  | updateTask (task : Task) (fromStatus : TaskStatus)
  | claimMidjourney (requestId : String) (now : Int)
  | refundUnclaimedMidjourney (requestId : String) (now : Int)
  | createMidjourney (task : Midjourney) (requestId : String) (targetQuota now : Int)
  | prepareMidjourney (taskId : Int) (requestId : String) (actualQuota now : Int)
  | settleMidjourney (taskId : Int) (requestId : String) (actualQuota now : Int)
  | refundMidjourney (taskId : Int) (requestId : String) (now : Int)
  | updateMidjourney (task : Midjourney) (fromStatus : MidjourneyStatus)
  | review (requestId note : String) (now : Int)
  | resolveByAdmin (input : BillingReservationAdminResolutionInput) (now : Int)

namespace BillingTx

def body (loc : Location) : BillingTx → DbTx Unit
  | preConsume fuel input now => (preConsumeBillingReservation loc fuel input now).void
  | extend requestId targetQuota now => (extendBillingReservation requestId targetQuota now).void
  | prepare requestId targetQuota now =>
    prepareBillingReservationSettlement requestId targetQuota now
  | advance requestId targetQuota now =>
    advanceUnboundBillingReservationSettlementIntent requestId targetQuota now
  | markShortfall requestId targetQuota failureCode now =>
    (markBillingReservationSettlementShortfall requestId targetQuota failureCode now).void
  | settle requestId actualQuota now => (settleBillingReservation requestId actualQuota now).void
  | refund requestId now => (refundBillingReservation requestId now).void
  | createTask task requestId targetQuota now =>
    (createTaskWithBillingReservation task requestId targetQuota now).void
  | prepareTask taskId requestId actualQuota now =>
    prepareTaskBillingReservationSettlement taskId requestId actualQuota now
  | settleTask taskId requestId actualQuota now =>
    (settleJobTx taskKind taskId requestId actualQuota now).void
  | refundTask taskId requestId now => (refundJobTx taskKind taskId requestId now).void
  | updateTask task fromStatus => (updateTaskWithStatus task fromStatus).void
  | claimMidjourney requestId now => (claimMidjourneyBillingReservation requestId now).void
  | refundUnclaimedMidjourney requestId now =>
    (refundUnclaimedMidjourneyBillingReservation requestId now).void
  | createMidjourney task requestId targetQuota now =>
    (createMidjourneyWithBillingReservation task requestId targetQuota now).void
  | prepareMidjourney taskId requestId actualQuota now =>
    prepareMidjourneyBillingReservationSettlement taskId requestId actualQuota now
  | settleMidjourney taskId requestId actualQuota now =>
    (settleJobTx midjourneyKind taskId requestId actualQuota now).void
  | refundMidjourney taskId requestId now =>
    (refundJobTx midjourneyKind taskId requestId now).void
  | updateMidjourney task fromStatus => (updateMidjourneyWithStatus task fromStatus).void
  | review requestId note now => recordBillingReconcileReview requestId note now
  | resolveByAdmin input now => (resolveBillingReservationByAdmin input now).void

/-- The request a transaction locks. The two status updates of jobs lock none. -/
def requestId : BillingTx → Option String
  | preConsume _ input _ => some (trimSpace input.requestId)
  | extend id _ _ | prepare id _ _ | advance id _ _ | markShortfall id _ _ _ | settle id _ _
  | refund id _ | createTask _ id _ _ | claimMidjourney id _ | refundUnclaimedMidjourney id _
  | createMidjourney _ id _ _ => some (trimSpace id)
  | prepareTask _ id _ _ | settleTask _ id _ _ | refundTask _ id _ | prepareMidjourney _ id _ _
  | settleMidjourney _ id _ _ | refundMidjourney _ id _ | review id _ _ => some id
  | updateTask _ _ | updateMidjourney _ _ => none
  | resolveByAdmin input _ => some (trimSpace input.requestId)

def On (t : BillingTx) (rid : String) : Prop := ∀ id ∈ t.requestId, id = rid

theorem exists_on (t : BillingTx) : ∃ rid, t.On rid := by
  cases h : t.requestId with
  | none => exact ⟨"", by simp [On, h]⟩
  | some id => exact ⟨id, by simp [On, h]⟩

def step (loc : Location) (db : Database) (t : BillingTx) : Database := ((t.body loc).commit db).1

end BillingTx

section Simple

variable (loc : Location)

theorem extendBillingReservation_transitions
    (h : extendBillingReservation requestId targetQuota now db = .ok (r, db')) :
    Transitions loc (trimSpace requestId) db db' := by
  obtain ⟨r₀, hRow, ⟨-, rfl⟩ | hAdjust⟩ := extendBillingReservation_ok h
  · exact .refl
  · exact (adjustReservedBillingTx_transitions loc hAdjust hRow).1

theorem prepareSettlementWithMode_transitions
    (h : prepareSettlementWithMode requestId targetQuota mode now db = .ok (u, db')) :
    Transitions loc (trimSpace requestId) db db' := by
  obtain ⟨r, hRow, hPersist⟩ := prepareSettlementWithMode_ok h
  exact persistBillingReservationSettlementIntentTx_transitions loc hPersist hRow

theorem markBillingReservationSettlementShortfall_transitions
    (h : markBillingReservationSettlementShortfall requestId targetQuota code now db =
      .ok (r, db')) :
    Transitions loc (trimSpace requestId) db db' := by
  obtain ⟨r₀, hRow, ⟨-, rfl⟩ | ⟨hStatus, hMore, -, failure, user, previousStatus, ledger, hUser,
    hPrevious, hMarked, hLedger, rfl⟩⟩ := markBillingReservationSettlementShortfall_ok h
  · exact .refl
  · exact .single (.shortfall r₀ r targetQuota failure user previousStatus now hRow hStatus hMore
      hUser hPrevious hMarked hLedger)

theorem settleBillingReservation_transitions
    (h : settleBillingReservation requestId actualQuota now db = .ok (r, db')) :
    Transitions loc (trimSpace requestId) db db' := by
  obtain ⟨r₀, applied, hRow, hSettle⟩ := settleBillingReservation_ok h
  exact (settleBillingReservationTx_transitions loc hSettle hRow).1

theorem refundBillingReservation_transitions
    (h : refundBillingReservation requestId now db = .ok (r, db')) :
    Transitions loc (trimSpace requestId) db db' := by
  obtain ⟨r₀, applied, hRow, hRefund⟩ := refundBillingReservation_ok h
  exact (refundBillingReservationTx_transitions loc hRefund hRow).1

end Simple

/-- Every successful transaction is a sequence of transitions on its request. -/
theorem BillingTx.body_transitions (loc : Location) {t : BillingTx} {rid : String}
    {db db' : Database} {u : Unit} (h : t.body loc db = .ok (u, db')) (hOn : t.On rid) :
    Transitions loc rid db db' := by
  cases t <;> simp only [BillingTx.body, Tx.void_ok_iff] at h <;>
    simp only [BillingTx.On, BillingTx.requestId, Option.mem_def, Option.some.injEq,
      forall_eq', reduceCtorEq, false_implies, implies_true] at hOn <;>
    try (subst hOn)
  case preConsume =>
    obtain ⟨_, h⟩ := h
    rcases preConsumeBillingReservation_ok h with rfl | ⟨hStep, -⟩
    · exact .refl
    · exact .single hStep
  case extend => exact extendBillingReservation_transitions loc h.choose_spec
  case prepare => exact prepareSettlementWithMode_transitions loc h
  case advance => exact prepareSettlementWithMode_transitions loc h
  case markShortfall => exact markBillingReservationSettlementShortfall_transitions loc h.choose_spec
  case settle => exact settleBillingReservation_transitions loc h.choose_spec
  case refund => exact refundBillingReservation_transitions loc h.choose_spec
  case createTask => exact createTaskWithBillingReservation_transitions loc h.choose_spec
  case prepareTask => exact prepareJobSettlementTx_transitions loc h
  case settleTask => exact settleJobTx_transitions loc h.choose_spec
  case refundTask => exact refundJobTx_transitions loc h.choose_spec
  case updateTask => exact updateTaskWithStatus_transitions loc rid h.choose_spec
  case claimMidjourney => exact claimMidjourneyBillingReservation_transitions loc h.choose_spec
  case refundUnclaimedMidjourney =>
    exact refundUnclaimedMidjourneyBillingReservation_transitions loc h.choose_spec
  case createMidjourney =>
    exact createMidjourneyWithBillingReservation_transitions loc h.choose_spec
  case prepareMidjourney => exact prepareJobSettlementTx_transitions loc h
  case settleMidjourney => exact settleJobTx_transitions loc h.choose_spec
  case refundMidjourney => exact refundJobTx_transitions loc h.choose_spec
  case updateMidjourney => exact updateMidjourneyWithStatus_transitions loc rid h.choose_spec
  case review => exact recordBillingReconcileReview_transitions loc h
  case resolveByAdmin => exact resolveBillingReservationByAdmin_transitions loc h.choose_spec

theorem BillingTx.step_transitions (loc : Location) (db : Database) {t : BillingTx} {rid : String}
    (hOn : t.On rid) : Transitions loc rid db (t.step loc db) := by
  exact Tx.commit_preserves .refl fun _ _ h => t.body_transitions loc h hOn

/-- What every transition preserves, every transaction preserves. -/
theorem BillingTx.step_invariant (loc : Location) {P : Database → Prop}
    (hP : ∀ rid db db', Transition loc rid db db' → P db → P db') (db : Database) (t : BillingTx)
    (h : P db) : P (t.step loc db) := by
  obtain ⟨rid, hOn⟩ := t.exists_on
  exact (t.step_transitions loc db hOn).preserve (hP rid) h

/-! ### Calls that are several transactions -/

section Composite

variable (loc : Location)

theorem commit_transitions {α : Type} {rid : String} {x : DbTx α} {db : Database}
    (h : ∀ a db', x db = .ok (a, db') → Transitions loc rid db db') :
    Transitions loc rid db (x.commit db).1 :=
  Tx.commit_preserves (P := Transitions loc rid db) .refl h

/-- Settling a job is its intent transaction and then its settling transaction. -/
theorem settleJob_transitions {J : Type} (kind : JobKind J) (jobId : Int) (requestId : String)
    (actualQuota now : Int) (invalid : Err) (db : Database) :
    Transitions loc (trimSpace requestId) db
      (settleJob kind jobId requestId actualQuota now invalid db).1 := by
  unfold settleJob
  dsimp only
  split
  · exact .refl
  · have hPrepare : Transitions loc (trimSpace requestId) db
        ((prepareJobSettlementTx kind jobId (trimSpace requestId) actualQuota now).commit db).1 :=
      commit_transitions loc fun _ _ h => prepareJobSettlementTx_transitions loc h
    split
    · next hEq => rwa [hEq] at hPrepare
    · next hEq =>
        rw [hEq] at hPrepare
        exact hPrepare.trans (commit_transitions loc fun _ _ h => settleJobTx_transitions loc h)

theorem refundJob_transitions {J : Type} (kind : JobKind J) (jobId : Int) (requestId : String)
    (now : Int) (invalid : Err) (db : Database) :
    Transitions loc (trimSpace requestId) db
      ((refundJob kind jobId requestId now invalid).commit db).1 := by
  refine commit_transitions loc fun _ _ h => ?_
  simp only [refundJob, Tx.failIf_bind_ok_iff] at h
  exact refundJobTx_transitions loc h.2

theorem reviewWith_transitions (requestId note : String) (now : Int) (db : Database)
    (summary : BillingReconcileSummary) :
    Transitions loc requestId db (reviewWith requestId note now (db, summary)).1 :=
  commit_transitions loc fun _ _ h => recordBillingReconcileReview_transitions loc h

/-! A pass reads the reservations first, so a listed row may differ from the stored
one; its id is trimmed for the settlement and used as it is for the review. -/

section Reconcile

variable {P : Database → Prop} {r : BillingReservation}
  (hP : ∀ rid, rid = r.requestId ∨ rid = trimSpace r.requestId →
    ∀ db db', Transition loc rid db db' → P db → P db')
include hP

theorem reviewWith_preserves (note : String) (now : Int) (db : Database)
    (summary : BillingReconcileSummary) (h : P db) :
    P (reviewWith r.requestId note now (db, summary)).1 :=
  (reviewWith_transitions loc _ _ _ _ _).preserve (hP _ (.inl rfl)) h

theorem reconcileJob_preserves {J : Type} (k : ReconcileKind J) (job? : Option J) (now : Int)
    (db : Database) (summary : BillingReconcileSummary) (h : P db) :
    P (reconcileJob k r job? now (db, summary)).1 := by
  have hSettle (jobId target : Int) (invalid : Err) :=
    (settleJob_transitions loc k.kind jobId r.requestId target now invalid db).preserve
      (hP _ (.inr rfl)) h
  have hRefund (jobId : Int) (invalid : Err) :=
    (refundJob_transitions loc k.kind jobId r.requestId now invalid db).preserve
      (hP _ (.inr rfl)) h
  unfold reconcileJob
  cases job? with
  | none => exact reviewWith_preserves loc hP _ _ _ _ h
  | some job =>
    dsimp only
    split
    · have hDone := hSettle (k.id job)
        (reconcileTarget r (k.kind.privateData job) (k.quota job)) k.invalidSettlement
      split
      · next hEq =>
          rw [hEq] at hDone
          exact reviewWith_preserves loc hP _ _ _ _ hDone
      · next hEq => rwa [hEq] at hDone
    · have hDone := hRefund (k.id job) k.invalidRefund
      split
      · next hEq =>
          rw [hEq] at hDone
          exact reviewWith_preserves loc hP _ _ _ _ hDone
      · next hEq => rwa [hEq] at hDone
    · exact reviewWith_preserves loc hP _ _ _ _ h

/-- What transitions on a listed reservation preserve, its treatment preserves. -/
theorem reconcileReservation_preserves (now : Int) (s : Reconciling) (h : P s.1) :
    P (reconcileReservation now s r).1 := by
  unfold reconcileReservation
  dsimp only
  split
  · exact reviewWith_preserves loc hP _ _ _ _ h
  · split
    · exact reconcileJob_preserves loc hP _ _ _ _ _ h
    · split
      · exact reviewWith_preserves loc hP _ _ _ _ h
      · exact reconcileJob_preserves loc hP _ _ _ _ _ h
    · exact reviewWith_preserves loc hP _ _ _ _ h
    · exact reviewWith_preserves loc hP _ _ _ _ h

end Reconcile

/-- What all transitions preserve, a reconciliation pass preserves. -/
theorem reconcileStaleBillingReservations_preserves {P : Database → Prop}
    (hP : ∀ rid db db', Transition loc rid db db' → P db → P db') (cutoffUnix limit now : Int)
    (db : Database) (h : P db) :
    P (reconcileStaleBillingReservations cutoffUnix limit now db).1 := by
  unfold reconcileStaleBillingReservations
  split
  · exact h
  · exact run_invariant (P := fun s : Database × _ => P s.1)
      (fun s r hs => reconcileReservation_preserves loc (fun rid _ => hP rid) now s hs) h _

end Composite

end XyApi.Billing
