import XyApi.Account.Manage
import XyApi.Payment.FreezeSteps

/-!
Whole histories of the freeze of an account. Over any sequence of payment calls and
billing transactions the account is frozen exactly while a liability of it is open
and then gets back the status it had. Once an administrator manages accounts too,
an explicit disable survives the freeze only if no open liability remembers an
enabled account: the request leaves the freeze marker set, and the last liability
to close gives back what it remembers.
-/

namespace XyApi.Payment

open Lib Lib.Calendar Billing Account

/-- A serializable step of the program on the freeze of accounts. -/
inductive Operation
  | billing (tx : BillingTx)
  | payment (env : PaymentEnv) (call : PaymentCall)

def Operation.step (loc : Location) (db : Database) : Operation → Database
  | .billing tx => tx.step loc db
  | .payment env call => call.step env db

theorem Operation.step_freezing (loc : Location) (op : Operation) (db : Database) (u : Int) :
    (freezing u).rel db (op.step loc db) := by
  cases op with
  | billing tx => exact BillingTx.step_freezing loc tx db u
  | payment env call => exact call.step_carried (freezing_carries u) env db

section RoundTrip

variable {u : Int} {loc : Location} {db : Database}

/-- What every step of the machine preserves, an operation preserves. -/
theorem Operation.step_preserves {P : FreezeState LiabilityKey → Prop}
    (hP : ∀ s s', FreezeState.Step s s' → P s → P s') (op : Operation)
    (h : ∃ s, freezeState u db = some s ∧ P s) :
    ∃ s, freezeState u (op.step loc db) = some s ∧ P s := by
  obtain ⟨s, hs, hs₀⟩ := h
  obtain ⟨s', hs', hSteps⟩ := op.step_freezing loc db u s hs
  exact ⟨s', hs', hSteps.preserve hP hs₀⟩

/-- An unfrozen account without liabilities remembers its own status. -/
theorem balanced_of_unfrozen (hUser : db.users.get? u = some user)
    (hUnfrozen : user.paymentFrozen = false) (hNone : ¬ HasOpenLiability db u) :
    ∃ s, freezeState u db = some s ∧ s.Balanced user.status := by
  obtain ⟨s, hs⟩ : ∃ s, freezeState u db = some s := by
    simp [freezeState, hUser]
  have hClosed : ¬ s.AnyOpen := fun hOpen => hNone ((anyOpen_iff hs).mp hOpen)
  refine ⟨s, hs, fun k l hl => absurd ⟨k, l, hl⟩ hClosed, fun hOpen => absurd hOpen hClosed,
    fun _ => ?_⟩
  simp only [freezeState, hUser, Option.map_some] at hs
  cases hs
  exact ⟨rfl, hUnfrozen⟩

/-- Every history keeps the account balanced. -/
theorem balanced_run (loc : Location) {user : User} (hUser : db.users.get? u = some user)
    (hUnfrozen : user.paymentFrozen = false) (hNone : ¬ HasOpenLiability db u)
    (ops : List Operation) :
    ∃ s, freezeState u (run (Operation.step loc) db ops) = some s ∧ s.Balanced user.status :=
  run_invariant (P := fun db => ∃ s, freezeState u db = some s ∧ s.Balanced user.status)
    (fun _ op h => op.step_preserves (fun _ _ hStep => FreezeState.Balanced.step hStep) h)
    (balanced_of_unfrozen hUser hUnfrozen hNone) ops

theorem payment_freeze_round_trip (loc : Location) {db : Database} {u : Int} {user : User}
    (hUser : db.users.get? u = some user) (hUnfrozen : user.paymentFrozen = false)
    (hNone : ¬ HasOpenLiability db u) (ops : List Operation) :
    ∃ user', (run (Operation.step loc) db ops).users.get? u = some user' ∧
      (HasOpenLiability (run (Operation.step loc) db ops) u →
        user'.status = .disabled ∧ user'.paymentFrozen = true) ∧
      (¬ HasOpenLiability (run (Operation.step loc) db ops) u →
        user'.status = user.status ∧ user'.paymentFrozen = false) := by
  obtain ⟨s, hs, hBalanced⟩ := balanced_run loc hUser hUnfrozen hNone ops
  have hIff := anyOpen_iff hs
  obtain ⟨user', hUser', rfl⟩ := Option.map_eq_some_iff.mp hs
  exact ⟨user', hUser', fun hOpen => hBalanced.whileOpen (hIff.mpr hOpen),
    fun hClosed => hBalanced.otherwise fun hOpen => hClosed (hIff.mp hOpen)⟩

def sampleReserved : Database where
  users := .single { id := 1 }
  reservations := ⟨[{
    requestId := "a", userId := 1, tokenId := 0, fundingSource := .wallet, initialQuota := 10
    reservedQuota := 10, tokenMode := .skipped, status := .reserved, version := 1 }], by decide⟩

def sampleShortfall : Operation := .billing (.markShortfall "a" 15 "insufficient_user_quota" 20)

def sampleRefund : Operation := .billing (.refund "a" 30)

theorem payment_freeze_round_trip_shortfall :
    HasOpenLiability (run (Operation.step .utc) sampleReserved [sampleShortfall]) 1 ∧
      ∃ user', (run (Operation.step .utc) sampleReserved
          [sampleShortfall, sampleRefund]).users.get? 1 = some user' ∧
        user'.status = .enabled ∧ user'.paymentFrozen = false := by
  refine ⟨by decide, ?_⟩
  have hUser : sampleReserved.users.get? 1 = some { id := 1 } := rfl
  obtain ⟨user', hUser', -, hClosed⟩ := payment_freeze_round_trip .utc hUser rfl (by decide)
    [sampleShortfall, sampleRefund]
  exact ⟨user', hUser', hClosed (by decide)⟩

end RoundTrip

/-! ### Accounts that an administrator manages -/

/-- A step of the program, the management of accounts included. -/
inductive AccountEvent
  | operation (op : Operation)
  | manage (ctx : ManageContext) (userId : Int) (action : ManageAction)

def AccountEvent.step (loc : Location) (db : Database) : AccountEvent → Database
  | .operation op => op.step loc db
  | .manage ctx userId action => ((manageUser ctx userId action).commit db).1

def AccountEvent.Enables (u : Int) (db : Database) : AccountEvent → Prop
  | .manage _ userId .enable => (findManagedUser userId db).id = u
  | _ => False

section Managed

variable {u userId : Int} {db db' : Database}
  {ctx : ManageContext} {action : ManageAction} {a : Unit}

/-- A request changes the standing of the account it is about, and no liability. -/
theorem manageUser_freezeState (h : manageUser ctx userId action db = .ok (a, db'))
    (hs : freezeState u db = some s) :
    (freezeState u db' = some s ∧ ((findManagedUser userId db).id = u → action ≠ .disable)) ∨
      ((findManagedUser userId db).id = u ∧ action = .disable ∧
        freezeState u db' = some { s with status := .disabled }) ∨
      ((findManagedUser userId db).id = u ∧ action = .enable ∧ ¬ s.AnyOpen ∧
        freezeState u db' = some { s with status := .enabled, frozen := false }) := by
  rcases manageUser_ok h with ⟨rfl, hDisable, -⟩ | ⟨user, row, hFound, rfl, hId, hUser, hStanding⟩
  · exact .inl ⟨hs, fun _ => hDisable⟩
  · rw [← hFound, freezeState_putUser (w := user) (by rw [hId]; exact hUser), hId]
    by_cases hu : user.id = u
    · subst hu
      have hOpen := anyOpen_iff hs
      simp only [freezeState, hUser, Option.map_some] at hs
      cases hs
      generalize row.status = status, row.paymentFrozen = frozen at hStanding
      cases hStanding with
      | disable => exact .inr (.inl ⟨rfl, rfl, by simp⟩)
      | enable hNone =>
        exact .inr (.inr ⟨rfl, rfl, fun hAny => hNone (hOpen.mp hAny), by simp⟩)
      | kept hDisable => exact .inl ⟨by simp, fun _ => hDisable⟩
    · rw [if_neg (Ne.symm hu)]
      exact .inl ⟨hs, fun hIs => absurd hIs hu⟩

theorem AccountEvent.step_tight (e : AccountEvent)
    (h : ∃ s, freezeState u db = some s ∧ s.Tight) :
    ∃ s, freezeState u (e.step loc db) = some s ∧ s.Tight := by
  cases e with
  | operation op => exact op.step_preserves (fun _ _ hStep => FreezeState.Tight.step hStep) h
  | manage =>
    refine Tx.commit_preserves (P := fun db => ∃ s, freezeState u db = some s ∧ s.Tight) h
      fun _ _ hRun => ?_
    obtain ⟨s, hs, hTight⟩ := h
    rcases manageUser_freezeState hRun hs with ⟨hs', -⟩ | ⟨-, -, hs'⟩ | ⟨-, -, -, hs'⟩
    · exact ⟨s, hs', hTight⟩
    · exact ⟨_, hs', hTight.applied, hTight.frozen⟩
    · exact ⟨_, hs', hTight.applied, nofun⟩

theorem AccountEvent.step_held (e : AccountEvent) (hNot : ¬ e.Enables u db)
    (h : ∃ s, freezeState u db = some s ∧ s.Held) :
    ∃ s, freezeState u (e.step loc db) = some s ∧ s.Held := by
  cases e with
  | operation op => exact op.step_preserves (fun _ _ hStep => FreezeState.Held.step hStep) h
  | manage =>
    refine Tx.commit_preserves (P := fun db => ∃ s, freezeState u db = some s ∧ s.Held) h
      fun _ _ hRun => ?_
    obtain ⟨s, hs, hHeld⟩ := h
    rcases manageUser_freezeState hRun hs with ⟨hs', -⟩ | ⟨-, -, hs'⟩ | ⟨hIs, rfl, -⟩
    · exact ⟨s, hs', hHeld⟩
    · exact ⟨_, hs', ⟨hHeld.applied, hHeld.frozen⟩, rfl, hHeld.remembered⟩
    · exact absurd hIs hNot

/-- No open liability of the account remembers that it was enabled. -/
def NothingToRestore (u : Int) (db : Database) : Prop :=
  (∀ d ∈ db.paymentDebts.rows, openDebt u d → d.previousUserStatus ≠ some .enabled) ∧
    ∀ r ∈ db.reservations.rows, openShortfall u r → r.shortfallPreviousStatus ≠ some .enabled
  deriving Decidable

theorem remembered_of_nothingToRestore (hs : freezeState u db = some s) (h : NothingToRestore u db)
    (hl : s.liabilities k = some l) : l.previous ≠ some .enabled := by
  rw [liabilities_of_freezeState hs] at hl
  cases k with
  | inl =>
    obtain ⟨d, hd, rfl⟩ := Option.map_eq_some_iff.mp hl
    obtain ⟨hGet, hOpen⟩ := Option.filter_eq_some_iff.mp hd
    exact h.1 d (Table.mem_of_get? hGet) hOpen
  | inr =>
    obtain ⟨r, hr, rfl⟩ := Option.map_eq_some_iff.mp hl
    obtain ⟨hGet, hOpen⟩ := Option.filter_eq_some_iff.mp hr
    exact h.2 r (Table.mem_of_get? hGet) hOpen

theorem disabled_account_stays_disabled (loc : Location) {db : Database} {u : Int} {user : User}
    (hUser : db.users.get? u = some user) (hUnfrozen : user.paymentFrozen = false)
    (hNone : ¬ HasOpenLiability db u) (before : List AccountEvent) {ctx : ManageContext}
    {userId : Int} {db₁ : Database}
    (hTarget : (findManagedUser userId (run (AccountEvent.step loc) db before)).id = u)
    (hNothing : NothingToRestore u (run (AccountEvent.step loc) db before))
    (hDisable : manageUser ctx userId .disable (run (AccountEvent.step loc) db before) =
      .ok ((), db₁))
    (after : List AccountEvent)
    (hAfter : Guarded (AccountEvent.step loc) (fun db e => ¬ e.Enables u db) db₁ after) :
    ∃ user', (run (AccountEvent.step loc) db₁ after).users.get? u = some user' ∧
      user'.status = .disabled := by
  have hTight : ∃ s, freezeState u (run (AccountEvent.step loc) db before) = some s ∧ s.Tight := by
    refine run_invariant (P := fun db => ∃ s, freezeState u db = some s ∧ s.Tight)
      (fun _ e h => e.step_tight h) ?_ before
    obtain ⟨s, hs, hBalanced⟩ := balanced_of_unfrozen hUser hUnfrozen hNone
    have hClosed : ¬ s.AnyOpen := fun hOpen => hNone ((anyOpen_iff hs).mp hOpen)
    refine ⟨s, hs, fun k l hl => absurd ⟨k, l, hl⟩ hClosed, fun hFrozen => ?_⟩
    rw [(hBalanced.otherwise hClosed).2] at hFrozen
    cases hFrozen
  obtain ⟨s, hs, hTight⟩ := hTight
  have hHeld : ∃ s, freezeState u db₁ = some s ∧ s.Held := by
    rcases manageUser_freezeState hDisable hs with ⟨-, hNot⟩ | ⟨-, -, hs₁⟩ | ⟨-, hAction, -⟩
    · exact absurd rfl (hNot hTarget)
    · exact ⟨_, hs₁, ⟨hTight.applied, hTight.frozen⟩, rfl,
        fun k l hl => remembered_of_nothingToRestore hs hNothing hl⟩
    · cases hAction
  obtain ⟨s', hs', hHeld'⟩ := guarded_invariant
    (P := fun db => ∃ s, freezeState u db = some s ∧ s.Held)
    (fun _ e hNot h => e.step_held hNot h) hHeld hAfter
  obtain ⟨user', hUser', rfl⟩ := Option.map_eq_some_iff.mp hs'
  exact ⟨user', hUser', hHeld'.disabled⟩

def sampleAdmin : ManageContext := { role := 10 }

/-- An account that was disabled before its shortfall is disabled once more. -/
theorem disabled_account_stays_disabled_refund :
    let before : List AccountEvent :=
      [.manage sampleAdmin 1 .disable, .operation sampleShortfall]
    let frozen := run (AccountEvent.step .utc) sampleReserved before
    let disabled := run (AccountEvent.step .utc) sampleReserved
      (before ++ [.manage sampleAdmin 1 .disable])
    (frozen.users.get? 1).map User.paymentFrozen = some true ∧
      ∃ user', (run (AccountEvent.step .utc) disabled
          [.operation sampleRefund]).users.get? 1 = some user' ∧
        user'.status = .disabled := by
  intro before frozen disabled
  have hUser : sampleReserved.users.get? 1 = some { id := 1 } := rfl
  have hDisable : manageUser sampleAdmin 1 .disable frozen = .ok ((), disabled) := by decide
  exact ⟨by decide, disabled_account_stays_disabled .utc hUser rfl (by decide) before
    (by decide) (by decide) hDisable [.operation sampleRefund] ⟨id, trivial⟩⟩

/-- A frozen account is disabled by hand; the refund of its reservation enables it. -/
theorem disable_undone_by_release :
    let frozen := run (AccountEvent.step .utc) sampleReserved [.operation sampleShortfall]
    let disabled := run (AccountEvent.step .utc) frozen [.manage sampleAdmin 1 .disable]
    manageUser sampleAdmin 1 .disable frozen = .ok ((), disabled) ∧
      (frozen.users.get? 1).map User.paymentFrozen = some true ∧
      (disabled.users.get? 1).map User.status = some .disabled ∧
      ((run (AccountEvent.step .utc) disabled [.operation sampleRefund]).users.get? 1).map
        User.status = some .enabled := by
  decide

end Managed

end XyApi.Payment
