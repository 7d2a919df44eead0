import XyApi.Payment.FreezeHistory
import XyApi.Payment.ResolutionPrograms

/-!
Resolving transactions at read committed isolation. Each statement of the system is
a move of the race for the release. The search for other open liabilities runs before
the account row is locked, so two transactions can each still see the liability of
the other and both leave the freeze behind.
-/

namespace XyApi.Payment

open Lib Lib.ReadCommitted Lib.Calendar Billing

section Race

variable {ι : Type} [DecidableEq ι] [Fintype ι] {u : Int} {s₀ : UserStatus} {k : LiabilityKey}

abbrev FreezeSession : Type := Session Database FreezeRow

structure Hides (u : Int) (k : LiabilityKey) (session : FreezeSession) : Prop where
  written : ∃ w ∈ session.writes, w.1.isLiability = true
  view : ∀ db, freezeState u (session.view db) = (freezeState u db).map (·.closed k)

def At (u : Int) (k : LiabilityKey) (s₀ : UserStatus) (session : FreezeSession) : Stage → Prop
  | .before => session.outcome = .running ∧ Closing u k s₀ session.program ∧
      ∀ db, freezeState u (session.view db) = freezeState u db
  | .checking => session.outcome = .running ∧ Checks u s₀ session.program ∧ Hides u k session
  | .lifting => session.outcome = .running ∧ Lifts u s₀ session.program ∧ Hides u k session
  | .ended => session.outcome = .running ∧ Ends u session.program ∧ Hides u k session
  | .lifted => session.outcome = .running ∧ Ends u session.program ∧
      (∃ w ∈ session.writes, w.1.isLiability = true) ∧
      ∀ db s, freezeState u db = some s → s.Loose s₀ →
        freezeState u (session.view db) = some ((s.closed k).restored s₀)
  | .committed => session.outcome = .committed
  | .failed => session.outcome = .rolledBack

theorem At.written (h : At u k s₀ session stage) (hHidden : stage.Hidden) :
    ∃ w ∈ session.writes, w.1.isLiability = true := by
  cases stage with
  | checking | lifting | ended => exact h.2.2.written
  | lifted => exact h.2.2.1
  | before | committed | failed => exact hHidden.elim

structure Simulates (u : Int) (key : ι → LiabilityKey) (s₀ : UserStatus)
    (sys : System Database FreezeRow ι) (r : Race LiabilityKey ι) : Prop where
  account : freezeState u sys.committed = some r.account
  sessions : ∀ i, At u (key i) s₀ (sys.sessions i) (r.stage i)

/-- No other transaction has closed a liability that it has not committed. -/
def Undisturbed (sys : System Database FreezeRow ι) (i : ι) : Prop :=
  (sys.sessions i).program.isSelect = true →
    ∀ j, j ≠ i → ∀ w ∈ (sys.sessions j).writes, w.1.isLiability = false

instance (sys : System Database FreezeRow ι) (i : ι) : Decidable (Undisturbed sys i) :=
  inferInstanceAs (Decidable (_ → ∀ _, _))

variable {key : ι → LiabilityKey} {r : Race LiabilityKey ι}
  {i : ι}

omit [Fintype ι] in
theorem Simulates.set (h : Simulates u key s₀ sys r) (stage : Stage)
    (hAt : At u (key i) s₀ session stage) :
    Simulates u key s₀ (sys.set i session) (r.set i stage) where
  account := h.account
  sessions j := by
    simp only [System.set, Race.set_stage, Function.update_apply]
    split
    · next hji => subst hji; exact hAt
    · exact h.sessions j

/-- A step of the transaction `i` to `sys'` is a move of the race. -/
def Moves (u : Int) (key : ι → LiabilityKey) (s₀ : UserStatus) (r : Race LiabilityKey ι) (i : ι)
    (sys' : System Database FreezeRow ι) : Prop :=
  ∃ r', Race.Move key s₀ r i r' ∧ Simulates u key s₀ sys' r'

omit [DecidableEq ι] [Fintype ι] in
theorem Simulates.at (h : Simulates u key s₀ sys r) (hStage : r.stage i = stage) :
    At u (key i) s₀ (sys.sessions i) stage :=
  hStage ▸ h.sessions i

omit [Fintype ι] in
theorem Simulates.stay (h : Simulates u key s₀ sys r) (hStage : r.stage i = stage)
    (hAt : At u (key i) s₀ session stage) : Moves u key s₀ r i (sys.set i session) := by
  have hSame : r.set i stage = r := by simp [Race.set, ← hStage]
  exact ⟨r, .stay, hSame ▸ h.set stage hAt⟩

omit [Fintype ι] in
/-- A rollback leaves the liability to nobody. -/
theorem Simulates.fail (h : Simulates u key s₀ sys r) (hStage : r.stage i ≠ .committed) :
    Moves u key s₀ r i (sys.set i ((sys.sessions i).ended .rolledBack)) :=
  ⟨_, .fail hStage, h.set .failed rfl⟩

theorem Hides.append (h : Hides u k session) (hNeutral : Neutral u change)
    (hWrites : session'.writes = session.writes ++ [(row, change)]) : Hides u k session' where
  written := by
    obtain ⟨w, hw, hIs⟩ := h.written
    exact ⟨w, by rw [hWrites]; exact List.mem_append_left _ hw, hIs⟩
  view db := by rw [Session.view_append session hWrites, hNeutral, h.view]

omit [Fintype ι] in
/-- Before a transaction has closed its liability. -/
theorem Simulates.before (h : Simulates u key s₀ sys r) (hSafe : r.Safe key s₀)
    (hAdvance : Advance sys i sys') (hStage : r.stage i = .before) :
    Moves u key s₀ r i sys' := by
  obtain ⟨hRunning, hClosing, hView⟩ := h.at hStage
  cases hAdvance with
  | waits => exact ⟨r, .stay, h⟩
  | commit hProgram => simp [hProgram, Closing] at hClosing
  | rollback => exact h.fail (by simp [hStage])
  | select hProgram => simp [hProgram, Closing] at hClosing
  | lock hProgram =>
    rw [hProgram] at hClosing
    refine h.stay hStage ⟨hRunning, hClosing _ ?_, hView⟩
    have hSees := (hView sys.committed).trans h.account
    rw [← liabilities_of_freezeState hSees]
    obtain ⟨l, hl⟩ := Option.ne_none_iff_exists'.mp (hSafe.stillOpen i (by simp [hStage]))
    rw [hl, hSafe.remembered _ l hl]
  | update hProgram =>
    rw [hProgram] at hClosing
    rcases hClosing with ⟨-, hNeutral, hRest⟩ | ⟨hRow, hCloses, hChecks⟩
    · exact h.stay hStage ⟨hRunning, hRest, fun db => by
        rw [Session.view_append (sys.sessions i) rfl, hNeutral, hView]⟩
    · refine ⟨_, .close hStage, h.set .checking ⟨hRunning, hChecks, ?_, fun db => ?_⟩⟩
      · exact ⟨_, List.mem_append_right _ (List.mem_singleton_self _), hRow⟩
      · rw [Session.view_append (sys.sessions i) rfl, hCloses, hView]

omit [Fintype ι] in
/-- While it looks for other liabilities. -/
theorem Simulates.checking (h : Simulates u key s₀ sys r) (hSafe : r.Safe key s₀)
    (hGuard : Undisturbed sys i) (hAdvance : Advance sys i sys') (hStage : r.stage i = .checking) :
    Moves u key s₀ r i sys' := by
  obtain ⟨hRunning, hChecks, hHides⟩ := h.at hStage
  have hSees : freezeState u ((sys.sessions i).view sys.committed) =
      some (r.account.closed (key i)) := by
    rw [hHides.view, h.account, Option.map_some]
  cases hAdvance with
  | waits => exact ⟨r, .stay, h⟩
  | commit hProgram => simp [hProgram, Checks] at hChecks
  | rollback hProgram => simp [hProgram, Checks] at hChecks
  | update hProgram => simp [hProgram, Checks] at hChecks
  | select hProgram =>
    rw [hProgram] at hChecks
    rcases hChecks _ with hGoesOn | ⟨hOpen, hEnds⟩
    · exact h.stay hStage ⟨hRunning, hGoesOn, hHides.written, hHides.view⟩
    · obtain ⟨k', l, hl⟩ := (anyOpen_iff hSees).mpr hOpen
      rw [FreezeState.closed_liabilities] at hl
      split at hl
      · cases hl
      · next hOther =>
          refine ⟨_, .skip hStage k' hOther (by simp [hl]) fun j hj hHidden => ?_,
            h.set .ended ⟨hRunning, hEnds, hHides.written, hHides.view⟩⟩
          obtain ⟨w, hw, hIs⟩ := (h.sessions j).written hHidden
          simp [hGuard (by rw [hProgram]; rfl) j hj w hw] at hIs
  | lock hProgram =>
    rw [hProgram] at hChecks
    rcases hChecks _ _ hSees hSafe.loose with ⟨hFree, hEnds⟩ | hLifts
    · exact ⟨_, .unfrozen hStage hFree,
        h.set .ended ⟨hRunning, hEnds, hHides.written, hHides.view⟩⟩
    · exact ⟨_, .found hStage,
        h.set .lifting ⟨hRunning, hLifts, hHides.written, hHides.view⟩⟩

omit [Fintype ι] in
/-- At the statement that lifts the freeze. -/
theorem Simulates.lifting (h : Simulates u key s₀ sys r) (hAdvance : Advance sys i sys')
    (hStage : r.stage i = .lifting) :
    Moves u key s₀ r i sys' := by
  obtain ⟨hRunning, hLifts, hHides⟩ := h.at hStage
  cases hAdvance with
  | waits => exact ⟨r, .stay, h⟩
  | commit hProgram | rollback hProgram | select hProgram | lock hProgram =>
    simp [hProgram, Lifts] at hLifts
  | update hProgram =>
    rw [hProgram] at hLifts
    obtain ⟨-, hRestores, hEnds⟩ := hLifts
    obtain ⟨w, hw, hIs⟩ := hHides.written
    refine ⟨_, .lift hStage, h.set .lifted
      ⟨hRunning, hEnds, ⟨w, List.mem_append_left _ hw, hIs⟩, fun db s hs hLoose => ?_⟩⟩
    rw [Session.view_append (sys.sessions i) rfl]
    exact hRestores _ _ (by rw [hHides.view, hs, Option.map_some]) hLoose

omit [Fintype ι] in
/-- After the transaction is done with the account. -/
theorem Simulates.ended (h : Simulates u key s₀ sys r) (hAdvance : Advance sys i sys')
    (hStage : r.stage i = .ended) :
    Moves u key s₀ r i sys' := by
  obtain ⟨hRunning, hEnds, hHides⟩ := h.at hStage
  cases hAdvance with
  | waits => exact ⟨r, .stay, h⟩
  | select hProgram => simp [hProgram, Ends] at hEnds
  | rollback => exact h.fail (by simp [hStage])
  | lock hProgram =>
    rw [hProgram] at hEnds
    exact h.stay hStage ⟨hRunning, hEnds _, hHides.written, hHides.view⟩
  | update hProgram =>
    rw [hProgram] at hEnds
    exact h.stay hStage ⟨hRunning, hEnds.2.2, hHides.append hEnds.2.1 rfl⟩
  | commit =>
    have hCommitted : At u (key i) s₀ ((sys.sessions i).ended .committed) .committed := rfl
    refine ⟨_, .commit hStage, ?_, (h.set .committed hCommitted).sessions⟩
    rw [hHides.view, h.account, Option.map_some]

omit [Fintype ι] in
theorem Simulates.lifted (h : Simulates u key s₀ sys r) (hSafe : r.Safe key s₀)
    (hAdvance : Advance sys i sys') (hStage : r.stage i = .lifted) :
    Moves u key s₀ r i sys' := by
  obtain ⟨hRunning, hEnds, ⟨w, hw, hIs⟩, hView⟩ := h.at hStage
  cases hAdvance with
  | waits => exact ⟨r, .stay, h⟩
  | select hProgram => simp [hProgram, Ends] at hEnds
  | rollback => exact h.fail (by simp [hStage])
  | lock hProgram =>
    rw [hProgram] at hEnds
    exact h.stay hStage ⟨hRunning, hEnds _, ⟨w, hw, hIs⟩, hView⟩
  | update hProgram =>
    rw [hProgram] at hEnds
    refine h.stay hStage
      ⟨hRunning, hEnds.2.2, ⟨w, List.mem_append_left _ hw, hIs⟩, fun db s hs hLoose => ?_⟩
    rw [Session.view_append (sys.sessions i) rfl, hEnds.2.1]
    exact hView db s hs hLoose
  | commit =>
    have hCommitted : At u (key i) s₀ ((sys.sessions i).ended .committed) .committed := rfl
    exact ⟨_, .restore hStage, hView _ _ h.account hSafe.loose,
      (h.set .committed hCommitted).sessions⟩

/-- One statement of the system is one move of the race. -/
theorem Simulates.step (h : Simulates u key s₀ sys r) (hSafe : r.Safe key s₀)
    (hGuard : Undisturbed sys i) : Moves u key s₀ r i (sys.step i) := by
  rcases step_cases sys i with hSame | ⟨hRunning, hAdvance⟩
  · exact ⟨r, .stay, by rw [hSame]; exact h⟩
  · cases hStage : r.stage i with
    | before => exact h.before hSafe hAdvance hStage
    | checking => exact h.checking hSafe hGuard hAdvance hStage
    | lifting => exact h.lifting hAdvance hStage
    | lifted => exact h.lifted hSafe hAdvance hStage
    | ended => exact h.ended hAdvance hStage
    | committed | failed =>
      have hAt := h.at hStage
      simp [At, hRunning] at hAt

/-- The transactions have been started and nothing has happened yet. -/
def resolving (db : Database) (resolutions : ι → Resolution) : System Database FreezeRow ι where
  committed := db
  sessions i := { program := (resolutions i).program }

omit [DecidableEq ι] [Fintype ι] in
theorem simulates_resolving (hs : freezeState u db = some s) :
    Simulates u (fun i => (resolutions i).key) s₀ (resolving db resolutions)
      ⟨s, fun _ => .before⟩ where
  account := hs
  sessions i := ⟨rfl, (resolutions i).program_closing, fun _ => rfl⟩

omit [DecidableEq ι] [Fintype ι] in
theorem safe_of_balanced (h : s.Balanced s₀) (hKeys : ∀ i, s.liabilities (key i) ≠ none) :
    Race.Safe key s₀ ⟨s, fun _ : ι => .before⟩ where
  loose := by
    unfold FreezeState.Loose
    by_cases hOpen : s.AnyOpen
    · rw [if_pos (h.whileOpen hOpen).2]
      exact (h.whileOpen hOpen).1
    · rw [if_neg (by simp [(h.otherwise hOpen).2])]
      exact (h.otherwise hOpen).1
  remembered := h.remembered
  stillOpen i _ := hKeys i
  closed i hi := by cases hi
  hope hFrozen := by
    by_cases hSome : Nonempty ι
    · exact .inl ⟨hSome.some, trivial⟩
    · refine .inr ?_
      by_cases hOpen : s.AnyOpen
      · obtain ⟨k, l, hl⟩ := hOpen
        exact ⟨k, by simp [hl], fun i => absurd ⟨i⟩ hSome⟩
      · have hFrozen' : s.frozen = true := hFrozen
        simp [(h.otherwise hOpen).2] at hFrozen'

theorem refund_serial_reserved : ∃ r db' db₁,
    refundBillingReservation "a" 30 sampleReserved = .ok (r, db') ∧
      (Resolution.refund (trimSpace "a") 30).program.serial sampleReserved = some db₁ ∧
      steady.rel db₁ db' :=
  ⟨_, _, _, rfl, (refund_serial rfl rfl rfl).choose_spec⟩

def sampleShortfalls : Database where
  users := .single { id := 1 }
  reservations := ⟨["a", "b"].map fun requestId => {
    requestId := requestId, userId := 1, tokenId := 0, fundingSource := .subscription
    initialQuota := 10, reservedQuota := 10, tokenMode := .skipped, status := .reserved
    version := 1 }, by decide⟩

def sampleFreezes : List Operation :=
  ["a", "b"].map fun requestId =>
    .billing (.markShortfall requestId 15 "insufficient_subscription_quota" 20)

def sampleRefunds (i : Fin 2) : Resolution := .refund (if i = 0 then "a" else "b") 30

end Race

end XyApi.Payment
