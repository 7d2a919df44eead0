import XyApi.Lib.Transaction
import Mathlib.Data.Fintype.Basic
import Mathlib.Logic.Function.Basic

/-!
Transactions at read committed isolation, statement by statement. A plain select
sees the committed state with the writes of its own transaction; a locking select
and an update wait until no other transaction holds the row, and the row stays held
until the transaction ends. Writes reach the committed state when it commits.
-/

namespace XyApi.Lib.ReadCommitted

/-- What a transaction has left to do; it decides on what its statements return. -/
inductive Program (σ κ : Type)
  | commit
  | rollback
  | select (next : σ → Program σ κ)
  | lock (row : κ) (next : σ → Program σ κ)
  | update (row : κ) (change : σ → σ) (next : Program σ κ)

def Program.isSelect {σ κ : Type} : Program σ κ → Bool
  | select _ => true
  | commit | rollback | lock _ _ | update _ _ _ => false

inductive Outcome
  | running
  | committed
  | rolledBack
  deriving DecidableEq, Repr

structure Session (σ κ : Type) where
  program : Program σ κ
  writes : List (κ × (σ → σ)) := []
  held : List κ := []
  outcome : Outcome := .running

structure System (σ κ ι : Type) where
  committed : σ
  sessions : ι → Session σ κ

def Program.serial {σ κ : Type} : Program σ κ → σ → Option σ
  | commit, s => some s
  | rollback, _ => none
  | select next, s => (next s).serial s
  | lock _ next, s => (next s).serial s
  | update _ change next, s => next.serial (change s)

section Steps

variable {σ κ ι : Type}

def Session.view (session : Session σ κ) (s : σ) : σ :=
  session.writes.foldl (fun s w => w.2 s) s

def Session.ended (session : Session σ κ) (outcome : Outcome) : Session σ κ :=
  { session with writes := [], held := [], outcome := outcome }

theorem Session.view_append (session : Session σ κ) {session' : Session σ κ} {row : κ}
    {change : σ → σ} (h : session'.writes = session.writes ++ [(row, change)]) (s : σ) :
    session'.view s = change (session.view s) := by
  simp [Session.view, h]

variable [DecidableEq κ] [DecidableEq ι]

def System.Free (sys : System σ κ ι) (i : ι) (row : κ) : Prop :=
  ∀ j, j ≠ i → row ∉ (sys.sessions j).held

instance [Fintype ι] (sys : System σ κ ι) (i : ι) (row : κ) : Decidable (sys.Free i row) :=
  inferInstanceAs (Decidable (∀ _, _))

def System.set (sys : System σ κ ι) (i : ι) (session : Session σ κ) : System σ κ ι :=
  { sys with sessions := Function.update sys.sessions i session }

variable [Fintype ι]

/-- The next statement of one session; a statement that has to wait changes nothing. -/
def System.step (sys : System σ κ ι) (i : ι) : System σ κ ι :=
  let session := sys.sessions i
  let view := session.view sys.committed
  if session.outcome ≠ .running then sys
  else match session.program with
  | .commit => { sys.set i (session.ended .committed) with committed := view }
  | .rollback => sys.set i (session.ended .rolledBack)
  | .select next => sys.set i { session with program := next view }
  | .lock row next =>
    if sys.Free i row then
      sys.set i { session with program := next view, held := row :: session.held }
    else sys
  | .update row change next =>
    if sys.Free i row then
      sys.set i { session with
        program := next
        writes := session.writes ++ [(row, change)]
        held := row :: session.held }
    else sys

inductive Advance (sys : System σ κ ι) (i : ι) : System σ κ ι → Prop
  | waits : Advance sys i sys
  | commit (h : (sys.sessions i).program = .commit) :
      Advance sys i { sys.set i ((sys.sessions i).ended .committed) with
        committed := (sys.sessions i).view sys.committed }
  | rollback (h : (sys.sessions i).program = .rollback) :
      Advance sys i (sys.set i ((sys.sessions i).ended .rolledBack))
  | select {next : σ → Program σ κ} (h : (sys.sessions i).program = .select next) :
      Advance sys i (sys.set i { sys.sessions i with
        program := next ((sys.sessions i).view sys.committed) })
  | lock {row : κ} {next : σ → Program σ κ} (h : (sys.sessions i).program = .lock row next) :
      Advance sys i (sys.set i { sys.sessions i with
        program := next ((sys.sessions i).view sys.committed)
        held := row :: (sys.sessions i).held })
  | update {row : κ} {change : σ → σ} {next : Program σ κ}
      (h : (sys.sessions i).program = .update row change next) :
      Advance sys i (sys.set i { sys.sessions i with
        program := next
        writes := (sys.sessions i).writes ++ [(row, change)]
        held := row :: (sys.sessions i).held })

/-- A session that is not running any more stays as it is. -/
theorem step_cases (sys : System σ κ ι) (i : ι) :
    sys.step i = sys ∨ ((sys.sessions i).outcome = .running ∧ Advance sys i (sys.step i)) := by
  by_cases hOutcome : (sys.sessions i).outcome = .running
  · refine .inr ⟨hOutcome, ?_⟩
    unfold System.step
    rw [if_neg (by simpa using hOutcome)]
    cases hProgram : (sys.sessions i).program with
    | commit => exact .commit hProgram
    | rollback => exact .rollback hProgram
    | select => exact .select hProgram
    | lock =>
      dsimp only
      split
      · exact .lock hProgram
      · exact .waits
    | update =>
      dsimp only
      split
      · exact .update hProgram
      · exact .waits
  · exact .inl (if_pos hOutcome)

end Steps

end XyApi.Lib.ReadCommitted
