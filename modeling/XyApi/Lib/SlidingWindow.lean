import Mathlib.Algebra.Order.Group.Int
import Mathlib.Data.List.Basic

/-!
Sliding windows over a log of times. A log in which every entry was made while
fewer than `m` entries were recent has at most `m` entries in any window.
-/

namespace XyApi.Lib.SlidingWindow

def recent (d now : Int) (log : List Int) : Nat := log.countP fun t => now - t < d

def Bounded (m d : Int) (log : List Int) : Prop :=
  ∀ start, (log.countP (fun t => start ≤ t ∧ t < start + d) : Int) ≤ m

theorem bounded_nil (hm : 0 ≤ m) : Bounded m d [] := fun _ => by simpa using hm

theorem recent_append (log log' : List Int) :
    recent d now (log ++ log') = recent d now log + recent d now log' :=
  List.countP_append

theorem recent_eq_zero (h : ∀ t ∈ log, d ≤ now - t) : recent d now log = 0 := by
  refine List.countP_eq_zero.mpr fun t ht => ?_
  have := h t ht
  simp
  omega

theorem recent_eq_length (h : ∀ t ∈ log, now - t < d) : recent d now log = log.length :=
  List.countP_eq_length.mpr fun t ht => by simpa using h t ht

theorem Bounded.append (hBounded : Bounded m d log) (hPast : ∀ t ∈ log, t ≤ now)
    (hRoom : (recent d now log : Int) < m) : Bounded m d (log ++ [now]) := by
  intro start
  have hOld := hBounded start
  rw [List.countP_append]
  by_cases hIn : start ≤ now ∧ now < start + d
  · -- A window that reaches the new entry only holds entries that are still recent.
    have hLe : log.countP (fun t => start ≤ t ∧ t < start + d) ≤ recent d now log := by
      refine List.countP_mono_left fun t ht hWindow => ?_
      have := hPast t ht
      simp only [decide_eq_true_eq] at hWindow ⊢
      omega
    have hOne : [now].countP (fun t => start ≤ t ∧ t < start + d) = 1 := by simp [hIn]
    rw [hOne]
    omega
  · have hNone : [now].countP (fun t => start ≤ t ∧ t < start + d) = 0 := by simp [hIn]
    rw [hNone]
    simpa using hOld

theorem recent_le_length (d now : Int) (log : List Int) : recent d now log ≤ log.length :=
  List.countP_le_length

/-- In a log without steps back, the window is full exactly when the `n`-th newest entry
is recent. -/
theorem newest_recent_iff (d now : Int) (hn : 0 < n) (hSorted : log.Pairwise (· ≤ ·))
    (hLength : n ≤ log.length) :
    ∃ old, (log.reverse.take n).getLast? = some old ∧
      (now - old < d ↔ n ≤ recent d now log) := by
  have hBackLength : (log.drop (log.length - n)).length = n := by
    rw [List.length_drop]
    omega
  have hSplit := (List.take_append_drop (log.length - n) log).symm
  rw [List.take_reverse]
  generalize log.take (log.length - n) = front at hSplit
  generalize log.drop (log.length - n) = back at hSplit hBackLength
  cases back with
  | nil => simp at hBackLength; omega
  | cons old rest =>
    obtain ⟨-, hBack, hAcross⟩ := List.pairwise_append.mp (hSplit ▸ hSorted)
    refine ⟨old, by simp, fun hOld => ?_, fun hFull => ?_⟩
    · have hLive : ∀ t ∈ old :: rest, now - t < d := fun t ht => by
        rcases List.mem_cons.mp ht with rfl | ht
        · exact hOld
        · have := (List.pairwise_cons.mp hBack).1 t ht
          omega
      rw [hSplit, recent_append, recent_eq_length hLive]
      omega
    · by_contra hOld
      have hFront : ∀ t ∈ front ++ [old], d ≤ now - t := fun t ht => by
        rcases List.mem_append.mp ht with ht | ht
        · have := hAcross t ht old List.mem_cons_self
          omega
        · rw [List.mem_singleton.mp ht]
          omega
      rw [hSplit, List.append_cons, recent_append, recent_eq_zero hFront] at hFull
      have := recent_le_length d now rest
      rw [List.length_cons] at hBackLength
      omega

/-- A run has a first and a last instant. -/
theorem exists_bounds {α : Type} (time : α → Int) (events : List α) :
    ∃ first last : Int, first ≤ last ∧ ∀ e ∈ events, first ≤ time e ∧ time e ≤ last := by
  induction events with
  | nil => exact ⟨0, 0, le_rfl, by simp⟩
  | cons e rest ih =>
    obtain ⟨first, last, hLe, hRest⟩ := ih
    refine ⟨min first (time e), max last (time e), by omega, fun e' he' => ?_⟩
    rcases List.mem_cons.mp he' with rfl | he'
    · omega
    · have := hRest e' he'
      omega

end XyApi.Lib.SlidingWindow
