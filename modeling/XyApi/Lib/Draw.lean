import Mathlib

/-!
Weighted draws and ranks. A draw walks along a list and takes the share of each element
off a number until the rest meets a stop condition. With a stop below zero every element
is met for as many numbers as its share. The levels of a list are its distinct values,
largest first.
-/

namespace XyApi.Lib

section Draw

variable {α : Type} (stop : Int → Bool) (share : α → Nat)

def draw : List α → Int → Option α
  | [], _ => none
  | a :: rest, n => if stop (n - share a) then some a else draw rest (n - share a)

def total (list : List α) : Nat := (list.map share).sum

abbrev belowZero (n : Int) : Bool := n < 0

abbrev atZero (n : Int) : Bool := n ≤ 0

variable {stop share}

theorem mem_of_draw (h : draw stop share list n = some a) : a ∈ list := by
  induction list generalizing n with
  | nil => cases h
  | cons b rest ih =>
    rw [draw] at h
    split at h
    · cases h
      exact List.mem_cons_self
    · exact List.mem_cons_of_mem _ (ih h)

theorem draw_cons_of_lt (rest : List α) (h : n < share a) :
    draw belowZero share (a :: rest) n = some a :=
  if_pos (decide_eq_true (by omega))

theorem draw_cons_add (b : α) (rest : List α) {n : Nat} (hGo : stop n = false) :
    draw stop share (b :: rest) ((share b + n : Nat) : Int) = draw stop share rest n := by
  rw [draw, show ((share b + n : Nat) : Int) - share b = n by omega, if_neg (by simp [hGo])]

/-- Over all numbers below the total, an element is met in proportion to its share. -/
theorem countP_draw [DecidableEq α] :
    (List.range (total share list)).countP (fun n : Nat =>
      draw belowZero share list n = some a) = list.count a * share a := by
  induction list with
  | nil => simp [total]
  | cons b rest ih =>
    rw [total, List.map_cons, List.sum_cons, List.range_add, List.countP_append, List.countP_map,
      List.count_cons, Nat.add_mul, ← ih, Nat.add_comm]
    congr 1
    · refine List.countP_congr fun n _ => ?_
      have hGo : belowZero n = false := decide_eq_false (by omega)
      rw [Function.comp_apply, draw_cons_add b rest hGo]
    · have hFirst : (List.range (share b)).countP (fun n : Nat =>
          draw belowZero share (b :: rest) n = some a) =
          (List.range (share b)).countP fun _ => b == a := by
        refine List.countP_congr fun n hn => ?_
        rw [draw_cons_of_lt rest (List.mem_range.mp hn)]
        simp
      rw [hFirst]
      by_cases hEq : b = a
      · simp [hEq]
      · simp [hEq]

/-- Below the total something is met, if the draw stops below zero at the latest. -/
theorem exists_draw (hStop : ∀ n < 0, stop n = true) {n : Int} (h : n < total share list)
    (hPos : 0 ≤ n) : ∃ a, draw stop share list n = some a := by
  induction list generalizing n with
  | nil =>
    simp only [total, List.map_nil, List.sum_nil] at h
    omega
  | cons b rest ih =>
    rw [draw]
    split
    · exact ⟨b, rfl⟩
    · next hGo =>
      have hLe : 0 ≤ n - share b := not_lt.mp fun hLt => hGo (hStop _ hLt)
      refine ih ?_ hLe
      simp only [total, List.map_cons, List.sum_cons] at h ⊢
      omega

/-- A draw that stops at zero reaches every element whose share is more than one. -/
theorem exists_draw_eq (hShare : ∀ b, 2 ≤ share b) (hMem : a ∈ list) :
    ∃ n : Nat, 0 < n ∧ n < total share list ∧ draw atZero share list n = some a := by
  induction list with
  | nil => cases hMem
  | cons b rest ih =>
    have hTwo := hShare b
    rw [total, List.map_cons, List.sum_cons]
    rcases List.mem_cons.mp hMem with rfl | hRest
    · exact ⟨1, Nat.one_pos, by omega, if_pos (decide_eq_true (by omega))⟩
    · obtain ⟨n, hPos, hLt, hDraw⟩ := ih hRest
      refine ⟨share b + n, by omega, Nat.add_lt_add_left hLt _, ?_⟩
      have hGo : atZero n = false := decide_eq_false (by omega)
      rw [draw_cons_add b rest hGo, hDraw]

end Draw

/-! ### Levels -/

def levels (values : List Int) : List Int := values.dedup.insertionSort (· ≥ ·)

theorem mem_levels : v ∈ levels values ↔ v ∈ values := by
  rw [levels, List.mem_insertionSort, List.mem_dedup]

/-- The level of a rank; a rank past the last level is the last one. -/
def levelAt (values : List Int) (rank : Nat) : Option Int :=
  (levels values)[min rank ((levels values).length - 1)]?

/-- The levels depend on which values there are, not on how often or where. -/
theorem levelAt_congr (h : ∀ v, v ∈ xs ↔ v ∈ ys) (rank : Nat) :
    levelAt xs rank = levelAt ys rank := by
  have hPerm : xs.dedup.Perm ys.dedup :=
    (List.perm_ext_iff_of_nodup (List.nodup_dedup xs) (List.nodup_dedup ys)).mpr fun v => by
      rw [List.mem_dedup, List.mem_dedup, h]
  have hSorted (values : List Int) : (levels values).Pairwise (· ≥ ·) :=
    List.pairwise_insertionSort _ _
  have hLevels : levels xs = levels ys :=
    List.Perm.eq_of_pairwise' (hSorted xs) (hSorted ys)
      ((List.perm_insertionSort _ _).trans (hPerm.trans (List.perm_insertionSort _ _).symm))
  rw [levelAt, levelAt, hLevels]

theorem exists_levelAt (h : values ≠ []) (rank : Nat) :
    ∃ v ∈ values, levelAt values rank = some v := by
  obtain ⟨v, hv⟩ := List.exists_mem_of_ne_nil values h
  have hPos : 0 < (levels values).length := List.length_pos_of_mem (mem_levels.mpr hv)
  have hLt : min rank ((levels values).length - 1) < (levels values).length := by omega
  exact ⟨_, mem_levels.mp (List.getElem_mem hLt), List.getElem?_eq_getElem hLt⟩

end XyApi.Lib
