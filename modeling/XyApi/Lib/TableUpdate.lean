import Mathlib.Algebra.Group.Prod
import XyApi.Lib.Table

/-!
Updates of many rows. A loop that updates selected rows one after the other is one
update of them all, and what the update does to a total is read off row by row.
-/

namespace XyApi.Lib.Table

variable {α κ : Type} {key : α → κ}

theorem rows_updateWhere (t : Table key) (p : α → Bool) (f : α → α)
    (hf : ∀ a, key (f a) = key a) :
    (t.updateWhere p f hf).rows = t.rows.map fun a => if p a then f a else a := rfl

theorem updateWhere_congr {t : Table key} {p q : α → Bool} {f : α → α}
    {hf : ∀ a, key (f a) = key a} (h : ∀ a ∈ t.rows, p a = q a) :
    t.updateWhere p f hf = t.updateWhere q f hf :=
  ext_rows (List.map_congr_left fun a ha => by rw [h a ha])

section Keys

variable [DecidableEq κ]

/-- A row with a new key can be inserted. -/
theorem exists_insert? {t : Table key} {a : α} (h : t.get? (key a) = none) :
    ∃ t', t.insert? a = some t' ∧ t'.rows = t.rows ++ [a] := by
  cases hInsert : t.insert? a with
  | some t' => exact ⟨t', rfl, (rows_insert? hInsert).1⟩
  | none =>
    obtain ⟨b, hb⟩ := insert?_eq_none_iff.mp hInsert
    rw [h] at hb
    cases hb

/-- Of two rows written in one place the second stays. -/
theorem put_put {t : Table key} {a b : α} (h : key a = key b) : (t.put a).put b = t.put b := by
  refine ext_rows ?_
  simp only [put, List.map_map]
  refine List.map_congr_left fun c _ => ?_
  simp only [Function.comp_apply, h]
  split <;> simp [*]

/-- An update of the row with one key puts the updated row in its place. -/
theorem updateWhere_eq_put {t : Table key} {a : α} (h : t.get? (key a) = some a)
    {p : α → Bool} (hp : ∀ b, p b = true ↔ key b = key a) (f : α → α)
    (hf : ∀ a, key (f a) = key a) : t.updateWhere p f hf = t.put (f a) := by
  refine ext_rows (List.map_congr_left fun b hb => ?_)
  simp only [hp, hf]
  split
  · next hKey =>
      rw [mem_iff_get?, hKey, h, Option.some.injEq] at hb
      rw [hb]
  · rfl

/-- Updating selected rows one after the other updates them all at once. -/
theorem foldl_put_eq_updateWhere {t : Table key} {rows : List α} (f : α → α)
    (hf : ∀ a, key (f a) = key a) (hNodup : (rows.map key).Nodup)
    (hRows : ∀ a ∈ rows, t.get? (key a) = some a) :
    (rows.map f).foldl put t = t.updateWhere (fun b => key b ∈ rows.map key) f hf := by
  induction rows generalizing t with
  | nil => exact ext_rows (by simp [rows_updateWhere])
  | cons a rows ih =>
    rw [List.map_cons, List.nodup_cons] at hNodup
    have hHead := hRows a List.mem_cons_self
    have hRest : ∀ b ∈ rows, (t.put (f a)).get? (key b) = some b := by
      intro b hb
      have hne : key b ≠ key (f a) := fun hEq =>
        hNodup.1 (List.mem_map.mpr ⟨b, hb, hEq.trans (hf a)⟩)
      rw [get?_put_of_ne hne]
      exact hRows b (List.mem_cons_of_mem _ hb)
    rw [List.map_cons, List.foldl_cons, ih hNodup.2 hRest,
      ← updateWhere_eq_put hHead (fun _ => decide_eq_true_iff) f hf]
    refine ext_rows ?_
    simp only [rows_updateWhere, List.map_map]
    refine List.map_congr_left fun b _ => ?_
    by_cases hKey : key b = key a
    · simp only [Function.comp_apply, decide_eq_true_eq, hKey, if_true, hf, if_neg hNodup.1,
        List.map_cons, List.mem_cons, true_or]
    · simp [hKey]

end Keys

section Sums

variable {M : Type} [AddCommGroup M]

theorem sum_updateWhere (t : Table key) (p : α → Bool) (f : α → α)
    (hf : ∀ a, key (f a) = key a) (w : α → M) :
    (t.updateWhere p f hf).sum w = t.sum fun a => w (if p a then f a else a) := by
  simp only [sum, rows_updateWhere, List.map_map, Function.comp_def]

/-- The weights of the selected rows. -/
theorem sum_filter (t : Table key) (p : α → Bool) (w : α → M) :
    ((t.rows.filter p).map w).sum = t.sum fun a => if p a then w a else 0 := by
  unfold sum
  induction t.rows with
  | nil => rfl
  | cons a rows ih => by_cases hp : p a <;> simp [hp, ih]

theorem sum_add (t : Table key) (v w : α → M) :
    (t.sum fun a => v a + w a) = t.sum v + t.sum w :=
  List.sum_map_add

theorem sum_prod {N : Type} [AddCommGroup N] (t : Table key) (v : α → M) (w : α → N) :
    (t.sum fun a => (v a, w a)) = (t.sum v, t.sum w) := by
  unfold sum
  induction t.rows with
  | nil => rfl
  | cons a rows ih => simp [ih]

theorem sum_ite (t : Table key) (c : Prop) [Decidable c] (w : α → M) :
    (if c then t.sum w else 0) = t.sum fun a => if c then w a else 0 := by
  split
  · rfl
  · exact (sum_eq_zero fun _ _ => rfl).symm

end Sums

end XyApi.Lib.Table
