import Mathlib.Algebra.BigOperators.Group.List.Basic
import Mathlib.Algebra.Order.BigOperators.Group.List
import Mathlib.Data.List.Nodup
import Mathlib.Tactic.Abel

/-!
Relational tables as lists of rows with a unique key. A table carries the proof
that its keys are distinct, so a lookup by key is the row and an update by key
touches one row. Rows stay in insertion order. Nothing here knows what the rows
mean.
-/

namespace XyApi.Lib

structure Table {α κ : Type} (key : α → κ) where
  rows : List α
  nodup : (rows.map key).Nodup

namespace Table

variable {α κ : Type} {key : α → κ}

instance [DecidableEq α] : DecidableEq (Table key) := fun s t =>
  decidable_of_iff (s.rows = t.rows) (by cases s; cases t; simp)

def empty : Table key := ⟨[], by simp⟩

def single (a : α) : Table key := ⟨[a], by simp⟩

@[simp] theorem rows_empty : (empty : Table key).rows = [] := rfl

@[ext] theorem ext_rows {s t : Table key} (h : s.rows = t.rows) : s = t := by
  cases s; cases t; cases h; rfl

def count (t : Table key) (p : α → Bool) : Nat := t.rows.countP p

def sum {M : Type} [AddCommGroup M] (t : Table key) (w : α → M) : M := (t.rows.map w).sum

@[simp] theorem sum_empty {M : Type} [AddCommGroup M] (w : α → M) :
    (empty : Table key).sum w = 0 := rfl

variable [DecidableEq κ]

def get? (t : Table key) (k : κ) : Option α :=
  t.rows.find? fun a => decide (key a = k)

/-- Replace the row that has the key of `a`; a table without it is unchanged. -/
def put (t : Table key) (a : α) : Table key where
  rows := t.rows.map fun b => if key b = key a then a else b
  nodup := by
    have hKeys : (t.rows.map fun b => if key b = key a then a else b).map key =
        t.rows.map key := by
      rw [List.map_map]
      refine List.map_congr_left fun b _ => ?_
      simp only [Function.comp_apply]
      split
      · next h => exact h.symm
      · rfl
    rw [hKeys]
    exact t.nodup

/-- Append a row; `none` is a violation of the unique key. -/
def insert? (t : Table key) (a : α) : Option (Table key) :=
  if h : key a ∈ t.rows.map key then none
  else some ⟨t.rows ++ [a], by
    rw [List.map_append, List.map_singleton]
    exact List.Nodup.append t.nodup (List.nodup_singleton _) (by simpa using h)⟩

def erase (t : Table key) (k : κ) : Table key where
  rows := t.rows.filter fun a => decide (key a ≠ k)
  nodup := (List.Sublist.map key List.filter_sublist).nodup t.nodup

theorem key_of_get? {t : Table key} {k : κ} {a : α} (h : t.get? k = some a) : key a = k := by
  simpa using List.find?_some h

theorem mem_of_get? {t : Table key} {k : κ} {a : α} (h : t.get? k = some a) : a ∈ t.rows :=
  List.mem_of_find?_eq_some h

theorem get?_eq_none_iff {t : Table key} {k : κ} : t.get? k = none ↔ k ∉ t.rows.map key := by
  simp [get?]

theorem get?_of_mem {t : Table key} {a : α} (h : a ∈ t.rows) : t.get? (key a) = some a := by
  cases hGet : t.get? (key a) with
  | none => exact absurd (List.mem_map_of_mem h) (get?_eq_none_iff.mp hGet)
  | some b =>
    have hKey : key b = key a := key_of_get? hGet
    rw [List.inj_on_of_nodup_map t.nodup (mem_of_get? hGet) h hKey]

theorem mem_iff_get? {t : Table key} {a : α} : a ∈ t.rows ↔ t.get? (key a) = some a :=
  ⟨get?_of_mem, mem_of_get?⟩

@[simp] theorem get?_empty (k : κ) : (empty : Table key).get? k = none := rfl

private theorem find?_map_put (rows : List α) (a : α) (k : κ) :
    (rows.map fun b => if key b = key a then a else b).find? (fun b => decide (key b = k)) =
      if k = key a then (rows.find? fun b => decide (key b = k)).map fun _ => a
      else rows.find? fun b => decide (key b = k) := by
  induction rows with
  | nil => simp
  | cons b rows ih =>
    simp only [List.map_cons, List.find?_cons, ih]
    by_cases hb : key b = key a
    · by_cases hk : k = key a
      · simp [hb, hk]
      · have hne : key a ≠ k := fun h => hk h.symm
        simp [hb, hk, hne]
    · by_cases hk : k = key a
      · subst hk; simp [hb]
      · simp [hb, hk]

theorem get?_put (t : Table key) (a : α) (k : κ) :
    (t.put a).get? k = if k = key a then (t.get? k).map fun _ => a else t.get? k :=
  find?_map_put t.rows a k

theorem map_key_put (t : Table key) (a : α) : (t.put a).rows.map key = t.rows.map key := by
  simp only [put, List.map_map]
  refine List.map_congr_left fun b _ => ?_
  simp only [Function.comp_apply]
  split
  · next hKey => exact hKey.symm
  · rfl

theorem exists_get?_put {t : Table key} {a : α} {k : κ} :
    (∃ b, (t.put a).get? k = some b) ↔ ∃ b, t.get? k = some b := by
  rw [get?_put]
  split <;> simp

theorem get?_put_self {t : Table key} {a b : α} (h : t.get? (key a) = some b) :
    (t.put a).get? (key a) = some a := by
  simp [get?_put, h]

theorem get?_put_of_ne {t : Table key} {a : α} {k : κ} (h : k ≠ key a) :
    (t.put a).get? k = t.get? k := by
  simp [get?_put, h]

/-- A column that an update leaves alone. -/
theorem map_get?_put {β : Type} {t : Table key} {a b : α} {f : α → β}
    (h : t.get? (key a) = some b) (hf : f a = f b) (k : κ) :
    ((t.put a).get? k).map f = (t.get? k).map f := by
  rw [get?_put]
  split
  · next hk => subst hk; simp [h, hf]
  · rfl

/-- The same, for the column as a list. -/
theorem map_rows_put {β : Type} {t : Table key} {a b : α} {f : α → β}
    (h : t.get? (key a) = some b) (hf : f a = f b) :
    (t.put a).rows.map f = t.rows.map f := by
  simp only [put, List.map_map]
  refine List.map_congr_left fun c hc => ?_
  simp only [Function.comp_apply]
  split
  · next hKey =>
      have hGet := get?_of_mem hc
      rw [hKey, h] at hGet
      rw [hf, Option.some.inj hGet]
  · rfl

/-- Tables that agree on a column which has the key in it agree on every lookup. -/
theorem map_get?_of_map_rows {β : Type} {s t : Table key} {f : α → β} {g : β → κ}
    (hKey : ∀ a, g (f a) = key a) (h : s.rows.map f = t.rows.map f) (k : κ) :
    (s.get? k).map f = (t.get? k).map f := by
  have hFind (rows : List α) : (rows.find? fun a => decide (key a = k)).map f =
      (rows.map f).find? fun b => decide (g b = k) := by
    rw [List.find?_map]
    congr 2
    funext a
    simp [hKey]
  unfold get?
  rw [hFind, hFind, h]

/-- Such tables still agree after a row with the same columns is written to both. -/
theorem map_rows_put_congr {β : Type} {s t : Table key} {f : α → β} {g : β → κ}
    (hKey : ∀ a, g (f a) = key a) (h : s.rows.map f = t.rows.map f) {a b : α} (hab : f a = f b) :
    (s.put a).rows.map f = (t.put b).rows.map f := by
  have hMap (u : Table key) (c : α) : (u.put c).rows.map f =
      (u.rows.map f).map fun x => if g x = g (f c) then f c else x := by
    simp only [put, List.map_map]
    refine List.map_congr_left fun d _ => ?_
    simp only [Function.comp_apply, hKey]
    split <;> rfl
  rw [hMap, hMap, h, hab]

/-- Writing back the row that is there changes nothing. -/
theorem put_of_get? {t : Table key} {a : α} (h : t.get? (key a) = some a) : t.put a = t := by
  ext1
  conv_rhs => rw [← List.map_id t.rows]
  refine List.map_congr_left fun b hb => ?_
  split
  · next hKey => exact List.inj_on_of_nodup_map t.nodup (mem_of_get? h) hb hKey.symm
  · rfl

theorem rows_insert? {t t' : Table key} {a : α} (h : t.insert? a = some t') :
    t'.rows = t.rows ++ [a] ∧ t.get? (key a) = none := by
  unfold insert? at h
  split at h
  · cases h
  · next hMem =>
      cases h
      exact ⟨rfl, get?_eq_none_iff.mpr hMem⟩

theorem get?_insert? {t t' : Table key} {a : α} (h : t.insert? a = some t') (k : κ) :
    t'.get? k = if k = key a then some a else t.get? k := by
  obtain ⟨hRows, hNone⟩ := rows_insert? h
  unfold get? at hNone ⊢
  rw [hRows, List.find?_append]
  by_cases hk : k = key a
  · subst hk
    simp [hNone]
  · have hne : ¬ key a = k := fun h => hk h.symm
    simp [hk, hne]

theorem get?_of_insert? {t t' : Table key} (h : t.insert? a = some t')
    (hGet : t.get? k = some b) : t'.get? k = some b := by
  rw [get?_insert? h, if_neg, hGet]
  rintro rfl
  cases hGet.symm.trans (rows_insert? h).2

/-- Overwriting a row just inserted is inserting the final row. -/
theorem insert?_put {t t' : Table key} {a a' : α} (h : t.insert? a = some t')
    (hKey : key a' = key a) : t.insert? a' = some (t'.put a') := by
  obtain ⟨hRows, hNone⟩ := rows_insert? h
  have hFresh : key a' ∉ t.rows.map key := hKey ▸ get?_eq_none_iff.mp hNone
  have hSame : (t.rows.map fun b => if key b = key a' then a' else b) = t.rows := by
    conv_rhs => rw [← List.map_id t.rows]
    refine List.map_congr_left fun b hb => if_neg fun hb' => hFresh ?_
    exact hb' ▸ List.mem_map_of_mem hb
  unfold insert?
  rw [dif_neg hFresh]
  congr 1
  ext1
  simp [put, hRows, hSame, ← hKey]

theorem insert?_eq_none_iff {t : Table key} {a : α} :
    t.insert? a = none ↔ ∃ b, t.get? (key a) = some b := by
  rw [← Option.isSome_iff_exists, ← Option.ne_none_iff_isSome, Ne, get?_eq_none_iff]
  unfold insert?
  split <;> simp_all

theorem mem_put {t : Table key} {a b : α} (h : b ∈ (t.put a).rows) : b = a ∨ b ∈ t.rows := by
  obtain ⟨c, hc, hEq⟩ := List.mem_map.mp h
  split at hEq
  · exact .inl hEq.symm
  · exact .inr (hEq ▸ hc)

theorem filter_put_of_not {t : Table key} {a : α} {p : α → Bool}
    (h : ∀ b, key b = key a → p b = false) : (t.put a).rows.filter p = t.rows.filter p := by
  change (t.rows.map fun b => if key b = key a then a else b).filter p = t.rows.filter p
  induction t.rows with
  | nil => rfl
  | cons b rest ih =>
    simp only [List.map_cons, List.filter_cons, ih]
    split
    · next hKey => simp [h a rfl, h b hKey]
    · rfl

theorem get?_erase (t : Table key) (k k' : κ) :
    (t.erase k).get? k' = if k' = k then none else t.get? k' := by
  unfold erase get?
  rw [List.find?_filter]
  split
  · next h => subst h; simp
  · next h =>
      congr 1
      funext a
      by_cases ha : key a = k'
      · simp [ha, h]
      · simp [ha]

def insertOrKeep (t : Table key) (a : α) : Table key := (t.insert? a).getD t

theorem mem_insertOrKeep {t : Table key} {a b : α} (h : b ∈ (t.insertOrKeep a).rows) :
    b = a ∨ b ∈ t.rows := by
  unfold insertOrKeep at h
  cases hInsert : t.insert? a with
  | none => rw [hInsert] at h; exact .inr h
  | some =>
    rw [hInsert] at h
    have hMem : b ∈ t.rows ++ [a] := (rows_insert? hInsert).1 ▸ h
    simpa [or_comm] using hMem

/-- Rewrite the rows that meet a condition; a rewrite keeps the key. -/
def updateWhere (t : Table key) (p : α → Bool) (f : α → α) (hf : ∀ a, key (f a) = key a) :
    Table key where
  rows := t.rows.map fun a => if p a then f a else a
  nodup := by
    have hKeys : (t.rows.map fun a => if p a then f a else a).map key = t.rows.map key := by
      rw [List.map_map]
      refine List.map_congr_left fun a _ => ?_
      simp only [Function.comp_apply]
      split
      · exact hf a
      · rfl
    rw [hKeys]
    exact t.nodup

omit [DecidableEq κ] in
theorem mem_updateWhere {t : Table key} {p : α → Bool} {f : α → α}
    {hf : ∀ a, key (f a) = key a} {b : α} :
    b ∈ (t.updateWhere p f hf).rows ↔ ∃ a ∈ t.rows, (if p a then f a else a) = b := by
  simp [updateWhere]

theorem get?_updateWhere (t : Table key) (p : α → Bool) (f : α → α)
    (hf : ∀ a, key (f a) = key a) (k : κ) :
    (t.updateWhere p f hf).get? k = (t.get? k).map fun a => if p a then f a else a := by
  unfold updateWhere get?
  rw [List.find?_map]
  congr 2
  funext a
  simp only [Function.comp_apply]
  split
  · rw [hf a]
  · rfl

section First

variable [LT κ] [DecidableLT κ]

/-- The row with the least key; the earlier one of two that are not ordered. -/
def least (key : α → κ) : List α → Option α
  | [] => none
  | a :: rest =>
    match least key rest with
    | none => some a
    | some b => if key b < key a then some b else some a

def first? (t : Table key) (p : α → Bool) : Option α := least key (t.rows.filter p)

end First

section Sum

variable {M : Type} [AddCommGroup M]

theorem sum_insert? {t t' : Table key} {a : α} (h : t.insert? a = some t') (w : α → M) :
    t'.sum w = t.sum w + w a := by
  simp [sum, (rows_insert? h).1]

private theorem list_sum_put {rows : List α} (hNodup : (rows.map key).Nodup) {a b : α}
    (hMem : b ∈ rows) (hKey : key b = key a) (w : α → M) :
    ((rows.map fun c => if key c = key a then a else c).map w).sum =
      (rows.map w).sum + (w a - w b) := by
  induction rows with
  | nil => cases hMem
  | cons c rows ih =>
    simp only [List.map_cons, List.nodup_cons, List.mem_map, not_exists, not_and] at hNodup
    by_cases hc : key c = key a
    · have hbc : b = c := by
        rcases List.mem_cons.mp hMem with hEq | hTail
        · exact hEq
        · exact absurd (hKey.trans hc.symm) (hNodup.1 b hTail)
      have hRest : (rows.map fun d => if key d = key a then a else d) = rows := by
        conv_rhs => rw [← List.map_id rows]
        refine List.map_congr_left fun d hd => ?_
        have hd' : key d ≠ key a := fun h => hNodup.1 d hd (h.trans hc.symm)
        simp [hd']
      subst hbc
      simp only [List.map_cons, hc, if_true, List.sum_cons, hRest]
      abel
    · have hTail : b ∈ rows := by
        rcases List.mem_cons.mp hMem with hEq | hTail
        · exact absurd (hEq ▸ hKey) hc
        · exact hTail
      simp only [List.map_cons, hc, if_false, List.sum_cons, ih hNodup.2 hTail]
      abel

theorem sum_put {t : Table key} {a b : α} (h : t.get? (key a) = some b) (w : α → M) :
    (t.put a).sum w = t.sum w + (w a - w b) :=
  list_sum_put t.nodup (mem_of_get? h) (key_of_get? h) w

omit [DecidableEq κ] in
theorem sum_congr {t : Table key} {w w' : α → M} (h : ∀ a ∈ t.rows, w a = w' a) :
    t.sum w = t.sum w' := by
  unfold sum
  rw [List.map_congr_left h]

omit [DecidableEq κ] in
theorem sum_le_sum [PartialOrder M] [IsOrderedAddMonoid M] {t : Table key} {w w' : α → M}
    (h : ∀ a ∈ t.rows, w a ≤ w' a) : t.sum w ≤ t.sum w' :=
  List.sum_le_sum h

omit [DecidableEq κ] in
theorem sum_eq_zero {t : Table key} {w : α → M} (h : ∀ a ∈ t.rows, w a = 0) : t.sum w = 0 := by
  rw [sum_congr h]
  simp [sum]

end Sum

end Table

end XyApi.Lib
