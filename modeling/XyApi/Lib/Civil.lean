

/-!
Facts about civil dates and wall clocks. A day is written as an era of 400 years,
a year of the era that starts in March, and a day of that year; both conversions
are read off that form. A zone is calm when no change of its offset moves the
clock across a midnight and the changes are far enough apart for the two lookups
of `fromLocal`. In such a zone every midnight happens once and is found.
-/

namespace XyApi.Lib.Calendar

/-! ### Conversions -/

section

variable (loc : Location) (t : Int)

/-- A zone in force from `start` (or always) until before `stop` (or forever). -/
structure Zone where
  offset : Int
  start : Option Int
  stop : Option Int
  deriving DecidableEq, Repr

def Zone.Covers (z : Zone) (t : Int) : Prop :=
  (∀ a ∈ z.start, a ≤ t) ∧ ∀ b ∈ z.stop, t < b
  deriving Decidable

/-- Offsets in seconds east of UTC: the first one, then each change in order. -/
structure Location where
  first : Int
  transitions : List (Int × Int)
  increasing : (transitions.map Prod.fst).Pairwise (· < ·)

def Location.utc : Location := ⟨0, [], .nil⟩

def Location.fixed (offset : Int) : Location := ⟨offset, [], .nil⟩

def lookupFrom (offset : Int) (start : Option Int) : List (Int × Int) → Int → Zone
  | [], _ => ⟨offset, start, none⟩
  | (at', next) :: rest, t =>
    if t < at' then ⟨offset, start, some at'⟩ else lookupFrom next (some at') rest t

def Location.lookup : Zone :=
  lookupFrom loc.first none loc.transitions t

/-- Days since the epoch of a proleptic Gregorian date; `d` may leave its month. -/
def daysFromCivil (y m d : Int) : Int :=
  let y := if m ≤ 2 then y - 1 else y
  let era := y / 400
  let yearOfEra := y - era * 400
  let dayOfYear := (153 * ((m + 9) % 12) + 2) / 5 + d - 1
  let dayOfEra := yearOfEra * 365 + yearOfEra / 4 - yearOfEra / 100 + dayOfYear
  era * 146097 + dayOfEra - 719468

structure Civil where
  year : Int
  month : Int
  day : Int
  deriving DecidableEq, Repr

def civilFromDays (days : Int) : Civil :=
  let z := days + 719468
  let era := z / 146097
  let dayOfEra := z - era * 146097
  let yearOfEra := (dayOfEra - dayOfEra / 1460 + dayOfEra / 36524 - dayOfEra / 146096) / 365
  let dayOfYear := dayOfEra - (365 * yearOfEra + yearOfEra / 4 - yearOfEra / 100)
  let shifted := (5 * dayOfYear + 2) / 153
  let month := if shifted < 10 then shifted + 3 else shifted - 9
  { year := yearOfEra + era * 400 + if month ≤ 2 then 1 else 0
    month := month
    day := dayOfYear - (153 * shifted + 2) / 5 + 1 }

def secondsPerDay : Int := 86400

def localSeconds : Int := t + (loc.lookup t).offset

def civilDate : Civil :=
  civilFromDays (localSeconds loc t / secondsPerDay)

def clock : Int := localSeconds loc t % secondsPerDay

def weekday : Int := (localSeconds loc t / secondsPerDay + 4) % 7

def fromLocal (reading : Int) : Int :=
  let zone := loc.lookup reading
  if zone.offset = 0 then reading
  else
    let t := reading - zone.offset
    if zone.Covers t then t else reading - (loc.lookup t).offset

/-- The instant of a civil date and a time of day; months and days may overflow. -/
def date (year month day seconds : Int) : Int :=
  let m := month - 1
  fromLocal loc
    (daysFromCivil (year + m / 12) (m % 12 + 1) day * secondsPerDay + seconds)

def addDate (years months days : Int) : Int :=
  let c := civilDate loc t
  date loc (c.year + years) (c.month + months) (c.day + days) (clock loc t)

end

/-! ### Dates -/

def yearStart (yearOfEra : Int) : Int := 365 * yearOfEra + yearOfEra / 4 - yearOfEra / 100

def yearLength (yearOfEra : Int) : Int :=
  yearStart (yearOfEra + 1) - yearStart yearOfEra + if yearOfEra = 399 then 1 else 0

/-- A day, as era, year of the era and day of the year, each within its range. -/
structure Ordinal where
  era : Int
  year : Int
  day : Int
  year_nonneg : 0 ≤ year
  year_le : year ≤ 399
  day_nonneg : 0 ≤ day
  day_lt : day < yearLength year

namespace Ordinal

def toDays (o : Ordinal) : Int := o.era * 146097 + yearStart o.year + o.day - 719468

def shiftedMonth (o : Ordinal) : Int := (5 * o.day + 2) / 153

end Ordinal

def monthOf (mp : Int) : Int := if mp < 10 then mp + 3 else mp - 9

def yearOf (era year mp : Int) : Int := year + era * 400 + if monthOf mp ≤ 2 then 1 else 0

theorem yearStart_mono (h : a ≤ b) : yearStart a ≤ yearStart b := by
  unfold yearStart
  omega

theorem yearLength_le (y : Int) : yearLength y ≤ 367 := by
  unfold yearLength yearStart
  split <;> omega

section Century

variable {day year century : Int} (h₀ : 0 ≤ day) (h₁ : day < 146096)
  (hCentury : day / 36524 = century) (hYear : year = (day - day / 1460 + century) / 365)

include h₀ h₁ hCentury hYear

/-- Before the last day of the era, the day and its year are in the same century. -/
theorem century_of_day : 0 ≤ century ∧ century ≤ 3 ∧ year / 100 = century := by omega

theorem start_le_day : 365 * year + year / 4 - century ≤ day := by omega

theorem day_lt_next : day < 365 * (year + 1) + (year + 1) / 4 - century := by omega

theorem day_lt_century (hLast : year = 100 * century + 99) :
    day < 365 * (year + 1) + (year + 1) / 4 - (century + 1) + if year = 399 then 1 else 0 := by
  split <;> omega

end Century

/-- The year of the era that the conversion computes contains the day. -/
theorem yearStart_le_of_day (h₀ : 0 ≤ day) (h₁ : day < 146097)
    (hYear : year = (day - day / 1460 + day / 36524 - day / 146096) / 365) :
    0 ≤ year ∧ year ≤ 399 ∧ yearStart year ≤ day ∧ day < yearStart year + yearLength year := by
  have hEnd : yearStart year + yearLength year =
      365 * (year + 1) + (year + 1) / 4 - (year + 1) / 100 + if year = 399 then 1 else 0 := by
    simp only [yearLength, yearStart]
    omega
  rw [hEnd]
  by_cases hLast : day = 146096
  · subst hLast
    obtain rfl : year = 399 := hYear
    decide
  · have hDay : day < 146096 := by omega
    have hYear' : year = (day - day / 1460 + day / 36524) / 365 := by omega
    obtain ⟨hLow, hHigh, hYears⟩ := century_of_day h₀ hDay rfl hYear'
    have hStart := start_le_day h₀ hDay rfl hYear'
    have hNext := day_lt_next h₀ hDay rfl hYear'
    refine ⟨by omega, by omega, by rwa [yearStart, hYears], ?_⟩
    by_cases hTurn : year = 100 * (day / 36524) + 99
    · have hCarry : (year + 1) / 100 = day / 36524 + 1 := by omega
      rw [hCarry]
      exact day_lt_century h₀ hDay rfl hYear' hTurn
    · have hSame : (year + 1) / 100 = day / 36524 := by omega
      rw [hSame]
      split <;> omega

/-- Years of an era do not overlap. -/
theorem year_unique (hb : b ≤ 399) (ha : a ≤ 399) (haStart : yearStart a ≤ day)
    (haEnd : day < yearStart a + yearLength a) (hbStart : yearStart b ≤ day)
    (hbEnd : day < yearStart b + yearLength b) : a = b := by
  have hEnd {x y : Int} (hxy : x < y) (hy : y ≤ 399) :
      yearStart x + yearLength x ≤ yearStart y := by
    have hMono := yearStart_mono (show x + 1 ≤ y from hxy)
    have hx : x ≠ 399 := by omega
    simp only [yearLength, if_neg hx]
    omega
  rcases Int.lt_trichotomy a b with hlt | heq | hgt
  · have := hEnd hlt hb
    omega
  · exact heq
  · have := hEnd hgt ha
    omega

theorem exists_ordinal (n : Int) : ∃ o : Ordinal, o.toDays = n := by
  generalize hDay : (n + 719468) % 146097 = day
  obtain ⟨year, hYear⟩ : ∃ year, year = (day - day / 1460 + day / 36524 - day / 146096) / 365 :=
    ⟨_, rfl⟩
  obtain ⟨h₀, h₁, hStart, hEnd⟩ :=
    yearStart_le_of_day (by omega : 0 ≤ day) (by omega : day < 146097) hYear
  refine ⟨⟨(n + 719468) / 146097, year, day - yearStart year, h₀, h₁, ?_, ?_⟩, ?_⟩
  · omega
  · omega
  · simp only [Ordinal.toDays]
    omega

theorem Ordinal.shiftedMonth_range (o : Ordinal) : 0 ≤ o.shiftedMonth ∧ o.shiftedMonth ≤ 11 := by
  have := o.day_nonneg
  have := o.day_lt
  have := yearLength_le o.year
  unfold Ordinal.shiftedMonth
  omega

theorem civilFromDays_ordinal (o : Ordinal) :
    civilFromDays o.toDays =
      ⟨yearOf o.era o.year o.shiftedMonth, monthOf o.shiftedMonth,
        o.day - (153 * o.shiftedMonth + 2) / 5 + 1⟩ := by
  have hDayOfEra : 0 ≤ yearStart o.year + o.day ∧ yearStart o.year + o.day < 146097 := by
    have hEnd : yearStart o.year + yearLength o.year ≤ 146097 := by
      have hMono := yearStart_mono (show o.year + 1 ≤ 400 from by have := o.year_le; omega)
      have hLast : yearStart 400 = 146096 := by decide
      unfold yearLength
      split <;> omega
    have hFirst := yearStart_mono o.year_nonneg
    have hZero : yearStart 0 = 0 := by decide
    have := o.day_nonneg
    have := o.day_lt
    omega
  have hEra : (o.toDays + 719468) / 146097 = o.era := by
    unfold Ordinal.toDays
    omega
  have hRest : o.toDays + 719468 - o.era * 146097 = yearStart o.year + o.day := by
    unfold Ordinal.toDays
    omega
  have hYear : (yearStart o.year + o.day - (yearStart o.year + o.day) / 1460 +
      (yearStart o.year + o.day) / 36524 - (yearStart o.year + o.day) / 146096) / 365 =
        o.year := by
    obtain ⟨-, hLe, hStart, hEnd⟩ := yearStart_le_of_day hDayOfEra.1 hDayOfEra.2 rfl
    have := o.day_nonneg
    have := o.day_lt
    exact year_unique o.year_le hLe hStart hEnd (by omega) (by omega)
  have hDay : yearStart o.year + o.day - (365 * o.year + o.year / 4 - o.year / 100) = o.day := by
    unfold yearStart
    omega
  simp only [civilFromDays, hEra, hRest, hYear, hDay]
  rfl

theorem daysFromCivil_add (y m d k : Int) :
    daysFromCivil y m (d + k) = daysFromCivil y m d + k := by
  simp only [daysFromCivil]
  omega

theorem daysFromCivil_yearOf (d : Int) (h₀ : 0 ≤ year) (h₁ : year ≤ 399) (hm₀ : 0 ≤ mp)
    (hm₁ : mp ≤ 11) :
    daysFromCivil (yearOf era year mp) (monthOf mp) d =
      era * 146097 + yearStart year + (153 * mp + 2) / 5 + d - 1 - 719468 := by
  have hMarch : (if monthOf mp ≤ 2 then yearOf era year mp - 1 else yearOf era year mp) =
      year + era * 400 := by
    unfold yearOf
    split <;> omega
  have hEra : (year + era * 400) / 400 = era := by omega
  have hShift : (monthOf mp + 9) % 12 = mp := by
    unfold monthOf
    split <;> omega
  simp only [daysFromCivil, hMarch, hEra, hShift]
  unfold yearStart
  omega

theorem daysFromCivil_civilFromDays (n : Int) :
    daysFromCivil (civilFromDays n).year (civilFromDays n).month (civilFromDays n).day = n := by
  obtain ⟨o, rfl⟩ := exists_ordinal n
  obtain ⟨hm₀, hm₁⟩ := o.shiftedMonth_range
  rw [civilFromDays_ordinal]
  simp only
  rw [daysFromCivil_yearOf _ o.year_nonneg o.year_le hm₀ hm₁]
  unfold Ordinal.toDays
  omega

theorem civilFromDays_month (n : Int) :
    1 ≤ (civilFromDays n).month ∧ (civilFromDays n).month ≤ 12 := by
  obtain ⟨o, rfl⟩ := exists_ordinal n
  obtain ⟨hm₀, hm₁⟩ := o.shiftedMonth_range
  rw [civilFromDays_ordinal]
  simp only [monthOf]
  split <;> omega

def monthStart (n : Int) : Int := daysFromCivil (civilFromDays n).year (civilFromDays n).month 1

theorem civilFromDays_monthStart (n : Int) :
    civilFromDays (monthStart n) = ⟨(civilFromDays n).year, (civilFromDays n).month, 1⟩ := by
  obtain ⟨o, rfl⟩ := exists_ordinal n
  obtain ⟨hm₀, hm₁⟩ := o.shiftedMonth_range
  have hFirst : 0 ≤ (153 * o.shiftedMonth + 2) / 5 ∧ (153 * o.shiftedMonth + 2) / 5 ≤ o.day := by
    unfold Ordinal.shiftedMonth at *
    omega
  let first : Ordinal :=
    { o with
      day := (153 * o.shiftedMonth + 2) / 5
      day_nonneg := hFirst.1
      day_lt := Int.lt_of_le_of_lt hFirst.2 o.day_lt }
  have hMonth : first.shiftedMonth = o.shiftedMonth := by
    show (5 * ((153 * o.shiftedMonth + 2) / 5) + 2) / 153 = o.shiftedMonth
    omega
  have hDays : monthStart o.toDays = first.toDays := by
    unfold monthStart
    rw [civilFromDays_ordinal]
    simp only
    rw [daysFromCivil_yearOf _ o.year_nonneg o.year_le hm₀ hm₁]
    simp only [Ordinal.toDays, first]
    omega
  rw [hDays, civilFromDays_ordinal, civilFromDays_ordinal, hMonth]
  simp only [first, Civil.mk.injEq, true_and]
  omega

/-- The first of the next month comes after every day of the month. -/
theorem lt_nextMonth (n : Int) :
    n < daysFromCivil ((civilFromDays n).year + (civilFromDays n).month / 12)
      ((civilFromDays n).month % 12 + 1) 1 := by
  obtain ⟨o, rfl⟩ := exists_ordinal n
  obtain ⟨hm₀, hm₁⟩ := o.shiftedMonth_range
  have hDay := o.day_nonneg
  have hDayMonth : 5 * o.day + 2 < 153 * (o.shiftedMonth + 1) := by
    unfold Ordinal.shiftedMonth
    omega
  have hMonth : (civilFromDays o.toDays).month = monthOf o.shiftedMonth := by
    rw [civilFromDays_ordinal]
  have hYear : (civilFromDays o.toDays).year = yearOf o.era o.year o.shiftedMonth := by
    rw [civilFromDays_ordinal]
  rw [hMonth, hYear]
  by_cases hLast : o.shiftedMonth = 11
  · -- After February the year that starts in March is over.
    have hNext : monthOf 11 % 12 + 1 = monthOf 0 := by decide
    have hSame : monthOf 11 / 12 = 0 := by decide
    rw [hLast, hNext, hSame]
    have hLt := o.day_lt
    have hStart := yearStart_mono o.year_nonneg
    by_cases hEra : o.year = 399
    · have hYears : yearOf o.era o.year 11 + 0 = yearOf (o.era + 1) 0 0 := by
        simp only [yearOf, hEra, monthOf]
        omega
      rw [hYears, daysFromCivil_yearOf 1 (Int.le_refl 0) (by decide) (Int.le_refl 0) (by decide)]
      rw [hEra] at hLt
      simp only [Ordinal.toDays, hEra]
      have h₁ : yearLength 399 = 366 := by decide
      have h₂ : yearStart 399 = 145731 := by decide
      have h₃ : yearStart 0 = 0 := by decide
      omega
    · have hYears : yearOf o.era o.year 11 + 0 = yearOf o.era (o.year + 1) 0 := by
        simp only [yearOf, monthOf]
        omega
      have hLe := o.year_le
      have hNonneg := o.year_nonneg
      rw [hYears, daysFromCivil_yearOf 1 (by omega) (by omega) (Int.le_refl 0) (by decide)]
      unfold yearLength at hLt
      rw [if_neg hEra] at hLt
      unfold Ordinal.toDays
      omega
  · have hNext : monthOf o.shiftedMonth % 12 + 1 = monthOf (o.shiftedMonth + 1) := by
      unfold monthOf
      split <;> split <;> omega
    have hYears : yearOf o.era o.year o.shiftedMonth + monthOf o.shiftedMonth / 12 =
        yearOf o.era o.year (o.shiftedMonth + 1) := by
      unfold yearOf monthOf
      split <;> split <;> split <;> omega
    rw [hNext, hYears, daysFromCivil_yearOf 1 o.year_nonneg o.year_le (by omega) (by omega)]
    unfold Ordinal.toDays
    omega

/-! ### The wall clock -/

def Location.offsetAt (loc : Location) (t : Int) : Int := (loc.lookup t).offset

theorem lookupFrom_start (hAfter : ∀ p ∈ changes, a < p.1)
    (hInc : (changes.map Prod.fst).Pairwise (· < ·)) :
    ∃ b ∈ (lookupFrom offset (some a) changes t).start, a ≤ b := by
  induction changes generalizing offset a with
  | nil => exact ⟨a, rfl, Int.le_refl a⟩
  | cons p rest ih =>
    simp only [lookupFrom]
    split
    · exact ⟨a, rfl, Int.le_refl a⟩
    · simp only [List.map_cons, List.pairwise_cons] at hInc
      have hHead := hAfter p (by simp)
      have hRest : ∃ b ∈ (lookupFrom p.2 (some p.1) rest t).start, p.1 ≤ b :=
        ih (fun q hq => hInc.1 q.1 (List.mem_map_of_mem hq)) hInc.2
      obtain ⟨b, hb, hLe⟩ := hRest
      exact ⟨b, hb, by omega⟩

/-- The zone found for one instant is found for every instant it covers. -/
theorem lookupFrom_of_covers (hInc : (changes.map Prod.fst).Pairwise (· < ·))
    (h : (lookupFrom offset start changes t).Covers s) :
    lookupFrom offset start changes s = lookupFrom offset start changes t := by
  induction changes generalizing offset start with
  | nil => rfl
  | cons p rest ih =>
    simp only [List.map_cons, List.pairwise_cons] at hInc
    simp only [lookupFrom] at h ⊢
    by_cases ht : t < p.1
    · rw [if_pos ht] at h ⊢
      rw [if_pos (h.2 p.1 rfl)]
    · rw [if_neg ht] at h ⊢
      have hRest : ∃ b ∈ (lookupFrom p.2 (some p.1) rest t).start, p.1 ≤ b :=
        lookupFrom_start (fun q hq => hInc.1 q.1 (List.mem_map_of_mem hq)) hInc.2
      obtain ⟨b, hb, hLe⟩ := hRest
      have hs := h.1 b hb
      rw [if_neg (by omega)]
      exact ih hInc.2 h

/-- The two lookups of the rule, written as one. -/
theorem fromLocal_eq (loc : Location) (reading : Int) :
    fromLocal loc reading = reading - loc.offsetAt (reading - loc.offsetAt reading) := by
  unfold fromLocal
  simp only
  split
  · next hZero =>
      have hOffset : loc.offsetAt reading = 0 := hZero
      rw [hOffset, Int.sub_zero, hOffset, Int.sub_zero]
  · split
    · next hCovers =>
        have hSame : loc.lookup (reading - (loc.lookup reading).offset) = loc.lookup reading :=
          lookupFrom_of_covers loc.increasing hCovers
        simp only [Location.offsetAt, hSame]
    · rfl

/-- No change of the offset takes the clock across a midnight, and within the time
that the offsets span the offset changes at most once. -/
structure Location.Calm (loc : Location) (bound : Int) : Prop where
  small : ∀ t, -bound ≤ loc.offsetAt t ∧ loc.offsetAt t ≤ bound
  once : ∀ s t u, s ≤ t → t ≤ u → u ≤ s + 2 * bound →
    loc.offsetAt t = loc.offsetAt s ∨ loc.offsetAt t = loc.offsetAt u
  sameDay : ∀ t, (t + loc.offsetAt (t + 1)) / secondsPerDay = (t + loc.offsetAt t) / secondsPerDay

def dayAt (loc : Location) (t : Int) : Int := localSeconds loc t / secondsPerDay

theorem localSeconds_eq (loc : Location) (t : Int) : localSeconds loc t = t + loc.offsetAt t := rfl

namespace Location.Calm

variable {loc : Location} (h : loc.Calm bound)

include h

theorem dayAt_succ (t : Int) : dayAt loc t ≤ dayAt loc (t + 1) := by
  have := h.sameDay t
  simp only [dayAt, localSeconds_eq, secondsPerDay] at this ⊢
  omega

theorem dayAt_mono (htu : t ≤ u) : dayAt loc t ≤ dayAt loc u := by
  obtain ⟨k, rfl⟩ := Int.le.dest htu
  clear htu
  induction k with
  | zero => simp
  | succ k =>
    have := h.dayAt_succ (t + k)
    have hCast : t + ((k + 1 : Nat) : Int) = t + k + 1 := by omega
    rw [hCast]
    omega

/-- Between an instant before a day and one in or after it, the clock shows the
day's midnight. -/
theorem exists_midnight (hsu : s ≤ u) (hs : dayAt loc s < d) (hu : d ≤ dayAt loc u) :
    ∃ t, s < t ∧ t ≤ u ∧ localSeconds loc t = d * secondsPerDay := by
  obtain ⟨k, rfl⟩ := Int.le.dest hsu
  clear hsu
  induction k with
  | zero =>
    simp only [Int.ofNat_zero, Int.add_zero] at hu
    omega
  | succ k ih =>
    have hCast : s + ((k + 1 : Nat) : Int) = s + k + 1 := by omega
    by_cases hk : d ≤ dayAt loc (s + k)
    · obtain ⟨t, hst, htk, ht⟩ := ih hk
      exact ⟨t, hst, by omega, ht⟩
    · refine ⟨s + k + 1, by omega, by omega, ?_⟩
      rw [hCast] at hu
      have := h.sameDay (s + k)
      simp only [dayAt, localSeconds_eq, secondsPerDay] at this hk hu ⊢
      omega

/-- The rule finds an instant at which the clock shows the midnight asked for. -/
theorem localSeconds_fromLocal (d : Int) :
    localSeconds loc (fromLocal loc (d * secondsPerDay)) = d * secondsPerDay := by
  rw [fromLocal_eq, localSeconds_eq]
  generalize hR : d * secondsPerDay = R
  generalize ha : loc.offsetAt R = a
  generalize hb : loc.offsetAt (R - a) = b
  by_cases hSame : loc.offsetAt (R - b) = b
  · omega
  · exfalso
    have hSmallA := h.small R
    have hSmallB := h.small (R - a)
    rw [ha] at hSmallA
    rw [hb] at hSmallB
    have hab : a ≠ b := fun hEq => hSame (by rw [← hEq]; rw [hEq] at hb ⊢; exact hb)
    -- The offset at the instant found is the one at the reading itself.
    have hc : loc.offsetAt (R - b) = a := by
      have hBetween (s t u : Int) (h₁ : s ≤ t) (h₂ : t ≤ u) (h₃ : u ≤ s + 2 * bound) :=
        h.once s t u h₁ h₂ h₃
      rcases Int.le_total (R - a) (R - b) with hLe | hLe
      · rcases Int.le_total R (R - a) with hR₁ | hR₁
        · have := hBetween R (R - a) (R - b) hR₁ hLe (by omega)
          omega
        · rcases Int.le_total R (R - b) with hR₂ | hR₂
          · have := hBetween (R - a) R (R - b) hR₁ hR₂ (by omega)
            omega
          · have := hBetween (R - a) (R - b) R hLe hR₂ (by omega)
            omega
      · rcases Int.le_total R (R - b) with hR₁ | hR₁
        · have := hBetween R (R - b) (R - a) hR₁ hLe (by omega)
          omega
        · rcases Int.le_total R (R - a) with hR₂ | hR₂
          · have := hBetween (R - b) R (R - a) hR₁ hR₂ (by omega)
            omega
          · have := hBetween (R - b) (R - a) R hLe hR₂ (by omega)
            omega
    -- So the clock reads the midnight strictly between the two candidates.
    have hDay (t : Int) : dayAt loc t = (t + loc.offsetAt t) / secondsPerDay := rfl
    have hRead {s u : Int} (hsu : s < u) (hs : s + loc.offsetAt s < R)
        (hu : R ≤ u + loc.offsetAt u) :
        ∃ t, s < t ∧ t ≤ u ∧ t + loc.offsetAt t = R := by
      have hSeconds : d * 86400 = R := hR
      obtain ⟨t, hst, htu, ht⟩ := h.exists_midnight (d := d) (Int.le_of_lt hsu)
        (by rw [hDay, secondsPerDay]; omega) (by rw [hDay, secondsPerDay]; omega)
      exact ⟨t, hst, htu, by rw [← hR, ← ht]; rfl⟩
    rcases Int.lt_or_gt_of_ne hab with hlt | hgt
    · obtain ⟨t, h₁, h₂, ht⟩ := hRead (s := R - b) (u := R - a) (by omega) (by omega) (by omega)
      have := h.once (R - b) t (R - a) (by omega) h₂ (by omega)
      have hEnd : t = R - a → loc.offsetAt t = b := fun hEq => by rw [hEq]; exact hb
      omega
    · obtain ⟨t, h₁, h₂, ht⟩ := hRead (s := R - a) (u := R - b) (by omega) (by omega) (by omega)
      have := h.once (R - a) t (R - b) (by omega) h₂ (by omega)
      have hEnd : t = R - b → loc.offsetAt t = a := fun hEq => by rw [hEq]; exact hc
      omega

theorem dayAt_fromLocal (d : Int) : dayAt loc (fromLocal loc (d * secondsPerDay)) = d := by
  unfold dayAt
  rw [h.localSeconds_fromLocal d, secondsPerDay]
  omega

theorem clock_fromLocal (d : Int) : clock loc (fromLocal loc (d * secondsPerDay)) = 0 := by
  unfold clock
  rw [h.localSeconds_fromLocal d, secondsPerDay]
  omega

/-- Every instant before a day comes before the day's midnight. -/
theorem lt_fromLocal (ht : dayAt loc t < d) :
    t < fromLocal loc (d * secondsPerDay) := by
  refine Int.not_le.mp fun hLe => ?_
  have hMono := h.dayAt_mono hLe
  rw [h.dayAt_fromLocal] at hMono
  omega

end Location.Calm

theorem offsetAt_fixed (offset t : Int) : (Location.fixed offset).offsetAt t = offset := rfl

theorem fixed_calm (offset : Int) : (Location.fixed offset).Calm (max offset (-offset)) where
  small t := by
    rw [offsetAt_fixed]
    omega
  once s t u _ _ _ := .inl rfl
  sameDay t := rfl

end XyApi.Lib.Calendar
