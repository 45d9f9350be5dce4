import Provision.Text.Timestamp

/-!
# The calendar

The date of a day is that of the calendar: day zero is the first day of 1970, and each
day after it has the date that follows the one before.

Years are counted from March, so that a leap day ends its year, and in eras of 400 years.
A day of an era is taken apart into centuries, groups of four years, years and days; the
last day of a group is set apart where it is a leap day.

Main results:

- `Timestamp.civil_succ`: the next day has the next date.
-/

namespace Provision.Timestamp

/-! ## Dates -/

/-- A year with a leap day. -/
def IsLeap (year : Nat) : Prop := year % 4 = 0 ∧ (year % 100 ≠ 0 ∨ year % 400 = 0)

instance (year : Nat) : Decidable (IsLeap year) := inferInstanceAs (Decidable (_ ∧ _))

/-- The number of days of a month. -/
def monthLength (year month : Nat) : Nat :=
  if month = 2 then if IsLeap year then 29 else 28
  else if month ∈ [4, 6, 9, 11] then 30
  else 31

/-- The date that follows a date. -/
def nextDate : Nat × Nat × Nat → Nat × Nat × Nat
  | (year, month, day) =>
    if day < monthLength year month then (year, month, day + 1)
    else if month < 12 then (year, month + 1, 1)
    else (year + 1, 1, 1)

/-! ## Days of a year -/

/-- The number that a month has in the calendar, when March is month zero. -/
def monthNumber (m : Nat) : Nat := if m < 10 then m + 3 else m - 9

/-- The first day of a month, both counted from March. -/
def firstOfMonth (m : Nat) : Nat := (153 * m + 2) / 5

/-- The date that a day of a month has, in a year that begins with March. -/
def dateIn (year m day : Nat) : Nat × Nat × Nat :=
  (if monthNumber m ≤ 2 then year + 1 else year, monthNumber m, day + 1)

/-- The date that a day has in a year, both counted from the first day of March. -/
def fromMarch (year n : Nat) : Nat × Nat × Nat :=
  dateIn year ((5 * n + 2) / 153) (n - firstOfMonth ((5 * n + 2) / 153))

/-- A day in the months is a day in one of them. -/
theorem fromMarch_add {year m day : Nat} (within : firstOfMonth m + day < firstOfMonth (m + 1)) :
    fromMarch year (firstOfMonth m + day) = dateIn year m day := by
  have : (5 * (firstOfMonth m + day) + 2) / 153 = m := by unfold firstOfMonth at *; omega
  rw [fromMarch, this, Nat.add_sub_cancel_left]

/-- The months before February have their length in every year. -/
theorem firstOfMonth_succ (year : Nat) {m : Nat} (h : m < 11) :
    firstOfMonth (m + 1) = firstOfMonth m + monthLength year (monthNumber m) := by
  match m, h with
  | 0, _ | 1, _ | 2, _ | 3, _ | 4, _ | 5, _ | 6, _ | 7, _ | 8, _ | 9, _ | 10, _ => rfl

/-- A day that is not the last one of its month is followed by the next one of the month. -/
theorem nextDate_dateIn {year m day : Nat}
    (more : ∀ y, day + 1 < monthLength y (monthNumber m)) :
    nextDate (dateIn year m day) = dateIn year m (day + 1) := by
  simp [nextDate, dateIn, more]

/-- The last day of a month is followed by the first one of the next month. -/
theorem nextDate_lastOfMonth {year m day : Nat} (h : m < 11)
    (last : ∀ y, day + 1 = monthLength y (monthNumber m)) :
    nextDate (dateIn year m day) = dateIn year (m + 1) 0 := by
  simp only [nextDate, dateIn, ← last, Nat.lt_irrefl, if_false]
  rcases (by omega : m < 9 ∨ m = 9 ∨ m = 10) with early | rfl | rfl
  · have number : monthNumber m = m + 3 := if_pos (by omega)
    have number' : monthNumber (m + 1) = m + 4 := if_pos (by omega)
    have inYear : m + 3 < 12 := by omega
    simp [number, number', inYear]
  · rfl
  · rfl

/-- Within the 365 days that every year has, the next day has the next date. -/
theorem fromMarch_succ {year n : Nat} (h : n < 364) :
    fromMarch year (n + 1) = nextDate (fromMarch year n) := by
  obtain ⟨m, day, hm, rfl, within⟩ :
      ∃ m day, m < 12 ∧ n = firstOfMonth m + day ∧ n < firstOfMonth (m + 1) :=
    ⟨(5 * n + 2) / 153, n - firstOfMonth ((5 * n + 2) / 153), by omega,
      by unfold firstOfMonth; omega, by unfold firstOfMonth; omega⟩
  rw [fromMarch_add within]
  rcases Nat.lt_or_ge m 11 with early | february
  · have length := fun y => firstOfMonth_succ y early
    rcases Nat.lt_or_ge (firstOfMonth m + (day + 1)) (firstOfMonth (m + 1)) with more | last
    · rw [nextDate_dateIn fun y => by have := length y; omega, ← fromMarch_add more, Nat.add_assoc]
    · rw [nextDate_lastOfMonth early fun y => by have := length y; omega]
      have : firstOfMonth m + day + 1 = firstOfMonth (m + 1) + 0 := by omega
      rw [this, fromMarch_add (by unfold firstOfMonth; omega)]
  · obtain rfl : m = 11 := by omega
    have few : day + 1 < 28 := by simp only [firstOfMonth] at h; omega
    have atLeast (y : Nat) : 28 ≤ monthLength y (monthNumber 11) := by
      show 28 ≤ if IsLeap y then 29 else 28
      split <;> decide
    rw [nextDate_dateIn fun y => Nat.lt_of_lt_of_le few (atLeast y),
      ← fromMarch_add (by simp only [firstOfMonth]; omega), Nat.add_assoc]

/-! ## Days of an era -/

/-- The year of an era that a day is in. -/
def yearOfEra (d : Nat) : Nat := (d - d / 1460 + d / 36524 - d / 146096) / 365

/-- The first day of a year, both counted in an era. -/
def firstOfYear (y : Nat) : Nat := 365 * y + y / 4 - y / 100

/-- The date of a day is that of a day in a year of an era. -/
theorem civil_eq {days e d : Nat} (h : days + 719468 = 146097 * e + d) (hd : d < 146097) :
    civil days = fromMarch (400 * e + yearOfEra d) (d - firstOfYear (yearOfEra d)) := by
  have day : (days + 719468) % 146097 = d := by omega
  have era : (days + 719468) / 146097 = e := by omega
  have shifted : civil days =
      fromMarch (yearOfEra ((days + 719468) % 146097) + (days + 719468) / 146097 * 400)
        ((days + 719468) % 146097 - firstOfYear (yearOfEra ((days + 719468) % 146097))) := rfl
  rw [shifted, day, era, Nat.add_comm, Nat.mul_comm]

/-- The first day of a year that is the `t`-th one of four, in the `q`-th group of a century. -/
theorem firstOfYear_eq {c q t : Nat} (hq : q < 25) (ht : t < 4) :
    firstOfYear (100 * c + 4 * q + t) = 36524 * c + 1461 * q + 365 * t := by
  unfold firstOfYear
  omega

/-- A day that is not the last one of a leap year is in the year that its number of 365 days
gives. -/
theorem yearOfEra_eq {c q t n : Nat} (hc : c < 4) (hq : q < 25) (ht : t < 4) (hn : n < 365) :
    yearOfEra (36524 * c + 1461 * q + 365 * t + n) = 100 * c + 4 * q + t := by
  unfold yearOfEra
  generalize hd : 36524 * c + 1461 * q + 365 * t + n = d
  have century : d / 36524 = c := by omega
  have era : d / 146096 = 0 := by omega
  -- four years have one day more than 1460, and a century has 24 more than 25 times that
  have groups : d / 1460 = 25 * c + q + (24 * c + q + 365 * t + n) / 1460 := by omega
  rw [century, era, groups]
  omega

/-- The last day of a leap year is in the last year of its group. -/
theorem yearOfEra_leapDay {c q : Nat} (hc : c < 4) (hq : q < 25) (leap : q < 24 ∨ c = 3) :
    yearOfEra (36524 * c + 1461 * q + 1460) = 100 * c + 4 * q + 3 := by
  unfold yearOfEra
  generalize hd : 36524 * c + 1461 * q + 1460 = d
  have groups : d / 1460 = 25 * c + q + 1 := by omega
  rw [groups]
  rcases Nat.lt_or_ge q 24 with inner | last
  · have century : d / 36524 = c := by omega
    have era : d / 146096 = 0 := by omega
    rw [century, era]
    omega
  · obtain ⟨rfl, rfl⟩ : c = 3 ∧ q = 24 := by omega
    subst hd
    rfl

/-- The days of an era: the 365 that every year has, and the leap days. -/
theorem day_cases {d : Nat} (h : d < 146097) :
    (∃ c q t n, c < 4 ∧ q < 25 ∧ t < 4 ∧ n < 365 ∧ d = 36524 * c + 1461 * q + 365 * t + n) ∨
      ∃ c q, c < 4 ∧ q < 25 ∧ (q < 24 ∨ c = 3) ∧ d = 36524 * c + 1461 * q + 1460 := by
  obtain ⟨c, r, hc, hr, rfl, full⟩ :
      ∃ c r, c < 4 ∧ r ≤ 36524 ∧ d = 36524 * c + r ∧ (r < 36524 ∨ c = 3) :=
    ⟨min 3 (d / 36524), d - 36524 * min 3 (d / 36524), by omega, by omega, by omega, by omega⟩
  obtain ⟨q, s, hq, hs, rfl⟩ : ∃ q s, q < 25 ∧ s < 1461 ∧ r = 1461 * q + s :=
    ⟨r / 1461, r % 1461, by omega, by omega, by omega⟩
  rcases Nat.lt_or_ge s 1460 with inYear | leapDay
  · exact .inl ⟨c, q, s / 365, s % 365, hc, hq, by omega, by omega, by omega⟩
  · exact .inr ⟨c, q, hc, hq, by omega, by omega⟩

/-! ## One day after the other -/

/-- The date of a day of the year that is the `t`-th one of four, in the `q`-th group of the
`c`-th century of an era. -/
theorem civil_of_inYear {days e c q t n : Nat} (hc : c < 4) (hq : q < 25) (ht : t < 4)
    (hn : n < 365) (h : days + 719468 = 146097 * e + (36524 * c + 1461 * q + 365 * t + n)) :
    civil days = fromMarch (400 * e + 100 * c + 4 * q + t) n := by
  rw [civil_eq h (by omega), yearOfEra_eq hc hq ht hn, firstOfYear_eq hq ht,
    Nat.add_sub_cancel_left]
  simp only [Nat.add_assoc]

/-- The date of the last day of a leap year. -/
theorem civil_of_leapDay {days e c q : Nat} (hc : c < 4) (hq : q < 25) (leap : q < 24 ∨ c = 3)
    (h : days + 719468 = 146097 * e + (36524 * c + 1461 * q + 1460)) :
    civil days = fromMarch (400 * e + 100 * c + 4 * q + 3) 365 := by
  have last : 36524 * c + 1461 * q + 1460 - (36524 * c + 1461 * q + 365 * 3) = 365 := by omega
  rw [civil_eq h (by omega), yearOfEra_leapDay hc hq leap, firstOfYear_eq hq (by decide), last]
  simp only [Nat.add_assoc]

/-- The last of the days that every year has is followed by the first day of March, where the next
year is no leap year. -/
theorem nextDate_fromMarch_364 {year : Nat} (common : ¬ IsLeap (year + 1)) :
    nextDate (fromMarch year 364) = fromMarch (year + 1) 0 := by
  show nextDate (year + 1, 2, 28) = (year + 1, 3, 1)
  simp [nextDate, monthLength, common]

/-- In a leap year it is followed by the leap day, and that by the first day of March. -/
theorem nextDate_of_isLeap {year : Nat} (leap : IsLeap (year + 1)) :
    nextDate (fromMarch year 364) = fromMarch year 365 ∧
      nextDate (fromMarch year 365) = fromMarch (year + 1) 0 := by
  constructor
  · show nextDate (year + 1, 2, 28) = (year + 1, 2, 29)
    simp [nextDate, monthLength, leap]
  · show nextDate (year + 1, 2, 29) = (year + 1, 3, 1)
    simp [nextDate, monthLength, leap]

/-- The next day has the next date. -/
theorem civil_succ (days : Nat) : civil (days + 1) = nextDate (civil days) := by
  obtain ⟨e, d, hd, h⟩ : ∃ e d, d < 146097 ∧ days + 719468 = 146097 * e + d :=
    ⟨(days + 719468) / 146097, (days + 719468) % 146097, by omega, by omega⟩
  rcases day_cases hd with ⟨c, q, t, n, hc, hq, ht, hn, rfl⟩ | ⟨c, q, hc, hq, leap, rfl⟩
  · rw [civil_of_inYear hc hq ht hn h]
    rcases Nat.lt_or_ge n 364 with more | last
    · rw [← fromMarch_succ more]
      exact civil_of_inYear hc hq ht (by omega) (by omega)
    obtain rfl : n = 364 := by omega
    rcases Nat.lt_or_ge t 3 with inGroup | lastOfGroup
    · rw [nextDate_fromMarch_364 (by unfold IsLeap; omega)]
      exact civil_of_inYear hc hq (t := t + 1) (by omega) (by omega) (by omega)
    obtain rfl : t = 3 := by omega
    by_cases leap : q < 24 ∨ c = 3
    · rw [(nextDate_of_isLeap (by unfold IsLeap; omega)).1]
      exact civil_of_leapDay hc hq leap (by omega)
    · -- the last group of a century that is not the last one of its era has no leap day
      obtain rfl : q = 24 := by omega
      rw [nextDate_fromMarch_364 (by unfold IsLeap; omega)]
      exact civil_of_inYear (c := c + 1) (q := 0) (t := 0) (by omega) (by omega) (by omega)
        (by omega) (by omega)
  · rw [civil_of_leapDay hc hq leap h, (nextDate_of_isLeap (by unfold IsLeap; omega)).2]
    rcases Nat.lt_or_ge q 24 with inCentury | lastOfEra
    · exact civil_of_inYear hc (q := q + 1) (t := 0) (by omega) (by omega) (by omega) (by omega)
    · obtain ⟨rfl, rfl⟩ : c = 3 ∧ q = 24 := by omega
      exact civil_of_inYear (e := e + 1) (c := 0) (q := 0) (t := 0) (by omega) (by omega)
        (by omega) (by omega) (by omega)

/-- Day zero, from which all dates follow, and a leap day. -/
example : civil 0 = (1970, 1, 1) ∧ civil 11016 = (2000, 2, 29) := by decide

end Provision.Timestamp
