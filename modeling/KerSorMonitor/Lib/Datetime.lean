import KerSorMonitor.Lib.Decimal

/-!
# UTC date times and their texts

The date times of Python's `datetime` in UTC: proleptic Gregorian dates with a time of day to the
microsecond. `isoformat` leaves the fraction out when the microseconds are zero.

Results:
1. `lt_iff`: date times compare by their seconds, and then by their microseconds.
2. `date_lt_iff`: the first 19 characters of two texts compare as the seconds do.
3. `text_lt_iff`: the texts of two date times compare as the date times do, except when they
   share their second and the earlier one has no microseconds.
-/

/-! ## The calendar -/

namespace Calendar

def isLeap (year : Nat) : Bool := year % 4 = 0 && (year % 100 != 0 || year % 400 = 0)

/-- `_days_before_year`. -/
def daysBeforeYear (year : Nat) : Nat :=
  let y := year - 1
  y * 365 + y / 4 - y / 100 + y / 400

/-- `_days_in_month`. -/
def daysInMonth (leap : Bool) (month : Nat) : Nat :=
  if month = 2 && leap then 29
  else [0, 31, 28, 31, 30, 31, 30, 31, 31, 30, 31, 30, 31].getD month 0

/-- `_days_before_month`. -/
def daysBeforeMonth (leap : Bool) (month : Nat) : Nat :=
  [0, 0, 31, 59, 90, 120, 151, 181, 212, 243, 273, 304, 334].getD month 0 +
    if 2 < month && leap then 1 else 0

theorem succ_div (k n : Nat) :
    (k + 1) / n = k / n + if (k + 1) % n = 0 then 1 else 0 := by
  rw [Nat.succ_div]
  congr 1
  exact if_congr Nat.dvd_iff_mod_eq_zero rfl rfl

theorem daysBeforeYear_succ {y : Nat} (h : 1 ≤ y) :
    daysBeforeYear (y + 1) = daysBeforeYear y + if isLeap y then 366 else 365 := by
  obtain ⟨k, rfl⟩ := Nat.exists_eq_add_of_le' h
  have h4 := succ_div k 4
  have h100 := succ_div k 100
  have h400 := succ_div k 400
  have hle : k / 100 ≤ k / 4 := by omega
  unfold daysBeforeYear isLeap
  simp only [Nat.add_sub_cancel]
  rw [h4, h100, h400]
  by_cases hm4 : (k + 1) % 4 = 0
  · by_cases hm100 : (k + 1) % 100 = 0
    · by_cases hm400 : (k + 1) % 400 = 0
      · simp only [hm4, hm100, hm400, if_true, decide_true, bne_self_eq_false, Bool.false_or,
          Bool.and_self]
        omega
      · simp only [hm4, hm100, hm400, if_true, if_false, decide_true, decide_false,
          bne_self_eq_false, Bool.or_self, Bool.and_false, Bool.false_eq_true]
        omega
    · have hm400 : ¬ (k + 1) % 400 = 0 := by omega
      have hne : ((k + 1) % 100 != 0) = true := bne_iff_ne.mpr hm100
      simp only [hm4, hm100, hm400, hne, if_true, if_false, decide_true, decide_false,
        Bool.or_false, Bool.and_self]
      omega
  · have hm100 : ¬ (k + 1) % 100 = 0 := by omega
    have hm400 : ¬ (k + 1) % 400 = 0 := by omega
    simp only [hm4, hm100, hm400, if_false, decide_false, Bool.false_and, Bool.false_eq_true]
    omega

theorem daysBeforeYear_succ_le {y y' : Nat} (h1 : 1 ≤ y) (h : y < y') :
    daysBeforeYear (y + 1) ≤ daysBeforeYear y' := by
  induction y', h using Nat.le_induction with
  | base => exact Nat.le_refl _
  | succ n hn ih =>
    have hstep := daysBeforeYear_succ (show 1 ≤ n by omega)
    omega

/-- The days of a month come before the next months. -/
theorem daysBeforeMonth_add_le (leap : Bool) {m m' : Nat} (hm : m < m') (hm' : m' ≤ 12)
    (h1 : 1 ≤ m) : daysBeforeMonth leap m + daysInMonth leap m ≤ daysBeforeMonth leap m' := by
  have hall : ∀ leap, ∀ m' < 13, ∀ m < m', 1 ≤ m →
      daysBeforeMonth leap m + daysInMonth leap m ≤ daysBeforeMonth leap m' := by decide
  exact hall leap m' (by omega) m hm h1

theorem daysBeforeMonth_add_le_year (leap : Bool) {m : Nat} (hm : m ≤ 12) :
    daysBeforeMonth leap m + daysInMonth leap m ≤ if leap then 366 else 365 := by
  have hall : ∀ leap : Bool, ∀ m < 13,
      daysBeforeMonth leap m + daysInMonth leap m ≤ if leap then 366 else 365 := by decide
  exact hall leap m (by omega)

end Calendar

open Calendar

/-- A date time in UTC. -/
structure Datetime where
  year : Nat
  month : Nat
  day : Nat
  hour : Nat
  minute : Nat
  second : Nat
  microsecond : Nat
  year_pos : 1 ≤ year
  year_le : year ≤ 9999
  month_pos : 1 ≤ month
  month_le : month ≤ 12
  day_pos : 1 ≤ day
  day_le : day ≤ daysInMonth (isLeap year) month
  hour_lt : hour < 24
  minute_lt : minute < 60
  second_lt : second < 60
  microsecond_lt : microsecond < 1000000

namespace Datetime

/-- `toordinal`. -/
def ordinal (a : Datetime) : Nat :=
  daysBeforeYear a.year + daysBeforeMonth (isLeap a.year) a.month + a.day

/-- The whole seconds up to a date time. -/
def seconds (a : Datetime) : Nat := ((a.ordinal * 24 + a.hour) * 60 + a.minute) * 60 + a.second

/-- The microseconds up to a date time. -/
def micros (a : Datetime) : Nat := a.seconds * 1000000 + a.microsecond

instance : LT Datetime := ⟨fun a b => a.micros < b.micros⟩

instance (a b : Datetime) : Decidable (a < b) := inferInstanceAs (Decidable (a.micros < b.micros))

theorem lt_iff {a b : Datetime} :
    a < b ↔ a.seconds < b.seconds ∨ a.seconds = b.seconds ∧ a.microsecond < b.microsecond := by
  have ha := a.microsecond_lt
  have hb := b.microsecond_lt
  change a.micros < b.micros ↔ _
  unfold micros
  omega

theorem daysInMonth_le {leap : Bool} {m : Nat} (h : m ≤ 12) : daysInMonth leap m ≤ 31 := by
  have hall : ∀ leap, ∀ m < 13, daysInMonth leap m ≤ 31 := by decide
  exact hall leap m (by omega)

/-! ## Seconds -/

theorem ordinal_lt_of_year {a b : Datetime} (h : a.year < b.year) : a.ordinal < b.ordinal := by
  have hyear := daysBeforeYear_succ_le a.year_pos h
  have hstep := daysBeforeYear_succ a.year_pos
  have hmonth := daysBeforeMonth_add_le_year (isLeap a.year) a.month_le
  have hday := a.day_le
  have hb := b.day_pos
  unfold ordinal
  omega

theorem ordinal_lt_of_month {a b : Datetime} (hy : a.year = b.year) (h : a.month < b.month) :
    a.ordinal < b.ordinal := by
  have hmonth := daysBeforeMonth_add_le (isLeap a.year) h b.month_le a.month_pos
  have hday := a.day_le
  have hb := b.day_pos
  unfold ordinal
  rw [← hy]
  omega

theorem ordinal_lt_iff {a b : Datetime} :
    a.ordinal < b.ordinal ↔ a.year < b.year ∨ a.year = b.year ∧
      (a.month < b.month ∨ a.month = b.month ∧ a.day < b.day) := by
  rcases lt_trichotomy a.year b.year with hy | hy | hy
  · have := ordinal_lt_of_year hy
    omega
  · rcases lt_trichotomy a.month b.month with hm | hm | hm
    · have := ordinal_lt_of_month hy hm
      omega
    · unfold ordinal
      rw [hy, hm]
      omega
    · have := ordinal_lt_of_month hy.symm hm
      omega
  · have := ordinal_lt_of_year hy
    omega

theorem seconds_lt_iff {a b : Datetime} :
    a.seconds < b.seconds ↔ a.ordinal < b.ordinal ∨ a.ordinal = b.ordinal ∧
      (a.hour < b.hour ∨ a.hour = b.hour ∧
        (a.minute < b.minute ∨ a.minute = b.minute ∧ a.second < b.second)) := by
  have ha := a.hour_lt
  have ha' := a.minute_lt
  have ha'' := a.second_lt
  have hb := b.hour_lt
  have hb' := b.minute_lt
  have hb'' := b.second_lt
  unfold seconds
  omega

/-! ## Texts -/

open Decimal

/-- `YYYY-MM-DDTHH:MM:SS`. -/
def date (a : Datetime) : List Char :=
  padded 4 a.year ++ '-' :: (padded 2 a.month ++ '-' :: (padded 2 a.day ++ 'T' ::
    (padded 2 a.hour ++ ':' :: (padded 2 a.minute ++ ':' :: padded 2 a.second))))

/-- The fraction of a text, and its end. -/
def fraction (a : Datetime) : List Char :=
  if a.microsecond = 0 then ['Z'] else '.' :: padded 6 a.microsecond ++ ['Z']

/-- `isoformat().replace("+00:00", "Z")`. -/
def text (a : Datetime) : String := String.ofList (a.date ++ a.fraction)

theorem date_lt_iff {a b : Datetime} : a.date < b.date ↔ a.seconds < b.seconds := by
  have hday {m : Nat} {leap : Bool} {d : Nat} (hm : m ≤ 12) (hd : d ≤ daysInMonth leap m) :
      d < 10 ^ 2 := (hd.trans (daysInMonth_le hm)).trans_lt (by decide)
  unfold date
  rw [padded_cons_lt_iff (a.year_le.trans_lt (by decide)) (b.year_le.trans_lt (by decide)),
    padded_cons_lt_iff (a.month_le.trans_lt (by decide)) (b.month_le.trans_lt (by decide)),
    padded_cons_lt_iff (hday a.month_le a.day_le) (hday b.month_le b.day_le),
    padded_cons_lt_iff (a.hour_lt.trans (by decide)) (b.hour_lt.trans (by decide)),
    padded_cons_lt_iff (a.minute_lt.trans (by decide)) (b.minute_lt.trans (by decide)),
    padded_lt_iff (a.second_lt.trans (by decide)) (b.second_lt.trans (by decide)),
    seconds_lt_iff]
  have hab := ordinal_lt_iff (a := a) (b := b)
  have hba := ordinal_lt_iff (a := b) (b := a)
  omega

theorem length_date (a : Datetime) : a.date.length = 19 := by
  unfold date
  simp only [List.length_append, List.length_cons, length_padded]

theorem date_eq_iff {a b : Datetime} : a.date = b.date ↔ a.seconds = b.seconds := by
  constructor
  · intro h
    have hab := date_lt_iff (a := a) (b := b)
    have hba := date_lt_iff (a := b) (b := a)
    rw [h] at hab hba
    have hle := mt hab.mpr (List.lt_irrefl _)
    have hge := mt hba.mpr (List.lt_irrefl _)
    omega
  · intro h
    have hab := seconds_lt_iff (a := a) (b := b)
    have hba := seconds_lt_iff (a := b) (b := a)
    have hab' := ordinal_lt_iff (a := a) (b := b)
    have hba' := ordinal_lt_iff (a := b) (b := a)
    obtain ⟨hy, hm, hd, hh, hmin, hs⟩ : a.year = b.year ∧ a.month = b.month ∧ a.day = b.day ∧
        a.hour = b.hour ∧ a.minute = b.minute ∧ a.second = b.second := by omega
    unfold date
    rw [hy, hm, hd, hh, hmin, hs]

/-- The place of a fraction among the texts of one second: no fraction comes last. -/
def rank (a : Datetime) : Nat := if a.microsecond = 0 then 1000000 else a.microsecond

theorem fraction_lt_iff {a b : Datetime} : a.fraction < b.fraction ↔ a.rank < b.rank := by
  have hdot : '.' < 'Z' := by decide
  have hne : '.' ≠ 'Z' := by decide
  have ha := a.microsecond_lt
  have hb := b.microsecond_lt
  unfold fraction rank
  by_cases ha0 : a.microsecond = 0
  · rw [if_pos ha0, if_pos ha0]
    by_cases hb0 : b.microsecond = 0
    · rw [if_pos hb0, if_pos hb0]
      exact iff_of_false (List.lt_irrefl _) (Nat.lt_irrefl _)
    · rw [if_neg hb0, if_neg hb0, List.cons_append, List.cons_lt_cons_iff]
      refine iff_of_false ?_ (by omega)
      rintro (h | ⟨h, -⟩)
      · exact absurd h (by decide)
      · exact hne h.symm
  · rw [if_neg ha0, if_neg ha0]
    by_cases hb0 : b.microsecond = 0
    · rw [if_pos hb0, if_pos hb0, List.cons_append, List.cons_lt_cons_iff]
      exact iff_of_true (Or.inl hdot) ha
    · rw [if_neg hb0, if_neg hb0, List.cons_append, List.cons_append, List.cons_lt_cons_iff,
        padded_cons_lt_iff (ha.trans_le (by decide)) (hb.trans_le (by decide))]
      simp only [Char.lt_irrefl, true_and, false_or, List.lt_irrefl, and_false, or_false]

/-- How texts compare. -/
theorem text_lt_text_iff {a b : Datetime} :
    a.text < b.text ↔ a.seconds < b.seconds ∨ a.seconds = b.seconds ∧ a.rank < b.rank := by
  have hlen : a.date.length = b.date.length := (length_date a).trans (length_date b).symm
  unfold text
  rw [String.lt_iff_toList_lt, String.toList_ofList, String.toList_ofList,
    append_lt_append_iff hlen, date_lt_iff, date_eq_iff, fraction_lt_iff]

/-- The two date times share their second, and `a` alone has no fraction. -/
def Clash (a b : Datetime) : Prop :=
  a.seconds = b.seconds ∧ a.microsecond = 0 ∧ b.microsecond ≠ 0

instance (a b : Datetime) : Decidable (Clash a b) :=
  inferInstanceAs (Decidable (_ ∧ _ ∧ _))

theorem text_lt_iff {a b : Datetime} (h : a < b) : a.text < b.text ↔ ¬ Clash a b := by
  have ha := a.microsecond_lt
  have hb := b.microsecond_lt
  rw [lt_iff] at h
  rw [text_lt_text_iff]
  unfold Clash rank
  split <;> split <;> omega

theorem clash_lt {a b : Datetime} (h : Clash a b) : a < b := by
  obtain ⟨hs, ha, hb⟩ := h
  exact lt_iff.mpr (Or.inr ⟨hs, by omega⟩)

/-- Where two times clash, the later text comes first. -/
theorem text_lt_of_clash {a b : Datetime} (h : Clash a b) : b.text < a.text := by
  obtain ⟨hs, ha, hb⟩ := h
  have hb' := b.microsecond_lt
  refine text_lt_text_iff.mpr (Or.inr ⟨hs.symm, ?_⟩)
  unfold rank
  rw [if_pos ha, if_neg hb]
  exact hb'

theorem lt_of_text_lt {a b : Datetime} (h : a.text < b.text) (hclash : ¬ Clash b a) : a < b := by
  have ha := a.microsecond_lt
  have hb := b.microsecond_lt
  rw [text_lt_text_iff] at h
  rw [lt_iff]
  unfold Clash at hclash
  unfold rank at h
  split at h <;> split at h <;> omega

end Datetime
