import Mathlib.Tactic.IntervalCases
import PageScript.Calendar

/-!
# Moments and their texts

The days of the calendar are numbered without a gap: the day after a date has the next number
(`Date.Valid.next?`), so that shifting a date adds to its number, and a date is known by its number. A
moment is the same in every place: its instant is counted in universal time, and the text of a moment
gives back the instant, up to the second, and nothing of the offset. The weekday in the text is the one
of Zeller's congruence.
-/

namespace PageScript.Calendar

/-! ## Years and months -/

/-- The number of the last day before a year. -/
def daysBeforeYear (year : Nat) : Nat :=
  let years := year - 1
  365 * years + years / 4 - years / 100 + years / 400

/-- The days that a year has more than others. -/
def leapDay (year : Nat) : Nat := if isLeap year then 1 else 0

theorem leapDay_eq (year : Nat) :
    leapDay year = if year % 4 = 0 ∧ (year % 100 ≠ 0 ∨ year % 400 = 0) then 1 else 0 := by
  simp [leapDay, isLeap]

theorem daysBeforeYear_succ {year : Nat} (h : 1 ≤ year) :
    daysBeforeYear (year + 1) = daysBeforeYear year + 365 + leapDay year := by
  obtain ⟨n, rfl⟩ := Nat.exists_eq_add_of_le' h
  have centuries : (n + 1) % 100 = 0 → (n + 1) % 4 = 0 := by omega
  have fourth : (n + 1) % 400 = 0 → (n + 1) % 100 = 0 := by omega
  have fewer : n / 100 ≤ n / 4 := Nat.div_le_div_left (by decide) (by decide)
  simp only [daysBeforeYear, leapDay_eq, Nat.add_sub_cancel, Nat.succ_div, Nat.dvd_iff_mod_eq_zero]
  generalize n / 4 = a at *
  generalize n / 100 = b at *
  generalize n / 400 = c at *
  split <;> split <;> split <;> split <;> omega

theorem daysBeforeYear_mono {a b : Nat} (ha : 1 ≤ a) (h : a ≤ b) :
    daysBeforeYear a ≤ daysBeforeYear b := by
  induction h with
  | refl => exact Nat.le_refl _
  | step h ih =>
    rw [daysBeforeYear_succ (Nat.le_trans ha h)]
    omega

theorem daysInMonth_bounds (year month : Nat) :
    28 ≤ daysInMonth year month ∧ daysInMonth year month ≤ 31 := by
  unfold daysInMonth
  split <;> split <;> omega

theorem daysBeforeMonth_succ (year : Nat) {month : Nat} (h : 1 ≤ month) :
    daysBeforeMonth year (month + 1) = daysBeforeMonth year month + daysInMonth year month := by
  cases month with
  | zero => omega
  | succ month => rfl

theorem daysBeforeMonth_mono (year : Nat) {a b : Nat} (ha : 1 ≤ a) (h : a ≤ b) :
    daysBeforeMonth year a ≤ daysBeforeMonth year b := by
  induction h with
  | refl => exact Nat.le_refl _
  | step h ih =>
    rw [daysBeforeMonth_succ year (Nat.le_trans ha h)]
    omega

/-- From March on the leap day lies before the month. -/
theorem daysBeforeMonth_eq (year : Nat) {month : Nat} (h : 1 ≤ month ∧ month ≤ 12) :
    daysBeforeMonth year month =
      if month < 3 then 31 * (month - 1) else (153 * (month - 3) + 2) / 5 + 59 + leapDay year := by
  have february : (if isLeap year = true then 29 else 28) = 28 + leapDay year := by
    unfold leapDay
    split <;> rfl
  obtain ⟨h1, h12⟩ := h
  interval_cases month <;> simp [daysBeforeMonth, daysInMonth, february] <;> omega

/-! ## Dates by their numbers -/

/-- A date of the calendar. -/
structure Date.Valid (date : Date) : Prop where
  year : 1 ≤ date.year ∧ date.year ≤ lastYear
  month : 1 ≤ date.month ∧ date.month ≤ 12
  day : 1 ≤ date.day ∧ date.day ≤ daysInMonth date.year date.month

/-- The number of the last day of the calendar. -/
def lastNumber : Nat := 3652059

theorem Date.number_eq (date : Date) :
    date.number = daysBeforeYear date.year + daysBeforeMonth date.year date.month + date.day := rfl

section

variable {date : Date}

/-- The last month ends with the year. -/
theorem daysBeforeMonth_december (year : Nat) : daysBeforeMonth year 12 + 31 = 365 + leapDay year := by
  rw [daysBeforeMonth_eq year (by decide), if_neg (by decide)]
  omega

/-- A date lies in its year. -/
theorem Date.Valid.dayOfYear_le (h : date.Valid) :
    daysBeforeMonth date.year date.month + date.day ≤ 365 + leapDay date.year := by
  have hd := h.day.2
  rcases Nat.lt_or_eq_of_le h.month.2 with hm | hm
  · have next := daysBeforeMonth_succ date.year h.month.1
    rw [daysBeforeMonth_eq date.year ⟨by omega, hm⟩] at next
    split at next <;> omega
  · rw [hm] at hd ⊢
    rw [← daysBeforeMonth_december]
    exact Nat.add_le_add_left hd _

theorem Date.Valid.number_range (h : date.Valid) : 1 ≤ date.number ∧ date.number ≤ lastNumber := by
  have last : daysBeforeYear (lastYear + 1) = lastNumber := by decide
  have mono := daysBeforeYear_mono (Nat.le_add_left 1 _) (Nat.succ_le_succ h.year.2)
  rw [last, daysBeforeYear_succ h.year.1] at mono
  have := h.dayOfYear_le
  have := h.day.1
  rw [Date.number_eq]
  omega

/-- The date with a number is found, or none if no day has this number. -/
def Finds (n : Int) : Option Date → Prop
  | some date => date.Valid ∧ (date.number : Int) = n
  | none => ¬ (1 ≤ n ∧ n ≤ lastNumber)

theorem firstDay_valid (year month : Nat) : 1 ≤ 1 ∧ 1 ≤ daysInMonth year month :=
  ⟨Nat.le_refl 1, Nat.le_trans (by decide) (daysInMonth_bounds year month).1⟩

/-- The next day has the next number. -/
theorem Date.Valid.next? (h : date.Valid) : Finds (date.number + 1) date.next? := by
  obtain ⟨year, month, day⟩ := date
  obtain ⟨hy, hm, hd⟩ := h
  dsimp only at hy hm hd
  simp only [Date.next?]
  split
  · exact ⟨⟨hy, hm, by dsimp only; omega⟩, by simp only [Date.number_eq]; omega⟩
  split
  · refine ⟨⟨hy, by dsimp only; omega, firstDay_valid _ _⟩, ?_⟩
    simp only [Date.number_eq, daysBeforeMonth_succ _ hm.1]
    omega
  obtain rfl : month = 12 := by omega
  have december : daysInMonth year 12 = 31 := rfl
  split
  · refine ⟨⟨by dsimp only; omega, by dsimp only; omega, firstDay_valid _ _⟩, ?_⟩
    have length := daysBeforeMonth_december year
    have january : daysBeforeMonth (year + 1) 1 = 0 := rfl
    simp only [Date.number_eq, daysBeforeYear_succ hy.1]
    omega
  · obtain rfl : year = 9999 := by unfold lastYear at *; omega
    obtain rfl : day = 31 := by omega
    unfold Finds
    decide

/-- The day before has the number before. -/
theorem Date.Valid.previous? (h : date.Valid) : Finds (date.number - 1) date.previous? := by
  obtain ⟨year, month, day⟩ := date
  obtain ⟨hy, hm, hd⟩ := h
  dsimp only at hy hm hd
  simp only [Date.previous?]
  split
  · exact ⟨⟨hy, hm, by dsimp only; omega⟩, by simp only [Date.number_eq]; omega⟩
  split
  · obtain ⟨month, rfl⟩ : ∃ n, month = n + 1 := ⟨month - 1, by omega⟩
    refine ⟨⟨hy, by dsimp only; omega, (firstDay_valid _ _).2, Nat.le_refl _⟩, ?_⟩
    simp only [Date.number_eq, Nat.add_sub_cancel,
      daysBeforeMonth_succ year (show 1 ≤ month by omega)]
    omega
  obtain rfl : month = 1 := by omega
  split
  · obtain ⟨year, rfl⟩ : ∃ n, year = n + 1 := ⟨year - 1, by omega⟩
    refine ⟨⟨by dsimp only; omega, by dsimp only; omega, by dsimp only; omega, Nat.le_refl 31⟩, ?_⟩
    have length := daysBeforeMonth_december year
    have january : daysBeforeMonth (year + 1) 1 = 0 := rfl
    simp only [Date.number_eq, Nat.add_sub_cancel, daysBeforeYear_succ (show 1 ≤ year by omega)]
    omega
  · obtain rfl : year = 1 := by omega
    obtain rfl : day = 1 := by omega
    unfold Finds
    decide

/-- Steps of one day each find the date that is as many days away. -/
theorem finds_steps? {step? : Date → Option Date} {change : Int} (hc : change = 1 ∨ change = -1)
    (hs : ∀ date : Date, date.Valid → Finds (date.number + change) (step? date)) (n : Nat)
    (h : date.Valid) : Finds (date.number + n * change) (Date.steps? step? n date) := by
  induction n generalizing date with
  | zero => exact ⟨h, by simp⟩
  | succ n ih =>
    have range := h.number_range
    have step := hs date h
    rw [Date.steps?]
    cases hn : step? date with
    | none =>
      rw [hn] at step
      -- Whoever leaves the calendar does not come back.
      simp only [Option.bind_none, Finds] at step ⊢
      rcases hc with rfl | rfl <;> omega
    | some next =>
      rw [hn] at step
      have away : (next.number : Int) + n * change = date.number + (n + 1 : Nat) * change := by
        rw [step.2]
        rcases hc with rfl | rfl <;> omega
      exact away ▸ ih step.1

theorem Date.Valid.shift? (h : date.Valid) (days : Int) :
    Finds (date.number + days) (date.shift? days) := by
  cases days with
  | ofNat n =>
    have found := finds_steps? (.inl rfl) (fun _ hv => hv.next?) n h
    rwa [Int.mul_one] at found
  | negSucc n =>
    have found := finds_steps? (.inr rfl) (fun _ hv => hv.previous?) (n + 1) h
    rwa [Int.mul_neg_one] at found

theorem Date.Valid.number_lt {other : Date} (h : date.Valid) (ho : other.Valid)
    (hl : date.year < other.year ∨
      date.year = other.year ∧ (date.month < other.month ∨
        date.month = other.month ∧ date.day < other.day)) : date.number < other.number := by
  obtain ⟨year, month, day⟩ := date
  obtain ⟨year', month', day'⟩ := other
  have hd := h.day
  have hd' := ho.day
  have hy := h.dayOfYear_le
  simp only [Date.number_eq] at *
  rcases hl with hl | ⟨rfl, hl | ⟨rfl, hl⟩⟩
  · have later := daysBeforeYear_mono (Nat.le_add_left 1 year) hl
    rw [daysBeforeYear_succ (show 1 ≤ year from h.year.1)] at later
    omega
  · have later := daysBeforeMonth_mono year (Nat.le_add_left 1 month) hl
    rw [daysBeforeMonth_succ year (show 1 ≤ month from h.month.1)] at later
    omega
  · omega

/-- A date is known by its number. -/
theorem Date.Valid.eq_of_number_eq {other : Date} (h : date.Valid) (ho : other.Valid)
    (hn : date.number = other.number) : date = other := by
  have before := mt (h.number_lt ho) (by omega)
  have behind := mt (ho.number_lt h) (by omega)
  obtain ⟨year, month, day⟩ := date
  obtain ⟨year', month', day'⟩ := other
  simp only [Date.mk.injEq] at *
  omega

end

/-! ## Instants -/

/-- A date and a time of the day. -/
structure Utc.Valid (utc : Utc) : Prop where
  date : utc.date.Valid
  hour : utc.hour < 24
  minute : utc.minute < 60
  second : utc.second < 60

/-- The seconds since the calendar started. -/
def Utc.seconds (utc : Utc) : Int :=
  (((utc.date.number - 1 : Int) * 24 + utc.hour) * 60 + utc.minute) * 60 + utc.second

/-- A moment of the calendar, in the time of a place that is less than a day away from universal
time. -/
structure Moment.Valid (m : Moment) : Prop where
  year : 1 ≤ m.year ∧ m.year ≤ 9999
  month : 1 ≤ m.month ∧ m.month ≤ 12
  day : 1 ≤ m.day ∧ m.day ≤ daysInMonth m.year.toNat m.month.toNat
  hour : 0 ≤ m.hour ∧ m.hour < 24
  minute : 0 ≤ m.minute ∧ m.minute < 60
  second : 0 ≤ m.second ∧ m.second < 60
  microsecond : 0 ≤ m.microsecond ∧ m.microsecond < 1000000
  offset : ∀ minutes ∈ m.offset, -1440 < minutes ∧ minutes < 1440

/-- The date of a moment at its place. -/
def Moment.date (m : Moment) : Date := ⟨m.year.toNat, m.month.toNat, m.day.toNat⟩

/-- The microseconds since the calendar started in universal time. -/
def Moment.instant (m : Moment) : Int :=
  ((((m.date.number - 1 : Int) * 24 + m.hour) * 60 + m.minute - m.offset.getD 0) * 60 + m.second) *
    1000000 + m.microsecond

/-- In universal time the moment is in the calendar. -/
def Moment.InCalendar (m : Moment) : Prop :=
  ∃ utc : Utc, utc.Valid ∧ utc.seconds = m.instant / 1000000

section

variable {m : Moment}

theorem Moment.Valid.date (h : m.Valid) : m.date.Valid := by
  obtain ⟨hy, hm, hd, -⟩ := h
  exact ⟨by simp only [Moment.date, lastYear]; omega, by simp only [Moment.date]; omega,
    by simp only [Moment.date]; omega⟩

theorem offsetFault?_eq_none {minutes : Int} (h : -1440 < minutes ∧ minutes < 1440) :
    offsetFault? minutes = none := by
  have limit : dayLimit = 999999999 := rfl
  simp only [offsetFault?]
  rw [if_neg (by omega), if_pos (by omega)]

theorem Moment.Valid.fault?_eq_none (h : m.Valid) : m.fault? = none := by
  obtain ⟨hy, hm, hd, hh, hn, hs, hu, ho⟩ := h
  have last : (lastYear : Int) = 9999 := rfl
  have offset : m.offset.bind offsetFault? = none :=
    Option.bind_eq_none_iff.2 fun minutes hmem => offsetFault?_eq_none (ho minutes hmem)
  rw [Moment.fault?, offset, Option.none_or, if_neg (by omega), if_neg (by omega),
    if_neg (by omega), if_neg (by omega), if_neg (by omega), if_neg (by omega), if_neg (by omega)]

/-- The minutes in universal time since the day started at the place of a moment. -/
def Moment.minutes (m : Moment) : Int := m.hour * 60 + m.minute - m.offset.getD 0

theorem Moment.Valid.instant_div (h : m.Valid) :
    m.instant / 1000000 = ((m.date.number - 1 : Int) * 1440 + m.minutes) * 60 + m.second := by
  have := h.microsecond
  rw [Moment.instant, Moment.minutes]
  omega

theorem Moment.Valid.toUtc_eq (h : m.Valid) :
    m.toUtc =
      match m.date.shift? (m.minutes / 1440) with
      | some date => .ok
        { date, hour := (m.minutes % 1440).toNat / 60, minute := (m.minutes % 1440).toNat % 60
          second := m.second.toNat }
      | none => .error .outOfRange := by
  rw [Moment.toUtc, h.fault?_eq_none]
  rfl

/-- A moment is converted to the time with the same instant; there is none only if the instant is not
in the calendar. -/
theorem Moment.Valid.toUtc (h : m.Valid) :
    (∃ utc, m.toUtc = .ok utc ∧ utc.Valid ∧ utc.seconds = m.instant / 1000000) ∨
      m.toUtc = .error .outOfRange ∧ ¬ m.InCalendar := by
  have found := h.date.shift? (m.minutes / 1440)
  have hs := h.second
  have instant := h.instant_div
  rw [h.toUtc_eq]
  generalize m.minutes = minutes at *
  cases hd : m.date.shift? (minutes / 1440) with
  | some date =>
    rw [hd] at found
    obtain ⟨hv, hn⟩ := found
    refine .inl ⟨_, rfl, ⟨hv, ?_, ?_, ?_⟩, ?_⟩
    · dsimp only
      omega
    · dsimp only
      omega
    · dsimp only
      omega
    · simp only [Utc.seconds]
      omega
  | none =>
    rw [hd, Finds] at found
    refine .inr ⟨rfl, ?_⟩
    rintro ⟨utc, hu, he⟩
    have range := hu.date.number_range
    have := hu.hour
    have := hu.minute
    have := hu.second
    rw [Utc.seconds] at he
    omega

/-- Two times are the same if they name the same second. -/
theorem Utc.Valid.eq_of_seconds_eq {utc other : Utc} (h : utc.Valid) (ho : other.Valid)
    (hs : utc.seconds = other.seconds) : utc = other := by
  obtain ⟨hd, hh, hm, hsec⟩ := h
  obtain ⟨hd', hh', hm', hsec'⟩ := ho
  have date : utc.date = other.date := by
    refine hd.eq_of_number_eq hd' ?_
    simp only [Utc.seconds] at hs
    omega
  obtain ⟨date, hour, minute, second⟩ := utc
  obtain ⟨date', hour', minute', second'⟩ := other
  simp only [Utc.seconds, Utc.mk.injEq] at *
  subst date
  exact ⟨rfl, by omega, by omega, by omega⟩

end

/-! ## Weekdays -/

/-- Weekdays by Zeller's congruence, Saturday having the number zero: January and February count as
months of the year before. -/
def zeller (date : Date) : Nat :=
  let year := if date.month < 3 then date.year - 1 else date.year
  let month := if date.month < 3 then date.month + 12 else date.month
  (date.day + 13 * (month + 1) / 5 + year + year / 4 - year / 100 + year / 400) % 7

theorem Date.Valid.zeller_eq {date : Date} (h : date.Valid) :
    zeller date = (date.number - 1 + 2) % 7 := by
  obtain ⟨year, month, day⟩ := date
  obtain ⟨⟨hy, -⟩, ⟨h1, h12⟩, ⟨hd, -⟩⟩ := h
  have next := daysBeforeYear_succ hy
  have fewer (n : Nat) : n / 100 ≤ n / 4 := Nat.div_le_div_left (by decide) (by decide)
  simp only [Date.number_eq, zeller, daysBeforeMonth_eq year ⟨h1, h12⟩] at *
  by_cases hm : month < 3
  · have := fewer (year - 1)
    simp only [if_pos hm, daysBeforeYear] at *
    generalize (year - 1) / 4 = a, (year - 1) / 100 = b, (year - 1) / 400 = c at *
    interval_cases month <;> omega
  · -- From March on the leap day is behind, as if the year had ended in February.
    have := fewer year
    simp only [if_neg hm]
    generalize daysBeforeYear year = before at *
    simp only [daysBeforeYear, Nat.add_sub_cancel] at next
    generalize year / 4 = a, year / 100 = b, year / 400 = c at *
    interval_cases month <;> omega

/-- The names of the weekdays from Saturday on. -/
def weekdayNames : List String := ["Sat", "Sun", "Mon", "Tue", "Wed", "Thu", "Fri"]

theorem Date.Valid.weekday_eq {date : Date} (h : date.Valid) :
    date.weekday = weekdayNames.getD (zeller date) "" := by
  have turned : ∀ n < 7, (weekdays[n]?).getD "" = weekdayNames.getD ((n + 2) % 7) "" := by decide
  rw [Date.weekday, turned _ (Nat.mod_lt _ (by decide)), h.zeller_eq, Nat.mod_add_mod]

/-! ## Texts -/

/-- The number that ASCII digits stand for. -/
def number? (chars : List Char) : Option Nat :=
  if chars.all Char.isDigit then some (Nat.ofDigitChars 10 chars 0) else none

/-- The characters of a text at fixed places. -/
def field (start count : Nat) (text : List Char) : List Char := (text.drop start).take count

/-- The weekday and the time that a text of the form `Www, DD Mon YYYY HH:MM:SS GMT` names. -/
def readText? (text : List Char) : Option (String × Utc) :=
  if text.length = 29 ∧ field 3 2 text = ", ".toList ∧ field 7 1 text = [' '] ∧
      field 11 1 text = [' '] ∧ field 16 1 text = [' '] ∧ field 19 1 text = [':'] ∧
      field 22 1 text = [':'] ∧ field 25 4 text = " GMT".toList then do
    let day ← number? (field 5 2 text)
    let month ← months.findIdx? (· == String.ofList (field 8 3 text))
    let year ← number? (field 12 4 text)
    let hour ← number? (field 17 2 text)
    let minute ← number? (field 20 2 text)
    let second ← number? (field 23 2 text)
    return (String.ofList (field 0 3 text), { date := ⟨year, month + 1, day⟩, hour, minute, second })
  else none

/-- Digits with zeros in front have the wanted width and stand for the number. -/
theorem digits_spec {width n : Nat} (hw : 0 < width) (h : n < Nat.pow 10 width) :
    (digits width n).toList.length = width ∧ number? (digits width n).toList = some n := by
  have chars : (digits width n).toList =
      List.replicate (width - (Nat.toDigits 10 n).length) '0' ++ Nat.toDigits 10 n := by
    simp only [digits, String.toList_ofList, Nat.toString_eq_repr, Nat.toList_repr]
  have short : (Nat.toDigits 10 n).length ≤ width :=
    (Nat.length_toDigits_le_iff (by decide) hw).2 h
  have zeros (count : Nat) (rest : List Char) :
      Nat.ofDigitChars 10 (List.replicate count '0' ++ rest) 0 = Nat.ofDigitChars 10 rest 0 := by
    induction count with
    | zero => rfl
    | succ count ih => rwa [List.replicate_succ, List.cons_append, Nat.ofDigitChars_cons]
  rw [chars]
  constructor
  · rw [List.length_append, List.length_replicate]
    omega
  · rw [number?, if_pos, zeros, Nat.ofDigitChars_ten_toDigits]
    rw [List.all_append, Bool.and_eq_true, List.all_replicate]
    refine ⟨by simp, List.all_eq_true.2 fun c hc => ?_⟩
    exact Nat.isDigit_of_mem_toDigits (by decide) (by decide) hc

theorem two_digits {n : Nat} (h : n < 100) :
    ∃ a b, (digits 2 n).toList = [a, b] ∧ number? [a, b] = some n := by
  obtain ⟨hl, hn⟩ := digits_spec (by decide) (show n < Nat.pow 10 2 from h)
  match hc : (digits 2 n).toList, hl with
  | [a, b], _ => exact ⟨a, b, rfl, hc ▸ hn⟩

theorem four_digits {n : Nat} (h : n < 10000) :
    ∃ a b c d, (digits 4 n).toList = [a, b, c, d] ∧ number? [a, b, c, d] = some n := by
  obtain ⟨hl, hn⟩ := digits_spec (by decide) (show n < Nat.pow 10 4 from h)
  match hc : (digits 4 n).toList, hl with
  | [a, b, c, d], _ => exact ⟨a, b, c, d, rfl, hc ▸ hn⟩

theorem three_letters {name : String} (h : name.toList.length = 3) :
    ∃ a b c, name.toList = [a, b, c] ∧ String.ofList [a, b, c] = name := by
  match hc : name.toList, h with
  | [a, b, c], _ => exact ⟨a, b, c, rfl, hc ▸ String.ofList_toList⟩

theorem months_spec : ∀ n < 12, ((months[n]?).getD "").toList.length = 3 ∧
    months.findIdx? (· == (months[n]?).getD "") = some n := by
  decide

/-- The text of a time is read back. -/
theorem Utc.Valid.readText?_format {utc : Utc} (h : utc.Valid) :
    readText? utc.format.toList = some (utc.date.weekday, utc) := by
  have names : ∀ n < 7, ((weekdays[n]?).getD "").toList.length = 3 := by decide
  have year_lt : utc.date.year < 10000 := Nat.lt_succ_of_le h.date.year.2
  have month_pos := h.date.month.1
  have month_le := h.date.month.2
  have day_le := Nat.le_trans h.date.day.2 (daysInMonth_bounds _ _).2
  have hour_lt := h.hour
  have minute_lt := h.minute
  have second_lt := h.second
  obtain ⟨long, index⟩ := months_spec (utc.date.month - 1) (by omega)
  obtain ⟨w₁, w₂, w₃, hw, weekday⟩ :=
    three_letters (names _ (Nat.mod_lt (utc.date.number - 1) (by decide)))
  obtain ⟨n₁, n₂, n₃, hn, month⟩ := three_letters long
  obtain ⟨d₁, d₂, hd, day⟩ := two_digits (show utc.date.day < 100 by omega)
  obtain ⟨y₁, y₂, y₃, y₄, hy, year⟩ := four_digits year_lt
  obtain ⟨h₁, h₂, hh, hour⟩ := two_digits (show utc.hour < 100 by omega)
  obtain ⟨m₁, m₂, hm, minute⟩ := two_digits (show utc.minute < 100 by omega)
  obtain ⟨s₁, s₂, hs, second⟩ := two_digits (show utc.second < 100 by omega)
  have text : utc.format.toList =
      [w₁, w₂, w₃, ',', ' ', d₁, d₂, ' ', n₁, n₂, n₃, ' ', y₁, y₂, y₃, y₄, ' ', h₁, h₂, ':', m₁, m₂, ':',
        s₁, s₂, ' ', 'G', 'M', 'T'] := by
    simp only [Utc.format, Date.weekday, String.toList_append, hw, hn, hd, hy, hh, hm, hs]
    rfl
  rw [text, readText?, if_pos ⟨rfl, rfl, rfl, rfl, rfl, rfl, rfl, rfl⟩]
  simp only [field, List.drop_succ_cons, List.drop_zero, List.take_succ_cons, List.take_zero, day,
    month, index, year, hour, minute, second, weekday, Option.bind_eq_bind, Option.bind_some,
    Nat.sub_add_cancel month_pos]
  rfl

/-! ## The text of a moment -/

section

variable {m : Moment}

theorem Moment.Valid.httpDate_eq_ok_iff (h : m.Valid) {text : String} :
    httpDate m = .ok text ↔
      ∃ utc : Utc, utc.Valid ∧ utc.seconds = m.instant / 1000000 ∧ utc.format = text := by
  rcases h.toUtc with ⟨utc, ht, hv, hs⟩ | ⟨ht, hout⟩
  · rw [httpDate, ht, Except.map]
    constructor
    · intro he
      exact ⟨utc, hv, hs, Except.ok.inj he⟩
    · rintro ⟨other, ho, hso, hf⟩
      rw [hv.eq_of_seconds_eq ho (hs.trans hso.symm), hf]
  · rw [httpDate, ht, Except.map]
    refine ⟨nofun, ?_⟩
    rintro ⟨utc, hv, hs, -⟩
    exact absurd ⟨utc, hv, hs⟩ hout

theorem Moment.Valid.httpDate_of_not_inCalendar (h : m.Valid) (hout : ¬ m.InCalendar) :
    httpDate m = .error .outOfRange := by
  rcases h.toUtc with ⟨utc, -, hv, hs⟩ | ⟨ht, -⟩
  · exact absurd ⟨utc, hv, hs⟩ hout
  · rw [httpDate, ht]
    rfl

end

/-- For every moment whose instant is in the calendar there is a text, and it is read back as the
instant, up to the second, and its true weekday; for every other moment there is none. So two moments
have the same text just when they are in the same second, wherever they are. -/
theorem httpDate_names_instant {m : Moment} (h : m.Valid) :
    (m.InCalendar → ∃ text weekday utc, httpDate m = .ok text ∧
      readText? text.toList = some (weekday, utc) ∧ utc.Valid ∧
      utc.seconds = m.instant / 1000000 ∧ weekday = weekdayNames.getD (zeller utc.date) "") ∧
    (httpDate m = .error .outOfRange ↔ ¬ m.InCalendar) ∧
    ∀ other : Moment, other.Valid →
      (m.instant = other.instant → httpDate m = httpDate other) ∧
      ∀ text, httpDate m = .ok text →
        (httpDate other = .ok text ↔ m.instant / 1000000 = other.instant / 1000000) := by
  refine ⟨?_, ⟨?_, h.httpDate_of_not_inCalendar⟩, fun other ho => ⟨fun he => ?_, fun text ht => ?_⟩⟩
  · rintro ⟨utc, hv, hs⟩
    exact ⟨utc.format, utc.date.weekday, utc, h.httpDate_eq_ok_iff.2 ⟨utc, hv, hs, rfl⟩,
      hv.readText?_format, hv, hs, hv.date.weekday_eq⟩
  · rintro he ⟨utc, hv, hs⟩
    cases he.symm.trans (h.httpDate_eq_ok_iff.2 ⟨utc, hv, hs, rfl⟩)
  · by_cases hin : m.InCalendar
    · obtain ⟨utc, hv, hs⟩ := hin
      rw [h.httpDate_eq_ok_iff.2 ⟨utc, hv, hs, rfl⟩,
        ho.httpDate_eq_ok_iff.2 ⟨utc, hv, he ▸ hs, rfl⟩]
    · rw [h.httpDate_of_not_inCalendar hin,
        ho.httpDate_of_not_inCalendar (by rwa [Moment.InCalendar, ← he])]
  · obtain ⟨utc, hv, hs, hf⟩ := h.httpDate_eq_ok_iff.1 ht
    constructor
    · intro hto
      obtain ⟨utc', hv', hs', hf'⟩ := ho.httpDate_eq_ok_iff.1 hto
      have read := hv.readText?_format
      rw [hf, ← hf', hv'.readText?_format] at read
      obtain ⟨-, rfl⟩ := Prod.mk.inj (Option.some.inj read)
      exact hs.symm.trans hs'
    · intro he
      exact ho.httpDate_eq_ok_iff.2 ⟨utc, hv, hs.trans he, hf⟩

/-- Half past midnight on New Year's Day, two hours ahead of universal time, is still in the last day
of a leap year; the first minute of the calendar, a minute ahead, is before the calendar. -/
theorem httpDate_names_instant_newYear :
    httpDate ⟨2001, 1, 1, 0, 30, 59, 999999, some 120⟩ = .ok "Sun, 31 Dec 2000 22:30:59 GMT" ∧
    httpDate ⟨1, 1, 1, 0, 0, 0, 0, some 1⟩ = .error .outOfRange := by
  have newYear : Moment.Valid ⟨2001, 1, 1, 0, 30, 59, 999999, some 120⟩ :=
    ⟨by decide, by decide, by decide, by decide, by decide, by decide, by decide,
      by rintro _ ⟨⟩; decide⟩
  have universal : Moment.Valid ⟨2000, 12, 31, 22, 30, 59, 0, none⟩ :=
    ⟨by decide, by decide, by decide, by decide, by decide, by decide, by decide, by rintro _ ⟨⟩⟩
  have early : Moment.Valid ⟨1, 1, 1, 0, 0, 0, 0, some 1⟩ :=
    ⟨by decide, by decide, by decide, by decide, by decide, by decide, by decide,
      by rintro _ ⟨⟩; decide⟩
  have text : httpDate ⟨2000, 12, 31, 22, 30, 59, 0, none⟩ = .ok "Sun, 31 Dec 2000 22:30:59 GMT" :=
    by decide
  refine ⟨(((httpDate_names_instant universal).2.2 _ newYear).2 _ text).2 (by decide),
    (httpDate_names_instant early).2.1.2 ?_⟩
  rintro ⟨utc, hv, hs⟩
  have number := hv.date.number_range
  have instant : Moment.instant ⟨1, 1, 1, 0, 0, 0, 0, some 1⟩ / 1000000 = -60 := by decide
  rw [instant, Utc.seconds] at hs
  omega

end PageScript.Calendar
