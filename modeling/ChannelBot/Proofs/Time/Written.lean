/-
Dates and timestamps in writing. Every day of the calendar is the day of one date (`ofDayNumber_spec`),
and a timestamp that was written is read back as it was (`Timestamp.read?_text`): its date, its time of
day to the microsecond, and the offset of its clock. Whatever is read as a time, in words or as a count,
is a time of the calendar (`Timestamp.read?_within`).
-/
import Mathlib.Algebra.GroupWithZero.Nat
import ChannelBot.Proofs.Number.Written
import ChannelBot.Time.Calendar

namespace ChannelBot

open Text (isAsciiDigit digitsValue)

namespace Date

/-! ## Years -/

/-- A year has 365 days, a leap year one more. -/
theorem daysOfYears_succ (y : Nat) :
    daysOfYears (y + 1) = daysOfYears y + if isLeap (y + 1) then 366 else 365 := by
  have hleap : isLeap (y + 1) = true ↔ 4 ∣ y + 1 ∧ (¬ 100 ∣ y + 1 ∨ 400 ∣ y + 1) := by
    simp [isLeap, Nat.dvd_iff_mod_eq_zero]
  have hhundred : y / 100 ≤ 365 * y := (Nat.div_le_self y 100).trans (Nat.le_mul_of_pos_left y (by decide))
  rw [daysOfYears, daysOfYears, Nat.succ_div, Nat.succ_div, Nat.succ_div]
  by_cases h400 : 400 ∣ y + 1
  · have h100 : 100 ∣ y + 1 := Nat.dvd_trans (by decide) h400
    have h4 : 4 ∣ y + 1 := Nat.dvd_trans (by decide) h400
    rw [if_pos h400, if_pos h100, if_pos h4, if_pos (hleap.mpr ⟨h4, .inr h400⟩)]
    omega
  · by_cases h100 : 100 ∣ y + 1
    · have h4 : 4 ∣ y + 1 := Nat.dvd_trans (by decide) h100
      rw [if_neg h400, if_pos h100, if_pos h4,
        if_neg fun h => (hleap.mp h).2.elim (absurd h100) h400]
      omega
    · rw [if_neg h400, if_neg h100]
      by_cases h4 : 4 ∣ y + 1
      · rw [if_pos h4, if_pos (hleap.mpr ⟨h4, .inl h100⟩)]
        omega
      · rw [if_neg h4, if_neg fun h => h4 (hleap.mp h).1]
        omega

theorem daysOfYears_mono {y z : Nat} (h : y ≤ z) : daysOfYears y ≤ daysOfYears z := by
  induction h with
  | refl => exact Nat.le_refl _
  | step _ ih =>
    rw [daysOfYears_succ]
    omega

/-- Every day lies in one year. -/
theorem exists_year (n : Nat) : ∃ y, daysOfYears y ≤ n ∧ n < daysOfYears (y + 1) := by
  induction n with
  | zero => exact ⟨0, by decide⟩
  | succ n ih =>
    obtain ⟨y, hfrom, hto⟩ := ih
    by_cases hnext : n + 1 < daysOfYears (y + 1)
    · exact ⟨y, by omega, hnext⟩
    · have hstep := daysOfYears_succ (y + 1)
      refine ⟨y + 1, by omega, ?_⟩
      split at hstep <;> omega

/-- Of numbers in a row, the last one up to a bound among them is the bound. -/
theorem getLast?_takeWhile_le {p : Nat → Bool} {s k m : Nat} (hp : ∀ y, p y = decide (y ≤ m)) (hs : s ≤ m)
    (hm : m < s + k) : ((List.range' s k).takeWhile p).getLast? = some m := by
  induction k generalizing s with
  | zero => omega
  | succ k ih =>
    rw [List.range'_succ, List.takeWhile_cons_of_pos (by rw [hp, decide_eq_true hs])]
    rcases Nat.lt_or_eq_of_le hs with hlt | rfl
    · rw [List.getLast?_cons, ih hlt (by omega)]
      rfl
    · have hstop : (List.range' (s + 1) k).takeWhile p = [] := by
        cases k with
        | zero => rfl
        | succ k =>
          rw [List.range'_succ, List.takeWhile_cons_of_neg]
          simp [hp]
      rw [hstop]
      rfl

/-- The search for the year begins early enough, and it is long enough for the whole calendar. -/
theorem year_found {n y : Nat} (hfrom : daysOfYears y ≤ n) (hto : n < daysOfYears (y + 1)) (hn : n < 3652059) :
    ((((List.range 30).map (n / 366 + ·)).takeWhile (fun y => daysOfYears y ≤ n)).getLast?).getD (n / 366) = y := by
  have hbefore : n / 366 ≤ y := by
    unfold daysOfYears at hto
    omega
  have hwithin : y < n / 366 + 30 := by
    unfold daysOfYears at hfrom
    omega
  have htest : ∀ z, decide (daysOfYears z ≤ n) = decide (z ≤ y) := by
    intro z
    refine decide_eq_decide.mpr ⟨fun hz => ?_, fun hz => (daysOfYears_mono hz).trans hfrom⟩
    by_contra hlater
    have := daysOfYears_mono (show y + 1 ≤ z by omega)
    omega
  rw [← List.range'_eq_map_range, getLast?_takeWhile_le htest hbefore hwithin]
  rfl

/-! ## Months -/

/-- A day is in the month that the months before it leave it to. -/
theorem monthAndDay_spec {lengths : List Nat} (month : Nat) {days : Nat} (h : days < lengths.sum) :
    ∃ k e length, monthAndDay month days lengths = (month + k, e + 1) ∧ lengths[k]? = some length ∧ e < length ∧
      (lengths.take k).sum + e = days := by
  induction lengths generalizing month days with
  | nil => simp at h
  | cons length rest ih =>
    rw [List.sum_cons] at h
    cases rest with
    | nil => exact ⟨0, days, length, rfl, rfl, by simpa using h, by simp⟩
    | cons next rest =>
      rw [monthAndDay.eq_3 _ _ _ _ (List.cons_ne_nil next rest)]
      by_cases hin : days < length
      · exact ⟨0, days, length, if_pos hin, rfl, hin, by simp⟩
      · have hrest : days - length < (next :: rest).sum := by omega
        obtain ⟨k, e, last, heq, hlast, he, hsum⟩ := ih (month + 1) hrest
        refine ⟨k + 1, e, last, ?_, hlast, he, ?_⟩
        · rw [if_neg hin, heq]
          congr 1
          omega
        · rw [List.take_succ_cons, List.sum_cons]
          omega

theorem sum_monthLengths (y : Nat) : (monthLengths y).sum = if isLeap y then 366 else 365 := by
  unfold monthLengths
  split <;> rfl

theorem isValid_iff {d : Date} : d.isValid = true ↔
    (1 ≤ d.year ∧ d.year ≤ 9999) ∧ 1 ≤ d.day ∧ d.day ≤ monthLength d.year d.month := by
  simp only [isValid, Bool.and_eq_true, decide_eq_true_eq, and_assoc]

/-- **Every day of the calendar has its date**, which is one that there is. -/
theorem ofDayNumber_spec {n : Nat} (h : n < 3652059) : (ofDayNumber n).isValid = true ∧ (ofDayNumber n).dayNumber = n := by
  obtain ⟨y, hfrom, hto⟩ := exists_year n
  have hyear : y + 1 ≤ 9999 := by
    by_contra hlate
    have := daysOfYears_mono (show 9999 ≤ y by omega)
    have hend : daysOfYears 9999 = 3652059 := by decide
    omega
  have hdays : n - daysOfYears y < (monthLengths (y + 1)).sum := by
    rw [sum_monthLengths]
    rw [daysOfYears_succ] at hto
    omega
  obtain ⟨k, e, length, hmonth, hlength, he, hsum⟩ := monthAndDay_spec 1 hdays
  have hdate : ofDayNumber n = ⟨y + 1, 1 + k, e + 1⟩ := by
    rw [ofDayNumber]
    dsimp only
    rw [year_found hfrom hto h, hmonth]
  rw [hdate]
  refine ⟨?_, ?_⟩
  · have hmonth : monthLength (y + 1) (1 + k) = length := by
      rw [monthLength, if_neg (by simp), Nat.add_sub_cancel_left, hlength]
      rfl
    rw [isValid_iff]
    dsimp only
    omega
  · simp only [dayNumber, Nat.add_sub_cancel, Nat.add_sub_cancel_left, ← List.sum_eq_foldl]
    omega

/-- There are at most twelve months, each of at most 31 days. -/
theorem monthLength_bounds {year month : Nat} (h : 0 < monthLength year month) :
    month ≤ 12 ∧ monthLength year month ≤ 31 := by
  rw [monthLength] at h ⊢
  split at h
  · cases h
  · rename_i hmonth
    rw [if_neg hmonth]
    cases hlength : (monthLengths year)[month - 1]? with
    | none => simp [hlength] at h
    | some length =>
      refine ⟨?_, ?_⟩
      · have hplace := (List.getElem?_eq_some_iff.mp hlength).1
        simp only [monthLengths, List.length_cons, List.length_nil] at hplace
        omega
      · have hmem := List.mem_of_getElem? hlength
        simp only [monthLengths, List.mem_cons, List.not_mem_nil, or_false] at hmem
        rw [Option.getD_some]
        split at hmem <;> omega

/-- A date of the calendar comes before its end. -/
theorem dayNumber_lt {d : Date} (h : d.isValid = true) : d.dayNumber < 3652059 := by
  obtain ⟨⟨hfirst, hyear⟩, hstart, hday⟩ := isValid_iff.mp h
  have hmonth : d.month ≠ 0 := by
    intro hzero
    rw [hzero] at hday
    exact absurd (hstart.trans hday) (by simp [monthLength])
  have hlength : monthLength d.year d.month = ((monthLengths d.year)[d.month - 1]?).getD 0 :=
    if_neg (by simpa using hmonth)
  have hupto : ((monthLengths d.year).take (d.month - 1)).sum + monthLength d.year d.month ≤ (monthLengths d.year).sum := by
    conv_rhs => rw [← List.take_append_drop (d.month - 1) (monthLengths d.year), List.sum_append]
    refine Nat.add_le_add_left ?_ _
    rw [hlength, ← List.head?_drop]
    cases (monthLengths d.year).drop (d.month - 1) with
    | nil => exact Nat.le_refl 0
    | cons length rest => exact Nat.le_add_right length rest.sum
  have hyears := daysOfYears_succ (d.year - 1)
  rw [Nat.sub_add_cancel hfirst, ← sum_monthLengths] at hyears
  have hend : daysOfYears d.year ≤ 3652059 := (daysOfYears_mono hyear).trans (by decide)
  rw [dayNumber, ← List.sum_eq_foldl]
  omega

/-- The parts of a date have at most four and at most two digits. -/
theorem isValid_bounds {d : Date} (h : d.isValid = true) : d.year < 10 ^ 4 ∧ d.month < 10 ^ 2 ∧ d.day < 10 ^ 2 := by
  obtain ⟨⟨-, hyear⟩, hfirst, hday⟩ := isValid_iff.mp h
  have hmonth := monthLength_bounds (hfirst.trans hday)
  omega

end Date

/-! ## Numbers of fixed width -/

/-- A row of digits stands for a number that has no more of them. -/
theorem digitsValue_lt {ds : List Char} (h : ∀ c ∈ ds, isAsciiDigit c = true) : digitsValue ds < 10 ^ ds.length := by
  induction ds using List.reverseRecOn with
  | nil => decide
  | append_singleton ds c ih =>
    have hstep : digitsValue (ds ++ [c]) = 10 * digitsValue ds + (c.toNat - 48) := by
      rw [digitsValue, List.foldl_append]
      rfl
    have hc : c.toNat ≤ 57 := by
      have hdigit := h c (by simp)
      simp only [isAsciiDigit, Bool.and_eq_true, decide_eq_true_eq] at hdigit
      exact hdigit.2
    have := ih fun d hd => h d (List.mem_append_left _ hd)
    rw [hstep, List.length_append, List.length_singleton, Nat.pow_succ]
    omega

theorem digitsValue_zeros (k : Nat) (ds : List Char) : digitsValue (List.replicate k '0' ++ ds) = digitsValue ds := by
  induction k with
  | zero => rfl
  | succ k ih => exact ih

namespace Moment

/-- A number that fits the width takes just that, in digits that stand for it. -/
theorem padded_facts {width n : Nat} (hwidth : 0 < width) (h : n < 10 ^ width) :
    (padded width n).toList.length = width ∧ (∀ c ∈ (padded width n).toList, isAsciiDigit c = true) ∧
      digitsValue (padded width n).toList = n := by
  obtain ⟨hdigits, hvalue, -⟩ := Number.toDigits_facts n
  have hlength : (Nat.toDigits 10 n).length ≤ width := (Nat.length_toDigits_le_iff (by decide) hwidth).mpr h
  have heq : (padded width n).toList =
      List.replicate (width - (Nat.toDigits 10 n).length) '0' ++ Nat.toDigits 10 n := String.toList_ofList
  rw [heq]
  refine ⟨?_, fun c hc => ?_, (digitsValue_zeros _ _).trans hvalue⟩
  · rw [List.length_append, List.length_replicate]
    omega
  · rcases List.mem_append.mp hc with hc | hc
    · rw [(List.mem_replicate.mp hc).2]
      rfl
    · exact (Number.digit_facts (hdigits c hc)).1

end Moment

namespace Timestamp

open Moment (padded padded_facts)

theorem digits?_padded {width n : Nat} (hwidth : 0 < width) (h : n < 10 ^ width) (rest : List Char) :
    digits? width ((padded width n).toList ++ rest) = some (n, rest) := by
  obtain ⟨hlength, hdigits, hvalue⟩ := padded_facts hwidth h
  have htake : ((padded width n).toList ++ rest).take width = (padded width n).toList := List.take_left' hlength
  have hdrop : ((padded width n).toList ++ rest).drop width = rest := List.drop_left' hlength
  rw [digits?, htake, hdrop, if_pos (by simpa [hlength] using hdigits), hvalue]

theorem part?_padded {bound n : Nat} (hn : n < bound) (hbound : bound ≤ 10 ^ 2) (rest : List Char) :
    part? bound ((padded 2 n).toList ++ rest) = some (n, rest) := by
  rw [part?, digits?_padded (by decide) (hn.trans_le hbound)]
  exact if_pos hn

/-- The characters of a written date, before others. -/
theorem toList_date (y m d : String) (rest : List Char) :
    (y ++ "-" ++ m ++ "-" ++ d).toList ++ rest = y.toList ++ '-' :: (m.toList ++ '-' :: (d.toList ++ rest)) := by
  have hdash : "-".toList = ['-'] := rfl
  simp only [String.toList_append, hdash, List.append_assoc, List.cons_append, List.nil_append]

theorem date?_written {d : Date} (h : d.isValid = true) (rest : List Char) :
    date? ((padded 4 d.year ++ "-" ++ padded 2 d.month ++ "-" ++ padded 2 d.day).toList ++ rest) = some (d, rest) := by
  obtain ⟨hyear, hmonth, hday⟩ := Date.isValid_bounds h
  have hreadYear := digits?_padded (by decide) hyear
  have hreadMonth := digits?_padded (by decide) hmonth
  have hreadDay := digits?_padded (by decide) hday
  simp only [toList_date, date?, hreadYear, hreadMonth, hreadDay, if_pos h]

/-- A text that begins with no digit and with no mark of a fraction. -/
def EndsTime (rest : List Char) : Prop := ∀ c r, rest = c :: r → isAsciiDigit c = false ∧ c ≠ '.' ∧ c ≠ ','

/-- The fraction of a second in writing, none if there is none. -/
def fractionText (f : Nat) : String := if f == 0 then "" else "." ++ padded 6 f

theorem fraction?_padded {f : Nat} {rest : List Char} (hf : f < 10 ^ 6) (hrest : EndsTime rest) :
    fraction? ((padded 6 f).toList ++ rest) = some (f, rest) := by
  obtain ⟨hlength, hdigits, hvalue⟩ := padded_facts (by decide) hf
  have hstop : rest.takeWhile isAsciiDigit = [] ∧ rest.dropWhile isAsciiDigit = rest := by
    cases rest with
    | nil => exact ⟨rfl, rfl⟩
    | cons c r =>
      have hc := (hrest c r rfl).1
      exact ⟨List.takeWhile_cons_of_neg (by simp [hc]), List.dropWhile_cons_of_neg (by simp [hc])⟩
  have htake : ((padded 6 f).toList ++ rest).takeWhile isAsciiDigit = (padded 6 f).toList := by
    rw [List.takeWhile_append_of_pos hdigits, hstop.1, List.append_nil]
  have hdrop : ((padded 6 f).toList ++ rest).dropWhile isAsciiDigit = rest := by
    rw [List.dropWhile_append_of_pos hdigits, hstop.2]
  have hne : ((padded 6 f).toList).isEmpty = false := by
    rw [List.isEmpty_eq_false_iff, ← List.length_pos_iff, hlength]
    decide
  rw [fraction?, htake, hdrop, if_neg (by simp [hne]), List.take_left' hlength]
  exact congrArg (fun n => some (n, rest)) hvalue

theorem seconds?_written {s f : Nat} {rest : List Char} (hs : s < 60) (hf : f < 10 ^ 6) (hrest : EndsTime rest) :
    seconds? (':' :: ((padded 2 s).toList ++ ((fractionText f).toList ++ rest))) =
      some (s * Moment.second + f, rest) := by
  rw [seconds?, part?_padded hs (by decide)]
  by_cases hzero : f = 0
  · subst hzero
    have hnone : (fractionText 0).toList ++ rest = rest := rfl
    rw [hnone, Nat.add_zero]
    cases rest with
    | nil => simp only
    | cons c r =>
      obtain ⟨-, hpoint, hcomma⟩ := hrest c r rfl
      exact if_neg (by simp [hpoint, hcomma])
  · have hpoint : (fractionText f).toList ++ rest = '.' :: ((padded 6 f).toList ++ rest) := by
      rw [fractionText, if_neg (by simpa using hzero), String.toList_append]
      rfl
    rw [hpoint]
    dsimp only
    rw [if_pos (by decide), fraction?_padded hf hrest, Option.map_some]

/-- The characters of a written time of day, before others. -/
theorem toList_time (h m s f : String) (rest : List Char) :
    (h ++ ":" ++ m ++ ":" ++ s ++ f).toList ++ rest =
      h.toList ++ ':' :: (m.toList ++ ':' :: (s.toList ++ (f.toList ++ rest))) := by
  have hcolon : ":".toList = [':'] := rfl
  simp only [String.toList_append, hcolon, List.append_assoc, List.cons_append, List.nil_append]

theorem time?_written {h m s f : Nat} {rest : List Char} (hh : h < 24) (hm : m < 60) (hs : s < 60) (hf : f < 10 ^ 6)
    (hrest : EndsTime rest) :
    time? ((padded 2 h ++ ":" ++ padded 2 m ++ ":" ++ padded 2 s ++ fractionText f).toList ++ rest) =
      some (((h * 60 + m) * 60 + s) * Moment.second + f, rest) := by
  have hhour := part?_padded hh (by decide)
  have hminute := part?_padded hm (by decide)
  simp only [toList_time, time?, hhour, hminute, seconds?_written hs hf hrest, Option.map_some, Nat.add_mul _ s,
    Nat.add_assoc]

/-! ## Offsets -/

/-- The offset of a clock in writing, none if it is not known. -/
def zoneText : Option Int → String
  | some m => offsetText m
  | none => ""

/-- The characters of a written offset. -/
theorem toList_offset (m : Int) : (offsetText m).toList =
    (if m < 0 then '-' else '+') ::
      ((padded 2 (m.natAbs / 60)).toList ++ ':' :: ((padded 2 (m.natAbs % 60)).toList ++ [])) := by
  have hmarks : "-".toList = ['-'] ∧ "+".toList = ['+'] ∧ ":".toList = [':'] := ⟨rfl, rfl, rfl⟩
  rw [offsetText]
  split
  all_goals
    simp only [String.toList_append, hmarks, List.append_assoc, List.cons_append, List.nil_append, List.append_nil]

theorem offset?_written {h m : Nat} (hh : h < 24) (hm : m < 60) :
    offset? ((padded 2 h).toList ++ ':' :: ((padded 2 m).toList ++ [])) = some (h * 60 + m : Int) := by
  have hhour := part?_padded hh (by decide)
  have hminute := part?_padded hm (by decide)
  simp only [offset?, hhour, hminute]

theorem zone?_written {z : Option Int} (h : ∀ m, z = some m → m.natAbs < 1440) : zone? (zoneText z).toList = some z := by
  cases z with
  | none => rfl
  | some m =>
    have hm := h m rfl
    have hread := offset?_written (h := m.natAbs / 60) (m := m.natAbs % 60) (by omega) (by omega)
    rw [zoneText, toList_offset]
    split
    · have hminus : ∀ r, zone? ('-' :: r) = (offset? r).map fun m => some (-m) := fun _ => rfl
      rw [hminus, hread, Option.map_some, show -((m.natAbs / 60 : Nat) * 60 + (m.natAbs % 60 : Nat) : Int) = m by omega]
    · have hplus : ∀ r, zone? ('+' :: r) = (offset? r).map some := fun _ => rfl
      rw [hplus, hread, Option.map_some, show ((m.natAbs / 60 : Nat) * 60 + (m.natAbs % 60 : Nat) : Int) = m by omega]

theorem endsTime_zone (z : Option Int) : EndsTime (zoneText z).toList := by
  intro c r h
  cases z with
  | none => cases h
  | some m =>
    rw [zoneText, toList_offset] at h
    obtain rfl := (List.cons.inj h).1
    split <;> decide

/-! ## Timestamps -/

/-- The instant that a timestamp stands for, in microseconds of universal time. A clock of unknown offset counts as
one of universal time. -/
def instant (t : Timestamp) : Int := t.shown.micros - t.offset.getD 0 * (60 * Moment.second : Nat)

/-- Without its offset a timestamp stands for an instant that is that much later, so for the same one just if the
offset is zero. -/
theorem instant_shown (t : Timestamp) :
    (Timestamp.mk t.shown none).instant = t.instant + t.offset.getD 0 * (60 * Moment.second : Nat) ∧
      ((Timestamp.mk t.shown none).instant = t.instant ↔ t.offset.getD 0 = 0) := by
  simp only [instant, Option.getD_none, Moment.second]
  omega

/-- The parts of a written timestamp: the date, the time of day and the offset. -/
theorem toList_text (t : Timestamp) :
    let d := Date.ofDayNumber (t.shown.micros / Moment.day)
    let seconds := t.shown.micros % Moment.day / Moment.second
    t.text.toList =
      (padded 4 d.year ++ "-" ++ padded 2 d.month ++ "-" ++ padded 2 d.day).toList ++ 'T' ::
        ((padded 2 (seconds / 3600) ++ ":" ++ padded 2 (seconds / 60 % 60) ++ ":" ++ padded 2 (seconds % 60) ++
          fractionText (t.shown.micros % Moment.second)).toList ++ (zoneText t.offset).toList) := by
  have hmark : "T".toList = ['T'] := rfl
  have hzone : t.text = t.shown.text ++ zoneText t.offset := by
    rw [text]
    cases t.offset <;> rfl
  intro d seconds
  rw [hzone, Moment.text]
  simp only [String.toList_append, hmark, List.append_assoc, List.cons_append, List.nil_append]
  rfl

/-- **A written timestamp is read back**: the moment to the microsecond, and the offset. -/
theorem read?_text {t : Timestamp} (hshown : t.shown.micros < Moment.limit)
    (hoffset : ∀ m, t.offset = some m → m.natAbs < 1440) : read? t.text = some t := by
  have hday : t.shown.micros / Moment.day < 3652059 := by
    rw [Moment.limit] at hshown
    exact Nat.div_lt_of_lt_mul (by rwa [Nat.mul_comm])
  obtain ⟨hvalid, hnumber⟩ := Date.ofDayNumber_spec hday
  have hrest : t.shown.micros % Moment.day < Moment.day := Nat.mod_lt _ (by decide)
  have hseconds : t.shown.micros % Moment.day / Moment.second < 86400 :=
    Nat.div_lt_of_lt_mul (by rwa [Nat.mul_comm])
  have hfraction : t.shown.micros % Moment.second < 10 ^ 6 := Nat.mod_lt _ (by decide)
  have htime := time?_written (h := t.shown.micros % Moment.day / Moment.second / 3600)
    (m := t.shown.micros % Moment.day / Moment.second / 60 % 60)
    (s := t.shown.micros % Moment.day / Moment.second % 60) (by omega) (by omega) (by omega) hfraction
    (endsTime_zone t.offset)
  rw [read?, toList_text, date?_written hvalid]
  dsimp only
  rw [if_pos (by decide), htime]
  dsimp only
  rw [zone?_written hoffset, Option.map_some, Moment.ofDate, hnumber]
  have htotal : t.shown.micros / Moment.day * Moment.day +
      (((t.shown.micros % Moment.day / Moment.second / 3600 * 60 +
        t.shown.micros % Moment.day / Moment.second / 60 % 60) * 60 +
          t.shown.micros % Moment.day / Moment.second % 60) * Moment.second + t.shown.micros % Moment.second) =
      t.shown.micros := by
    unfold Moment.day Moment.second
    omega
  rw [htotal]

/-! ## Times of the calendar -/

variable {s r : List Char} {t : Timestamp}

theorem date?_isValid {d : Date} (h : date? s = some (d, r)) : d.isValid = true := by
  unfold date? at h
  split at h
  · split at h
    · split at h
      · split at h
        · cases h
          assumption
        · cases h
      · cases h
    · cases h
  · cases h

theorem part?_lt {bound n : Nat} (h : part? bound s = some (n, r)) : n < bound := by
  unfold part? at h
  split at h
  · split at h
    · cases h
      assumption
    · cases h
  · cases h

theorem fraction?_lt {f : Nat} (h : fraction? s = some (f, r)) : f < Moment.second := by
  rw [fraction?] at h
  split at h
  · cases h
  · cases h
    refine (digitsValue_lt fun c hc => ?_).trans_le (Nat.pow_le_pow_right (by decide) (List.length_take_le 6 _))
    rcases List.mem_append.mp (List.mem_of_mem_take hc) with hc | hc
    · exact List.mem_takeWhile_imp hc
    · rw [(List.mem_replicate.mp hc).2]
      rfl

theorem seconds?_lt {f : Nat} (h : seconds? s = some (f, r)) : f < 60 * Moment.second := by
  unfold seconds? at h
  split at h
  · split at h
    next n c rest hpart =>
      have hn := part?_lt hpart
      split at h
      · obtain ⟨⟨f, rest⟩, hfraction, heq⟩ := Option.map_eq_some_iff.mp h
        cases heq
        have hf := fraction?_lt hfraction
        unfold Moment.second at hf ⊢
        omega
      · cases h
        unfold Moment.second
        omega
    next n hpart =>
      have hn := part?_lt hpart
      cases h
      unfold Moment.second
      omega
    next => cases h
  · cases h
    decide

theorem time?_lt {n : Nat} (h : time? s = some (n, r)) : n < Moment.day := by
  unfold time? at h
  split at h
  · rename_i hour _ hhour
    split at h
    · rename_i minute _ hminute
      obtain ⟨⟨f, rest⟩, hseconds, heq⟩ := Option.map_eq_some_iff.mp h
      cases heq
      have hh := part?_lt hhour
      have hm := part?_lt hminute
      have hs := seconds?_lt hseconds
      unfold Moment.day Moment.second at *
      omega
    · cases h
  · cases h

/-- The time that is read from a text is one of the calendar. -/
theorem read?_within {s : String} (h : read? s = some t) : t.shown.micros < Moment.limit := by
  unfold read? at h
  split at h
  · cases h
  · rename_i d hdate
    cases h
    have hd := Date.dayNumber_lt (date?_isValid hdate)
    show d.dayNumber * Moment.day < Moment.limit
    unfold Moment.limit Moment.day Moment.second
    omega
  · rename_i d c r hdate
    have hd := Date.dayNumber_lt (date?_isValid hdate)
    split at h
    · split at h
      · rename_i n _ htime
        obtain ⟨z, -, rfl⟩ := Option.map_eq_some_iff.mp h
        have hn := time?_lt htime
        show d.dayNumber * Moment.day + n < Moment.limit
        unfold Moment.limit Moment.day Moment.second at *
        omega
      · cases h
    · cases h

theorem ofUnixMicros?_within {n : Int} (h : ofUnixMicros? n = some t) : t.shown.micros < Moment.limit := by
  rw [ofUnixMicros?] at h
  split at h
  · rename_i hin
    cases h
    exact (Int.toNat_lt hin.1).mpr hin.2
  · cases h

theorem ofReal?_within {x : Float} (h : ofReal? x = some t) : t.shown.micros < Moment.limit := by
  unfold ofReal? at h
  split at h
  · split at h
    · exact ofUnixMicros?_within h
    · cases h
  · dsimp only at h
    split at h
    · exact ofUnixMicros?_within h
    · cases h

theorem ofCount?_within {s : String} (h : ofCount? s = some t) : t.shown.micros < Moment.limit := by
  unfold ofCount? at h
  split at h
  -- the sign before the digits, one case each
  all_goals
    dsimp only at h
    split at h
    · cases h
    · split at h
      · exact ofReal?_within h
      · exact ofUnixMicros?_within h

end Timestamp

/-- A moment some seconds later is one of the calendar. -/
theorem Moment.addSeconds?_within {m later : Moment} {seconds : Int} (h : m.addSeconds? seconds = some later) :
    later.micros < Moment.limit := by
  unfold addSeconds? at h
  dsimp only at h
  split at h
  next hin =>
    cases h
    show (m.micros + seconds * Moment.second : Int).toNat < Moment.limit
    omega
  · cases h

/-- A moment of the calendar that was written is read back as one without an offset. -/
theorem Moment.read?_text {m : Moment} (h : m.micros < Moment.limit) : Timestamp.read? m.text = some ⟨m, none⟩ := by
  have htext : m.text = (Timestamp.mk m none).text := (String.append_empty).symm
  rw [htext]
  exact Timestamp.read?_text h (fun _ hz => nomatch hz)

end ChannelBot
