import HostedDelivery.Time
import HostedDelivery.Proofs.Text

/-!
# Instants read back from their text

An instant is read back from its text exactly (`Time.parse?_text`), and from its text to the second without its fraction
(`Time.parse?_wholeText`). Two instants with one text are the same (`Time.text_injective`).

The calendar counts every day: each number of days since 1970-01-01 is the number of exactly the date that it is read as
(`Date.toDays_ofDays`), and that date stands in the calendar (`Date.isValid_ofDays`). A cycle of 400 years is cut into
centuries, these into four years each, and these into single years; on such a cut every formula of the calendar is
linear (`Date.Cycles`).
-/

namespace HostedDelivery

/-! ### Every day of the calendar -/

namespace Date

/-- Day `d` of a cycle of 400 years is day `r` of year `t` of four, which are the `q`-th four of century `c`. Only the
last year of four has a day 365, and not at the end of the first three centuries. -/
structure Cycles (d c q t r : Int) : Prop where
  sum : d = 36524 * c + 1461 * q + 365 * t + r
  century : 0 ≤ c ∧ c ≤ 3
  quad : 0 ≤ q ∧ q ≤ 24
  year : 0 ≤ t ∧ t ≤ 3
  day : 0 ≤ r ∧ r ≤ 365
  leap : r = 365 → t = 3 ∧ (q < 24 ∨ c = 3)

theorem exists_cycles (d : Int) (low : 0 ≤ d) (high : d < 146097) : ∃ c q t r, Cycles d c q t r := by
  obtain ⟨c, e, sum, century, inCentury, lastC⟩ : ∃ c e : Int, d = 36524 * c + e ∧ (0 ≤ c ∧ c ≤ 3)
      ∧ (0 ≤ e ∧ e ≤ 36524) ∧ (e = 36524 → c = 3) := by
    by_cases last : d = 146096
    · exact ⟨3, 36524, by omega⟩
    · exact ⟨d / 36524, d % 36524, by omega⟩
  obtain ⟨q, s, split, quad, inQuad, lastQ⟩ : ∃ q s : Int, e = 1461 * q + s ∧ (0 ≤ q ∧ q ≤ 24)
      ∧ (0 ≤ s ∧ s ≤ 1460) ∧ (s = 1460 → q < 24 ∨ c = 3) :=
    ⟨e / 1461, e % 1461, by omega⟩
  by_cases last : s = 1460
  · exact ⟨c, q, 3, 365, by omega, century, quad, by omega, by omega, fun _ => ⟨rfl, lastQ last⟩⟩
  · exact ⟨c, q, s / 365, s % 365, by omega, century, quad, by omega, by omega, by omega⟩

namespace Cycles
variable {d c q t r : Int}

theorem quarters (cut : Cycles d c q t r) : (100 * c + 4 * q + t) / 4 = 25 * c + q := by
  have := cut.year
  omega

theorem hundredths (cut : Cycles d c q t r) : (100 * c + 4 * q + t) / 100 = c := by
  have := cut.year
  have := cut.quad
  omega

theorem year_bounds (cut : Cycles d c q t r) : 0 ≤ 100 * c + 4 * q + t ∧ 100 * c + 4 * q + t < 400 := by
  have := cut.century
  have := cut.quad
  have := cut.year
  omega

/-- The formula for the year of a cycle, whose first quotient runs ahead by one towards the end of four years. -/
theorem year_eq (cut : Cycles d c q t r) :
    (d - d / 1460 + d / 36524 - d / 146096) / 365 = 100 * c + 4 * q + t := by
  obtain ⟨sum, century, quad, year, day, leap⟩ := cut
  have centuries : d / 36524 - d / 146096 = c := by
    have last : d = 146096 ∧ c = 3 ∨ 36524 * c ≤ d ∧ d ≤ 36524 * c + 36523 := by omega
    rcases last with ⟨atEnd, third⟩ | inside
    · omega
    · omega
  obtain ⟨k, quads⟩ : ∃ k : Int, d / 1460 = 25 * c + q + k
      ∧ (k = 0 ∧ 24 * c + q + 365 * t + r < 1460 ∨ k = 1 ∧ 1460 ≤ 24 * c + q + 365 * t + r) :=
    ⟨d / 1460 - 25 * c - q, by omega⟩
  omega

theorem day_eq (cut : Cycles d c q t r) :
    d - (365 * (100 * c + 4 * q + t) + (100 * c + 4 * q + t) / 4 - (100 * c + 4 * q + t) / 100) = r := by
  have sum := cut.sum
  rw [cut.quarters, cut.hundredths]
  omega

end Cycles

/-- The date of a day whose place in its cycle of 400 years is known. -/
theorem ofDays_of_cycles {days c q t r : Int} (cut : Cycles ((days + 719468) % 146097) c q t r) :
    ofDays days =
      let month := (5 * r + 2) / 153
      let calendarMonth := if month < 10 then month + 3 else month - 9
      ⟨100 * c + 4 * q + t + (days + 719468) / 146097 * 400 + (if calendarMonth ≤ 2 then 1 else 0),
        calendarMonth.toNat, (r - (153 * month + 2) / 5 + 1).toNat⟩ := by
  simp only [ofDays, cut.year_eq, cut.day_eq]

/-- A date whose year counts from January has in its year from March the number of days of the months before. -/
theorem toDays_of_march {era year : Int} (yearLow : 0 ≤ year) (yearHigh : year < 400) {month day : Int}
    (monthLow : 0 ≤ month) (monthHigh : month ≤ 11) (dayLow : 0 ≤ day) :
    let calendarMonth := if month < 10 then month + 3 else month - 9
    toDays ⟨year + era * 400 + (if calendarMonth ≤ 2 then 1 else 0), calendarMonth.toNat, day.toNat⟩ =
      era * 146097 + year * 365 + year / 4 - year / 100 + ((153 * month + 2) / 5 + day - 1) - 719468 := by
  have eraIs : (year + era * 400) / 400 = era := by omega
  have yearIs : (year + era * 400) % 400 = year := by omega
  by_cases late : month < 10
  · have inYear : ¬ month + 3 ≤ 2 := by omega
    have inYear' : ¬ (month + 3).toNat ≤ 2 := by omega
    have monthIs : (((month + 3).toNat + 9) % 12 : Nat) = month := by omega
    simp only [toDays, late, inYear, inYear', if_true, if_false, Int.add_zero, eraIs, yearIs, monthIs]
    omega
  · have nextYear : month - 9 ≤ 2 := by omega
    have nextYear' : (month - 9).toNat ≤ 2 := by omega
    have monthIs : (((month - 9).toNat + 9) % 12 : Nat) = month := by omega
    simp only [toDays, late, nextYear, nextYear', if_true, if_false, Int.add_sub_cancel, eraIs, yearIs, monthIs]
    omega

theorem toDays_ofDays (days : Int) : (ofDays days).toDays = days := by
  obtain ⟨c, q, t, r, cut⟩ := exists_cycles ((days + 719468) % 146097) (by omega) (by omega)
  have sum := cut.sum
  have day := cut.day
  rw [ofDays_of_cycles cut, toDays_of_march cut.year_bounds.1 cut.year_bounds.2 (by omega) (by omega) (by omega),
    cut.quarters, cut.hundredths]
  omega

/-- February has its day 29 in the years that the cycle of 400 years gives one more day. -/
theorem daysInMonth_february {year : Int} {c q t r : Int} {d : Int} (cut : Cycles d c q t r) (era : Int)
    (isYear : year = 100 * c + 4 * q + t + era * 400 + 1) : r - 336 ≤ daysInMonth year 2 := by
  have century := cut.century
  have quad := cut.quad
  have inQuad := cut.year
  have day := cut.day
  by_cases last : r = 365
  · obtain ⟨fourth, notSecular⟩ := cut.leap last
    have leap : isLeap year = true := by
      simp only [isLeap, Bool.and_eq_true, Bool.or_eq_true, decide_eq_true_eq]
      omega
    simp only [daysInMonth, leap, if_true]
    omega
  · have atLeast : 28 ≤ daysInMonth year 2 := by
      simp only [daysInMonth, if_true]
      split <;> omega
    omega

theorem isValid_ofDays (days : Int) : (ofDays days).isValid = true := by
  obtain ⟨c, q, t, r, cut⟩ := exists_cycles ((days + 719468) % 146097) (by omega) (by omega)
  have day := cut.day
  have february := daysInMonth_february cut ((days + 719468) / 146097) rfl
  rw [ofDays_of_cycles cut]
  -- The months from March to January have fixed lengths, and only February needs the year.
  obtain ⟨month, isMonth⟩ : ∃ month, month = (5 * r + 2) / 153 := ⟨_, rfl⟩
  have months : month = 0 ∨ month = 1 ∨ month = 2 ∨ month = 3 ∨ month = 4 ∨ month = 5 ∨ month = 6 ∨ month = 7
      ∨ month = 8 ∨ month = 9 ∨ month = 10 ∨ month = 11 := by omega
  simp only [← isMonth]
  rcases months with rfl | rfl | rfl | rfl | rfl | rfl | rfl | rfl | rfl | rfl | rfl | rfl
  all_goals
    simp [isValid, daysInMonth] at february ⊢
    omega

theorem bounds_of_isValid {date : Date} (valid : date.isValid = true) : date.month ≤ 12 ∧ date.day ≤ 31 := by
  simp only [isValid, Bool.and_eq_true, decide_eq_true_eq] at valid
  have longest : daysInMonth date.year date.month ≤ 31 := by
    unfold daysInMonth
    split
    · split <;> omega
    · split <;> omega
  omega

end Date

namespace Time

/-! ### Padded numbers -/

theorem toList_padded (width n : Nat) :
    (padded width n).toList = List.replicate (width - (Nat.toDigits 10 n).length) '0' ++ Nat.toDigits 10 n := by
  simp [padded]

theorem natOf_eq (digits : List Char) : Scan.natOf digits = Nat.ofDigitChars 10 digits 0 := rfl

theorem natOf_padded (width n : Nat) : Scan.natOf (padded width n).toList = n := by
  rw [natOf_eq, toList_padded, Nat.ofDigitChars_append, Nat.ofDigitChars_replicate_zero, Nat.mul_zero,
    Nat.ofDigitChars_ten_toDigits]

theorem isDigit_of_mem_padded {width n : Nat} {c : Char} (member : c ∈ (padded width n).toList) : c.isDigit := by
  rw [toList_padded] at member
  rcases List.mem_append.mp member with zero | digit
  · rw [(List.mem_replicate.mp zero).2]
    rfl
  · exact Nat.isDigit_of_mem_toDigits (by decide) (by decide) digit

theorem length_padded {width n : Nat} (positive : 0 < width) (small : n < 10 ^ width) :
    (padded width n).toList.length = width := by
  have fits := (Nat.length_toDigits_le_iff (by decide) positive).mpr small
  rw [toList_padded, List.length_append, List.length_replicate]
  omega

theorem padded_ne_nil (width n : Nat) : (padded width n).toList ≠ [] := by
  rw [toList_padded]
  exact List.append_ne_nil_of_right_ne_nil _ Nat.toDigits_ne_nil

/-- A padded number starts with a digit. -/
theorem exists_padded_cons (width n : Nat) : ∃ c rest, (padded width n).toList = c :: rest ∧ c.isDigit := by
  obtain ⟨c, rest, isCons⟩ := List.exists_cons_of_ne_nil (padded_ne_nil width n)
  exact ⟨c, rest, isCons, isDigit_of_mem_padded (by rw [isCons]; exact List.mem_cons_self)⟩

/-! ### Reading the parts -/

namespace Scan

theorem bind_read {α β : Type} {x : Scan α} {f : α → Scan β} {cs rest : List Char} {a : α}
    (read : x cs = some (a, rest)) : (x >>= f) cs = f a rest := by
  simp [bind, StateT.bind, read]

theorem get_read (cs : List Char) : (get : Scan (List Char)) cs = some (cs, cs) := rfl

theorem set_read (cs cs' : List Char) : (set cs' : Scan PUnit) cs = some (⟨⟩, cs') := rfl

theorem upTo_padded {width n : Nat} (positive : 0 < width) (small : n < 10 ^ width) (rest : List Char) :
    upTo width ((padded width n).toList ++ rest) = some (n, rest) := by
  have length := length_padded positive small
  have digits : (padded width n).toList.takeWhile Char.isDigit = (padded width n).toList :=
    List.takeWhile_eq_self_iff.mpr fun c member => isDigit_of_mem_padded member
  simp only [upTo, List.take_left' length, digits, padded_ne_nil, if_false, natOf_padded, List.drop_left]

theorem long_padded {width n : Nat} (small : n ≤ Int64.maxValue.toInt) {c : Char} (stop : c.isDigit = false)
    (rest : List Char) : long ((padded width n).toList ++ c :: rest) = some (n, c :: rest) := by
  have digits : ((padded width n).toList ++ c :: rest).takeWhile Char.isDigit = (padded width n).toList := by
    rw [List.takeWhile_append_of_pos fun c member => isDigit_of_mem_padded member, List.takeWhile_cons]
    simp [stop]
  have notLarge : ¬ Int64.maxValue.toInt < n := by omega
  simp only [long, digits, padded_ne_nil, natOf_padded, notLarge, or_self, if_false, List.drop_left]

theorem blanks_of_not {c : Char} (solid : Text.isBlank c = false) (rest : List Char) :
    blanks (c :: rest) = some ((), c :: rest) := by
  simp [blanks, Text.dropBlanks, solid]

theorem blanks_padded (width n : Nat) (rest : List Char) :
    blanks ((padded width n).toList ++ rest) = some ((), (padded width n).toList ++ rest) := by
  obtain ⟨c, digits, isCons, digit⟩ := exists_padded_cons width n
  rw [isCons]
  exact blanks_of_not (Text.isBlank_of_isDigit digit) _

theorem char_cons (c : Char) (rest : List Char) : char c (c :: rest) = some ((), rest) := by
  simp [char]

end Scan

open Scan

theorem number_padded {n : Nat} (small : n < 100) (rest : List Char) :
    number ((padded 2 n).toList ++ rest) = some (n, rest) := by
  rw [number, bind_read (blanks_padded 2 n rest)]
  exact upTo_padded (by decide) small rest

theorem year_minus {n : Nat} {cs rest : List Char} (read : long cs = some (n, rest)) :
    year ('-' :: cs) = some (-(n : Int), rest) := by
  rw [year, bind_read (blanks_of_not (by decide) cs), bind_read (get_read _)]
  change (set cs >>= fun _ => long >>= fun n => pure (-(n : Int)) : Scan Int) ('-' :: cs) = _
  rw [bind_read (set_read _ _), bind_read read]
  rfl

theorem year_plus {n : Nat} {cs rest : List Char} (read : long cs = some (n, rest)) :
    year ('+' :: cs) = some ((n : Int), rest) := by
  rw [year, bind_read (blanks_of_not (by decide) cs), bind_read (get_read _)]
  change (set cs >>= fun _ => long >>= fun n => pure (n : Int) : Scan Int) ('+' :: cs) = _
  rw [bind_read (set_read _ _), bind_read read]
  rfl

theorem year_digit {c : Char} (digit : c.isDigit) {n : Nat} {cs rest : List Char}
    (read : upTo 4 (c :: cs) = some (n, rest)) : year (c :: cs) = some ((n : Int), rest) := by
  rw [year, bind_read (blanks_of_not (Text.isBlank_of_isDigit digit) cs), bind_read (get_read _)]
  refine Eq.trans (congrFun (?_ : _ = (upTo 4 >>= fun n => pure (n : Int) : Scan Int)) (c :: cs)) ?_
  · split
    case h_1 minus => cases minus; exact absurd digit (by decide)
    case h_2 plus => cases plus; exact absurd digit (by decide)
    case h_3 => rfl
  · rw [bind_read read]
    rfl

/-- A year is read back up to the hyphen that follows it. -/
theorem year_yearText {y : Int} (low : firstYear ≤ y) (high : y ≤ lastYear) (rest : List Char) :
    year ((yearText y).toList ++ '-' :: rest) = some (y, '-' :: rest) := by
  unfold firstYear at low
  unfold lastYear at high
  have maxValue : Int64.maxValue.toInt = 9223372036854775807 := by decide
  have read : long ((padded 4 y.natAbs).toList ++ '-' :: rest) = some (y.natAbs, '-' :: rest) :=
    long_padded (by omega) (by decide) rest
  by_cases plain : 0 ≤ y ∧ y ≤ 9999
  · obtain ⟨c, digits, isCons, digit⟩ := exists_padded_cons 4 y.toNat
    have read : upTo 4 ((padded 4 y.toNat).toList ++ '-' :: rest) = some (y.toNat, '-' :: rest) :=
      upTo_padded (by decide) (by omega) ('-' :: rest)
    rw [yearText, if_pos plain]
    rw [isCons, List.cons_append] at read ⊢
    rw [year_digit digit read, Int.toNat_of_nonneg plain.1]
  · by_cases negative : y < 0
    · have value : -((y.natAbs : Nat) : Int) = y := by omega
      rw [yearText, if_neg plain, if_pos negative, String.toList_append, List.append_assoc,
        show "-".toList = ['-'] from rfl, List.singleton_append, year_minus read, value]
    · have value : ((y.natAbs : Nat) : Int) = y := by omega
      rw [yearText, if_neg plain, if_neg negative, String.toList_append, List.append_assoc,
        show "+".toList = ['+'] from rfl, List.singleton_append, year_plus read, value]

/-! ### Reading an instant -/

/-- A fraction stands for the number that its digits spell when they are filled up to nine. -/
theorem fraction_padded {width n : Nat} (positive : 0 < width) (most : width ≤ 9) (small : n < 10 ^ width)
    (rest : List Char) :
    fraction ('.' :: ((padded width n).toList ++ 'Z' :: rest)) = some (n * 10 ^ (9 - width), 'Z' :: rest) := by
  have length := length_padded positive small
  have digits : ((padded width n).toList ++ 'Z' :: rest).takeWhile Char.isDigit = (padded width n).toList := by
    rw [List.takeWhile_append_of_pos fun c member => isDigit_of_mem_padded member, List.takeWhile_cons]
    simp
  have kept : (padded width n).toList.take 9 = (padded width n).toList := List.take_of_length_le (by omega)
  have value : natOf ((padded width n).toList ++ List.replicate (9 - width) '0') = n * 10 ^ (9 - width) := by
    rw [natOf_eq, Nat.ofDigitChars_append, ← natOf_eq, natOf_padded, Nat.ofDigitChars_replicate_zero, Nat.mul_comm]
  simp only [fraction, digits, padded_ne_nil, if_false, kept, length, value, List.drop_left' length]

theorem fraction_fractionText {nanos : Nat} (small : nanos < nanosPerSecond) (rest : List Char) :
    fraction ((fractionText nanos).toList ++ 'Z' :: rest) = some (nanos, 'Z' :: rest) := by
  unfold nanosPerSecond at small
  unfold fractionText
  by_cases none : nanos = 0
  · simp [none, fraction]
  by_cases three : nanos % 1000000 = 0
  · have value : nanos / 1000000 * 10 ^ (9 - 3) = nanos := by omega
    rw [if_neg none, if_pos three, String.toList_append, List.append_assoc, show ".".toList = ['.'] from rfl,
      List.singleton_append, fraction_padded (by decide) (by decide) (by omega), value]
  by_cases six : nanos % 1000 = 0
  · have value : nanos / 1000 * 10 ^ (9 - 6) = nanos := by omega
    rw [if_neg none, if_neg three, if_pos six, String.toList_append, List.append_assoc,
      show ".".toList = ['.'] from rfl, List.singleton_append, fraction_padded (by decide) (by decide) (by omega),
      value]
  · have value : nanos * 10 ^ (9 - 9) = nanos := by omega
    rw [if_neg none, if_neg three, if_neg six, String.toList_append, List.append_assoc,
      show ".".toList = ['.'] from rfl, List.singleton_append, fraction_padded (by decide) (by decide) (by omega),
      value]

theorem zone_utc : zone ['Z'] = some (0, []) := by
  decide

/-- The text of clock fields with a fraction is read as these fields in UTC. -/
theorem instant_text {f : Fields} (low : firstYear ≤ f.date.year) (high : f.date.year ≤ lastYear)
    (month : f.date.month < 100) (day : f.date.day < 100) (hour : f.hour < 100) (minute : f.minute < 100)
    (second : f.second < 100) {nanos : Nat} (small : nanos < nanosPerSecond) :
    instant (f.text ++ fractionText nanos ++ "Z").toList = some (({ f with nanos }, 0), []) := by
  simp only [Fields.text, String.toList_append, List.append_assoc, show "-".toList = ['-'] from rfl,
    show "T".toList = ['T'] from rfl, show ":".toList = [':'] from rfl, show "Z".toList = ['Z'] from rfl,
    List.cons_append, List.nil_append]
  have hyphen (cs : List Char) : blanks ('-' :: cs) = some ((), '-' :: cs) := blanks_of_not (by decide) cs
  have colon (cs : List Char) : blanks (':' :: cs) = some ((), ':' :: cs) := blanks_of_not (by decide) cs
  have t (cs : List Char) : dateEnd ('T' :: cs) = some ((), cs) := by simp [dateEnd]
  rw [instant, bind_read (year_yearText low high _), bind_read (hyphen _), bind_read (char_cons '-' _),
    bind_read (number_padded month _), bind_read (hyphen _), bind_read (char_cons '-' _),
    bind_read (number_padded day _), bind_read (t _), bind_read (number_padded hour _), bind_read (colon _),
    bind_read (char_cons ':' _), bind_read (number_padded minute _), bind_read (colon _),
    bind_read (char_cons ':' _), bind_read (number_padded second _), bind_read (fraction_fractionText small []),
    bind_read zone_utc]
  rfl

/-! ### The instant of the fields -/

theorem toFields_bounds (t : Time) : (t.toFields.date.isValid ∧ t.toFields.hour ≤ 23 ∧ t.toFields.minute ≤ 59
    ∧ t.toFields.second ≤ 60 ∧ t.toFields.nanos < nanosPerSecond) ∧ firstYear ≤ t.toFields.date.year
    ∧ t.toFields.date.year ≤ lastYear := by
  obtain ⟨nanos, low, high⟩ := t.isInstant
  refine ⟨⟨Date.isValid_ofDays _, ?_, ?_, ?_, ?_⟩, low, high⟩
  · simp only [toFields]; omega
  · simp only [toFields]; omega
  · simp only [toFields]; split <;> omega
  · simp only [toFields]
    split <;> omega

/-- Sixty is the second of an instant exactly in a leap second. -/
theorem toFields_second (t : Time) : t.toFields.second = 60 ↔ nanosPerSecond ≤ t.nanos := by
  obtain ⟨nanos, -, -⟩ := t.isInstant
  simp only [toFields]
  by_cases leap : nanosPerSecond ≤ t.nanos
  · rw [if_pos leap]; omega
  · rw [if_neg leap]; omega

/-- The fields of an instant with another fraction are those of the instant that has this fraction in its second. -/
theorem ofFields?_toFields (t : Time) {nanos : Nat} (small : nanos < nanosPerSecond) :
    ofFields? { t.toFields with nanos } 0 =
      of? t.seconds (if nanosPerSecond ≤ t.nanos then nanos + nanosPerSecond else nanos) := by
  obtain ⟨⟨valid, hour, minute, second, -⟩, low, high⟩ := toFields_bounds t
  rw [ofFields?, if_pos ⟨valid, hour, minute, second, small, low, high, by decide, by decide⟩]
  simp only [toFields_second]
  congr 1
  rw [show t.toFields.date = Date.ofDays (t.seconds / 86400) from rfl, Date.toDays_ofDays]
  by_cases leap : nanosPerSecond ≤ t.nanos
  · obtain ⟨nanos, -, -⟩ := t.isInstant
    rw [if_pos leap]
    simp only [toFields]
    omega
  · rw [if_neg leap]
    simp only [toFields, if_neg leap]
    omega

/-! ### Round trips -/

/-- The instant without its fraction of a second. -/
def wholeSecond (t : Time) : Time where
  seconds := t.seconds
  nanos := if nanosPerSecond ≤ t.nanos then nanosPerSecond else 0
  isInstant := by
    obtain ⟨nanos, years⟩ := t.isInstant
    refine ⟨?_, years⟩
    unfold nanosPerSecond at *
    split <;> omega

theorem parse?_fields (t : Time) {nanos : Nat} (small : nanos < nanosPerSecond) :
    parse? (t.toFields.text ++ fractionText nanos ++ "Z") =
      of? t.seconds (if nanosPerSecond ≤ t.nanos then nanos + nanosPerSecond else nanos) := by
  obtain ⟨⟨valid, hour, minute, second, -⟩, low, high⟩ := toFields_bounds t
  obtain ⟨month, day⟩ := Date.bounds_of_isValid valid
  rw [parse?, StateT.run, instant_text low high (by omega) (by omega) (by omega) (by omega) (by omega) small]
  exact ofFields?_toFields t small

theorem parse?_text (t : Time) : parse? t.text = some t := by
  obtain ⟨⟨-, -, -, -, small⟩, -, -⟩ := toFields_bounds t
  have nanos :
      (if nanosPerSecond ≤ t.nanos then t.toFields.nanos + nanosPerSecond else t.toFields.nanos) = t.nanos := by
    simp only [toFields]
    split <;> omega
  rw [text, parse?_fields t small, nanos]
  exact dif_pos t.isInstant

theorem parse?_wholeText (t : Time) : parse? t.wholeText = some t.wholeSecond := by
  have read := parse?_fields t (show 0 < nanosPerSecond by decide)
  rw [show fractionText 0 = "" from rfl, String.append_empty, Nat.zero_add] at read
  rw [wholeText, read]
  exact dif_pos t.wholeSecond.isInstant

theorem wholeText_wholeSecond (t : Time) : t.wholeSecond.wholeText = t.wholeText := by
  have leap : nanosPerSecond ≤ t.wholeSecond.nanos ↔ nanosPerSecond ≤ t.nanos := by
    by_cases leap : nanosPerSecond ≤ t.nanos
    · simp only [wholeSecond, leap, if_true, le_refl]
    · simp only [wholeSecond, leap, if_false, iff_false]
      decide
  simp only [wholeText, Fields.text, toFields, leap]
  rfl

theorem text_injective {t u : Time} (same : t.text = u.text) : t = u :=
  Option.some.inj (by rw [← parse?_text t, ← parse?_text u, same])

end Time
end HostedDelivery
