import Autoresponder.Time.Reader
import Mathlib.Data.List.TakeWhile
import Mathlib.Tactic.IntervalCases

/-!
# Stored timestamps read back

A stored timestamp has a fixed layout, so the strict reader takes it apart again. Within the years
0 to 9999 an instant is what its stored form reads as. Outside of them the year is written with a
sign, which neither reader takes, and the first instant of the calendar is read.
-/

namespace Autoresponder

open Calendar

/-! ## 1. Digits -/

theorem isDigit_digitChar {n : Nat} (h : n < 10) : (Nat.digitChar n).isDigit = true := by
  interval_cases n <;> rfl

theorem toNat_digitChar {n : Nat} (h : n < 10) : (Nat.digitChar n).toNat - '0'.toNat = n := by
  interval_cases n <;> rfl

theorem isDigit_of_mem_fixedDigits {width n : Nat} {c : Char} (h : c ∈ fixedDigits width n) :
    c.isDigit = true := by
  induction width generalizing n with
  | zero => simp [fixedDigits] at h
  | succ k ih =>
    rw [fixedDigits, List.mem_append, List.mem_singleton] at h
    rcases h with h | rfl
    · exact ih h
    · exact isDigit_digitChar (Nat.mod_lt n (by decide))

namespace TimeText

theorem digitsValue_concat (ds : List Char) (c : Char) :
    digitsValue (ds ++ [c]) = digitsValue ds * 10 + (c.toNat - '0'.toNat) := by
  simp only [digitsValue, List.foldl_append, List.foldl_cons, List.foldl_nil]

theorem digitsValue_fixedDigits (width n : Nat) :
    digitsValue (fixedDigits width n) = n % 10 ^ width := by
  induction width generalizing n with
  | zero => simp [fixedDigits, digitsValue, Nat.mod_one]
  | succ k ih =>
    rw [fixedDigits, digitsValue_concat, ih, toNat_digitChar (Nat.mod_lt n (by decide))]
    rw [Nat.pow_succ', Nat.mod_mul]
    omega

theorem takeWhile_append_of_all {p : Char → Bool} {ds : List Char} (h : ∀ c ∈ ds, p c = true)
    {c : Char} (hc : p c = false) (r : List Char) : (ds ++ c :: r).takeWhile p = ds := by
  rw [List.takeWhile_append_of_pos h, List.takeWhile_cons_of_neg (by simp [hc]), List.append_nil]

-- A reader of a field with its full width takes it, whatever follows.
theorem digits_fixedDigits {least width n : Nat} (hleast : least ≤ width) (h : n < 10 ^ width)
    (r : List Char) : digits least width (fixedDigits width n ++ r) = some (n, r) := by
  have htake : (fixedDigits width n ++ r).take width = fixedDigits width n := by
    rw [List.take_append_of_le_length (by rw [length_fixedDigits]), List.take_of_length_le]
    rw [length_fixedDigits]
  have hall : (fixedDigits width n).takeWhile Char.isDigit = fixedDigits width n :=
    List.takeWhile_eq_self_iff.mpr fun c hc => isDigit_of_mem_fixedDigits hc
  unfold digits
  simp only [htake, hall, length_fixedDigits, if_neg (Nat.not_lt.mpr hleast),
    digitsValue_fixedDigits]
  rw [Nat.mod_eq_of_lt h, List.drop_append_of_le_length (by rw [length_fixedDigits]),
    List.drop_of_length_le (by rw [length_fixedDigits]), List.nil_append]

theorem literal_cons (c : Char) (r : List Char) : literal c (c :: r) = some r := by
  simp [literal]

theorem isBlank_of_isDigit {c : Char} (h : c.isDigit = true) : Text.isBlank c = false := by
  rw [Char.isDigit, Bool.and_eq_true, decide_eq_true_eq, decide_eq_true_eq] at h
  have hlow : 48 ≤ c.toNat := UInt32.le_iff_toNat_le.mp h.1
  have hhigh : c.toNat ≤ 57 := UInt32.le_iff_toNat_le.mp h.2
  simp only [Text.isBlank, Bool.or_eq_false_iff, Bool.and_eq_false_iff, decide_eq_false_iff_not,
    beq_eq_false_iff_ne]
  omega

theorem trimLeft_cons {c : Char} (h : Text.isBlank c = false) (r : List Char) :
    Text.trimLeft (c :: r) = c :: r := by
  rw [Text.trimLeft, List.dropWhile_cons_of_neg (by simp [h])]

-- A field of two digits is read like one with its full width.
theorem field_fixedDigits {n : Nat} (h : n < 10 ^ 2) (r : List Char) :
    field (fixedDigits 2 n ++ r) = some (n, r) := by
  have hhead : Text.isBlank (Nat.digitChar (n / 10 % 10)) = false :=
    isBlank_of_isDigit (isDigit_digitChar (Nat.mod_lt _ (by decide)))
  have htrim : Text.trimLeft (fixedDigits 2 n ++ r) = fixedDigits 2 n ++ r :=
    trimLeft_cons hhead _
  rw [field, htrim, digits_fixedDigits (by decide) h]

-- A run of digits of any length is taken as a whole.
theorem anyDigits_append {ds : List Char} (hds : ∀ c ∈ ds, c.isDigit = true) {c : Char}
    (hc : c.isDigit = false) (r : List Char) :
    anyDigits (ds ++ c :: r) = none ∨
      anyDigits (ds ++ c :: r) = some (digitsValue ds, c :: r) := by
  unfold anyDigits
  rw [takeWhile_append_of_all hds hc]
  by_cases hempty : ds.isEmpty = true
  · exact .inl (if_pos hempty)
  · right
    dsimp only
    rw [if_neg hempty, List.drop_left]

-- A fraction of nine digits is read in full.
theorem fraction_fixedDigits {n : Nat} (h : n < nanosPerSecond) :
    fraction ('.' :: (fixedDigits 9 n ++ ['Z'])) = some (n, ['Z']) := by
  have hds : (fixedDigits 9 n ++ ['Z']).takeWhile Char.isDigit = fixedDigits 9 n :=
    takeWhile_append_of_all (fun c hc => isDigit_of_mem_fixedDigits hc) (by decide) []
  have hne : (fixedDigits 9 n).isEmpty = false := by
    rw [List.isEmpty_eq_false_iff, ← List.length_pos_iff, length_fixedDigits]
    decide
  have hfill : (fixedDigits 9 n ++ List.replicate 9 '0').take 9 = fixedDigits 9 n := by
    rw [List.take_append_of_le_length (by rw [length_fixedDigits]), List.take_of_length_le]
    rw [length_fixedDigits]
  unfold fraction
  simp only [hds, hne, Bool.false_eq_true, if_false, hfill, digitsValue_fixedDigits]
  rw [show n % 10 ^ 9 = n from Nat.mod_eq_of_lt h,
    List.drop_append_of_le_length (by rw [length_fixedDigits]),
    List.drop_of_length_le (by rw [length_fixedDigits]), List.nil_append]

end TimeText

/-! ## 2. Dates -/

namespace Calendar

theorem splitMonths_spec {lengths : List Nat} {day : Nat} (h : day < lengths.sum) :
    (splitMonths lengths day).2 < (lengths[(splitMonths lengths day).1]?).getD 0 ∧
      (lengths.take (splitMonths lengths day).1).sum + (splitMonths lengths day).2 = day := by
  induction lengths generalizing day with
  | nil => simp at h
  | cons length rest ih =>
    rw [List.sum_cons] at h
    unfold splitMonths
    by_cases hlt : day < length
    · simp [hlt]
    · have hrest := @ih (day - length) (by omega)
      simp only [if_neg hlt, List.getElem?_cons_succ, List.take_succ_cons, List.sum_cons]
      exact ⟨hrest.1, by omega⟩

theorem length_monthLengths (leap : Bool) : (monthLengths leap).length = 12 := rfl

theorem sum_monthLengths (leap : Bool) : (monthLengths leap).sum = if leap then 366 else 365 := by
  cases leap <;> rfl

theorem daysBeforeYear_mono {a b : Int} (h : a ≤ b) : daysBeforeYear a ≤ daysBeforeYear b := by
  unfold daysBeforeYear
  omega

-- Years are told apart by the day on which they begin.
theorem le_yearOfDay_iff (year days : Int) : year ≤ yearOfDay days ↔ daysBeforeYear year ≤ days := by
  have hspec := yearOfDay_spec days
  constructor
  · intro h
    exact Int.le_trans (daysBeforeYear_mono h) hspec.1
  · intro h
    by_contra hlt
    have := daysBeforeYear_mono (a := yearOfDay days + 1) (b := year) (by omega)
    omega

end Calendar

namespace Date

-- The day of the year of a day is within the year.
theorem dayOfYear_lt (days : Int) :
    (days - daysBeforeYear (yearOfDay days)).toNat <
      (monthLengths (isLeap (yearOfDay days))).sum := by
  have hspec := yearOfDay_spec days
  rw [daysBeforeYear_add_one] at hspec
  rw [sum_monthLengths]
  cases hleap : isLeap (yearOfDay days) <;>
    simp only [hleap, Bool.false_eq_true, if_false, if_true] at hspec ⊢ <;> omega

theorem valid_ofDays (days : Int) : (ofDays days).Valid := by
  have hsplit := splitMonths_spec (dayOfYear_lt days)
  have hmonth : (splitMonths (monthLengths (isLeap (yearOfDay days)))
      (days - daysBeforeYear (yearOfDay days)).toNat).1 < 12 := by
    by_contra hge
    rw [List.getElem?_eq_none (by rw [length_monthLengths]; omega)] at hsplit
    exact absurd hsplit.1 (by simp)
  unfold Valid ofDays
  simp only [Nat.add_sub_cancel]
  exact ⟨by omega, by omega, by omega, hsplit.1⟩

theorem toDays_ofDays (days : Int) : (ofDays days).toDays = days := by
  have hsplit := splitMonths_spec (dayOfYear_lt days)
  have hspec := yearOfDay_spec days
  unfold toDays ofDays
  rw [List.sum_eq_foldr] at hsplit
  simp only [Nat.add_sub_cancel]
  omega

theorem day_le {d : Date} (h : d.Valid) : d.day ≤ 31 := by
  obtain ⟨h1, h12, -, hle⟩ := h
  have hlength : ((monthLengths (isLeap d.year))[d.month - 1]?).getD 0 ≤ 31 := by
    generalize isLeap d.year = leap
    generalize d.month = m at h1 h12
    interval_cases m <;> cases leap <;> decide
  omega

theorem year_ofDays (days : Int) : (ofDays days).year = yearOfDay days := rfl

end Date

/-! ## 3. Instants -/

namespace Instant

/-- The instant lies in the years that `stored` writes with four digits and no sign. -/
def FourDigitYear (t : Instant) : Prop := 0 ≤ (t.date 0).year ∧ (t.date 0).year ≤ 9999

instance (t : Instant) : Decidable t.FourDigitYear := inferInstanceAs (Decidable (_ ∧ _))

theorem year_le_iff (t : Instant) : (t.date 0).year ≤ 9999 ↔ t.seconds < 253402300800 := by
  unfold date
  rw [Date.year_ofDays, Int.add_zero]
  have hlast : yearOfDay (t.seconds / 86400 + epochDay) ≤ 9999 ↔
      ¬ (10000 : Int) ≤ yearOfDay (t.seconds / 86400 + epochDay) := by omega
  rw [hlast, le_yearOfDay_iff, show daysBeforeYear 10000 = 3652425 from rfl]
  unfold epochDay
  omega

theorem fourDigitYear_iff (t : Instant) :
    t.FourDigitYear ↔ -62167219200 ≤ t.seconds ∧ t.seconds < 253402300800 := by
  rw [FourDigitYear, year_le_iff]
  unfold date
  rw [Date.year_ofDays, Int.add_zero, le_yearOfDay_iff, show daysBeforeYear 0 = 0 from rfl]
  unfold epochDay
  omega

theorem inCalendar_of_fourDigitYear {t : Instant} (h : t.FourDigitYear) : t.inCalendar = true := by
  rw [fourDigitYear_iff] at h
  have hfirst : firstSecond ≤ t.seconds := by
    unfold firstSecond
    omega
  have hlast : t.seconds ≤ lastSecond := by
    unfold lastSecond
    omega
  simp [inCalendar, hfirst, hlast]

-- An instant is made up of its date and its time of day.
theorem instant?_date {t : Instant} (h : t.FourDigitYear) :
    TimeText.instant? (t.date 0)
      ⟨t.secondOfDay.toNat / 3600, t.secondOfDay.toNat / 60 % 60,
        t.secondOfDay.toNat % 60 + t.nanos / nanosPerSecond, t.nanos % nanosPerSecond⟩ 0 =
      some t := by
  have hvalid := t.valid
  have hday : 0 ≤ t.secondOfDay ∧ t.secondOfDay < 86400 := by
    unfold secondOfDay
    omega
  have hminute : t.secondOfDay.toNat % 60 = (t.seconds % 60).toNat := by
    unfold secondOfDay
    omega
  have hstart : startOfDate (t.date 0) 0 = t.seconds - t.secondOfDay := by
    unfold startOfDate date secondOfDay
    rw [Date.toDays_ofDays]
    omega
  have hcal := inCalendar_of_fourDigitYear h
  unfold TimeText.instant? TimeText.ClockTime.timeOfDay?
  rw [if_pos]
  · simp only [Option.bind_eq_bind, Option.bind_some]
    have hsecond : startOfDate (t.date 0) 0 + ((t.secondOfDay.toNat / 3600 * 3600 +
        t.secondOfDay.toNat / 60 % 60 * 60 +
        min (t.secondOfDay.toNat % 60 + t.nanos / nanosPerSecond) 59 : Nat) : Int) = t.seconds := by
      rw [hstart]
      unfold nanosPerSecond at *
      omega
    have hnanos : (t.nanos % nanosPerSecond + if t.secondOfDay.toNat % 60 +
        t.nanos / nanosPerSecond = 60 then nanosPerSecond else 0) = t.nanos := by
      unfold nanosPerSecond at *
      split <;> omega
    rw [hsecond, hnanos, ofParts?, dif_pos hvalid]
    simp [hcal]
  · unfold nanosPerSecond at *
    refine ⟨?_, ?_, ?_⟩ <;> dsimp only <;> omega

theorem validDate?_date {t : Instant} (h : t.FourDigitYear) :
    TimeText.validDate? (t.date 0).year (t.date 0).month (t.date 0).day = some (t.date 0) := by
  have hvalid : (t.date 0).Valid := Date.valid_ofDays _
  unfold FourDigitYear at h
  unfold TimeText.validDate?
  rw [if_pos ⟨by omega, by omega, hvalid⟩]

-- The layout of a stored timestamp of a four-digit year.
theorem toList_stored {t : Instant} (h : t.FourDigitYear) :
    t.stored.toList =
      fixedDigits 4 (t.date 0).year.toNat ++ '-' :: (fixedDigits 2 (t.date 0).month ++
        '-' :: (fixedDigits 2 (t.date 0).day ++ 'T' :: (fixedDigits 2 (t.secondOfDay.toNat / 3600) ++
        ':' :: (fixedDigits 2 (t.secondOfDay.toNat / 60 % 60) ++
        ':' :: (fixedDigits 2 (t.secondOfDay.toNat % 60 + t.nanos / nanosPerSecond) ++
        '.' :: (fixedDigits 9 (t.nanos % nanosPerSecond) ++ ['Z'])))))) := by
  have hyear : yearText (t.date 0).year = fixedDigits 4 (t.date 0).year.toNat := if_pos h
  unfold stored upToSecond
  rw [String.toList_ofList]
  simp only [hyear, List.append_assoc, List.cons_append]

-- The fields of a stored timestamp of a four-digit year fit into their widths.
theorem fields_lt {t : Instant} (h : t.FourDigitYear) :
    (t.date 0).year.toNat < 10 ^ 4 ∧ (t.date 0).month < 10 ^ 2 ∧ (t.date 0).day < 10 ^ 2 ∧
      t.secondOfDay.toNat / 3600 < 10 ^ 2 ∧ t.secondOfDay.toNat / 60 % 60 < 10 ^ 2 ∧
      t.secondOfDay.toNat % 60 + t.nanos / nanosPerSecond < 10 ^ 2 := by
  have hdate : (t.date 0).Valid := Date.valid_ofDays _
  have hday := Date.day_le hdate
  have hmonth := hdate.2.1
  have hsecond : t.secondOfDay < 86400 := by
    unfold secondOfDay
    omega
  have hvalid := t.valid
  unfold FourDigitYear at h
  unfold nanosPerSecond at *
  omega

theorem bind_of_eq_some {α β : Type} {x : Option α} {a : α} (h : x = some a) (k : α → Option β) :
    x >>= k = k a := by
  rw [h]
  rfl

/-- `TimeText.strict` takes the stored timestamp of a four-digit year for its instant. -/
theorem strict_stored {t : Instant} (h : t.FourDigitYear) :
    TimeText.strict t.stored = some t := by
  obtain ⟨hyear, hmonth, hday, hhour, hminute, hsecond⟩ := fields_lt h
  have hnanos : t.nanos % nanosPerSecond < nanosPerSecond := Nat.mod_lt _ (by decide)
  have hcast : (((t.date 0).year.toNat : Nat) : Int) = (t.date 0).year := Int.toNat_of_nonneg h.1
  have hzone : TimeText.offset (TimeText.literal ':') ['Z'] = some (0, []) := rfl
  unfold TimeText.strict
  rw [toList_stored h]
  -- Part by part, and not by rewriting: the match on the letter behind the date copies the rest.
  refine (bind_of_eq_some (TimeText.digits_fixedDigits le_rfl hyear _) _).trans ?_
  refine (bind_of_eq_some (TimeText.literal_cons _ _) _).trans ?_
  refine (bind_of_eq_some (TimeText.digits_fixedDigits le_rfl hmonth _) _).trans ?_
  refine (bind_of_eq_some (TimeText.literal_cons _ _) _).trans ?_
  refine (bind_of_eq_some (TimeText.digits_fixedDigits le_rfl hday _) _).trans ?_
  refine (bind_of_eq_some (TimeText.digits_fixedDigits le_rfl hhour _) _).trans ?_
  refine (bind_of_eq_some (TimeText.literal_cons _ _) _).trans ?_
  refine (bind_of_eq_some (TimeText.digits_fixedDigits le_rfl hminute _) _).trans ?_
  refine (bind_of_eq_some (TimeText.literal_cons _ _) _).trans ?_
  refine (bind_of_eq_some (TimeText.digits_fixedDigits le_rfl hsecond _) _).trans ?_
  refine (bind_of_eq_some (TimeText.fraction_fixedDigits hnanos) _).trans ?_
  refine (bind_of_eq_some hzone _).trans ?_
  dsimp only
  rw [if_pos List.isEmpty_nil, hcast, validDate?_date h]
  exact instant?_date h

theorem readStored_stored {t : Instant} (h : t.FourDigitYear) :
    TimeText.readStored t.stored = t := by
  rw [TimeText.readStored, strict_stored h]

-- A year that does not fit into four digits is written with a sign and digits behind it.
theorem yearText_signed {year : Int} (h : ¬ (0 ≤ year ∧ year ≤ 9999)) :
    ∃ sign ds, yearText year = sign :: ds ∧ (sign = '-' ∨ sign = '+') ∧
      ∀ c ∈ ds, c.isDigit = true := by
  refine ⟨if year < 0 then '-' else '+',
    if year.natAbs < 10000 then fixedDigits 4 year.natAbs else Nat.toDigits 10 year.natAbs,
    if_neg h, ?_, ?_⟩
  · split <;> simp
  · intro c hc
    split at hc
    · exact isDigit_of_mem_fixedDigits hc
    · exact Nat.isDigit_of_mem_toDigits (by decide) (by decide) hc

-- What begins with a sign is no timestamp in the strict form.
theorem strict_of_sign {sign : Char} (h : sign = '-' ∨ sign = '+') {text : String}
    {r : List Char} (htext : text.toList = sign :: r) : TimeText.strict text = none := by
  have hdigits : TimeText.digits 4 4 (sign :: r) = none := by
    rcases h with rfl | rfl <;> rfl
  unfold TimeText.strict
  rw [htext, hdigits]
  rfl

-- Behind a year with a sign the zoneless form expects a time, and not the letter before it.
theorem zoneless_of_sign {sign : Char} (h : sign = '-' ∨ sign = '+') {ds : List Char}
    (hds : ∀ c ∈ ds, c.isDigit = true) {month day : Nat} (hmonth : month < 10 ^ 2)
    (hday : day < 10 ^ 2) {text : String} {r : List Char}
    (htext : text.toList = sign :: (ds ++ '-' :: (fixedDigits 2 month ++
      '-' :: (fixedDigits 2 day ++ 'T' :: r)))) : TimeText.zoneless text = none := by
  have hyear : TimeText.year text.toList = none ∨
      ∃ y, TimeText.year text.toList = some (y, '-' :: (fixedDigits 2 month ++
        '-' :: (fixedDigits 2 day ++ 'T' :: r))) := by
    have hany := TimeText.anyDigits_append hds (c := '-') (by decide)
      (fixedDigits 2 month ++ '-' :: (fixedDigits 2 day ++ 'T' :: r))
    rw [htext, TimeText.year]
    rcases h with rfl | rfl
    · rw [TimeText.trimLeft_cons (by decide)]
      rcases hany with hany | hany
      · exact .inl (by simp only [hany, Option.map_none])
      · exact .inr ⟨_, by simp only [hany, Option.map_some]; rfl⟩
    · rw [TimeText.trimLeft_cons (by decide)]
      rcases hany with hany | hany
      · exact .inl (by simp only [hany, Option.map_none])
      · exact .inr ⟨_, by simp only [hany, Option.map_some]; rfl⟩
  unfold TimeText.zoneless
  simp only [Option.bind_eq_bind]
  rcases hyear with hyear | ⟨y, hyear⟩
  · rw [hyear, Option.bind_none]
  · have htime : TimeText.clockTime true true (Text.trimLeft ('T' :: r)) = none := by
      rw [TimeText.trimLeft_cons (by decide)]
      rfl
    rw [hyear, Option.bind_some, TimeText.literal_cons, Option.bind_some,
      TimeText.field_fixedDigits hmonth, Option.bind_some, TimeText.literal_cons, Option.bind_some,
      TimeText.field_fixedDigits hday, Option.bind_some, htime, Option.bind_none]

/-- `TimeText.readStored` takes a stored timestamp outside of the four-digit years for the `first`
instant. -/
theorem readStored_stored_of_not {t : Instant} (h : ¬ t.FourDigitYear) :
    TimeText.readStored t.stored = first := by
  obtain ⟨sign, ds, hyear, hsign, hds⟩ := yearText_signed h
  have hdate : (t.date 0).Valid := Date.valid_ofDays _
  obtain ⟨rest, htext⟩ : ∃ rest, t.stored.toList = sign :: (ds ++ '-' ::
      (fixedDigits 2 (t.date 0).month ++ '-' :: (fixedDigits 2 (t.date 0).day ++ 'T' :: rest))) := by
    unfold stored upToSecond
    rw [String.toList_ofList]
    simp only [hyear, List.append_assoc, List.cons_append]
    exact ⟨_, rfl⟩
  have hmonth : (t.date 0).month < 10 ^ 2 := by
    have := hdate.2.1
    omega
  have hday : (t.date 0).day < 10 ^ 2 := by
    have := Date.day_le hdate
    omega
  rw [TimeText.readStored, strict_of_sign hsign htext, zoneless_of_sign hsign hds hmonth hday htext,
    Option.getD_none]

/-! ## 4. What storing keeps -/

/-- What `readStored` makes of the stored timestamp of an instant. -/
def kept (t : Instant) : Instant := TimeText.readStored t.stored

theorem kept_def (t : Instant) : t.kept = TimeText.readStored t.stored := rfl

-- The readers are never to be run on an instant that is not known.
attribute [irreducible] kept

theorem kept_of_fourDigitYear {t : Instant} (h : t.FourDigitYear) : t.kept = t :=
  (kept_def t).trans (readStored_stored h)

theorem kept_of_not_fourDigitYear {t : Instant} (h : ¬ t.FourDigitYear) : t.kept = first :=
  (kept_def t).trans (readStored_stored_of_not h)

theorem not_fourDigitYear_first : ¬ first.FourDigitYear := by
  rw [fourDigitYear_iff]
  decide

/-- What is read back is kept for good. -/
@[simp] theorem kept_kept (t : Instant) : t.kept.kept = t.kept := by
  by_cases h : t.FourDigitYear
  · rw [kept_of_fourDigitYear h, kept_of_fourDigitYear h]
  · rw [kept_of_not_fourDigitYear h, kept_of_not_fourDigitYear not_fourDigitYear_first]

end Instant

end Autoresponder
