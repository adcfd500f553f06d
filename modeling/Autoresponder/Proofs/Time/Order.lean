import Autoresponder.Proofs.Time.Stored
import Mathlib.Data.String.Basic

/-!
# The order of stored timestamps

Stored timestamps are compared as text. Within the years 0 to 9999 every field has its width, the
larger fields stand in front, and so the order as text is the order of the instants, leap seconds
included. An instant outside of these years is written with a sign, and every sign sorts before
every digit. All characters are one byte each, and so the order of the bytes is the same.
-/

namespace Autoresponder

open Calendar

/-! ## 1. Digits -/

theorem digitChar_lt {m n : Nat} (hn : n < 10) (h : m < n) : Nat.digitChar m < Nat.digitChar n := by
  interval_cases n <;> interval_cases m <;> decide

-- Texts of one length are compared before what follows them.
theorem append_lt_append_of_lt {xs ys : List Char} (hlength : xs.length = ys.length) (h : xs < ys)
    (as bs : List Char) : xs ++ as < ys ++ bs := by
  induction xs generalizing ys with
  | nil =>
    rw [List.eq_nil_of_length_eq_zero hlength.symm] at h
    exact absurd h (lt_irrefl _)
  | cons x xs ih =>
    cases ys with
    | nil => cases hlength
    | cons y ys =>
      rw [List.cons_append, List.cons_append, List.cons_lt_cons_iff]
      rcases List.cons_lt_cons_iff.mp h with hlt | ⟨heq, hlt⟩
      · exact .inl hlt
      · exact .inr ⟨heq, ih (Nat.succ.inj hlength) hlt⟩

theorem fixedDigits_lt {width m n : Nat} (hn : n < 10 ^ width) (h : m < n) :
    fixedDigits width m < fixedDigits width n := by
  induction width generalizing m n with
  | zero => omega
  | succ k ih =>
    rw [fixedDigits, fixedDigits]
    have hlength : (fixedDigits k (m / 10)).length = (fixedDigits k (n / 10)).length := by
      rw [length_fixedDigits, length_fixedDigits]
    rcases Nat.lt_or_ge (m / 10) (n / 10) with hlt | hge
    · exact append_lt_append_of_lt hlength (ih (by omega) hlt) _ _
    · have hlast : Nat.digitChar (m % 10) < Nat.digitChar (n % 10) :=
        digitChar_lt (Nat.mod_lt n (by decide)) (by omega)
      rw [show m / 10 = n / 10 by omega]
      exact List.append_left_lt (List.cons_lt_cons_iff.mpr (.inl hlast))

/-- Fields of one `width` are compared before what follows them, and what follows them is compared
where they are equal. -/
theorem field_lt {width m n : Nat} (hn : n < 10 ^ width) {as bs : List Char} {c : Char}
    (h : m < n ∨ m = n ∧ as < bs) :
    fixedDigits width m ++ c :: as < fixedDigits width n ++ c :: bs := by
  rcases h with hlt | ⟨rfl, hlt⟩
  · refine append_lt_append_of_lt ?_ (fixedDigits_lt hn hlt) _ _
    rw [length_fixedDigits, length_fixedDigits]
  · exact List.append_left_lt (List.cons_lt_cons_iff.mpr (.inr ⟨rfl, hlt⟩))

/-! ## 2. Dates -/

theorem Calendar.splitMonths_lt {m n : Nat} (h : m < n) (lengths : List Nat) :
    (splitMonths lengths m).1 < (splitMonths lengths n).1 ∨
      (splitMonths lengths m).1 = (splitMonths lengths n).1 ∧
        (splitMonths lengths m).2 < (splitMonths lengths n).2 := by
  induction lengths generalizing m n with
  | nil => exact .inr ⟨rfl, h⟩
  | cons length rest ih =>
    unfold splitMonths
    by_cases hn : n < length
    · rw [if_pos hn, if_pos (by omega)]
      exact .inr ⟨rfl, h⟩
    · rw [if_neg hn]
      by_cases hm : m < length
      · rw [if_pos hm]
        exact .inl (Nat.succ_pos _)
      · rw [if_neg hm]
        have hrest := ih (m := m - length) (n := n - length) (by omega)
        dsimp only
        omega

/-- `Date.ofDays` orders dates by year, month and day. -/
theorem Date.ofDays_lt {m n : Int} (h : m < n) :
    (ofDays m).year < (ofDays n).year ∨ (ofDays m).year = (ofDays n).year ∧
      ((ofDays m).month < (ofDays n).month ∨
        (ofDays m).month = (ofDays n).month ∧ (ofDays m).day < (ofDays n).day) := by
  have hm := yearOfDay_spec m
  have hle : yearOfDay m ≤ yearOfDay n := by
    rw [le_yearOfDay_iff]
    omega
  rw [year_ofDays, year_ofDays]
  rcases Int.lt_or_eq_of_le hle with hlt | heq
  · exact .inl hlt
  · refine .inr ⟨heq, ?_⟩
    have hsplit := splitMonths_lt (m := (m - daysBeforeYear (yearOfDay n)).toNat)
      (n := (n - daysBeforeYear (yearOfDay n)).toNat) (by rw [heq] at hm; omega)
      (monthLengths (isLeap (yearOfDay n)))
    simp only [ofDays, heq]
    omega

/-! ## 3. Instants -/

namespace Instant

-- Times of day are ordered by hour, minute and second.
theorem clock_lt {m n : Nat} (h : m < n) : m / 3600 < n / 3600 ∨ m / 3600 = n / 3600 ∧
    (m / 60 % 60 < n / 60 % 60 ∨ m / 60 % 60 = n / 60 % 60 ∧ m % 60 < n % 60) := by
  omega

/-- Where two instants are on one date (`hday`), the earlier one has the earlier time of day. A leap
second is the last one of its minute. -/
theorem timeOfDay_lt {a b : Instant} (h : a < b) (hday : a.seconds / 86400 = b.seconds / 86400) :
    a.secondOfDay.toNat / 3600 < b.secondOfDay.toNat / 3600 ∨
      a.secondOfDay.toNat / 3600 = b.secondOfDay.toNat / 3600 ∧
        (a.secondOfDay.toNat / 60 % 60 < b.secondOfDay.toNat / 60 % 60 ∨
          a.secondOfDay.toNat / 60 % 60 = b.secondOfDay.toNat / 60 % 60 ∧
            (a.secondOfDay.toNat % 60 + a.nanos / nanosPerSecond <
                b.secondOfDay.toNat % 60 + b.nanos / nanosPerSecond ∨
              a.secondOfDay.toNat % 60 + a.nanos / nanosPerSecond =
                  b.secondOfDay.toNat % 60 + b.nanos / nanosPerSecond ∧
                a.nanos % nanosPerSecond < b.nanos % nanosPerSecond)) := by
  have hvalid := a.valid
  rcases lt_iff.mp h with hlt | ⟨heq, hlt⟩
  · have hseconds : a.secondOfDay.toNat < b.secondOfDay.toNat := by
      unfold secondOfDay
      omega
    refine (clock_lt hseconds).imp_right (And.imp_right (Or.imp_right (And.imp_right fun hlt => ?_)))
    -- The minute has a later second, and so this one is no leap second.
    have hminute : a.seconds % 60 ≠ 59 := by
      have hlast : a.secondOfDay.toNat % 60 ≠ 59 := by omega
      unfold secondOfDay at hlast
      omega
    have hnanos : a.nanos < nanosPerSecond := hvalid.resolve_right fun h => hminute h.2
    rw [Nat.div_eq_of_lt hnanos]
    exact .inl (Nat.lt_add_right _ hlt)
  · have hsame : a.secondOfDay = b.secondOfDay := by
      unfold secondOfDay
      rw [heq]
    rw [hsame]
    refine .inr ⟨rfl, .inr ⟨rfl, ?_⟩⟩
    unfold nanosPerSecond
    omega

/-- An earlier instant comes first in the order of `Instant.stored`. -/
theorem stored_lt_stored {a b : Instant} (ha : a.FourDigitYear) (hb : b.FourDigitYear)
    (h : a < b) : a.stored < b.stored := by
  obtain ⟨hyear, hmonth, hday, hhour, hminute, hsecond⟩ := fields_lt hb
  have hlt := lt_iff.mp h
  -- The date is compared first, and the time of day where the dates are equal.
  have hdate : (a.date 0).year < (b.date 0).year ∨ (a.date 0).year = (b.date 0).year ∧
      ((a.date 0).month < (b.date 0).month ∨ (a.date 0).month = (b.date 0).month ∧
        ((a.date 0).day < (b.date 0).day ∨ (a.date 0).day = (b.date 0).day ∧
          a.seconds / 86400 = b.seconds / 86400)) := by
    rcases Int.lt_or_eq_of_le (show a.seconds / 86400 ≤ b.seconds / 86400 by omega) with hlt | heq
    · have := Date.ofDays_lt (m := (a.seconds + 0) / 86400 + epochDay)
        (n := (b.seconds + 0) / 86400 + epochDay) (by omega)
      unfold date
      omega
    · unfold date
      simp only [Int.add_zero, heq, and_self, or_true]
  have hnanos : b.nanos % nanosPerSecond < 10 ^ 9 := Nat.mod_lt _ (by decide)
  rw [String.lt_iff_toList_lt, toList_stored ha, toList_stored hb]
  unfold FourDigitYear at ha hb
  refine field_lt hyear ?_
  rcases hdate with hlt | ⟨heq, hdate⟩
  · exact .inl (by omega)
  refine .inr ⟨by rw [heq], field_lt hmonth ?_⟩
  rcases hdate with hlt | ⟨heq, hdate⟩
  · exact .inl hlt
  refine .inr ⟨heq, field_lt hday ?_⟩
  rcases hdate with hlt | ⟨heq, hsame⟩
  · exact .inl hlt
  refine .inr ⟨heq, field_lt hhour ?_⟩
  rcases timeOfDay_lt h hsame with hlt | ⟨heq, htime⟩
  · exact .inl hlt
  refine .inr ⟨heq, field_lt hminute ?_⟩
  rcases htime with hlt | ⟨heq, htime⟩
  · exact .inl hlt
  refine .inr ⟨heq, field_lt hsecond ?_⟩
  rcases htime with hlt | ⟨heq, hlt⟩
  · exact .inl hlt
  exact .inr ⟨heq, field_lt hnanos (.inl hlt)⟩

-- Instants are in a linear order.
theorem lt_trichotomy (a b : Instant) : a < b ∨ a = b ∨ b < a := by
  cases a
  cases b
  simp only [lt_iff, mk.injEq]
  omega

-- A second or more later it is later, from within a leap second too.
theorem lt_add_ofSeconds (t : Instant) {n : Nat} (hn : 1 ≤ n) : t < t.add (Span.ofSeconds n) := by
  have hunit : nanosPerSecond = 1000000000 := rfl
  have hvalid := t.valid
  have hseconds (x : Int) (hlow : 0 ≤ x) (hhigh : x < 1000000000) :
      (ofNanos (t.seconds * nanosPerSecond + x + Span.ofSeconds n)).seconds = t.seconds + n := by
    have hsum : t.seconds * nanosPerSecond + x + Span.ofSeconds n =
        x + (t.seconds + n) * 1000000000 := by
      simp only [Span.ofSeconds, hunit]
      push_cast
      omega
    change (_ : Int) / _ = _
    rw [hsum, hunit]
    omega
  rw [lt_iff]
  left
  unfold add
  dsimp only
  have hwhole : (Span.ofSeconds n).tdiv nanosPerSecond = n := by
    rw [Span.ofSeconds, Int.mul_tdiv_cancel _ (by decide)]
  split
  · rw [hwhole, if_pos (.inl (by omega)), hseconds _ (by omega) (by omega)]
    omega
  · rw [hseconds _ (by omega) (by omega)]
    omega

theorem lt_of_add? {t later : Instant} {n : Nat} (hn : 1 ≤ n)
    (h : t.add? (Span.ofSeconds n) = some later) : t < later := by
  have hlater := t.lt_add_ofSeconds hn
  simp only [add?] at h
  split at h
  · rwa [Option.some.inj h] at hlater
  · cases h

/-- The order of `Instant.stored` is the order of instants. -/
theorem stored_le_stored_iff {a b : Instant} (ha : a.FourDigitYear) (hb : b.FourDigitYear) :
    a.stored ≤ b.stored ↔ a ≤ b := by
  rw [le_iff]
  constructor
  · exact fun h hlt => absurd (stored_lt_stored hb ha hlt) (not_lt_of_ge h)
  · intro h
    rcases lt_trichotomy a b with hlt | rfl | hlt
    · exact le_of_lt (stored_lt_stored ha hb hlt)
    · exact le_rfl
    · exact absurd hlt h

/-- An instant that is not of a `FourDigitYear` comes before all others in the order of
`Instant.stored`. -/
theorem stored_lt_stored_of_not {a b : Instant} (ha : ¬ a.FourDigitYear) (hb : b.FourDigitYear) :
    a.stored < b.stored := by
  obtain ⟨sign, ds, hyear, hsign, -⟩ := yearText_signed ha
  obtain ⟨rest, hrest⟩ : ∃ rest, a.stored.toList = sign :: rest := by
    unfold stored upToSecond
    rw [String.toList_ofList]
    simp only [hyear, List.cons_append]
    exact ⟨_, rfl⟩
  obtain ⟨digit, rest', hrest', hdigit⟩ :
      ∃ digit rest', b.stored.toList = digit :: rest' ∧ digit.isDigit = true := by
    rw [toList_stored hb]
    exact ⟨_, _, rfl, isDigit_digitChar (Nat.mod_lt _ (by decide))⟩
  rw [String.lt_iff_toList_lt, hrest, hrest', List.cons_lt_cons_iff]
  refine .inl ?_
  have hlow : '0' ≤ digit := by
    rw [Char.isDigit, Bool.and_eq_true, decide_eq_true_eq] at hdigit
    exact hdigit.1
  rcases hsign with rfl | rfl
  · exact lt_of_lt_of_le (by decide) hlow
  · exact lt_of_lt_of_le (by decide) hlow

/-- For an instant that is not after all four-digit years the order of `Instant.stored` is that of
instants. -/
theorem stored_le_stored_iff_of_year_le {a b : Instant} (ha : (a.date 0).year ≤ 9999)
    (hb : b.FourDigitYear) :
    (a.stored ≤ b.stored ↔ a ≤ b) ∧ (b.stored ≤ a.stored ↔ b ≤ a) := by
  by_cases hfour : a.FourDigitYear
  · exact ⟨stored_le_stored_iff hfour hb, stored_le_stored_iff hb hfour⟩
  · -- The instant is before these years, and comes first in either order.
    have htext := stored_lt_stored_of_not hfour hb
    rw [fourDigitYear_iff] at hfour hb
    rw [year_le_iff] at ha
    have hlt : a < b := lt_iff.mpr (.inl (by omega))
    have hle : a ≤ b := le_iff.mpr fun h => by
      rw [lt_iff] at h
      omega
    exact ⟨iff_of_true (le_of_lt htext) hle,
      iff_of_false (not_le_of_gt htext) fun h => le_iff.mp h hlt⟩

theorem year_le_of_le {a b : Instant} (hb : b.FourDigitYear) (h : a ≤ b) :
    (a.date 0).year ≤ 9999 := by
  rw [fourDigitYear_iff] at hb
  rw [le_iff, lt_iff] at h
  rw [year_le_iff]
  omega

theorem le_antisymm {a b : Instant} (h : a ≤ b) (h' : b ≤ a) : a = b := by
  rcases lt_trichotomy a b with hlt | heq | hlt
  · exact absurd hlt (le_iff.mp h')
  · exact heq
  · exact absurd hlt (le_iff.mp h)

end Instant

/-! ## 4. Bytes -/

/-- The bytes of a text, as which tables compare it. -/
def Text.bytes (text : String) : List UInt8 := text.toUTF8.data.toList

namespace Text

def IsAscii (c : Char) : Prop := c.val ≤ 127

instance (c : Char) : Decidable (IsAscii c) := inferInstanceAs (Decidable (_ ≤ _))

theorem isAscii_of_isDigit {c : Char} (h : c.isDigit = true) : IsAscii c := by
  rw [Char.isDigit, Bool.and_eq_true, decide_eq_true_eq, decide_eq_true_eq] at h
  exact UInt32.le_trans h.2 (by decide)

theorem bytes_of_ascii {text : String} (h : ∀ c ∈ text.toList, IsAscii c) :
    bytes text = text.toList.map fun c => c.val.toUInt8 := by
  obtain ⟨cs, rfl⟩ : ∃ cs, text = .ofList cs := ⟨text.toList, String.ofList_toList.symm⟩
  rw [String.toList_ofList] at h ⊢
  have hone : ∀ c ∈ cs, String.utf8EncodeChar c = [c.val.toUInt8] := fun c hc =>
    String.utf8EncodeChar_eq_singleton (Char.utf8Size_eq_one_iff.mpr (h c hc))
  rw [bytes, String.toUTF8, String.toByteArray_ofList, List.utf8Encode, List.data_toByteArray,
    List.flatMap_congr hone, ← List.map_eq_flatMap]

-- One-byte characters are ordered like their bytes.
theorem map_lt_map_iff {cs ds : List Char} (hcs : ∀ c ∈ cs, IsAscii c) (hds : ∀ d ∈ ds, IsAscii d) :
    cs.map (fun c => c.val.toUInt8) < ds.map (fun d => d.val.toUInt8) ↔ cs < ds := by
  have hlt {c d : Char} (hc : IsAscii c) (hd : IsAscii d) :
      (c.val.toUInt8 < d.val.toUInt8 ↔ c < d) ∧ (c.val.toUInt8 = d.val.toUInt8 ↔ c = d) := by
    unfold IsAscii at hc hd
    rw [UInt32.le_iff_toNat_le] at hc hd
    rw [Char.lt_def, UInt8.lt_iff_toNat_lt, UInt32.lt_iff_toNat_lt, ← UInt8.toNat_inj,
      ← Char.val_inj, ← UInt32.toNat_inj, UInt32.toNat_toUInt8, UInt32.toNat_toUInt8]
    have : (127 : UInt32).toNat = 127 := rfl
    omega
  induction cs generalizing ds with
  | nil => cases ds <;> simp
  | cons c cs ih =>
    cases ds with
    | nil => simp
    | cons d ds =>
      rw [List.forall_mem_cons] at hcs hds
      obtain ⟨hhead, hheads⟩ := hlt hcs.1 hds.1
      rw [List.map_cons, List.map_cons, List.cons_lt_cons_iff, List.cons_lt_cons_iff, hhead, hheads]
      exact or_congr_right (and_congr_right fun _ => ih hcs.2 hds.2)

/-- Texts of characters that are `IsAscii` are ordered like their `bytes`. -/
theorem bytes_lt_bytes_iff {a b : String} (ha : ∀ c ∈ a.toList, IsAscii c)
    (hb : ∀ c ∈ b.toList, IsAscii c) : bytes a < bytes b ↔ a < b := by
  rw [bytes_of_ascii ha, bytes_of_ascii hb, map_lt_map_iff ha hb, String.lt_iff_toList_lt]

end Text

namespace Instant

theorem isAscii_of_mem_stored {t : Instant} (h : t.FourDigitYear) {c : Char}
    (hc : c ∈ t.stored.toList) : Text.IsAscii c := by
  have hdigits {width n : Nat} : c ∈ fixedDigits width n → Text.IsAscii c := fun h =>
    Text.isAscii_of_isDigit (isDigit_of_mem_fixedDigits h)
  rw [toList_stored h] at hc
  simp only [List.mem_append, List.mem_cons, List.not_mem_nil, or_false] at hc
  rcases hc with hc | rfl | hc | rfl | hc | rfl | hc | rfl | hc | rfl | hc | rfl | hc | rfl
  all_goals first | exact hdigits hc | decide

/-- All timestamps `Instant.stored` of the four-digit years have one length. -/
theorem length_bytes_stored {t : Instant} (h : t.FourDigitYear) :
    (Text.bytes t.stored).length = 30 := by
  rw [Text.bytes_of_ascii fun c => isAscii_of_mem_stored h, List.length_map, toList_stored h]
  simp only [List.length_append, List.length_cons, List.length_nil, length_fixedDigits]

/-- The order of the bytes of `Instant.stored` is the order of instants. -/
theorem bytes_stored_lt_iff {a b : Instant} (ha : a.FourDigitYear) (hb : b.FourDigitYear) :
    Text.bytes a.stored < Text.bytes b.stored ↔ a < b := by
  rw [Text.bytes_lt_bytes_iff (fun c => isAscii_of_mem_stored ha) fun c => isAscii_of_mem_stored hb]
  refine ⟨fun h => ?_, stored_lt_stored ha hb⟩
  by_contra hle
  exact absurd ((stored_le_stored_iff hb ha).mpr (le_iff.mpr hle)) (not_le_of_gt h)

end Instant

end Autoresponder
