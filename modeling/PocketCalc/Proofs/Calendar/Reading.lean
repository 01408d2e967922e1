import PocketCalc.Calendar.Reading

/-! # Timestamps are read back

The written form of a moment names that moment: every number is written with enough digits and is
followed by something that is no digit, the places left out behind the second are zeros, and the
offset is that of UTC.

* **`Timestamp.readDigits_padded`** — a number of a fixed width is read back.
* **`Timestamp.readYear_yearText`**, **`Timestamp.readFraction_fractionText`** — so are a year and
  the places behind the second.
* **`Timestamp.ofText?_text`** — a moment is read back from its written form. -/

namespace PocketCalc.Timestamp

-- Powers are those of the core library, also where another instance of `Pow` is known. For that, a
-- numeral in an exponent has its type written.
attribute [local instance (high)] instPowNat

/-! ## Numbers of a fixed width -/

/-- Leading zeros and digits are digits. -/
theorem isDigit_of_mem_padded {width value : Nat} {c : Char} (member : c ∈ padded width value) :
    c.isDigit = true := by
  rcases List.mem_append.mp member with zero | digit
  · rw [List.eq_of_mem_replicate zero]
    rfl
  · exact Nat.isDigit_of_mem_toDigits (by decide) (by decide) digit

/-- A number that fits has the width. -/
theorem length_padded {width value : Nat} (positive : 0 < width) (fits : value < 10 ^ width) :
    (padded width value).length = width := by
  have narrow : (Nat.toDigits 10 value).length ≤ width :=
    (Nat.length_toDigits_le_iff (by decide) positive).mpr fits
  simp only [padded, List.length_append, List.length_replicate]
  omega

/-- Leading zeros count for nothing. -/
theorem ofDigitChars_padded (width value : Nat) :
    Nat.ofDigitChars 10 (padded width value) 0 = value := by
  rw [padded, Nat.ofDigitChars_append, Nat.ofDigitChars_replicate_zero, Nat.mul_zero,
    Nat.ofDigitChars_ten_toDigits]

/-- A padded number starts with a digit. -/
theorem exists_padded_eq_cons (width value : Nat) :
    ∃ first others, padded width value = first :: others ∧ first.isDigit = true := by
  cases shown : padded width value with
  | nil =>
    have none : Nat.toDigits 10 value = [] := (List.append_eq_nil_iff.mp shown).2
    exact absurd none Nat.toDigits_ne_nil
  | cons first others =>
    have member : first ∈ padded width value := by
      rw [shown]
      exact List.mem_cons_self
    exact ⟨first, others, rfl, isDigit_of_mem_padded member⟩

/-- No blank is skipped before a padded number. -/
theorem skipBlanks_padded (width value : Nat) (rest : List Char) :
    skipBlanks (padded width value ++ rest) = padded width value ++ rest := by
  obtain ⟨first, others, shown, digit⟩ := exists_padded_eq_cons width value
  rw [shown, skipBlanks, List.cons_append,
    List.dropWhile_cons_of_neg (by simp [isBlank_eq_false_of_isDigit digit])]

/-- **A number of a fixed width is read back**, whatever follows it. -/
theorem readDigits_padded {width value : Nat} (positive : 0 < width) (fits : value < 10 ^ width)
    (bounded : value ≤ numberMax) (rest : List Char) :
    readDigits (some width) (padded width value ++ rest) = some (value, rest) := by
  have wide : (padded width value).length = width := length_padded positive fits
  have shown : ((padded width value ++ rest).takeWhile Char.isDigit).take width =
      padded width value := by
    rw [List.takeWhile_append_of_pos fun c member => isDigit_of_mem_padded member]
    exact List.take_left' wide
  have some_digit : padded width value ≠ [] := by
    intro none
    rw [none] at wide
    exact absurd wide (Nat.ne_of_lt positive)
  simp only [readDigits, shown, ofDigitChars_padded, List.isEmpty_eq_false_iff.mpr some_digit,
    Bool.false_or, decide_eq_true_eq, Nat.not_lt.mpr bounded, if_false, List.drop_left]

/-- **A number of any width is read back** if no digit follows it. -/
theorem readDigits_padded_none (width : Nat) {value : Nat} (bounded : value ≤ numberMax)
    {next : Char} (apart : next.isDigit = false) (rest : List Char) :
    readDigits none (padded width value ++ next :: rest) = some (value, next :: rest) := by
  obtain ⟨first, others, some_digit, -⟩ := exists_padded_eq_cons width value
  have shown : (padded width value ++ next :: rest).takeWhile Char.isDigit =
      padded width value := by
    rw [List.takeWhile_append_of_pos fun c member => isDigit_of_mem_padded member,
      List.takeWhile_cons_of_neg (by simp [apart]), List.append_nil]
  have filled : (padded width value).isEmpty = false := by rw [some_digit, List.isEmpty_cons]
  simp only [readDigits, shown, ofDigitChars_padded, filled, Bool.false_or, decide_eq_true_eq,
    Nat.not_lt.mpr bounded, if_false, List.drop_left]

/-- A number of two digits is read back. -/
theorem readTwo_padded {value : Nat} (fits : value < 100) (rest : List Char) :
    readTwo (padded 2 value ++ rest) = some (value, rest) := by
  rw [readTwo, skipBlanks_padded]
  refine readDigits_padded (by decide) fits ?_ rest
  exact Nat.le_trans (Nat.le_of_lt fits) (by decide)

/-- A mark is read where it stands. -/
theorem readMark_cons {mark : Char} (visible : isBlank mark = false) (rest : List Char) :
    readMark mark (mark :: rest) = some rest := by
  rw [readMark, skipBlanks, List.dropWhile_cons_of_neg (by simp [visible])]
  simp

/-! ## Parts of a timestamp -/

/-- A year of four digits is read back, and so is one with a sign. -/
theorem readYear_yearText {year : Int} (supported : isSupportedYear year = true)
    (rest : List Char) : readYear (yearText year ++ '-' :: rest) = some (year, '-' :: rest) := by
  have bounded : year.natAbs ≤ numberMax := by
    have most : 262143 ≤ numberMax := by decide
    simp only [isSupportedYear, Bool.and_eq_true, decide_eq_true_eq] at supported
    omega
  unfold yearText
  split
  · rename_i plain
    simp only [Bool.and_eq_true, decide_eq_true_eq] at plain
    have fits : year.natAbs < 10 ^ (4 : Nat) := by omega
    obtain ⟨first, others, shown, digit⟩ := exists_padded_eq_cons 4 year.natAbs
    have read := readDigits_padded (by decide) fits bounded ('-' :: rest)
    rw [readYear, skipBlanks_padded]
    -- A digit is no sign, so the four digits are read as such.
    rw [shown, List.cons_append] at read ⊢
    split
    · rename_i starts
      obtain ⟨rfl, -⟩ := List.cons.inj starts
      cases digit
    · rename_i starts
      obtain ⟨rfl, -⟩ := List.cons.inj starts
      cases digit
    · rw [read]
      simp only [Option.map_some, Int.natAbs_of_nonneg plain.1]
  · have hyphen : '-'.isDigit = false := rfl
    have read := readDigits_padded_none 4 bounded hyphen rest
    by_cases negative : year < 0
    · have blank : isBlank '-' = false := by decide
      rw [if_pos negative, readYear, List.cons_append, skipBlanks,
        List.dropWhile_cons_of_neg (by simp [blank])]
      simp only [read, Option.map_some, Option.some.injEq, Prod.mk.injEq, and_true]
      omega
    · have blank : isBlank '+' = false := by decide
      rw [if_neg negative, readYear, List.cons_append, skipBlanks,
        List.dropWhile_cons_of_neg (by simp [blank])]
      simp only [read, Option.map_some, Option.some.injEq, Prod.mk.injEq, and_true]
      omega

/-- Places behind a point are read back as so many nanoseconds. -/
theorem readFraction_padded {width value : Nat} (positive : 0 < width) (narrow : width ≤ 9)
    (fits : value < 10 ^ width) {next : Char} (apart : next.isDigit = false) (rest : List Char) :
    readFraction ('.' :: padded width value ++ next :: rest) =
      some (value * 10 ^ (9 - width), next :: rest) := by
  have wide : (padded width value).length = width := length_padded positive fits
  have digits : ∀ c ∈ padded width value, c.isDigit = true :=
    fun c member => isDigit_of_mem_padded member
  have shown : ((padded width value ++ next :: rest).takeWhile Char.isDigit).take 9 =
      padded width value := by
    rw [List.takeWhile_append_of_pos digits, List.takeWhile_cons_of_neg (by simp [apart]),
      List.append_nil]
    exact List.take_of_length_le (Nat.le_trans (Nat.le_of_eq wide) narrow)
  have behind : (padded width value ++ next :: rest).dropWhile Char.isDigit = next :: rest := by
    rw [List.dropWhile_append_of_pos digits, List.dropWhile_cons_of_neg (by simp [apart])]
  have filled : (padded width value).isEmpty = false := by
    rw [List.isEmpty_eq_false_iff, ← List.length_pos_iff, wide]
    exact positive
  simp only [List.cons_append, readFraction, shown, behind, filled, ofDigitChars_padded, wide,
    Bool.false_eq_true, if_false]

/-- **The places behind a second are read back**; those left out are zeros. -/
theorem readFraction_fractionText {nanosecond : Nat} (below : nanosecond < 1000000000) :
    readFraction (fractionText nanosecond ++ ['Z']) = some (nanosecond, ['Z']) := by
  unfold fractionText
  split
  · subst nanosecond
    rfl
  split
  · rename_i exact
    rw [readFraction_padded (by decide) (by decide) (by omega) rfl]
    simp only [Option.some.injEq, Prod.mk.injEq, and_true]
    omega
  split
  · rename_i exact
    rw [readFraction_padded (by decide) (by decide) (by omega) rfl]
    simp only [Option.some.injEq, Prod.mk.injEq, and_true]
    omega
  · rw [readFraction_padded (by decide) (by decide) (by omega) rfl]
    simp only [Option.some.injEq, Prod.mk.injEq, and_true]
    omega

/-- No month is beyond the twelfth. -/
theorem month_le (date : Date) : date.month ≤ 12 := by
  have days := date.exists_day
  simp only [daysInMonth] at days
  split at days
  · omega
  split at days
  · rename_i short
    simp only [Bool.or_eq_true, decide_eq_true_eq] at short
    omega
  split at days
  · rename_i within
    simp only [Bool.and_eq_true, decide_eq_true_eq] at within
    exact within.2
  · omega

/-- A date is read back. -/
theorem readDate_text (date : Date) (rest : List Char) :
    readDate (yearText date.year ++ '-' :: (padded 2 date.month ++ '-' ::
      (padded 2 date.day ++ rest))) = some (date, rest) := by
  have month : date.month < 100 := Nat.lt_of_le_of_lt (month_le date) (by decide)
  have day : date.day < 100 := by
    have most := daysInMonth_le date.year date.month
    have days := date.exists_day
    omega
  have mark : isBlank '-' = false := by decide
  simp only [readDate, readYear_yearText date.supported, readMark_cons mark, readTwo_padded month,
    readTwo_padded day, Option.bind_eq_bind, Option.bind_some, Date.of?_self, Option.pure_def]

/-- The local time of UTC is the moment. -/
theorem fromLocal?_self (moment : Timestamp) :
    fromLocal? moment.date moment.hour moment.minute moment.second moment.nanosecond 0 =
      some moment := by
  obtain ⟨date, hour, minute, second, nanosecond, exists_time⟩ := moment
  have within : ¬((hour * 60 + minute : Nat) : Int) - 0 < 0 ∧
      ¬minutesPerDay ≤ ((hour * 60 + minute : Nat) : Int) - 0 := by
    simp only [minutesPerDay]
    omega
  have rest : ((((hour * 60 + minute : Nat) : Int) - 0) % minutesPerDay).toNat =
      hour * 60 + minute := by
    simp only [minutesPerDay]
    omega
  have hours : (hour * 60 + minute) / 60 = hour := by omega
  have minutes : (hour * 60 + minute) % 60 = minute := by omega
  have exact_time :
      (-minutesPerDay < 0 && 0 < minutesPerDay && hour < 24 && minute < 60) = true := by
    simp [minutesPerDay, exists_time.1, exists_time.2.1]
  simp only [fromLocal?, exact_time, if_true, if_neg within.1, if_neg within.2, rest, hours,
    minutes, of?, dif_pos exists_time, Option.bind_eq_bind, Option.bind_some]

/-- **A moment is read back from its written form.** -/
theorem ofText?_text (moment : Timestamp) : ofText? moment.text = some moment := by
  obtain ⟨hour, minute, second, nanosecond⟩ := moment.exists_time
  have colon : isBlank ':' = false := by decide
  have utc : readOffset (skipBlanks ['Z']) = some (0, []) := by decide
  simp only [text, List.append_assoc, List.cons_append, ofText?, readDate_text, readSeparator,
    readMark_cons colon, readTwo_padded (Nat.lt_trans hour (by decide : 24 < 100)),
    readTwo_padded (Nat.lt_trans minute (by decide : 60 < 100)),
    readTwo_padded (Nat.lt_of_le_of_lt second (by decide : 60 < 100)),
    readFraction_fractionText nanosecond, utc, Option.bind_eq_bind, Option.bind_some,
    fromLocal?_self]
  rfl

end PocketCalc.Timestamp
