import PocketCalc.Journal.Pattern.Basic
import Mathlib.Algebra.Group.Nat.Defs
import Mathlib.Data.List.TakeDrop

/-! # How far a pattern is read

Every step that reads a pattern or a class takes at least a character. The steps are counted so that
the reading stops; with a step for every character and one for the end, their number never decides
about the outcome.

* **`Journal.Pattern.Item.length_lt_of_read?`** — an item takes a character.
* **`Journal.Pattern.Item.byte_lt_of_escaped?`** — two hexadecimal digits write a byte.
* **`Journal.Pattern.Bracket.readFrom_eq_of_length_lt`**,
  **`Journal.Pattern.readFrom_eq_of_length_lt`** — more steps than characters change nothing. -/

namespace PocketCalc.Journal.Pattern

variable {mode : Mode}

/-! ## Layout -/

namespace Mode

/-- Layout is left out of a text. -/
theorem length_skipLayout_le (comment : Bool) (text : List Char) :
    (skipLayout comment text).length ≤ text.length := by
  induction text generalizing comment with
  | nil => simp [skipLayout]
  | cons c rest ih =>
    have shorter (within : Bool) : (skipLayout within rest).length ≤ (c :: rest).length :=
      Nat.le_trans (ih within) (Nat.le_succ _)
    unfold skipLayout
    split
    · exact shorter _
    · split
      · exact shorter _
      · split
        · exact shorter _
        · exact Nat.le_refl _

/-- The text without the layout at its start is not longer. -/
theorem length_skip_le (mode : Mode) (text : List Char) :
    (mode.skip text).length ≤ text.length := by
  unfold skip
  split
  · exact length_skipLayout_le false text
  · exact Nat.le_refl _

/-- Behind the first character that is no layout there is less text. -/
theorem length_lt_of_skip {text rest : List Char} {c : Char}
    (skipped : mode.skip text = c :: rest) : rest.length < text.length := by
  have le := length_skip_le mode text
  rw [skipped, List.length_cons] at le
  omega

end Mode

/-! ## Items -/

namespace Item

variable {text behind : List Char} {item : Item}

/-- Hexadecimal digits take no more than the text. -/
theorem length_le_of_hexNumber? {count value number : Nat}
    (read : hexNumber? mode count value text = some (number, behind)) :
    behind.length ≤ text.length := by
  induction count generalizing value text with
  | zero =>
    simp only [hexNumber?, Option.some.injEq, Prod.mk.injEq] at read
    exact Nat.le_of_eq (congrArg List.length read.2.symm)
  | succ count ih =>
    cases text with
    | nil => cases read
    | cons c rest =>
      obtain ⟨digit, -, next⟩ := Option.bind_eq_some_iff.mp read
      have le := ih next
      have skipped := mode.length_skip_le rest
      rw [List.length_cons]
      omega

/-- **The number that digits write** is less than the power of sixteen that their count allows. -/
theorem lt_of_hexNumber? {count value number : Nat}
    (read : hexNumber? mode count value text = some (number, behind)) :
    number < 16 ^ count * (value + 1) := by
  induction count generalizing value text with
  | zero =>
    simp only [hexNumber?, Option.some.injEq, Prod.mk.injEq] at read
    omega
  | succ count ih =>
    cases text with
    | nil => cases read
    | cons c rest =>
      obtain ⟨digit, isDigit, next⟩ := Option.bind_eq_some_iff.mp read
      have small := hexValue?_lt isDigit
      calc number < 16 ^ count * (16 * value + digit + 1) := ih next
        _ ≤ 16 ^ count * (16 * (value + 1)) := Nat.mul_le_mul_left _ (by omega)
        _ = 16 ^ (count + 1) * (value + 1) := by rw [Nat.pow_succ, Nat.mul_assoc]

/-- A character by its digits takes no more than the text. -/
theorem length_le_of_hexCharacter? {count : Nat}
    (read : hexCharacter? mode count text = some (item, behind)) :
    behind.length ≤ text.length := by
  obtain ⟨⟨value, rest⟩, number, valid⟩ := Option.bind_eq_some_iff.mp read
  have le := Nat.le_trans (length_le_of_hexNumber? number) (mode.length_skip_le text)
  simp only at valid
  split at valid
  · simp only [Option.some.injEq, Prod.mk.injEq] at valid
    rwa [← valid.2]
  · cases valid

/-- What stands behind a backslash is the digits of a byte or of a character, or one character
alone. -/
theorem escaped?_cases {c : Char} {rest : List Char}
    (read : escaped? mode (c :: rest) = some (item, behind)) :
    (∃ value, item = .byte value ∧ hexNumber? mode 2 0 (mode.skip rest) = some (value, behind)) ∨
      (∃ count, hexCharacter? mode count rest = some (item, behind)) ∨
      behind = rest ∧ ∀ value, item ≠ .byte value := by
  unfold escaped? at read
  simp only at read
  split at read
  · obtain ⟨⟨value, left⟩, number, same⟩ := Option.map_eq_some_iff.mp read
    cases same
    exact .inl ⟨value, rfl, number⟩
  · exact .inr (.inl ⟨4, read⟩)
  · exact .inr (.inl ⟨8, read⟩)
  -- All other letters take nothing behind them.
  all_goals refine .inr (.inr ?_)
  all_goals first | (cases read; exact ⟨rfl, by simp⟩) | skip
  split at read
  · cases read
    exact ⟨rfl, by simp⟩
  · split at read
    · cases read
      exact ⟨rfl, by simp⟩
    · cases read

/-- **What stands behind a backslash** takes at least a character. -/
theorem length_lt_of_escaped? (read : escaped? mode text = some (item, behind)) :
    behind.length < text.length := by
  cases text with
  | nil => cases read
  | cons c rest =>
    rw [List.length_cons, Nat.lt_succ_iff]
    rcases escaped?_cases read with ⟨value, -, number⟩ | ⟨count, character⟩ | ⟨rfl, -⟩
    · exact Nat.le_trans (length_le_of_hexNumber? number) (mode.length_skip_le rest)
    · exact length_le_of_hexCharacter? character
    · exact Nat.le_refl _

/-- Characters by their digits are no bytes. -/
theorem ne_byte_of_hexCharacter? {count : Nat}
    (read : hexCharacter? mode count text = some (item, behind)) (value : Nat) :
    item ≠ .byte value := by
  obtain ⟨⟨number, rest⟩, -, valid⟩ := Option.bind_eq_some_iff.mp read
  simp only at valid
  split at valid
  · cases valid
    simp
  · cases valid

/-- **Two hexadecimal digits** write a byte. -/
theorem byte_lt_of_escaped? {value : Nat} (read : escaped? mode text = some (.byte value, behind)) :
    value < 256 := by
  cases text with
  | nil => cases read
  | cons c rest =>
    rcases escaped?_cases read with ⟨number, same, digits⟩ | ⟨count, character⟩ | ⟨-, other⟩
    · cases same
      exact lt_of_hexNumber? digits
    · exact absurd rfl (ne_byte_of_hexCharacter? character value)
    · exact absurd rfl (other value)

/-- **An item** takes at least a character. -/
theorem length_lt_of_read? (read : read? mode text = some (item, behind)) :
    behind.length < text.length := by
  unfold read? at read
  split at read
  · cases read
  · have shorter := length_lt_of_escaped? read
    rw [List.length_cons]
    omega
  all_goals
    cases read
    exact Nat.lt_succ_self _

/-- An item in a class takes at least a character. -/
theorem length_lt_of_readInClass? (read : readInClass? mode text = some (item, behind)) :
    behind.length < text.length := by
  unfold readInClass? at read
  split at read
  · cases read
  · have shorter := length_lt_of_escaped? read
    rw [List.length_cons]
    omega
  · cases read
    exact Nat.lt_succ_self _

end Item

/-! ## Classes -/

namespace Bracket

variable {text behind : List Char}

/-- The name of a class takes no more than the text. -/
theorem length_le_of_named? {negated : Bool} (read : named? text = some (negated, behind)) :
    behind.length ≤ text.length := by
  unfold named? at read
  split at read
  · rename_i text
    simp only [List.span_eq_takeWhile_dropWhile] at read
    split at read
    · rename_i name rest found
      have cut : rest.length + 2 ≤ text.length := by
        have left := congrArg List.length (congrArg Prod.snd found)
        refine Nat.le_trans (Nat.le_of_eq left.symm)
          (Nat.le_trans (List.dropWhile_sublist _).length_le ?_)
        split <;> simp
      split at read
      · cases read
        rw [List.length_cons]
        omega
      · cases read
    · cases read
  · cases read

/-- A sign of negation takes no more than the text. -/
theorem length_le_of_entered? (read : entered? mode text = some behind) :
    behind.length ≤ text.length := by
  have skipped := mode.length_skip_le text
  unfold entered? at read
  split at read
  · rename_i rest found
    rw [found, List.length_cons] at skipped
    split at read
    · cases read
    · cases read
      omega
  · cases read
    exact skipped

/-- **A member of a class** takes at least a character. -/
theorem length_lt_of_member? (read : member? mode text = some behind) :
    behind.length < text.length := by
  obtain ⟨⟨first, rest⟩, firstRead, next⟩ := Option.bind_eq_some_iff.mp read
  have fewer := Item.length_lt_of_readInClass? firstRead
  have skipped := mode.length_skip_le rest
  simp only at next
  split at next
  · cases next
  · rename_i left found
    rw [found, List.length_cons] at skipped
    split at next
    · split at next
      · cases next
        rw [List.length_cons]
        omega
      · cases next
    · obtain ⟨⟨last, after⟩, lastRead, ends⟩ := Option.bind_eq_some_iff.mp next
      obtain ⟨low, -, ends⟩ := Option.bind_eq_some_iff.mp ends
      obtain ⟨high, -, ends⟩ := Option.bind_eq_some_iff.mp ends
      have fewerAgain := Item.length_lt_of_readInClass? lastRead
      have skippedAgain := mode.length_skip_le left
      simp only at ends
      split at ends
      · cases ends
        omega
      · cases ends
  · split at next
    · cases next
      omega
    · cases next

variable {fuel more : Nat}

/-- **More steps than characters** make no difference to a class. -/
theorem readFrom_eq_of_length_lt {outer : List Bracket} {fresh : Bool} {bracket : Bracket}
    (enough : text.length < fuel) (alsoEnough : text.length < more) :
    readFrom mode fuel outer fresh bracket text = readFrom mode more outer fresh bracket text := by
  induction fuel generalizing more outer fresh bracket text with
  | zero => exact absurd enough (Nat.not_lt_zero _)
  | succ fuel ih =>
    obtain ⟨more, rfl⟩ := Nat.exists_eq_add_one.mpr (Nat.zero_lt_of_lt alsoEnough)
    -- Every further step reads less text.
    have next {left : List Char} {outer : List Bracket} {fresh : Bool} {bracket : Bracket}
        (less : left.length < text.length) :
        readFrom mode fuel outer fresh bracket left = readFrom mode more outer fresh bracket left :=
      ih (by omega) (by omega)
    rw [readFrom, readFrom]
    split
    · rfl
    · rename_i c rest skipped
      have fewer := Mode.length_lt_of_skip skipped
      by_cases starts : (fresh && (c == '-' || (c == ']' && bracket.members.isEmpty))) = true
      · simp only [if_pos starts, next fewer]
      simp only [if_neg starts]
      by_cases closes : c = ']'
      · simp only [if_pos closes, next fewer]
      simp only [if_neg closes]
      by_cases opens : c = '['
      · simp only [if_pos opens]
        cases named : named? rest with
        | some found =>
          simp only [next (Nat.lt_of_le_of_lt (length_le_of_named? named) fewer)]
        | none =>
          cases entered : entered? mode rest with
          | none => rfl
          | some inside => exact next (Nat.lt_of_le_of_lt (length_le_of_entered? entered) fewer)
      simp only [if_neg opens]
      by_cases operator : (isOperator c && rest.head? == some c) = true
      · have tail : rest.tail.length < text.length := by
          rw [List.length_tail]
          omega
        simp only [if_pos operator, next tail]
      simp only [if_neg operator]
      cases found : member? mode (c :: rest) with
      | none => rfl
      | some behind =>
        have taken := length_lt_of_member? found
        rw [List.length_cons] at taken
        exact next (by omega)

/-- What has been read of a class takes at least a character. -/
theorem length_lt_of_readFrom {outer : List Bracket} {fresh : Bool} {bracket : Bracket}
    {depth : Nat} (read : readFrom mode fuel outer fresh bracket text = some (depth, behind)) :
    behind.length < text.length := by
  induction fuel generalizing outer fresh bracket text with
  | zero => cases read
  | succ fuel ih =>
    rw [readFrom] at read
    split at read
    · cases read
    · rename_i c rest skipped
      have fewer := Mode.length_lt_of_skip skipped
      split at read
      · split at read
        · exact Nat.lt_trans (ih read) fewer
        · cases read
      split at read
      · split at read
        · cases read
          exact fewer
        · exact Nat.lt_trans (ih read) fewer
      split at read
      · split at read
        · rename_i negated left named
          split at read
          · have shorter := length_le_of_named? named
            have last := ih read
            omega
          · cases read
        · obtain ⟨inside, entered, next⟩ := Option.bind_eq_some_iff.mp read
          have shorter := length_le_of_entered? entered
          have last := ih next
          omega
      split at read
      · have last := ih read
        rw [List.length_tail] at last
        omega
      · obtain ⟨left, member, next⟩ := Option.bind_eq_some_iff.mp read
        have shorter := length_lt_of_member? member
        have last := ih next
        rw [List.length_cons] at shorter
        omega

/-- **A class** takes at least a character. -/
theorem length_lt_of_read? {depth : Nat} (read : read? mode text = some (depth, behind)) :
    behind.length < text.length := by
  obtain ⟨inside, entered, next⟩ := Option.bind_eq_some_iff.mp read
  exact Nat.lt_of_lt_of_le (length_lt_of_readFrom next) (length_le_of_entered? entered)

end Bracket

/-! ## Groups -/

variable {text behind : List Char} {opening : Opening}

/-- The letters of modes take at least the sign behind them. -/
theorem length_lt_of_modes? {seen : List Char}
    (read : modes? seen mode text = some (opening, behind)) : behind.length < text.length := by
  induction text generalizing seen mode with
  | nil => cases read
  | cons c rest ih =>
    rw [List.length_cons]
    unfold modes? at read
    split at read
    · split at read
      · cases read
      · split at read
        · cases read
          exact Nat.lt_succ_self _
        · split at read
          · cases read
          · cases read
            exact Nat.lt_succ_self _
    · split at read
      · cases read
      · exact Nat.lt_succ_of_lt (ih read)

/-- The name of a group takes at least the sign that closes it. -/
theorem length_lt_of_groupName? (read : groupName? mode text = some (opening, behind)) :
    behind.length < text.length := by
  unfold groupName? at read
  rw [List.span_eq_takeWhile_dropWhile] at read
  split at read
  · rename_i name sign rest found
    have left := congrArg List.length (congrArg Prod.snd found)
    have shorter := (List.dropWhile_sublist (l := text) (· != '>')).length_le
    rw [left, List.length_cons] at shorter
    split at read
    · cases read
      exact shorter
    · cases read
  · cases read

/-- **What a parenthesis opens** takes no more than the text. -/
theorem length_le_of_opening? (read : opening? mode text = some (opening, behind)) :
    behind.length ≤ text.length := by
  have skipped := mode.length_skip_le text
  unfold opening? at read
  split at read
  · rename_i rest found
    have shorter := length_lt_of_groupName? read
    rw [found, List.length_cons, List.length_cons, List.length_cons] at skipped
    omega
  · rename_i rest found
    have shorter := length_lt_of_groupName? read
    rw [found, List.length_cons, List.length_cons] at skipped
    omega
  · rename_i rest _ _ found
    have shorter := length_lt_of_modes? read
    rw [found, List.length_cons] at skipped
    omega
  · cases read
    exact skipped

variable {fuel more : Nat}

/-- **More steps than characters** make no difference to a pattern. -/
theorem readFrom_eq_of_length_lt {names : List (List Char)} {outer : List Group} {group : Group}
    (enough : text.length < fuel) (alsoEnough : text.length < more) :
    readFrom fuel names outer group text = readFrom more names outer group text := by
  induction fuel generalizing more names outer group text with
  | zero => exact absurd enough (Nat.not_lt_zero _)
  | succ fuel ih =>
    obtain ⟨more, rfl⟩ := Nat.exists_eq_add_one.mpr (Nat.zero_lt_of_lt alsoEnough)
    -- Every further step reads less text.
    have next {left : List Char} {names : List (List Char)} {outer : List Group} {group : Group}
        (less : left.length < text.length) :
        readFrom fuel names outer group left = readFrom more names outer group left :=
      ih (by omega) (by omega)
    rw [readFrom, readFrom]
    split
    · rfl
    · rename_i c rest skipped
      have fewer := Mode.length_lt_of_skip skipped
      by_cases opens : c = '('
      · simp only [if_pos opens]
        cases opened : opening? group.mode rest with
        | none => rfl
        | some found =>
          obtain ⟨opening, behind⟩ := found
          have less := Nat.lt_of_le_of_lt (length_le_of_opening? opened) fewer
          cases opening <;> simp only [next less]
      simp only [if_neg opens]
      by_cases closes : c = ')'
      · cases outer <;> simp only [if_pos closes, next fewer]
      simp only [if_neg closes]
      by_cases splits : c = '|'
      · simp only [if_pos splits, next fewer]
      simp only [if_neg splits]
      by_cases lists : c = '['
      · simp only [if_pos lists]
        cases found : Bracket.read? group.mode rest with
        | none => rfl
        | some bracket =>
          exact next (Nat.lt_trans (Bracket.length_lt_of_read? found) fewer)
      simp only [if_neg lists]
      by_cases sign : repeats c = true
      · simp only [if_pos sign]
        cases group.repeated? with
        | none => rfl
        | some repeated =>
          refine next ?_
          split
          · rw [List.length_tail]
            omega
          · exact fewer
      simp only [if_neg sign]
      by_cases counts : c = '{'
      · simp only [if_pos counts]
      simp only [if_neg counts]
      cases found : Item.read? group.mode (c :: rest) with
      | none => rfl
      | some read =>
        have taken := Item.length_lt_of_read? found
        rw [List.length_cons] at taken
        simp only [Option.bind_some, next (show read.2.length < text.length by omega)]

end PocketCalc.Journal.Pattern
