import PocketCalc.Expression.Symbol
import PocketCalc.Expression.Token.Scan
import PocketCalc.Proofs.Expression.Parsing

/-! # Scanning from the left

While a text is scanned, what is read of it amounts to the tokens that are finished and the run of
numeral characters that is not. Each further character changes the two in its own way, whatever
comes after it.

* **`Scans`** — the finished tokens and the unfinished run of a beginning.
* **`Scans.digit`**, **`Scans.point`**, **`Scans.token`** — what each kind of character does to
  them.
* **`Scans.finish`** — the tokens of the whole text.
* **`Token.negate_notMem_of_scan`** — in a scanned text no negation is marked yet. -/

namespace PocketCalc

/-! ## Numerals -/

/-- A run of numeral characters makes a number, and no run makes nothing. -/
theorem numeralToken_eq_ok {run : List Char} {tokens : List Token}
    (made : numeralToken run = .ok tokens) :
    run = [] ∧ tokens = [] ∨ run ≠ [] ∧ ∃ value, tokens = [.number value] := by
  unfold numeralToken at made
  split at made
  · rename_i nothing
    rw [Except.ok.injEq] at made
    exact .inl ⟨List.isEmpty_iff.mp nothing, made.symm⟩
  · rename_i something
    split at made
    · rename_i value _
      rw [Except.ok.injEq] at made
      exact .inr ⟨fun nothing => something (List.isEmpty_iff.mpr nothing), value, made.symm⟩
    · simp at made

/-- A run that ends in a digit makes a number. -/
theorem numeralToken_concat_digit (run : List Char) {c : Char} (digit : c.isDigit = true) :
    ∃ value, numeralToken (run ++ [c]) = .ok [.number value] := by
  have value : ∃ value, numeralValue? (run ++ [c]) = some value := by
    unfold numeralValue?
    cases run with
    | nil => simp [digit]
    | cons first others =>
      cases leading : first.isDigit with
      | true => simp [leading]
      | false => simp [leading]
  obtain ⟨value, found⟩ := value
  exact ⟨value, by simp [numeralToken, found]⟩

/-! ## Single characters -/

namespace Token

/-- A digit goes to the run. -/
theorem scanFrom_digit (run : List Char) {c : Char} (digit : c.isDigit = true)
    (rest : List Char) : scanFrom run (c :: rest) = scanFrom (run ++ [c]) rest := by
  have numeral : isNumeralChar c = true := by simp [isNumeralChar, digit]
  have other : c ≠ '.' := ne_of_isDigit digit rfl
  rw [scanFrom, if_pos numeral]
  simp [other]

/-- The first point of a run goes to it. -/
theorem scanFrom_point {run : List Char} (first : '.' ∉ run) (rest : List Char) :
    scanFrom run ('.' :: rest) = scanFrom (run ++ ['.']) rest := by
  rw [scanFrom, if_pos (by decide)]
  simp [first]

/-- A second point is a fault: that of the run alone, if the run names no number. -/
theorem scanFrom_second_point {run : List Char} (second : '.' ∈ run) (rest : List Char) :
    scanFrom run ('.' :: rest) = .error
      (.badNumeral (if (numeralValue? run).isSome then run ++ ['.'] else run)) := by
  rw [scanFrom, if_pos (by decide), if_pos (by simpa using second)]
  cases numeralValue? run <;> rfl

/-- A character that is a token is neither a part of a numeral nor blank. -/
theorem isNumeralChar_isBlank_of_ofChar? {c : Char} {token : Token}
    (single : ofChar? c = some token) : isNumeralChar c = false ∧ isBlank c = false := by
  unfold ofChar? at single
  split at single
  case h_7 => simp at single
  all_goals decide

/-- A character that is a token finishes the run and stands for itself. -/
theorem scanFrom_token {run : List Char} {numeral : List Token} {c : Char} {token : Token}
    (finished : numeralToken run = .ok numeral) (single : ofChar? c = some token)
    (rest : List Char) :
    scanFrom run (c :: rest) = (scanFrom [] rest).map (numeral ++ [token] ++ ·) := by
  obtain ⟨other, visible⟩ := isNumeralChar_isBlank_of_ofChar? single
  rw [scanFrom, if_neg (by simp [other]), finished]
  simp [visible, single]

/-- A run makes no marked negation. -/
theorem negate_notMem_of_numeralToken {run : List Char} {tokens : List Token}
    (made : numeralToken run = .ok tokens) : negate ∉ tokens := by
  rcases numeralToken_eq_ok made with ⟨-, rfl⟩ | ⟨-, value, rfl⟩ <;> simp

/-- No character is a marked negation. -/
theorem ne_negate_of_ofChar? {c : Char} {token : Token} (single : ofChar? c = some token) :
    token ≠ negate := by
  rintro rfl
  unfold ofChar? at single
  split at single <;> simp at single

/-- Behind an unfinished run, no negation is marked either. -/
theorem negate_notMem_of_scanFrom {run text : List Char} {tokens : List Token}
    (scanned : scanFrom run text = .ok tokens) : negate ∉ tokens := by
  fun_induction scanFrom run text generalizing tokens with
  | case1 run => exact negate_notMem_of_numeralToken scanned
  | case4 run c rest _ _ ih => exact ih scanned
  | case6 run c rest _ numeral made blank ih =>
    obtain ⟨later, found, rfl⟩ := map_append_eq_ok numeral scanned
    simp [negate_notMem_of_numeralToken made, ih found]
  | case7 run c rest _ numeral made visible token single ih =>
    obtain ⟨later, found, rfl⟩ := map_append_eq_ok (numeral ++ [token]) (by simpa using scanned)
    simp [negate_notMem_of_numeralToken made, (ne_negate_of_ofChar? single).symm, ih found]
  | _ => simp at scanned

/-- **A scanned text has no marked negation**: its minus signs are all read as subtractions. -/
theorem negate_notMem_of_scan {text : List Char} {tokens : List Token}
    (scanned : scan text = .ok tokens) : negate ∉ tokens :=
  negate_notMem_of_scanFrom scanned

end Token

/-! ## Beginnings -/

/-- **What a beginning of a text amounts to**: finished tokens, and a run of numeral characters that
what follows may continue. -/
def Scans (text : List Char) (tokens : List Token) (run : List Char) : Prop :=
  ∀ rest, Token.scan (text ++ rest) = (Token.scanFrom run rest).map (tokens ++ ·)

namespace Scans

variable {text run : List Char} {tokens : List Token}

/-- Nothing is read yet. -/
theorem nil : Scans [] [] [] := by
  intro rest
  rw [map_nil_append]
  rfl

/-- A digit goes to the run. -/
theorem digit (scans : Scans text tokens run) {c : Char} (digit : c.isDigit = true) :
    Scans (text ++ [c]) tokens (run ++ [c]) := by
  intro rest
  rw [List.append_assoc, List.singleton_append, scans, Token.scanFrom_digit run digit]

/-- The first point of a run goes to it. -/
theorem point (scans : Scans text tokens run) (first : '.' ∉ run) :
    Scans (text ++ ['.']) tokens (run ++ ['.']) := by
  intro rest
  rw [List.append_assoc, List.singleton_append, scans, Token.scanFrom_point first]

/-- A second point is a fault, whatever follows. -/
theorem second_point (scans : Scans text tokens run) (second : '.' ∈ run) (rest : List Char) :
    ∃ fault, Token.scan (text ++ ['.'] ++ rest) = .error fault := by
  rw [List.append_assoc, List.singleton_append, scans, Token.scanFrom_second_point second]
  exact ⟨_, rfl⟩

/-- A character that is a token finishes the run and follows it. -/
theorem token (scans : Scans text tokens run) {numeral : List Token} {c : Char} {token : Token}
    (finished : numeralToken run = .ok numeral) (single : Token.ofChar? c = some token) :
    Scans (text ++ [c]) (tokens ++ numeral ++ [token]) [] := by
  intro rest
  rw [List.append_assoc, List.singleton_append, scans, Token.scanFrom_token finished single,
    map_append_map_append]
  simp only [List.append_assoc]

/-- The end of the text finishes the run. -/
theorem finish (scans : Scans text tokens run) {numeral : List Token}
    (finished : numeralToken run = .ok numeral) :
    Token.scan text = .ok (tokens ++ numeral) := by
  have whole := scans []
  rw [List.append_nil, Token.scanFrom, finished] at whole
  exact whole

end Scans

end PocketCalc
