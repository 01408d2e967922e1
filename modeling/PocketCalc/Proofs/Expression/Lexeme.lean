import Mathlib.Data.List.SplitBy
import Mathlib.Data.List.TakeWhile
import PocketCalc.Proofs.Expression.Numeral

/-! # The lexical grammar

A text is cut into single characters and runs of digits and points that are as long as they can be.
Each piece is a blank, a sign, a parenthesis or a number, or it is at fault, whatever the other
pieces are. Scanning goes through the text character by character and does not look for the end of a
run before it objects; all the same it reads the pieces one by one and stops at the leftmost that is
at fault.

* **`pieces`** — the pieces of a text.
* **`Lexeme`**, **`Faulty`** — what a piece is read as, or why it is refused.
* **`Token.scan_append`**, **`Cut.scan_cons`** — what does not belong together is scanned apart, as
  the first piece is from the others.
* **`Lexeme.scan_eq`**, **`Faulty.scan_eq`** — the verdict on a single piece.
* **`Token.scan_outcome`** — the tokens of a text, and the leftmost fault in it. -/

namespace PocketCalc

/-! ## Pieces -/

/-- Two neighbours belong together if each of them is a digit or a point. -/
def isJoined (c next : Char) : Bool := isNumeralChar c && isNumeralChar next

/-- **The pieces of a text**: single characters, and runs of digits and points that are as long as
they can be. -/
def pieces (text : List Char) : List (List Char) := text.splitBy isJoined

example : pieces ['1', '.', '2', '.', '+', ' ', '3'] =
    [['1', '.', '2', '.'], ['+'], [' '], ['3']] := by decide

/-- **A run of digits and points.** -/
structure IsRun (piece : List Char) : Prop where
  /-- There is something to read. -/
  something : piece ≠ []
  /-- It consists of digits and points. -/
  numeral : ∀ c ∈ piece, isNumeralChar c = true

/-- **A list of pieces that are cut where they must be**: a character that belongs to no run stands
alone, and what follows a run does not go on with it. -/
inductive Cut : List (List Char) → Prop where
  /-- Nothing is cut from nothing. -/
  | nil : Cut []
  /-- A single character. -/
  | single {c : Char} {others : List (List Char)} (alone : isNumeralChar c = false)
      (rest : Cut others) : Cut ([c] :: others)
  /-- A run that ends where the next piece begins. -/
  | run {run : List Char} {others : List (List Char)} (isRun : IsRun run)
      (ends : ∀ c ∈ others.flatten.head?, isNumeralChar c = false) (rest : Cut others) :
      Cut (run :: others)

/-- Pieces behind the first are cut where they must be. -/
theorem Cut.tail {piece : List Char} {others : List (List Char)} (cut : Cut (piece :: others)) :
    Cut others := by
  cases cut with
  | single _ rest => exact rest
  | run _ _ rest => exact rest

/-- Characters that belong together two by two are a run, unless there is only one. -/
theorem isRun_of_isChain {first second : Char} {rest : List Char}
    (chain : (first :: second :: rest).IsChain fun c next => isJoined c next = true) :
    IsRun (first :: second :: rest) := by
  refine ⟨by simp, ?_⟩
  induction rest generalizing first second with
  | nil => simpa [isJoined] using chain
  | cons third rest ih =>
    obtain ⟨together, behind⟩ := List.isChain_cons_cons.mp chain
    intro c member
    rcases List.mem_cons.mp member with rfl | later
    · exact (Bool.and_eq_true_iff.mp together).1
    · exact ih behind c later

/-- Characters that belong together are a run or one character that belongs to none. -/
theorem isRun_or_single_of_isChain {piece : List Char} (something : piece ≠ [])
    (chain : piece.IsChain fun c next => isJoined c next = true) :
    IsRun piece ∨ ∃ c, piece = [c] ∧ isNumeralChar c = false := by
  match piece with
  | [] => exact absurd rfl something
  | [c] =>
    cases numeral : isNumeralChar c with
    | true => exact .inl ⟨something, by simpa using numeral⟩
    | false => exact .inr ⟨c, rfl, numeral⟩
  | first :: second :: rest => exact .inl (isRun_of_isChain chain)

/-- Pieces between which the text is cut only where two characters do not belong together. -/
theorem cut_of_isChain {parts : List (List Char)} (nonempty : [] ∉ parts)
    (together : ∀ piece ∈ parts, piece.IsChain fun c next => isJoined c next = true)
    (apart : parts.IsChain fun piece next => ∃ some other,
      isJoined (piece.getLast some) (next.head other) = false) : Cut parts := by
  induction parts with
  | nil => exact .nil
  | cons piece others ih =>
    obtain ⟨something, behind⟩ := List.ne_and_not_mem_of_not_mem_cons nonempty
    obtain ⟨between, apart⟩ := List.isChain_cons.mp apart
    have rest := ih behind (fun next member => together next (.tail _ member)) apart
    rcases isRun_or_single_of_isChain (Ne.symm something) (together piece (.head _)) with
      isRun | ⟨c, rfl, alone⟩
    · refine .run isRun (fun c first => ?_) rest
      -- the run ends in a digit or a point, so the next piece begins with neither
      cases others with
      | nil => simp at first
      | cons next more =>
        obtain ⟨some, other, cutHere⟩ := between next rfl
        have last := isRun.numeral _ (List.getLast_mem some)
        rw [isJoined, last, Bool.true_and] at cutHere
        rw [List.flatten_cons, List.head?_append_of_ne_nil _ other, List.head?_eq_some_head other,
          Option.mem_some_iff] at first
        rw [← first, cutHere]
    · exact .single alone rest

/-- **The pieces of a text are cut where they must be.** -/
theorem cut_pieces (text : List Char) : Cut (pieces text) :=
  cut_of_isChain (List.nil_notMem_splitBy isJoined text)
    (fun _ member => List.isChain_of_mem_splitBy member)
    (List.isChain_getLast_head_splitBy isJoined text)

/-! ## What a piece is read as -/

/-- **A character that no text may contain**: neither digit nor point, neither operator nor
parenthesis, and no blank. -/
structure IsForeign (c : Char) : Prop where
  /-- It is neither a digit nor a point. -/
  alone : isNumeralChar c = false
  /-- It is no operator. -/
  noOperator : isOperator c = false
  /-- It is no parenthesis. -/
  noParenthesis : c ≠ '(' ∧ c ≠ ')'
  /-- It is not blank. -/
  visible : isBlank c = false

/-- The number that a run with at most one point names: the one nearest to its digits, scaled by the
number of places behind the point. -/
def runValue (run : List Char) : Binary64 :=
  .ofDecimal (Nat.ofDigitChars 10 (run.filter Char.isDigit) 0)
    ((run.dropWhile (· != '.')).drop 1).length

/-- **A piece without fault**, with its tokens. -/
inductive Lexeme : List Char → List Token → Prop where
  /-- A blank makes no token. -/
  | blank {c : Char} (blank : isBlank c = true) : Lexeme [c] []
  /-- A sign makes its operation. -/
  | operation (operation : Operation) : Lexeme [operation.sign] [.operation operation]
  /-- A parenthesis that opens a group. -/
  | opening : Lexeme ['('] [.opening]
  /-- A parenthesis that closes one. -/
  | closing : Lexeme [')'] [.closing]
  /-- A run with at most one point and at least one digit makes a number. -/
  | number {run : List Char} (isRun : IsRun run) (point : run.count '.' ≤ 1)
      (digit : ∃ c ∈ run, c.isDigit = true) : Lexeme run [.number (runValue run)]

/-- **The part of a run before its second point**, which is all of it if there is none. -/
inductive BeforeSecondPoint : List Char → List Char → Prop where
  /-- There is no second point. -/
  | whole {run : List Char} (point : run.count '.' ≤ 1) : BeforeSecondPoint run run
  /-- The second point is there. -/
  | part {start : List Char} (point : start.count '.' = 1) (rest : List Char) :
      BeforeSecondPoint (start ++ '.' :: rest) start

/-- **A piece at fault**, with the fault. -/
inductive Faulty : List Char → SyntaxError → Prop where
  /-- A foreign character. -/
  | foreign {c : Char} (foreign : IsForeign c) : Faulty [c] (.unexpected c)
  /-- A run without a digit before its second point, which starts with a point then. -/
  | digitless {run start : List Char} (isRun : IsRun run) (before : BeforeSecondPoint run start)
      (digitless : ∀ c ∈ start, c.isDigit = false) : Faulty run (.badNumeral ['.'])
  /-- A run with a digit before its second point; it is named up to that point. -/
  | secondPoint {run start : List Char} (isRun : IsRun run) (before : BeforeSecondPoint run start)
      (shorter : start ≠ run) (digit : ∃ c ∈ start, c.isDigit = true) :
      Faulty run (.badNumeral (start ++ ['.']))

/-- Every run has a part before its second point. -/
theorem exists_beforeSecondPoint (run : List Char) : ∃ start, BeforeSecondPoint run start := by
  by_cases point : run.count '.' ≤ 1
  · exact ⟨run, .whole point⟩
  · have first : '.' ∈ run := List.count_pos_iff.mp (by omega)
    obtain ⟨before, behind, rfl, none⟩ := List.eq_append_cons_of_mem first
    rw [List.count_append, List.count_eq_zero.mpr none, List.count_cons_self] at point
    have second : '.' ∈ behind := List.count_pos_iff.mp (by omega)
    obtain ⟨middle, rest, rfl, noMore⟩ := List.eq_append_cons_of_mem second
    refine ⟨before ++ '.' :: middle, ?_⟩
    have single : (before ++ '.' :: middle).count '.' = 1 := by
      rw [List.count_append, List.count_eq_zero.mpr none, List.count_cons_self,
        List.count_eq_zero.mpr noMore]
    simpa using BeforeSecondPoint.part single rest

/-! ## Numbers -/

namespace IsRun

variable {run : List Char}

/-- What is no digit in a run is a point. -/
theorem isDigit_eq (isRun : IsRun run) {c : Char} (member : c ∈ run) :
    c.isDigit = (c != '.') := by
  have numeral := isRun.numeral c member
  rw [isNumeralChar, Bool.or_eq_true, beq_iff_eq] at numeral
  rcases numeral with digit | rfl
  · simp [digit, ne_of_isDigit digit (show Char.isDigit '.' = false from rfl)]
  · rfl

/-- A run without digits and with at most one point is a point. -/
theorem eq_point (isRun : IsRun run) (point : run.count '.' ≤ 1)
    (digitless : ∀ c ∈ run, c.isDigit = false) : run = ['.'] := by
  have points : run = List.replicate run.length '.' := by
    refine List.eq_replicate_of_mem fun c member => ?_
    have other := isRun.isDigit_eq member
    simpa [digitless c member] using other.symm
  have length : run.length ≠ 0 := by simpa using isRun.something
  rw [points, List.count_replicate_self] at point
  rw [points, show run.length = 1 by omega]
  rfl

/-- A run with at most one point is a row of digits, or two with the point between them. -/
theorem exists_parts (isRun : IsRun run) (point : run.count '.' ≤ 1) :
    ∃ whole places, (∀ c ∈ whole, c.isDigit = true) ∧ (∀ c ∈ places, c.isDigit = true) ∧
      (run = whole ∧ places = [] ∨ run = whole ++ '.' :: places) := by
  have digits {part : List Char} (within : ∀ c ∈ part, c ∈ run) (pointless : '.' ∉ part) :
      ∀ c ∈ part, c.isDigit = true := by
    intro c member
    rw [isRun.isDigit_eq (within c member), bne_iff_ne]
    rintro rfl
    exact pointless member
  by_cases first : '.' ∈ run
  · obtain ⟨whole, places, rfl, none⟩ := List.eq_append_cons_of_mem first
    rw [List.count_append, List.count_cons_self] at point
    have noMore : '.' ∉ places := List.count_eq_zero.mp (by omega)
    refine ⟨whole, places, digits ?_ none, digits ?_ noMore, .inr rfl⟩
    · exact fun c member => List.mem_append_left _ member
    · exact fun c member => List.mem_append_right _ (.tail _ member)
  · exact ⟨run, [], digits (fun c member => member) first, by simp, .inl ⟨rfl, rfl⟩⟩

/-- **A run with at most one point and a digit names a number.** -/
theorem numeralValue?_eq (isRun : IsRun run) (point : run.count '.' ≤ 1)
    (digit : ∃ c ∈ run, c.isDigit = true) : numeralValue? run = some (runValue run) := by
  obtain ⟨c, member, isDigit⟩ := digit
  obtain ⟨whole, places, wholeDigits, placesDigits, ⟨rfl, rfl⟩ | rfl⟩ := isRun.exists_parts point
  · have digits : run.filter Char.isDigit = run := List.filter_eq_self.mpr wholeDigits
    have span := span_isDigit wholeDigits [] rfl
    rw [List.append_nil] at span
    have pointless : run.dropWhile (· != '.') = [] := by
      rw [List.dropWhile_eq_nil_iff]
      exact fun d inside => (isRun.isDigit_eq inside).symm.trans (wholeDigits d inside)
    simp [numeralValue?, span, runValue, digits, pointless, isRun.something]
  · have digits : (whole ++ '.' :: places).filter Char.isDigit = whole ++ places := by
      rw [List.filter_append, List.filter_eq_self.mpr wholeDigits,
        List.filter_cons_of_neg (by decide), List.filter_eq_self.mpr placesDigits]
    have span := span_isDigit wholeDigits ('.' :: places) rfl
    have pointless : ∀ d ∈ whole, (d != '.') = true := fun d inside =>
      (isRun.isDigit_eq (List.mem_append_left _ inside)).symm.trans (wholeDigits d inside)
    have behind : (whole ++ '.' :: places).dropWhile (· != '.') = '.' :: places := by
      rw [List.dropWhile_append_of_pos pointless]
      rfl
    -- the digit is before the point or behind it
    have something : (whole.isEmpty && places.isEmpty) = false := by
      rw [Bool.eq_false_iff]
      intro nothing
      rw [Bool.and_eq_true_iff, List.isEmpty_iff, List.isEmpty_iff] at nothing
      obtain ⟨rfl, rfl⟩ := nothing
      rw [List.mem_singleton.mp member] at isDigit
      cases isDigit
    simp only [numeralValue?, span, List.drop_one, List.tail_cons, something, runValue, digits,
      behind, if_neg Bool.false_ne_true]

end IsRun

/-! ## Scanning piece by piece -/

namespace Token

/-- No blank is a part of a number. -/
theorem isNumeralChar_of_isBlank {c : Char} (blank : isBlank c = true) :
    isNumeralChar c = false := by
  rw [isNumeralChar, Bool.or_eq_false_iff, beq_eq_false_iff_ne]
  refine ⟨?_, ?_⟩
  · rw [Bool.eq_false_iff]
    intro digit
    rw [isBlank_eq_false_of_isDigit digit] at blank
    cases blank
  · rintro rfl
    cases blank

/-- A character that belongs to no run finishes the run before it and is then scanned as if it came
first. -/
theorem scanFrom_of_alone {c : Char} (alone : isNumeralChar c = false) (run rest : List Char) :
    scanFrom run (c :: rest) =
      (numeralToken run).bind fun numeral => (scan (c :: rest)).map (numeral ++ ·) := by
  rw [scan, scanFrom, scanFrom, if_neg (by simp [alone]), if_neg (by simp [alone])]
  cases numeralToken run with
  | error fault => rfl
  | ok numeral =>
    simp only [Except.bind, show numeralToken [] = .ok [] from rfl]
    split
    · rw [map_nil_append]
    · cases ofChar? c with
      | none => rfl
      | some token => cases scanFrom [] rest <;> simp [Except.map]

/-- Such a character is scanned apart from what follows it. -/
theorem scan_of_alone {c : Char} (alone : isNumeralChar c = false) (rest : List Char) :
    scan (c :: rest) = (scan [c]).bind fun tokens => (scan rest).map (tokens ++ ·) := by
  rw [scan, scan, scanFrom, scanFrom, if_neg (by simp [alone]), if_neg (by simp [alone])]
  simp only [show numeralToken [] = .ok [] from rfl, List.nil_append]
  split
  · rfl
  · cases ofChar? c with
    | none => rfl
    | some token => rfl

/-- **What does not belong together is scanned apart**, behind an unfinished run. By induction on
the first text: a digit or a point goes to the run, and any other character finishes it. -/
theorem scanFrom_append {run first second : List Char}
    (numeral : ∀ c ∈ run, isNumeralChar c = true)
    (apart : ∀ c ∈ (run ++ first).getLast?, ∀ next ∈ second.head?, isJoined c next = false) :
    scanFrom run (first ++ second) =
      (scanFrom run first).bind fun tokens => (scan second).map (tokens ++ ·) := by
  induction first generalizing run with
  | nil =>
    rw [List.append_nil] at apart
    rw [List.nil_append, scanFrom]
    cases second with
    | nil =>
      rw [scanFrom]
      cases numeralToken run with
      | error fault => rfl
      | ok numeral => simp [Except.bind, Except.map, scan, scanFrom, numeralToken]
    | cons c rest =>
      rcases List.eq_nil_or_concat run with rfl | ⟨start, last, rfl⟩
      · simp only [show numeralToken [] = .ok [] from rfl, Except.bind]
        rw [map_nil_append]
        rfl
      · rw [List.concat_eq_append] at numeral apart ⊢
        have alone := apart last List.getLast?_concat c rfl
        rw [isJoined, numeral last (by simp), Bool.true_and] at alone
        exact scanFrom_of_alone alone _ rest
  | cons c first ih =>
    cases kind : isNumeralChar c with
    | false =>
      have behind : scan (first ++ second) =
          (scan first).bind fun tokens => (scan second).map (tokens ++ ·) := by
        refine ih (by simp) fun last member => apart last ?_
        rw [List.nil_append] at member
        rw [List.append_cons, List.getLast?_append, member]
        rfl
      rw [List.cons_append, scanFrom_of_alone kind, scanFrom_of_alone kind, scan_of_alone kind,
        scan_of_alone kind first, behind]
      cases numeralToken run with
      | error fault => rfl
      | ok numeral =>
        cases scan [c] with
        | error fault => rfl
        | ok single =>
          cases scan first with
          | error fault => rfl
          | ok tokens => cases scan second <;> simp [Except.bind, Except.map]
    | true =>
      have longer : ∀ d ∈ run ++ [c], isNumeralChar d = true := by
        simpa [or_imp, forall_and, kind] using numeral
      have behind := ih longer (by rwa [← List.append_cons])
      rw [isNumeralChar, Bool.or_eq_true, beq_iff_eq] at kind
      rcases kind with digit | rfl
      · rw [List.cons_append, scanFrom_digit run digit, scanFrom_digit run digit, behind]
      · by_cases pointed : '.' ∈ run
        · rw [List.cons_append, scanFrom_second_point pointed, scanFrom_second_point pointed]
          rfl
        · rw [List.cons_append, scanFrom_point pointed, scanFrom_point pointed, behind]

/-- **What does not belong together is scanned apart.** -/
theorem scan_append {first second : List Char}
    (apart : ∀ c ∈ first.getLast?, ∀ next ∈ second.head?, isJoined c next = false) :
    scan (first ++ second) =
      (scan first).bind fun tokens => (scan second).map (tokens ++ ·) :=
  scanFrom_append (by simp) apart

/-- What does not go on with a run is scanned apart from anything before it. -/
theorem scan_append_of_ends {first second : List Char}
    (ends : ∀ c ∈ second.head?, isNumeralChar c = false) :
    scan (first ++ second) =
      (scan first).bind fun tokens => (scan second).map (tokens ++ ·) :=
  scan_append fun c _ next begins => by rw [isJoined, ends next begins, Bool.and_false]

end Token

/-- **The first piece is scanned on its own**, and then the others, if it is not at fault. -/
theorem Cut.scan_cons {piece : List Char} {others : List (List Char)}
    (cut : Cut (piece :: others)) : Token.scan (piece :: others).flatten =
      (Token.scan piece).bind fun tokens => (Token.scan others.flatten).map (tokens ++ ·) := by
  rw [List.flatten_cons]
  cases cut with
  | single alone _ => exact Token.scan_of_alone alone _
  | run _ ends _ => exact Token.scan_append_of_ends ends

/-! ## Single pieces -/

/-- A run goes on until its second point. -/
theorem scans_of_isNumeralChar {run : List Char} (numeral : ∀ c ∈ run, isNumeralChar c = true)
    (point : run.count '.' ≤ 1) : Scans run [] run := by
  induction run using List.reverseRecOn with
  | nil => exact .nil
  | append_singleton run c ih =>
    rw [List.count_append] at point
    have before := ih (fun d member => numeral d (List.mem_append_left _ member)) (by omega)
    have last := numeral c (List.mem_append_right _ (.head _))
    rw [isNumeralChar, Bool.or_eq_true, beq_iff_eq] at last
    rcases last with digit | rfl
    · exact before.digit digit
    · rw [List.count_singleton_self] at point
      exact before.point (List.count_eq_zero.mp (by omega))

/-- What stands before the second point is a run. -/
theorem IsRun.before {start rest : List Char} (isRun : IsRun (start ++ rest))
    (point : start.count '.' = 1) : IsRun start := by
  refine ⟨?_, fun c member => isRun.numeral c (List.mem_append_left _ member)⟩
  rintro rfl
  simp at point

/-- A run that ends before its second point is scanned as it stands. -/
theorem IsRun.scan_eq {run : List Char} (isRun : IsRun run) (point : run.count '.' ≤ 1) :
    Token.scan run = numeralToken run := by
  have whole := scans_of_isNumeralChar isRun.numeral point []
  rwa [List.append_nil, Token.scanFrom, map_nil_append] at whole

/-- Any other is refused at that point. -/
theorem IsRun.scan_append_point {start : List Char} (isRun : IsRun start)
    (point : start.count '.' = 1) (rest : List Char) :
    Token.scan (start ++ '.' :: rest) = .error
      (.badNumeral (if (numeralValue? start).isSome then start ++ ['.'] else start)) := by
  have second : '.' ∈ start := List.count_pos_iff.mp (by omega)
  have scans := scans_of_isNumeralChar isRun.numeral (Nat.le_of_eq point)
  rw [scans, Token.scanFrom_second_point second]
  rfl

/-- **A piece without fault is scanned into its tokens.** -/
theorem Lexeme.scan_eq {piece : List Char} {tokens : List Token} (lexeme : Lexeme piece tokens) :
    Token.scan piece = .ok tokens := by
  cases lexeme with
  | blank blank =>
    rw [Token.scan, Token.scanFrom, if_neg (by simp [Token.isNumeralChar_of_isBlank blank])]
    simp only [show numeralToken [] = .ok [] from rfl, if_pos blank]
    rfl
  | operation operation => cases operation <;> rfl
  | opening => rfl
  | closing => rfl
  | number isRun point digit =>
    rw [isRun.scan_eq point, numeralToken, if_neg (mt List.isEmpty_iff.mp isRun.something),
      isRun.numeralValue?_eq point digit]

/-- A foreign character makes no token. -/
theorem IsForeign.ofChar?_eq {c : Char} (foreign : IsForeign c) : Token.ofChar? c = none := by
  obtain ⟨-, noOperator, ⟨noOpening, noClosing⟩, -⟩ := foreign
  have noSign : ¬ (c = '+' ∨ c = '-' ∨ c = '*' ∨ c = '/') := by
    rw [← isOperator_iff, noOperator]
    exact Bool.false_ne_true
  simp only [not_or] at noSign
  exact Token.ofChar?.eq_7 c noOpening noClosing noSign.1 noSign.2.1 noSign.2.2.1 noSign.2.2.2

/-- **A piece at fault is refused for its fault.** -/
theorem Faulty.scan_eq {piece : List Char} {fault : SyntaxError} (faulty : Faulty piece fault) :
    Token.scan piece = .error fault := by
  cases faulty with
  | foreign foreign =>
    rw [Token.scan, Token.scanFrom, if_neg (by simp [foreign.alone])]
    simp only [show numeralToken [] = .ok [] from rfl, foreign.visible, if_neg Bool.false_ne_true,
      foreign.ofChar?_eq]
  | digitless isRun before digitless =>
    cases before with
    | whole point =>
      obtain rfl := isRun.eq_point point digitless
      rfl
    | part point rest =>
      obtain rfl := (isRun.before point).eq_point (Nat.le_of_eq point) digitless
      rfl
  | secondPoint isRun before shorter digit =>
    cases before with
    | whole point => exact absurd rfl shorter
    | part point rest =>
      have first := isRun.before point
      rw [first.scan_append_point point, first.numeralValue?_eq (Nat.le_of_eq point) digit]
      rfl

/-- A character that belongs to no run is a lexeme or foreign. -/
theorem lexeme_or_isForeign {c : Char} (alone : isNumeralChar c = false) :
    (∃ tokens, Lexeme [c] tokens) ∨ IsForeign c := by
  by_cases blank : isBlank c = true
  · exact .inl ⟨_, .blank blank⟩
  by_cases opening : c = '('
  · subst opening
    exact .inl ⟨_, .opening⟩
  by_cases closing : c = ')'
  · subst closing
    exact .inl ⟨_, .closing⟩
  cases operator : isOperator c with
  | false => exact .inr ⟨alone, operator, ⟨opening, closing⟩, by simpa using blank⟩
  | true =>
    have sign : ∃ operation : Operation, operation.sign = c := by
      rcases isOperator_iff.mp operator with rfl | rfl | rfl | rfl
      · exact ⟨.add, rfl⟩
      · exact ⟨.subtract, rfl⟩
      · exact ⟨.multiply, rfl⟩
      · exact ⟨.divide, rfl⟩
    obtain ⟨operation, rfl⟩ := sign
    exact .inl ⟨_, .operation operation⟩

/-- **A run is a number or at fault.** -/
theorem IsRun.lexeme_or_faulty {run : List Char} (isRun : IsRun run) :
    (∃ tokens, Lexeme run tokens) ∨ ∃ fault, Faulty run fault := by
  obtain ⟨start, before⟩ := exists_beforeSecondPoint run
  by_cases digit : ∃ c ∈ start, c.isDigit = true
  · cases before with
    | whole point => exact .inl ⟨_, .number isRun point digit⟩
    | part point rest =>
      exact .inr ⟨_, .secondPoint isRun (.part point rest) (by simp) digit⟩
  · have digitless : ∀ c ∈ start, c.isDigit = false := by simpa using digit
    exact .inr ⟨_, .digitless isRun before digitless⟩

/-! ## Texts -/

namespace Cut

variable {parts : List (List Char)}

/-- **Pieces without fault are scanned one by one.** -/
theorem scan_eq_ok {lexemes : List (List Token)} (cut : Cut parts)
    (read : List.Forall₂ Lexeme parts lexemes) :
    Token.scan parts.flatten = .ok lexemes.flatten := by
  induction read with
  | nil => rfl
  | cons lexeme _ ih =>
    rw [cut.scan_cons, lexeme.scan_eq, ih cut.tail]
    rfl

/-- **The leftmost fault is found**, by induction on the pieces before it. -/
theorem scan_eq_error {before behind : List (List Char)} {piece : List Char} {fault : SyntaxError}
    (cut : Cut (before ++ piece :: behind)) (good : ∀ early ∈ before, ∃ tokens, Lexeme early tokens)
    (faulty : Faulty piece fault) :
    Token.scan (before ++ piece :: behind).flatten = .error fault := by
  induction before with
  | nil =>
    rw [List.nil_append] at cut ⊢
    rw [cut.scan_cons, faulty.scan_eq]
    rfl
  | cons early others ih =>
    obtain ⟨tokens, lexeme⟩ := good early (.head _)
    rw [List.cons_append] at cut ⊢
    rw [cut.scan_cons, lexeme.scan_eq,
      ih cut.tail fun piece member => good piece (.tail _ member)]
    rfl

/-- Either no piece is at fault or one is the first. -/
theorem lexemes_or_faulty (cut : Cut parts) :
    (∃ lexemes, List.Forall₂ Lexeme parts lexemes) ∨
      ∃ before piece behind fault, parts = before ++ piece :: behind ∧
        (∀ early ∈ before, ∃ tokens, Lexeme early tokens) ∧ Faulty piece fault := by
  induction parts with
  | nil => exact .inl ⟨[], .nil⟩
  | cons piece others ih =>
    have first : (∃ tokens, Lexeme piece tokens) ∨ ∃ fault, Faulty piece fault := by
      cases cut with
      | single alone _ =>
        exact (lexeme_or_isForeign alone).imp_right fun foreign => ⟨_, .foreign foreign⟩
      | run isRun _ _ => exact isRun.lexeme_or_faulty
    rcases first with ⟨tokens, lexeme⟩ | ⟨fault, faulty⟩
    · rcases ih cut.tail with ⟨lexemes, read⟩ | ⟨before, late, behind, fault, rfl, good, faulty⟩
      · exact .inl ⟨_, .cons lexeme read⟩
      · refine .inr ⟨piece :: before, late, behind, fault, rfl, fun early member => ?_, faulty⟩
        rcases List.mem_cons.mp member with rfl | later
        · exact ⟨tokens, lexeme⟩
        · exact good early later
    · exact .inr ⟨[], piece, others, fault, rfl, by simp, faulty⟩

end Cut

namespace Token

/-- The pieces of a text make it up. -/
theorem flatten_pieces (text : List Char) : (pieces text).flatten = text :=
  List.flatten_splitBy isJoined text

/-- **The tokens of a text are those of its pieces**, if none is at fault. -/
theorem scan_eq_ok_iff {text : List Char} {tokens : List Token} :
    scan text = .ok tokens ↔
      ∃ lexemes, List.Forall₂ Lexeme (pieces text) lexemes ∧ tokens = lexemes.flatten := by
  have cut := cut_pieces text
  have whole := flatten_pieces text
  constructor
  · intro scanned
    rcases cut.lexemes_or_faulty with ⟨lexemes, read⟩ |
      ⟨before, piece, behind, fault, parts, good, faulty⟩
    · have found := cut.scan_eq_ok read
      rw [whole, scanned, Except.ok.injEq] at found
      exact ⟨lexemes, read, found⟩
    · rw [parts] at cut whole
      have refused := cut.scan_eq_error good faulty
      rw [whole, scanned] at refused
      cases refused
  · rintro ⟨lexemes, read, rfl⟩
    have found := cut.scan_eq_ok read
    rwa [whole] at found

/-- **The leftmost piece at fault gives the verdict.** -/
theorem scan_eq_error_iff {text : List Char} {fault : SyntaxError} :
    scan text = .error fault ↔
      ∃ before piece behind, pieces text = before ++ piece :: behind ∧
        (∀ early ∈ before, ∃ tokens, Lexeme early tokens) ∧ Faulty piece fault := by
  have cut := cut_pieces text
  have whole := flatten_pieces text
  constructor
  · intro refused
    rcases cut.lexemes_or_faulty with ⟨lexemes, read⟩ |
      ⟨before, piece, behind, other, parts, good, faulty⟩
    · have found := cut.scan_eq_ok read
      rw [whole, refused] at found
      cases found
    · refine ⟨before, piece, behind, parts, good, ?_⟩
      rw [parts] at cut whole
      have found := cut.scan_eq_error good faulty
      rw [whole, refused, Except.error.injEq] at found
      exact found ▸ faulty
  · rintro ⟨before, piece, behind, parts, good, faulty⟩
    rw [parts] at cut whole
    have refused := cut.scan_eq_error good faulty
    rwa [whole] at refused

/-- **Scanning accepts exactly the lexical grammar.** The tokens of a text are those of its pieces,
in order, if none is at fault; otherwise the fault is that of the leftmost piece that is. -/
theorem scan_outcome (text : List Char) :
    (∀ tokens, scan text = .ok tokens ↔
      ∃ lexemes, List.Forall₂ Lexeme (pieces text) lexemes ∧ tokens = lexemes.flatten) ∧
    ∀ fault, scan text = .error fault ↔
      ∃ before piece behind, pieces text = before ++ piece :: behind ∧
        (∀ early ∈ before, ∃ tokens, Lexeme early tokens) ∧ Faulty piece fault :=
  ⟨fun _ => scan_eq_ok_iff, fun _ => scan_eq_error_iff⟩

end Token

end PocketCalc
