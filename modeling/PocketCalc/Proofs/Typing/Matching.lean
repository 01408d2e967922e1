import PocketCalc.Proofs.Typing.Parentheses

/-! # Matching parentheses

Parentheses are matched from left to right with a stack: an opening one is put on it, and a closing
one takes the last one off, if there is one. Which parentheses match can be told without the stack,
from the text between them, and so can what the stack holds. The sign key has no stack. It walks
through the inside of a wrapper with a depth, and all the same it takes a wrapper off exactly if the
parenthesis that the wrapper opens is not closed inside.

* **`Matching`** — the stack and the matched pairs of a text.
* **`getElem?_waiting_iff`**, **`mem_pairs_iff`** — what the stack holds, and what matches.
* **`closesOwnParens_iff`** — a text closes only parentheses of its own if none in it is at fault.
* **`mem_pairs_wrap_iff`** — what the parenthesis of a wrapper matches.
* **`unwrap?_outcome`** — what the sign key unwraps. -/

namespace PocketCalc

/-! ## The stack -/

/-- **Parentheses matched from left to right.** -/
structure Matching where
  /-- The number of characters read. -/
  position : Nat
  /-- The positions of the parentheses that wait to be closed, the last opened first. -/
  waiting : List Nat
  /-- The positions of the parentheses that match, the opening one first. -/
  pairs : List (Nat × Nat)
  deriving DecidableEq, Repr

namespace Matching

/-- **Read one more character.** An opening parenthesis is put on the stack. A closing one takes the
last one off and matches it; if none is open it matches nothing. -/
def read (matching : Matching) (c : Char) : Matching where
  position := matching.position + 1
  waiting :=
    if c = '(' then matching.position :: matching.waiting
    else if c = ')' then matching.waiting.tail
    else matching.waiting
  pairs :=
    if c = ')' then
      match matching.waiting with
      | [] => matching.pairs
      | opening :: _ => (opening, matching.position) :: matching.pairs
    else matching.pairs

/-- **The matching of a text.** -/
def ofText (text : List Char) : Matching := text.foldl read ⟨0, [], []⟩

/-- The last character is read behind the others. -/
theorem ofText_concat (text : List Char) (c : Char) :
    ofText (text ++ [c]) = (ofText text).read c := by
  simp [ofText]

variable {matching : Matching} {c : Char}

/-- Every character moves on by one. -/
@[simp] theorem position_read : (matching.read c).position = matching.position + 1 := rfl

/-- The position behind a text is its length. -/
@[simp] theorem position_ofText (text : List Char) : (ofText text).position = text.length := by
  induction text using List.reverseRecOn with
  | nil => rfl
  | append_singleton text c ih =>
    rw [ofText_concat, position_read, ih, List.length_append, List.length_singleton]

/-- An opening parenthesis waits. -/
@[simp] theorem waiting_read_opening :
    (matching.read '(').waiting = matching.position :: matching.waiting := rfl

/-- A closing parenthesis takes the last one off. -/
@[simp] theorem waiting_read_closing :
    (matching.read ')').waiting = matching.waiting.tail := rfl

/-- Nothing else matters to the stack. -/
theorem waiting_read_of_ne (opening : c ≠ '(') (closing : c ≠ ')') :
    (matching.read c).waiting = matching.waiting := by
  simp only [read, if_neg opening, if_neg closing]

/-- **A pair is found where a closing parenthesis takes the other one off.** -/
theorem mem_pairs_read_iff {opening closing : Nat} :
    (opening, closing) ∈ (matching.read c).pairs ↔ (opening, closing) ∈ matching.pairs ∨
      (c = ')' ∧ matching.waiting[0]? = some opening ∧ matching.position = closing) := by
  obtain ⟨position, waiting, pairs⟩ := matching
  by_cases isClosing : c = ')'
  · cases waiting with
    | nil => simp [read, isClosing]
    | cons last others => simp [read, isClosing, eq_comm, or_comm]
  · simp [read, isClosing]

end Matching

/-! ## What matches -/

/-- **A balanced text**: it closes only parentheses of its own, and it closes all of them. -/
structure IsBalanced (text : List Char) : Prop where
  /-- It closes only parentheses of its own. -/
  own : ClosesOwnParens text
  /-- It leaves none open. -/
  level : openParens text = 0

/-- **A parenthesis that a text leaves open**: at its position one is opened that nothing behind it
closes, and `depth` of those behind it are left open too. -/
def LeavesOpen (text : List Char) (position depth : Nat) : Prop :=
  ∃ before inside, text = before ++ '(' :: inside ∧ before.length = position ∧
    ClosesOwnParens inside ∧ openParens inside = depth

/-- **Parentheses that match**: what is between them is balanced. -/
def Matches (text : List Char) (opening closing : Nat) : Prop :=
  ∃ before inside, before ++ '(' :: inside ++ [')'] <+: text ∧ before.length = opening ∧
    opening + 1 + inside.length = closing ∧ IsBalanced inside

/-- A text closes only parentheses of its own if what comes before its last character does and the
whole does not close too much. -/
theorem closesOwnParens_concat_iff {text : List Char} {c : Char} :
    ClosesOwnParens (text ++ [c]) ↔ ClosesOwnParens text ∧ 0 ≤ openParens (text ++ [c]) := by
  constructor
  · intro own
    exact ⟨own.of_prefix (List.prefix_append text [c]), own _ (List.prefix_refl _)⟩
  · rintro ⟨own, whole⟩
    exact own.concat whole

/-- **One more character**: an opening parenthesis is left open itself, and any character changes
the depth of the others. -/
theorem leavesOpen_concat_iff {text : List Char} {c : Char} {position depth : Nat} :
    LeavesOpen (text ++ [c]) position depth ↔
      (c = '(' ∧ text.length = position ∧ depth = 0) ∨
        ∃ before : Nat, LeavesOpen text position before ∧
          (before : Int) + openParens [c] = depth := by
  constructor
  · rintro ⟨before, inside, same, start, own, level⟩
    rcases concat_eq_append_cons same with ⟨rfl, rfl, rfl⟩ | ⟨others, rfl, rfl⟩
    · exact .inl ⟨rfl, start, by simpa using level.symm⟩
    · obtain ⟨shorter, -⟩ := closesOwnParens_concat_iff.mp own
      have positive := shorter others (List.prefix_refl others)
      obtain ⟨above, rest⟩ := Int.eq_ofNat_of_zero_le positive
      refine .inr ⟨above, ⟨before, others, rfl, start, shorter, rest⟩, ?_⟩
      rw [← rest, ← openParens_append, level]
  · rintro (⟨rfl, start, rfl⟩ | ⟨above, ⟨before, inside, rfl, start, own, level⟩, sum⟩)
    · exact ⟨text, [], rfl, start, .of_forall_ne (by simp), rfl⟩
    · have whole : openParens (inside ++ [c]) = depth := by rw [openParens_append, level, sum]
      refine ⟨before, inside ++ [c], by simp, start, ?_, whole⟩
      exact own.concat (whole ▸ Int.natCast_nonneg depth)

/-- **What the stack holds**, by induction on the text from the right: the parentheses left open,
each as deep as it has others left open behind it. -/
theorem getElem?_waiting_iff {text : List Char} {position depth : Nat} :
    (Matching.ofText text).waiting[depth]? = some position ↔ LeavesOpen text position depth := by
  induction text using List.reverseRecOn generalizing position depth with
  | nil => simp [Matching.ofText, LeavesOpen]
  | append_singleton text c ih =>
    rw [Matching.ofText_concat, leavesOpen_concat_iff]
    simp only [← ih]
    by_cases opening : c = '('
    · subst opening
      -- the new position lies on the others, each of which is one deeper now
      rw [Matching.waiting_read_opening, Matching.position_ofText]
      have deeper (before : Nat) : (before : Int) + openParens ['('] = depth ↔
          before + 1 = depth := by
        rw [show openParens ['('] = 1 from rfl]
        omega
      simp only [deeper]
      cases depth with
      | zero => simp
      | succ depth => simp
    by_cases closing : c = ')'
    · subst closing
      -- what is left is one deeper in the stack before
      have higher (before : Nat) : (before : Int) + openParens [')'] = depth ↔
          before = depth + 1 := by
        rw [show openParens [')'] = -1 from rfl]
        omega
      simp only [higher]
      simp
    · have same (before : Nat) : (before : Int) + openParens [c] = depth ↔ before = depth := by
        rw [Token.openParens_singleton opening closing]
        omega
      simp only [same, Matching.waiting_read_of_ne opening closing]
      simp [opening]

/-- **Parentheses match exactly if what is between them is balanced**, by induction on the text from
the right: a pair is found when its closing parenthesis is read. -/
theorem mem_pairs_iff {text : List Char} {opening closing : Nat} :
    (opening, closing) ∈ (Matching.ofText text).pairs ↔ Matches text opening closing := by
  induction text using List.reverseRecOn with
  | nil => simp [Matching.ofText, Matches]
  | append_singleton text c ih =>
    rw [Matching.ofText_concat, Matching.mem_pairs_read_iff, ih, getElem?_waiting_iff,
      Matching.position_ofText]
    constructor
    · rintro (⟨before, inside, part, places⟩ | ⟨rfl, ⟨before, inside, rfl, start, own, level⟩, rfl⟩)
      · exact ⟨before, inside, part.trans (List.prefix_append text [c]), places⟩
      · refine ⟨before, inside, List.prefix_refl _, start, ?_, own, level⟩
        simp only [List.length_append, List.length_cons, start]
        omega
    · rintro ⟨before, inside, part, start, finish, balanced⟩
      rcases List.prefix_concat_iff.mp part with same | shorter
      · obtain ⟨rfl, last⟩ := List.append_singleton_inj.mp same
        refine .inr ⟨last.symm, ⟨before, inside, rfl, start, balanced.own, balanced.level⟩, ?_⟩
        simp only [List.length_append, List.length_cons, start, ← finish]
        omega
      · exact .inl ⟨before, inside, shorter, start, finish, balanced⟩

/-- In `(-1)*(2)+(3)` the parenthesis in which the start of a wrapper ends is closed early. -/
example : (Matching.ofText ['(', '-', '1', ')', '*', '(', '2', ')', '+', '(', '3', ')']).pairs =
    [(9, 11), (5, 7), (0, 3)] := by decide

/-! ## Wrappers -/

/-- **A text closes only parentheses of its own exactly if none in it closes too much**: none that
stands behind a balanced beginning. -/
theorem closesOwnParens_iff {text : List Char} :
    ClosesOwnParens text ↔ ∀ start, start ++ [')'] <+: text → ¬ IsBalanced start := by
  constructor
  · intro own start part balanced
    have whole := own _ part
    rw [openParens_append, balanced.level] at whole
    cases whole
  · intro none
    induction text using List.reverseRecOn with
    | nil => exact .of_forall_ne (by simp)
    | append_singleton text c ih =>
      have own := ih fun start part => none start (part.trans (List.prefix_append text [c]))
      by_cases closing : c = ')'
      · subst closing
        have level : openParens text ≠ 0 := fun level => none text (List.prefix_refl _) ⟨own, level⟩
        have positive := own text (List.prefix_refl text)
        apply own.concat
        rw [openParens_append, show openParens [')'] = -1 from rfl]
        omega
      · exact own.concat_of_ne closing

/-- The position of the parenthesis in which the start of a wrapper ends. -/
def wrapperOpening : Nat := wrapperStart.length - 1

/-- **What the parenthesis of a wrapper matches**: the first closing one behind a balanced beginning
of what follows. -/
theorem mem_pairs_wrap_iff {inside : List Char} {offset : Nat} :
    (wrapperOpening, wrapperStart.length + offset) ∈ (Matching.ofText (wrap inside)).pairs ↔
      ∃ start, start ++ [')'] <+: inside ++ [')'] ∧ start.length = offset ∧ IsBalanced start := by
  have parts : wrap inside = ['(', '-', '1', ')', '*'] ++ '(' :: (inside ++ [')']) := rfl
  rw [mem_pairs_iff, parts]
  constructor
  · rintro ⟨before, start, ⟨rest, same⟩, opens, closes, balanced⟩
    rw [List.append_assoc, List.append_assoc] at same
    obtain ⟨rfl, behind⟩ := List.append_inj same opens
    refine ⟨start, ⟨rest, ?_⟩, ?_, balanced⟩
    · simpa using behind
    · rw [show wrapperOpening + 1 = wrapperStart.length from rfl] at closes
      omega
  · rintro ⟨start, ⟨rest, same⟩, rfl, balanced⟩
    exact ⟨['(', '-', '1', ')', '*'], start, ⟨rest, by simp [← same]⟩, rfl, rfl, balanced⟩

/-- **The parenthesis of a wrapper is not closed inside** exactly if the inside closes only
parentheses of its own. -/
theorem not_mem_pairs_wrap_iff {inside : List Char} :
    (∀ offset < inside.length, (wrapperOpening, wrapperStart.length + offset) ∉
      (Matching.ofText (wrap inside)).pairs) ↔ ClosesOwnParens inside := by
  simp only [mem_pairs_wrap_iff, closesOwnParens_iff]
  constructor
  · intro none start part balanced
    have shorter := part.length_le
    rw [List.length_append, List.length_singleton] at shorter
    exact none _ shorter ⟨start, part.trans (List.prefix_append inside [')']), rfl, balanced⟩
  · rintro none offset shorter ⟨start, part, rfl, balanced⟩
    rcases List.prefix_concat_iff.mp part with same | within
    · obtain ⟨rfl, -⟩ := List.append_singleton_inj.mp same
      exact Nat.lt_irrefl _ shorter
    · exact none start within balanced

/-- **The parenthesis of a wrapper is closed at the end** exactly if the inside is balanced. -/
theorem mem_pairs_wrap_end_iff {inside : List Char} :
    (wrapperOpening, wrapperStart.length + inside.length) ∈
      (Matching.ofText (wrap inside)).pairs ↔ IsBalanced inside := by
  rw [mem_pairs_wrap_iff]
  constructor
  · rintro ⟨start, part, length, balanced⟩
    have same : start ++ [')'] = inside ++ [')'] :=
      part.eq_of_length (by simp [length])
    obtain ⟨rfl, -⟩ := List.append_singleton_inj.mp same
    exact balanced
  · intro balanced
    exact ⟨inside, List.prefix_refl _, rfl, balanced⟩

/-- **What the sign key unwraps.** The inside of a text is found exactly if the text is a wrapper
around it and the parenthesis that the wrapper opens is not closed in it; this is so exactly if
every beginning of the inside has at least as many opening as closing parentheses. If the text has
as many of both, the parenthesis is closed by the last character, and the inside is balanced
itself. -/
theorem unwrap?_outcome (text inside : List Char) :
    (unwrap? text = some inside ↔ text = wrap inside ∧
      ∀ offset < inside.length,
        (wrapperOpening, wrapperStart.length + offset) ∉ (Matching.ofText text).pairs) ∧
    (unwrap? text = some inside ↔ text = wrap inside ∧
      ∀ start, start <+: inside → start.count ')' ≤ start.count '(') ∧
    (unwrap? text = some inside ∧ openParens text = 0 ↔ text = wrap inside ∧
      (wrapperOpening, text.length - 1) ∈ (Matching.ofText text).pairs ∧ IsBalanced inside) := by
  have unwrapped : unwrap? text = some inside ↔ text = wrap inside ∧ ClosesOwnParens inside := by
    rw [unwrap?_eq_some_iff, staysOpen_zero_iff]
  refine ⟨?_, ?_, ?_⟩
  · rw [unwrapped]
    refine and_congr_right ?_
    rintro rfl
    exact not_mem_pairs_wrap_iff.symm
  · have counts (start : List Char) :
        start.count ')' ≤ start.count '(' ↔ 0 ≤ openParens start := by
      rw [openParens]
      omega
    simp only [unwrapped, counts, ClosesOwnParens]
  · rw [unwrapped, and_assoc]
    refine and_congr_right ?_
    rintro rfl
    have last : (wrap inside).length - 1 = wrapperStart.length + inside.length := by
      rw [length_wrap]
      simp only [wrapperStart, List.length_cons, List.length_nil]
      omega
    have level : openParens (wrap inside) = openParens inside := by
      simp only [wrap, openParens_append, show openParens wrapperStart = 1 from rfl,
        show openParens [')'] = -1 from rfl]
      omega
    rw [last, mem_pairs_wrap_end_iff, level]
    constructor
    · rintro ⟨own, level⟩
      exact ⟨⟨own, level⟩, own, level⟩
    · rintro ⟨-, own, level⟩
      exact ⟨own, level⟩

end PocketCalc
