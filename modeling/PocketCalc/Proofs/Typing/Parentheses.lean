import PocketCalc.Expression.Evaluation
import PocketCalc.Proofs.Expression.Inside
import PocketCalc.Proofs.Expression.Numeral
import PocketCalc.Proofs.Typing.Length

/-! # Parentheses of the buffer

A closing parenthesis is admitted while the count of open ones is positive, and only the count is
looked at. This is enough for every beginning of the text to have at least as many opening as
closing parentheses, because a typed text only grows at its end. The sign key rewrites both ends,
but a wrapper closes what it opened, and it is taken off only where nothing inside closes it.

* **`ClosesOwnParens`** — a text that closes only parentheses of its own.
* **`staysOpen_iff`** — what the sign key checks before it unwraps.
* **`ClosesOwnParens.edit`** — every key that edits the buffer keeps its text so. -/

namespace PocketCalc

/-- **A text that closes only parentheses of its own**: every beginning of it has at least as many
opening as closing ones. -/
def ClosesOwnParens (text : List Char) : Prop :=
  ∀ start, start <+: text → 0 ≤ openParens start

/-! ## What the sign key checks -/

/-- A bound on the beginnings of a text is one on the empty beginning and on those of its rest. -/
theorem forall_prefix_cons_iff (depth : Int) (c : Char) (rest : List Char) :
    (∀ start, start <+: c :: rest → 0 ≤ depth + openParens start) ↔
      0 ≤ depth ∧ ∀ start, start <+: rest → 0 ≤ depth + openParens [c] + openParens start := by
  constructor
  · intro bound
    refine ⟨?_, ?_⟩
    · have empty := bound [] List.nil_prefix
      rwa [openParens_nil, Int.add_zero] at empty
    · intro start part
      have longer := bound (c :: start) ((List.prefix_cons_inj c).mpr part)
      rwa [openParens_cons_add, ← Int.add_assoc] at longer
  · rintro ⟨empty, bound⟩ start part
    rcases List.prefix_cons_iff.mp part with rfl | ⟨more, rfl, behind⟩
    · rwa [openParens_nil, Int.add_zero]
    · rw [openParens_cons_add, ← Int.add_assoc]
      exact bound more behind

/-- **The walk through a text finds the beginnings that close too much**, by induction on the text
for any number of parentheses open before it. -/
theorem staysOpen_iff {depth : Nat} {text : List Char} :
    staysOpen depth text = true ↔ ∀ start, start <+: text → 0 ≤ depth + openParens start := by
  induction text generalizing depth with
  | nil => simp [staysOpen]
  | cons c rest ih =>
    rw [forall_prefix_cons_iff, staysOpen.eq_def]
    dsimp only
    have positive : 0 ≤ (depth : Int) := Int.natCast_nonneg depth
    by_cases opening : c = '('
    · subst opening
      rw [if_pos rfl, ih]
      simp [positive, openParens]
    · rw [if_neg opening]
      by_cases closing : c = ')'
      · subst closing
        rw [if_pos rfl]
        have less : openParens [')'] = -1 := rfl
        cases depth with
        | zero =>
          -- the parenthesis alone is a beginning that closes too much
          simp only [Bool.false_eq_true, false_iff, not_and, less]
          intro _ bound
          have empty := bound [] List.nil_prefix
          simp at empty
        | succ below =>
          have back : ((below + 1 : Nat) : Int) + openParens [')'] = below := by
            rw [less]
            omega
          simp only [ih, back, positive, true_and]
      · rw [if_neg closing, ih, Token.openParens_singleton opening closing, Int.add_zero]
        simp only [positive, true_and]

/-- The sign key unwraps what closes only parentheses of its own. -/
theorem staysOpen_zero_iff {text : List Char} :
    staysOpen 0 text = true ↔ ClosesOwnParens text := by
  simp [staysOpen_iff, ClosesOwnParens]

/-- Characters that are no parentheses make no difference to the walk. -/
theorem staysOpen_append_of_forall_ne {first : List Char}
    (without : ∀ c ∈ first, c ≠ '(' ∧ c ≠ ')') (depth : Nat) (rest : List Char) :
    staysOpen depth (first ++ rest) = staysOpen depth rest := by
  induction first with
  | nil => rfl
  | cons c others ih =>
    obtain ⟨opening, closing⟩ := without c (by simp)
    rw [List.cons_append, staysOpen.eq_def]
    dsimp only
    rw [if_neg opening, if_neg closing]
    exact ih fun d member => without d (List.mem_cons_of_mem c member)

/-- **Normalizing makes no difference to the walk**, by induction on the text. -/
theorem staysOpen_normalize (depth : Nat) (text : List Char) :
    staysOpen depth (normalize text) = staysOpen depth text := by
  induction text generalizing depth with
  | nil => rfl
  | cons c rest ih =>
    rw [← List.singleton_append, normalize_append]
    by_cases opening : c = '('
    · subst opening
      exact ih (depth + 1)
    by_cases closing : c = ')'
    · subst closing
      cases depth with
      | zero => rfl
      | succ below => exact ih below
    have alone : ∀ d ∈ [c], d ≠ '(' ∧ d ≠ ')' := by simp [opening, closing]
    rw [staysOpen_append_of_forall_ne (forall_mem_normalize_ne opening closing), ih,
      staysOpen_append_of_forall_ne alone]

/-! ## Texts -/

namespace ClosesOwnParens

variable {text : List Char}

/-- A text without parentheses closes none. -/
theorem of_forall_ne (without : ∀ c ∈ text, c ≠ '(' ∧ c ≠ ')') : ClosesOwnParens text := by
  intro start part
  have level := openParens_of_forall_ne fun c member => without c (part.subset member)
  exact Int.le_of_eq level.symm

/-- So does every beginning of the text. -/
theorem of_prefix (own : ClosesOwnParens text) {start : List Char} (part : start <+: text) :
    ClosesOwnParens start :=
  fun shorter within => own shorter (within.trans part)

/-- One more character, if the whole does not close too much. -/
theorem concat (own : ClosesOwnParens text) {c : Char} (whole : 0 ≤ openParens (text ++ [c])) :
    ClosesOwnParens (text ++ [c]) := by
  intro start part
  rcases List.prefix_concat_iff.mp part with rfl | shorter
  · exact whole
  · exact own start shorter

/-- One more character that closes nothing. -/
theorem concat_of_ne (own : ClosesOwnParens text) {c : Char} (other : c ≠ ')') :
    ClosesOwnParens (text ++ [c]) := by
  have before := own text (List.prefix_refl text)
  have last : 0 ≤ openParens [c] := by
    rw [openParens_cons, if_neg other, openParens_nil]
    split <;> decide
  apply own.concat
  rw [openParens_append]
  exact Int.add_nonneg before last

/-- **An admitted character.** A closing parenthesis is admitted only if one is open. -/
theorem admits (own : ClosesOwnParens text) {c : Char} (admits : Admits text c) :
    ClosesOwnParens (text ++ [c]) := by
  by_cases closing : c = ')'
  · subst closing
    have opened : 0 < openParens text := by
      cases admits with
      | closing opened _ => exact opened
      | digit digit => cases digit
      | operator operator _ => cases operator
    apply own.concat
    rw [openParens_append]
    exact Int.le_sub_one_of_lt opened
  · exact own.concat_of_ne closing

/-- What is written for an admitted symbol. -/
theorem append_inserted (own : ClosesOwnParens text) {c : Char} (admits : Admits text c) :
    ClosesOwnParens (text ++ Buffer.inserted text c) := by
  unfold Buffer.inserted
  split
  · -- a point that brings its zero
    rw [List.append_cons]
    exact (own.concat_of_ne (by decide)).concat_of_ne (by decide)
  · exact own.admits admits

/-- **The tokens close only groups of their own**, as the text does its parentheses. -/
theorem closesOwnGroups (own : ClosesOwnParens text) {tokens : List Token}
    (scanned : Token.scan (normalize text) = .ok tokens) : ClosesOwnGroups tokens := by
  have normalized : ClosesOwnParens (normalize text) := by
    rw [← staysOpen_zero_iff, staysOpen_normalize]
    exact staysOpen_zero_iff.mpr own
  intro start part
  obtain ⟨begun, within, level⟩ := Token.exists_prefix_of_scan scanned part
  rw [level]
  exact normalized begun within

/-- A minus sign before the text makes no difference. -/
theorem minus_cons_iff : ClosesOwnParens ('-' :: text) ↔ ClosesOwnParens text := by
  have bound := forall_prefix_cons_iff 0 '-' text
  simpa [ClosesOwnParens, openParens_cons] using bound

/-- **A wrapper closes what it opens**, behind everything inside. -/
theorem wrap (own : ClosesOwnParens text) : ClosesOwnParens (wrap text) := by
  rw [PocketCalc.wrap, List.append_assoc]
  intro start part
  rcases prefix_or_of_prefix_append part with within | ⟨more, rfl, behind⟩
  · have opening : ClosesOwnParens wrapperStart := staysOpen_zero_iff.mp rfl
    exact opening start within
  · have opened : openParens wrapperStart = 1 := by decide
    rw [openParens_append, opened]
    rcases List.prefix_concat_iff.mp behind with rfl | shorter
    · have level := own text (List.prefix_refl text)
      rw [openParens_append, show openParens [')'] = -1 from rfl]
      omega
    · have level := own more shorter
      omega

end ClosesOwnParens

/-! ## Keys -/

/-- **Every key keeps a text that closes only parentheses of its own.** -/
theorem ClosesOwnParens.edit {buffer : Buffer} (own : ClosesOwnParens buffer.text) (key : Edit) :
    ClosesOwnParens (buffer.edit key).text := by
  generalize change : buffer.edit key = next
  cases change ▸ buffer.edited_edit key with
  | refused => exact own
  | typed added =>
    obtain ⟨-, admitted, rfl⟩ := Buffer.add_eq_ok_iff.mp added
    exact own.append_inserted (admission_eq_ok_iff.mp admitted)
  | shortened => exact own.of_prefix (List.dropLast_prefix buffer.text)
  | cleared => exact .of_forall_ne (by simp [Buffer.clear])
  | toggled toggles =>
    cases toggles with
    | begun nothing => exact .of_forall_ne (by simp)
    | unwrapped wrapped => exact staysOpen_zero_iff.mp (unwrap?_eq_some_iff.mp wrapped).2
    | unsigned bare number signed => exact minus_cons_iff.mp (signed ▸ own)
    | signed bare number positive room => exact minus_cons_iff.mpr own
    | wrapped something bare other room => exact own.wrap

end PocketCalc
