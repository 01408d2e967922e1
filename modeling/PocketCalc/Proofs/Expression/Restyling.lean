import Mathlib.Logic.Relation
import PocketCalc.Proofs.Expression.Checks

/-! # Layout and glyphs

A text may be written with the glyphs of the keys or with plain operators, and with blanks almost
anywhere. Its verdict is the same, also where it is refused: the cause names the same character or
the same numeral. The one place where a blank may not be put is inside a numeral of the normalized
text. A percent sign ends in the numeral `0.01` there, so it takes part in this on its right side
and not on its left.

* **`Restyles`** — a glyph exchanged with its operator, or a blank put in.
* **`LooksAlike`** — what the evaluator looks at, and two texts that agree in it.
* **`looksAlike_of_plainText_eq`**, **`looksAlike_of_blank`** — glyphs and blanks make no difference
  to it.
* **`Token.scan_append_blank`** — a blank where nothing is joined makes no difference to the tokens.
* **`evaluate_eq_of_restyled`** — a text is evaluated alike in every layout. -/

namespace PocketCalc

/-! ## Other layouts -/

/-- **A glyph of a key**, with the operator that it stands for. -/
inductive StandsFor : Char → Char → Prop where
  /-- The sign of a quotient. -/
  | quotient : StandsFor '÷' '/'
  /-- The sign of a product. -/
  | product : StandsFor '×' '*'
  /-- The sign of a difference or a negation. -/
  | difference : StandsFor '−' '-'

/-- **Neighbours that a blank would part**: a digit, a point or a percent sign, and behind it a
digit or a point. -/
def isBound (c next : Char) : Bool := (isNumeralChar c || c == '%') && isNumeralChar next

/-- **The same text in another layout**, one change at a time. -/
inductive Restyles : List Char → List Char → Prop where
  /-- An operator takes the place of its glyph. -/
  | plain {glyph operator : Char} (stands : StandsFor glyph operator) (before behind : List Char) :
      Restyles (before ++ glyph :: behind) (before ++ operator :: behind)
  /-- A glyph takes the place of its operator. -/
  | glyph {glyph operator : Char} (stands : StandsFor glyph operator) (before behind : List Char) :
      Restyles (before ++ operator :: behind) (before ++ glyph :: behind)
  /-- A blank is put in where it parts no neighbours. -/
  | blank {c : Char} (blank : isBlank c = true) (before behind : List Char)
      (apart : ∀ last ∈ before.getLast?, ∀ next ∈ behind.head?, isBound last next = false) :
      Restyles (before ++ behind) (before ++ c :: behind)

/-! ## What the evaluator looks at -/

/-- **Two texts that look alike to the evaluator.** -/
structure LooksAlike (text other : List Char) : Prop where
  /-- They end in the same visible character. -/
  ending : (plainText (trim other)).getLast? = (plainText (trim text)).getLast?
  /-- They have the same first foreign character. -/
  foreign : (normalize other).find? (fun c => !isExpressionChar c) =
    (normalize text).find? (fun c => !isExpressionChar c)
  /-- They leave as many parentheses open. -/
  level : openParens other = openParens text
  /-- They have the same tokens, or the same leftmost fault. -/
  tokens : Token.scan (normalize other) = Token.scan (normalize text)

namespace LooksAlike

variable {text other : List Char}

/-- The checks before parsing find the same, up to the text that they pass on. -/
theorem prepare_eq (alike : LooksAlike text other) :
    prepare other = (prepare text).map (Option.map fun _ => normalize other) := by
  have empty : (trim other).isEmpty = (trim text).isEmpty := by
    have ending := congrArg (· = none) alike.ending
    simp only [plainText, List.getLast?_map, Option.map_eq_none_iff,
      List.getLast?_eq_none_iff] at ending
    rw [Bool.eq_iff_iff, List.isEmpty_iff, List.isEmpty_iff, ending]
  unfold prepare
  dsimp only
  rw [empty, alike.foreign, alike.level, alike.ending]
  -- the checks in their order
  cases (trim text).isEmpty with
  | true => rfl
  | false =>
    cases (normalize text).find? fun c => !isExpressionChar c with
    | some foreign => rfl
    | none =>
      by_cases level : openParens text = 0
      · cases endsIncomplete (plainText (trim text)).getLast? <;> simp [level, Except.map]
      · simp [level, Except.map]

/-- **What looks alike is evaluated alike.** -/
theorem evaluate_eq (alike : LooksAlike text other) : evaluate other = evaluate text := by
  have prepared := alike.prepare_eq
  have value : compute (normalize other) = compute (normalize text) := by
    simp only [compute, parse, alike.tokens]
  unfold evaluate
  cases checked : prepare text with
  | error verdict =>
    rw [checked] at prepared
    simp only [prepared, Except.map]
  | ok outcome =>
    cases outcome with
    | none =>
      rw [checked] at prepared
      simp only [prepared, Except.map, Option.map_none]
    | some normalized =>
      obtain ⟨-, -, -, -, rfl⟩ := prepare_eq_ok_some_iff.mp checked
      rw [checked] at prepared
      simp only [prepared, Except.map, Option.map_some, value]

end LooksAlike

/-! ## Glyphs -/

/-- A glyph and its operator are the same plain character. -/
theorem StandsFor.plain_eq {glyph operator : Char} (stands : StandsFor glyph operator) :
    plain glyph = plain operator := by
  cases stands with
  | quotient | product | difference => rfl

/-- A character that stands for another is a blank exactly if the other is. -/
@[simp] theorem isBlank_plain (c : Char) : isBlank (plain c) = isBlank c :=
  plain_induction (motive := fun c d => isBlank d = isBlank c) (fun _ => rfl) rfl rfl rfl c

/-- It is a part of a numeral exactly if the other is. -/
@[simp] theorem isNumeralChar_plain (c : Char) : isNumeralChar (plain c) = isNumeralChar c :=
  plain_induction (motive := fun c d => isNumeralChar d = isNumeralChar c) (fun _ => rfl) rfl rfl
    rfl c

/-- It is a percent sign exactly if the other is. -/
theorem plain_eq_percent_iff {c : Char} : plain c = '%' ↔ c = '%' :=
  plain_induction (motive := fun c d => d = '%' ↔ c = '%') (fun _ => .rfl) (by decide) (by decide)
    (by decide) c

/-- Glyphs are replaced in a trimmed text as in the whole. -/
theorem plainText_trim (text : List Char) : plainText (trim text) = trim (plainText text) := by
  have same : isBlank ∘ plain = isBlank := funext isBlank_plain
  simp only [plainText, trim, List.dropWhile_map, same, ← List.map_reverse]

/-- **Texts that differ only in glyphs look alike.** -/
theorem looksAlike_of_plainText_eq {text other : List Char}
    (same : plainText other = plainText text) : LooksAlike text other := by
  have normalized : normalize other = normalize text := by rw [normalize, normalize, same]
  refine ⟨?_, ?_, ?_, ?_⟩
  · rw [plainText_trim, plainText_trim, same]
  · rw [normalized]
  · rw [← openParens_normalize, normalized, openParens_normalize]
  · rw [normalized]

/-! ## Blanks -/

/-- A character is normalized to a product with one hundredth or to the one that it stands for. -/
theorem normalize_singleton (c : Char) :
    normalize [c] = if c = '%' then percentText else [plain c] := by
  simp [normalize, plainText, plain_eq_percent_iff]

/-- What a text ends in belongs to a numeral of the normalized text if it is a digit, a point or a
percent sign. -/
theorem exists_getLast?_of_normalize {text : List Char} {last : Char}
    (ends : last ∈ (normalize text).getLast?) :
    ∃ c ∈ text.getLast?, isNumeralChar last = (isNumeralChar c || c == '%') := by
  rcases List.eq_nil_or_concat text with rfl | ⟨start, c, rfl⟩
  · cases ends
  · rw [List.concat_eq_append] at ends ⊢
    refine ⟨c, List.getLast?_concat, ?_⟩
    rw [normalize_append, normalize_singleton] at ends
    split at ends
    · rename_i percent
      rw [List.getLast?_append_of_ne_nil _ (by decide)] at ends
      obtain rfl := Option.some.inj ends
      rw [percent]
      rfl
    · rename_i other
      rw [List.getLast?_concat] at ends
      obtain rfl := Option.some.inj ends
      simp [other]

/-- What a text begins with belongs to one if it is a digit or a point. -/
theorem exists_head?_of_normalize {text : List Char} {first : Char}
    (begins : first ∈ (normalize text).head?) :
    ∃ c ∈ text.head?, isNumeralChar first = isNumeralChar c := by
  cases text with
  | nil => cases begins
  | cons c rest =>
    refine ⟨c, rfl, ?_⟩
    rw [← List.singleton_append, normalize_append, normalize_singleton] at begins
    split at begins
    · rename_i percent
      obtain rfl := Option.some.inj begins
      rw [percent]
      rfl
    · obtain rfl := Option.some.inj begins
      exact isNumeralChar_plain c

/-- **A blank where nothing is joined makes no difference to the tokens.** -/
theorem Token.scan_append_blank {first second : List Char} {c : Char} (blank : isBlank c = true)
    (apart : ∀ last ∈ first.getLast?, ∀ next ∈ second.head?, isJoined last next = false) :
    scan (first ++ c :: second) = scan (first ++ second) := by
  have alone := isNumeralChar_of_isBlank blank
  have behind : scan (c :: second) = scan second := by
    rw [scan_of_alone alone, (Lexeme.blank blank).scan_eq]
    exact map_nil_append _
  have ends : ∀ d ∈ (c :: second).head?, isNumeralChar d = false := by simpa using alone
  rw [scan_append_of_ends ends, behind, scan_append apart]

/-- **A blank that parts no neighbours leaves a text looking alike.** -/
theorem looksAlike_of_blank {before behind : List Char} {c : Char} (blank : isBlank c = true)
    (apart : ∀ last ∈ before.getLast?, ∀ next ∈ behind.head?, isBound last next = false) :
    LooksAlike (before ++ behind) (before ++ c :: behind) := by
  have split : before ++ c :: behind = before ++ ([c] ++ behind) := rfl
  have normalized : normalize (before ++ c :: behind) =
      normalize before ++ c :: normalize behind := by
    have alone : normalize [c] = [c] := normalize_of_isBlank (by simpa using blank)
    rw [split, normalize_append, normalize_append, alone]
    rfl
  have visible {other : Char} (different : isBlank other = false) : c ≠ other := by
    rintro rfl
    rw [blank] at different
    cases different
  refine ⟨?_, ?_, ?_, ?_⟩
  · simp only [plainText, List.getLast?_map, getLast?_trim, List.filter_append, List.filter_cons,
      blank, Bool.not_true, Bool.false_eq_true, if_false]
  · have known : isExpressionChar c = true := by simp [isExpressionChar, blank]
    rw [normalized, normalize_append, List.find?_append, List.find?_append,
      List.find?_cons_of_neg (by simp [known])]
  · have neutral : openParens [c] = 0 := Token.openParens_singleton (visible rfl) (visible rfl)
    rw [split, openParens_append, openParens_append, neutral, Int.zero_add, openParens_append]
  · rw [normalized, normalize_append]
    refine Token.scan_append_blank blank fun last ends next begins => ?_
    obtain ⟨left, leftEnds, leftKind⟩ := exists_getLast?_of_normalize ends
    obtain ⟨right, rightBegins, rightKind⟩ := exists_head?_of_normalize begins
    rw [isJoined, leftKind, rightKind]
    exact apart left leftEnds right rightBegins

/-! ## Texts -/

/-- **One change of layout.** -/
theorem Restyles.looksAlike {text other : List Char} (restyles : Restyles text other) :
    LooksAlike text other := by
  cases restyles with
  | plain stands before behind =>
    exact looksAlike_of_plainText_eq (by simp [plainText, stands.plain_eq])
  | glyph stands before behind =>
    exact looksAlike_of_plainText_eq (by simp [plainText, stands.plain_eq])
  | blank blank before behind apart => exact looksAlike_of_blank blank apart

/-- **A text is evaluated alike in every layout.** Whatever glyphs are exchanged with their
operators, and wherever blanks are put in, other than between a digit, a point or a percent sign and
a digit or a point: the result is the same, or the text has none either way, or it is refused for
the same cause. -/
theorem evaluate_eq_of_restyled {text other : List Char}
    (restyled : Relation.ReflTransGen Restyles text other) : evaluate other = evaluate text := by
  induction restyled with
  | refl => rfl
  | tail _ last ih => exact last.looksAlike.evaluate_eq.trans ih

/-- Half of fifty percent, with the glyph of the key, and plain with blanks on either side of the
percent sign. -/
theorem evaluate_eq_of_restyled_of_percent :
    let text := ['5', '0', '%', '÷', '2']
    let other := ['5', '0', ' ', '%', '\u3000', '/', '2', ' ']
    Relation.ReflTransGen Restyles text other ∧
      (evaluate text).toOption = some (some ['0', '.', '2', '5']) ∧
      evaluate other = evaluate text := by
  intro text other
  have operator : Restyles text ['5', '0', '%', '/', '2'] :=
    .plain .quotient ['5', '0', '%'] ['2']
  have before : Restyles ['5', '0', '%', '/', '2'] ['5', '0', ' ', '%', '/', '2'] :=
    .blank rfl ['5', '0'] ['%', '/', '2'] (by rintro _ ⟨⟩ _ ⟨⟩; rfl)
  have behind : Restyles ['5', '0', ' ', '%', '/', '2'] ['5', '0', ' ', '%', '\u3000', '/', '2'] :=
    .blank rfl ['5', '0', ' ', '%'] ['/', '2'] (by rintro _ ⟨⟩ _ ⟨⟩; rfl)
  have final : Restyles ['5', '0', ' ', '%', '\u3000', '/', '2'] other :=
    .blank rfl ['5', '0', ' ', '%', '\u3000', '/', '2'] [] (by rintro _ ⟨⟩ _ ⟨⟩)
  have restyled : Relation.ReflTransGen Restyles text other :=
    (((Relation.ReflTransGen.single operator).tail before).tail behind).tail final
  exact ⟨restyled, by decide +kernel, evaluate_eq_of_restyled restyled⟩

/-- A blank between a percent sign and a digit tears a numeral of the normalized text apart. -/
example : (evaluate ['5', '0', '%', '2']).toOption = some (some ['0', '.', '6']) ∧
    evaluate ['5', '0', '%', ' ', '2'] = .error (.malformed .notOneValue) :=
  ⟨by decide +kernel, rfl⟩

end PocketCalc
