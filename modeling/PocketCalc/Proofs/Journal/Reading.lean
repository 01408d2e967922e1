import PocketCalc.Journal.Session
import Mathlib.Data.List.TakeDrop
import Mathlib.Data.List.TakeWhile

/-! # Filters that are written down

A rule is written as its target, its scope in brackets and, behind an equals sign, its verbosity; a
rule for all lines is a verbosity alone. Where targets and fields are names such as programs give to
their parts, what is written is read back, whole filters included.

* **`Journal.Rule.text`**, **`Journal.Filter.text`** — rules and filters as they are written.
* **`Journal.Rule.parse_text`** — a rule is read back.
* **`Journal.Filter.parse_text`** — a filter is read back.
* **`Journal.Filter.session_shows_part`** — one part of the program more talkative than the rest. -/

namespace PocketCalc.Journal

/-! ## Names -/

/-- A character of the names of parts and of fields. -/
def isNameChar (c : Char) : Bool := c.isAlphanum || c == ':' || c == '_'

/-- **A name** of a part or of a field, perhaps empty. -/
def IsName (text : List Char) : Prop := ∀ c ∈ text, isNameChar c = true

/-- The signs that separate the parts of rules and rules from each other. -/
def separators : List Char := [',', '=', '[', ']', '{', '}']

/-- The characters of names are ASCII characters. -/
theorem toNat_lt_of_isNameChar {c : Char} (name : isNameChar c = true) : c.toNat < 128 := by
  simp only [isNameChar, Bool.or_eq_true, beq_iff_eq] at name
  rcases name with (word | rfl) | rfl
  · exact toNat_lt_of_isAlphanum word
  · decide
  · decide

/-- No character of a name is a blank or a separator, one code point after the other. -/
theorem isNameChar_ofNat_spec :
    ∀ code : Fin 128, isNameChar (Char.ofNat code) = true →
      isBlank (Char.ofNat code) = false ∧ separators.contains (Char.ofNat code) = false := by
  decide

/-- No character of a name is a blank or a separator. -/
theorem isNameChar_spec {c : Char} (name : isNameChar c = true) :
    isBlank c = false ∧ separators.contains c = false := by
  have found := isNameChar_ofNat_spec ⟨c.toNat, toNat_lt_of_isNameChar name⟩
  simp only [Char.ofNat_toNat] at found
  exact found name

/-- A rule may begin with any character of a name. -/
theorem begins_of_isNameChar {c : Char} (name : isNameChar c = true) : Rule.begins c = true := by
  simp only [isNameChar, Bool.or_eq_true, beq_iff_eq] at name
  rcases name with (word | rfl) | rfl
  · simp [Rule.begins, isAlphanumeric_of_isAlphanum word]
  · simp [Rule.begins]
  · simp [Rule.begins]

/-- No separator is in a name. -/
theorem IsName.ne {name : List Char} (isName : IsName name) {sign : Char}
    (separates : separators.contains sign = true) : ∀ c ∈ name, (c != sign) = true := by
  intro c member
  rw [bne_iff_ne]
  rintro rfl
  rw [(isNameChar_spec (isName c member)).2] at separates
  cases separates

/-- **The parts of the program** have names. -/
theorem isName_target (source : Source) : IsName source.target := by
  have letters : source.target.all isNameChar = true := by cases source <;> decide
  exact List.all_eq_true.mp letters

/-! ## Reading up to a sign -/

/-- A text is read up to a sign that stops it. -/
theorem span_append_cons {p : Char → Bool} {text : List Char} (taken : ∀ c ∈ text, p c = true)
    {sign : Char} (stops : p sign = false) (rest : List Char) :
    (text ++ sign :: rest).span p = (text, sign :: rest) := by
  rw [List.span_eq_takeWhile_dropWhile, List.takeWhile_append_of_pos taken,
    List.dropWhile_append_of_pos taken, List.takeWhile_cons_of_neg (by simp [stops]),
    List.dropWhile_cons_of_neg (by simp [stops]), List.append_nil]

/-- **A word is found again** behind the bytes before it. -/
theorem Rule.word?_append (before word behind : List Char) :
    Rule.word? (before ++ (word ++ behind)) (byteCount before) word = some word := by
  simp [Rule.word?, splitBytes?_append]

/-! ## Verbosities -/

/-- The word for a verbosity. -/
def verbosityWord (verbosity : Nat) : List Char := verbosityNames.getD verbosity []

/-- The words for verbosities are names of letters and stand for their verbosities. -/
theorem verbosityWord_spec : ∀ verbosity : Fin verbosityNames.length,
    verbosityWord verbosity ≠ [] ∧ (verbosityWord verbosity).all isNameChar = true ∧
      verbosity? (verbosityWord verbosity) = some ↑verbosity := by
  decide

/-- A verbosity alone is a rule for all lines. -/
theorem Rule.parse_verbosityWord : ∀ verbosity : Fin verbosityNames.length,
    Rule.parse (verbosityWord verbosity) = some ⟨[], .all, verbosity⟩ := by
  decide +kernel

/-- **A verbosity behind an equals sign** is read at the place where the sign stands. -/
theorem Rule.verbosityBehind?_verbosityWord {verbosity : Nat}
    (limited : verbosity < verbosityNames.length) (before : List Char) :
    Rule.verbosityBehind? (before ++ '=' :: verbosityWord verbosity) (byteCount before)
      ('=' :: verbosityWord verbosity) = some verbosity := by
  obtain ⟨something, -, read⟩ := verbosityWord_spec ⟨verbosity, limited⟩
  have found := splitBytes?_append (before ++ ['=']) (verbosityWord verbosity)
  have place : byteCount before + 1 = byteCount before + byteCount ['='] := rfl
  rw [byteCount_append, List.append_assoc, List.singleton_append] at found
  rw [Rule.verbosityBehind?, place, found, Option.bind_some]
  simpa [something] using read

/-! ## Rules -/

/-- A scope as it is written. -/
def Scope.text : Scope → List Char
  | all => []
  | field name => '[' :: '{' :: (name ++ ['}', ']'])
  | span => ['[', ']']

/-- **A rule as it is written.** -/
def Rule.text (rule : Rule) : List Char :=
  if rule.target = [] ∧ rule.scope = .all then verbosityWord rule.verbosity
  else rule.target ++ (rule.scope.text ++ '=' :: verbosityWord rule.verbosity)

/-- **A plain rule**: it speaks of parts and fields by names, and its verbosity has a word. -/
structure Rule.IsPlain (rule : Rule) : Prop where
  /-- The target is a name. -/
  target : IsName rule.target
  /-- So is a field, and it is not empty. -/
  field : ∀ name, rule.scope = .field name → IsName name ∧ name ≠ []
  /-- There is a word for the verbosity. -/
  verbosity : rule.verbosity < verbosityNames.length

namespace Rule

variable {rule : Rule}

/-- A target that is a name is read up to the sign behind it. -/
theorem span_of_isName {target : List Char} (isName : IsName target) {sign : Char}
    (stops : (sign != '=' && sign != '[') = false) (rest : List Char) :
    (target ++ sign :: rest).span (fun c => c != '=' && c != '[') = (target, sign :: rest) := by
  refine span_append_cons (fun c member => ?_) stops rest
  rw [isName.ne rfl c member, isName.ne rfl c member, Bool.and_self]

/-- **A text that a rule may begin**, and that is read from its first character on. -/
structure Starts (text : List Char) : Prop where
  /-- There is no indentation. -/
  unindented : text.dropWhile isBlank = text
  /-- A rule may begin with the first character. -/
  begins : text.head?.any begins = true

/-- A text starts so if its first character is no blank and may begin a rule. -/
theorem starts_cons {c : Char} (visible : isBlank c = false) (first : begins c = true)
    (rest : List Char) : Starts (c :: rest) where
  unindented := List.dropWhile_cons_of_neg (by simp [visible])
  begins := first

/-- **A plain rule starts so**, with its target or its scope. -/
theorem IsPlain.starts (plain : rule.IsPlain) (named : ¬(rule.target = [] ∧ rule.scope = .all))
    (behind : List Char) : Starts (rule.target ++ (rule.scope.text ++ behind)) := by
  obtain ⟨target, scope, verbosity⟩ := rule
  cases target with
  | cons c others =>
    have name : isNameChar c = true := plain.target c List.mem_cons_self
    exact starts_cons (isNameChar_spec name).1 (begins_of_isNameChar name) _
  | nil =>
    cases scope with
    | all => exact absurd ⟨rfl, rfl⟩ named
    | field name => exact starts_cons (by decide) (by decide) _
    | span => exact starts_cons (by decide) (by decide) _

/-- The brackets around a field are read behind the one that opens them. -/
theorem read?_field {name : List Char} (isName : IsName name) (behind : List Char) :
    Brackets.read? ('{' :: (name ++ '}' :: ']' :: behind)) = some ⟨[], some name, behind⟩ := by
  have closes : (name ++ '}' :: ']' :: behind).span (· != '}') = (name, '}' :: ']' :: behind) :=
    span_append_cons (isName.ne rfl) rfl _
  unfold Brackets.read?
  rw [show ('{' :: (name ++ '}' :: ']' :: behind)).span (fun c => c != ']' && c != '{') =
    ([], '{' :: (name ++ '}' :: ']' :: behind)) from rfl]
  simp only [closes]

/-- A field without a value is the scope of the lines that have it. -/
theorem ofField?_of_isName {name : List Char} (isName : IsName name) (something : name ≠ []) :
    Scope.ofField? name = some (.field name) := by
  have whole : name.span (· != '=') = (name, []) := by
    rw [List.span_eq_takeWhile_dropWhile, List.takeWhile_eq_self_iff.mpr (isName.ne rfl),
      List.dropWhile_eq_nil_iff.mpr (isName.ne rfl)]
  unfold Scope.ofField?
  rw [whole]
  cases name with
  | nil => exact absurd rfl something
  | cons c rest => rfl

/-- **The field in the brackets** of a rule is found at its place. -/
theorem scope?_field {name : List Char} (isName : IsName name) (something : name ≠ [])
    (before behind rest : List Char) :
    scope? (before ++ '{' :: (name ++ behind)) (byteCount before) ⟨[], some name, rest⟩ =
      some (.field name) := by
  have word := word?_append (before ++ ['{']) name behind
  have place : byteCount before + byteCount [] + 1 = byteCount before + byteCount ['{'] := rfl
  rw [byteCount_append, List.append_assoc, List.singleton_append] at word
  simp [scope?, place, word, ofField?_of_isName isName something]

/-- **A target with a verbosity** and no brackets between them. -/
theorem parse_target {target behind : List Char} {verbosity : Nat} (isName : IsName target)
    (starts : Starts (target ++ '=' :: behind))
    (ends : verbosityBehind? (target ++ '=' :: behind) (byteCount target) ('=' :: behind) =
      some verbosity) :
    parse (target ++ '=' :: behind) = some ⟨target, .all, verbosity⟩ := by
  have cut := span_of_isName isName (show ('=' != '=' && '=' != '[') = false from rfl) behind
  have word : word? (target ++ '=' :: behind) 0 target = some target :=
    word?_append [] target ('=' :: behind)
  unfold parse
  simp only [starts.unindented, starts.begins, if_true, cut]
  simp [word, ends]

/-- **A target with brackets** and a verbosity behind them. -/
theorem parse_brackets {target inside before : List Char} {brackets : Brackets} {scope : Scope}
    {verbosity : Nat} (isName : IsName target) (starts : Starts (target ++ '[' :: inside))
    (read : Brackets.read? inside = some brackets)
    (split : target ++ '[' :: inside = before ++ brackets.behind)
    (speaks : scope? (target ++ '[' :: inside) (byteCount (target ++ ['['])) brackets = some scope)
    (ends : verbosityBehind? (target ++ '[' :: inside) (byteCount before) brackets.behind =
      some verbosity) :
    parse (target ++ '[' :: inside) = some ⟨target, scope, verbosity⟩ := by
  have cut := span_of_isName isName (show ('[' != '=' && '[' != '[') = false from rfl) inside
  have word : word? (target ++ '[' :: inside) 0 target = some target :=
    word?_append [] target ('[' :: inside)
  have opened : byteCount (target ++ '[' :: inside) - byteCount inside =
      byteCount (target ++ ['[']) := by
    simp only [byteCount_append, byteCount]
    omega
  have closed : byteCount (target ++ '[' :: inside) - byteCount brackets.behind =
      byteCount before := by
    rw [split, byteCount_append, Nat.add_sub_cancel]
  unfold parse
  simp only [starts.unindented, starts.begins, if_true, cut, read, word, opened, closed, speaks,
    ends, Option.bind_eq_bind, Option.bind_some]
  rfl

/-- **A plain rule is read back** as it was written. -/
theorem parse_text (plain : rule.IsPlain) : parse rule.text = some rule := by
  unfold text
  by_cases alone : rule.target = [] ∧ rule.scope = .all
  · rw [if_pos alone]
    obtain ⟨target, scope, verbosity⟩ := rule
    obtain ⟨rfl, rfl⟩ := alone
    exact parse_verbosityWord ⟨verbosity, plain.verbosity⟩
  · rw [if_neg alone]
    have starts := plain.starts alone ('=' :: verbosityWord rule.verbosity)
    have ends := verbosityBehind?_verbosityWord plain.verbosity (rule.target ++ rule.scope.text)
    rw [List.append_assoc] at ends
    obtain ⟨target, scope, verbosity⟩ := rule
    cases scope with
    | all =>
      simp only [Scope.text, List.nil_append, List.append_nil] at starts ends ⊢
      exact parse_target plain.target starts ends
    | field name =>
      obtain ⟨isName, something⟩ := plain.field name rfl
      have speaks := scope?_field isName something (target ++ ['['])
        ('}' :: ']' :: '=' :: verbosityWord verbosity) ('=' :: verbosityWord verbosity)
      simp only [Scope.text, List.cons_append, List.append_assoc, List.nil_append]
        at starts ends speaks ⊢
      exact parse_brackets plain.target starts (read?_field isName _) (by simp) speaks ends
    | span =>
      simp only [Scope.text, List.cons_append, List.nil_append] at starts ends ⊢
      exact parse_brackets plain.target starts rfl (by simp) rfl ends

end Rule

/-! ## Filters -/

/-- Commas part a text as the library's function does. -/
theorem splitAtCommas_eq (text : List Char) : splitAtCommas text = text.splitOn ',' := by
  induction text with
  | nil => rfl
  | cons c rest ih =>
    rw [splitAtCommas, ih, List.splitOn_cons_eq_if_modifyHead]
    by_cases comma : c = ','
    · simp [comma]
    · obtain ⟨piece, pieces, found⟩ := List.exists_cons_of_ne_nil (List.splitOn_ne_nil ',' rest)
      simp [comma, found]

/-- A name has no comma. -/
theorem IsName.comma_notMem {name : List Char} (isName : IsName name) : ',' ∉ name := by
  intro member
  have apart : (',' != ',') = true := isName.ne rfl ',' member
  cases apart

/-- **A plain rule** is written without commas, and it is written as something. -/
theorem Rule.IsPlain.text_spec {rule : Rule} (plain : rule.IsPlain) :
    ',' ∉ rule.text ∧ rule.text ≠ [] := by
  obtain ⟨something, letters, -⟩ := verbosityWord_spec ⟨rule.verbosity, plain.verbosity⟩
  have word : IsName (verbosityWord rule.verbosity) := List.all_eq_true.mp letters
  have scope : ',' ∉ rule.scope.text := by
    cases scope : rule.scope with
    | all => simp [Scope.text]
    | field name => simp [Scope.text, (plain.field name scope).1.comma_notMem]
    | span => simp [Scope.text]
  unfold Rule.text
  split
  · exact ⟨word.comma_notMem, something⟩
  · simp [plain.target.comma_notMem, scope, word.comma_notMem]

namespace Filter

variable {filter : Filter}

/-- **A filter as it is written**: its rules with commas between them. -/
def text (filter : Filter) : List Char := [','].intercalate (filter.map Rule.text)

/-- Plain rules are read back one after the other. -/
theorem mapM_parse_text (plain : ∀ rule ∈ filter, rule.IsPlain) :
    filter.mapM (Rule.parse ∘ Rule.text) = some filter := by
  induction filter with
  | nil => rfl
  | cons rule rest ih =>
    rw [List.mapM_cons, Function.comp_apply, Rule.parse_text (plain rule List.mem_cons_self),
      ih fun other member => plain other (List.mem_cons_of_mem rule member)]
    rfl

/-- **A filter of plain rules is read back** as it was written. -/
theorem parse_text (plain : ∀ rule ∈ filter, rule.IsPlain) : parse filter.text = some filter := by
  have pieces : (splitAtCommas filter.text).filter (fun piece => !piece.isEmpty) =
      filter.map Rule.text := by
    rw [splitAtCommas_eq]
    by_cases empty : filter = []
    · subst empty
      rfl
    · rw [text, List.splitOn_intercalate ',' _ (by simpa using empty), List.filter_eq_self.mpr]
      · simpa using fun rule member => (plain rule member).text_spec.2
      · simpa using fun rule member => (plain rule member).text_spec.1
  rw [parse, pieces, List.mapM_map, mapM_parse_text plain]

/-- **A session** that such a filter is set for shows what the filter says. -/
theorem session_filter_text (plain : ∀ rule ∈ filter, rule.IsPlain) :
    Session.filter (some filter.text) = filter := by
  rw [Session.filter, Option.bind_some, parse_text plain, Option.getD_some]

/-- A rule for one part beside a rule for all lines decides about the lines from that part. -/
theorem shows_pair {target : List Char} (something : target ≠ []) (general special : Nat)
    (line : Line) :
    shows [⟨[], .all, general⟩, ⟨target, .all, special⟩] line =
      decide (line.level.verbosity ≤
        if target.isPrefixOf line.source.target then special else general) := by
  have longer : 0 < target.length := List.length_pos_iff.mpr something
  by_cases below : target.isPrefixOf line.source.target = true
  · simp [shows, deciding?, Rule.covers, Scope.includes, Rule.atMost, below, longer]
  · simp [shows, deciding?, Rule.covers, Scope.includes, below]

/-- **One part alone** can be made as talkative as one likes by its name. -/
theorem session_shows_part (source : Source) {general special : Nat}
    (generalNamed : general < verbosityNames.length)
    (specialNamed : special < verbosityNames.length) (line : Line) :
    (Session.filter
        (some (text [⟨[], .all, general⟩, ⟨source.target, .all, special⟩]))).shows line =
      decide (line.level.verbosity ≤
        if source.target.isPrefixOf line.source.target then special else general) := by
  have plain : ∀ rule ∈ ([⟨[], .all, general⟩, ⟨source.target, .all, special⟩] : Filter),
      rule.IsPlain := by
    intro rule member
    simp only [List.mem_cons, List.not_mem_nil, or_false] at member
    rcases member with rfl | rfl
    · exact ⟨by simp [IsName], by simp, generalNamed⟩
    · exact ⟨isName_target source, by simp, specialNamed⟩
  rw [session_filter_text plain, shows_pair (by cases source <;> decide)]

end Filter

end PocketCalc.Journal
