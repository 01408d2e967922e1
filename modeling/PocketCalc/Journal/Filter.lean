import PocketCalc.Journal.Line
import PocketCalc.Journal.Value
import PocketCalc.Text.Bytes

/-! # Filters of the journal

A filter chooses the lines that are shown. It is a list of rules, each of which names lines and how
talkative they may be: by the part of the program that they come from, by a field that they have, or
by the *span* in which they are written, a named stretch of work. The rule that names a line most
closely decides.

* **`Journal.Filter.parse`** — a filter from its text: `info`, `info,target=debug`,
  `target[span{field=value}]=trace`.
* **`Journal.Filter.shows`** — whether a filter lets a line through. -/

namespace PocketCalc.Journal

/-- **Which lines of a part a rule is about.** -/
inductive Scope where
  /-- All of them. -/
  | all
  /-- Those with a field of a name. -/
  | field (name : List Char)
  /-- Those within a span. The program does all its work outside of spans, so which span it is and
  what it says does not matter. -/
  | span
  deriving DecidableEq, Repr

namespace Scope

/-- Whether a scope includes a line. -/
def includes (scope : Scope) (line : Line) : Bool :=
  match scope with
  | all => true
  | field name => line.fieldNames.contains (String.ofList name)
  | span => false

-- Names are compared as the core library compares lists.
attribute [local instance (high)] List.instLE List.decidableLE

/-- Whether one scope is at most as close as another: that of a field is closer than that of all
lines, and of two fields the one with the later name is. -/
def atMost : Scope → Scope → Bool
  | all, _ => true
  | field name, field other => decide (name ≤ other)
  | field _, all => false
  | _, span => true
  | span, _ => false

end Scope

/-- **One rule of a filter**: how talkative those lines are in its scope that come from parts whose
names begin with its target. -/
structure Rule where
  /-- The beginning of the names; the empty one stands for all parts. -/
  target : List Char
  /-- The lines of these parts that the rule is about. -/
  scope : Scope
  /-- The greatest verbosity shown; none at zero. -/
  verbosity : Nat
  deriving DecidableEq, Repr

/-- **A filter.** Of two rules that name the same lines the later one counts. -/
abbrev Filter := List Rule

/-! ## Verbosities -/

/-- The names of the verbosities, from none to all. -/
def verbosityNames : List (List Char) :=
  ["off", "error", "warn", "info", "debug", "trace"].map String.toList

/-- The verbosity that a numeral names, with or without a plus sign before it. -/
def numberedVerbosity? (word : List Char) : Option Nat :=
  let digits := match word with
    | '+' :: rest => rest
    | _ => word
  let value := Nat.ofDigitChars 10 digits 0
  if !digits.isEmpty && digits.all Char.isDigit && value < verbosityNames.length then some value
  else none

/-- The verbosity that a word or a numeral names. -/
def verbosity? (word : List Char) : Option Nat :=
  (verbosityNames.findIdx? (· == word.map Char.toLower)).or (numberedVerbosity? word)

/-! ## Reading rules -/

/-- The scope that a field names, with or without a value. Only spans are asked for values. -/
def Scope.ofField? (text : List Char) : Option Scope :=
  match text.span (· != '=') with
  | ([], []) => none
  | (name, []) => some (field name)
  | (_, _ :: behind) => if isValue (behind.takeWhile (· != '=')) then some span else none

/-- **The brackets of a rule.** -/
structure Brackets where
  /-- The name of a span, perhaps empty. -/
  name : List Char
  /-- The field in braces, if there are any. -/
  braced : Option (List Char)
  /-- The text behind the brackets. -/
  behind : List Char
  deriving DecidableEq, Repr

/-- Read brackets behind the one that opens them. -/
def Brackets.read? (text : List Char) : Option Brackets :=
  match text.span fun c => c != ']' && c != '{' with
  | (name, ']' :: behind) => some ⟨name, none, behind⟩
  | (name, '{' :: inside) =>
    match inside.span (· != '}') with
    | (braced, '}' :: ']' :: behind) => some ⟨name, some braced, behind⟩
    | _ => none
  | _ => none

namespace Rule

/-- The verbosity of lines that are named without one. -/
def unlimited : Nat := 5

/-- A character that a rule may begin with: that of a target, or the bracket of a scope. -/
def begins (c : Char) : Bool :=
  isAlphanumeric c || c == '-' || c == ':' || c == '_' || c == '['

/-- A word of a rule: from a text the bytes at the place that the word has in the rule without its
indentation. An indented text so gives a word that begins too early. -/
def word? (text : List Char) (before : Nat) (word : List Char) : Option (List Char) := do
  let (_, behind) ← splitBytes? before text
  let (found, _) ← splitBytes? (byteCount word) behind
  return found

/-- The verbosity that stands at the end of a rule, behind an equals sign or not at all, where the
end begins behind some bytes of the rule without its indentation. -/
def verbosityBehind? (text : List Char) (before : Nat) : List Char → Option Nat
  | '=' :: _ =>
    (splitBytes? (before + 1) text).bind fun (_, word) =>
      if word.isEmpty then some unlimited else verbosity? word
  | behind => if behind.all isBlank then some unlimited else none

/-- The scope that brackets name: a field alone speaks of the lines that have it, all else of
spans. -/
def scope? (text : List Char) (before : Nat) (brackets : Brackets) : Option Scope :=
  match brackets.braced with
  | none => some .span
  | some braced => do
    let field ← word? text (before + byteCount brackets.name + 1) braced
    let scope ← Scope.ofField? field
    return if brackets.name.isEmpty then scope else .span

/-- Read a rule: a verbosity for all lines, or a target, a scope or both, and behind them a
verbosity or none. Blanks are part of a word, so a word with a blank beside it is no verbosity, and
alone it is a target that no part has. -/
def parse (text : List Char) : Option Rule :=
  let rule := text.dropWhile isBlank
  let before (behind : List Char) : Nat := byteCount rule - byteCount behind
  if rule.head?.any begins then
    match rule.span fun c => c != '=' && c != '[' with
    | (_, []) =>
      match verbosity? text with
      | some verbosity => some ⟨[], .all, verbosity⟩
      | none => some ⟨text, .all, unlimited⟩
    | (named, '[' :: inside) => do
      let brackets ← Brackets.read? inside
      let target ← word? text 0 named
      let scope ← scope? text (before inside) brackets
      let verbosity ← verbosityBehind? text (before brackets.behind) brackets.behind
      return ⟨target, scope, verbosity⟩
    | (named, behind) => do
      let target ← word? text 0 named
      let verbosity ← verbosityBehind? text (before behind) behind
      return ⟨target, .all, verbosity⟩
  else none

/-- Whether the rule is about a line. -/
def covers (rule : Rule) (line : Line) : Bool :=
  rule.target.isPrefixOf line.source.target && rule.scope.includes line

/-- Whether one rule names lines at most as closely as another: by a shorter target, or by one of
the same length and a scope that is at most as close. -/
def atMost (rule other : Rule) : Bool :=
  rule.target.length < other.target.length ||
    (rule.target.length == other.target.length && rule.scope.atMost other.scope)

end Rule

/-- The pieces of a text between commas. -/
def splitAtCommas : List Char → List (List Char)
  | [] => [[]]
  | c :: rest =>
    if c = ',' then [] :: splitAtCommas rest
    else match splitAtCommas rest with
      | [] => [[c]]
      | piece :: pieces => (c :: piece) :: pieces

namespace Filter

/-- The filter that shows every part up to a verbosity. -/
def upTo (verbosity : Nat) : Filter := [⟨[], .all, verbosity⟩]

/-- **The filter that a text describes**; none if one of its rules cannot be read. -/
def parse (text : List Char) : Option Filter :=
  ((splitAtCommas text).filter fun piece => !piece.isEmpty).mapM Rule.parse

/-- The rule that decides about a line: of those about it the one that names it most closely, and of
two such the later. -/
def deciding? (filter : Filter) (line : Line) : Option Rule :=
  (filter.filter (·.covers line)).foldl
    (fun best rule =>
      match best with
      | some found => if found.atMost rule then some rule else some found
      | none => some rule)
    none

/-- **Whether the filter shows a line.** -/
def shows (filter : Filter) (line : Line) : Bool :=
  match filter.deciding? line with
  | some rule => line.level.verbosity ≤ rule.verbosity
  | none => false

end Filter

end PocketCalc.Journal
