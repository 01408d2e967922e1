import PocketCalc.Journal.Pattern.Item

/-! # Classes of a pattern

A class in brackets lists characters, ranges of characters, named classes and further classes in
brackets, and combines such lists by operators. How deeply the parts of a pattern are nested is
counted, since it is limited.

* **`Journal.Pattern.nesting`** — how deep a row of parts is.
* **`Journal.Pattern.Bracket.read`** — a class behind its opening bracket. -/

namespace PocketCalc.Journal.Pattern

/-- How deep a row of parts of some depths is: a row of several is one deeper than its deepest
part. -/
def nesting : List Nat → Nat
  | [] => 0
  | [depth] => depth
  | depths => depths.foldl max 0 + 1

/-- **What has been read of a class**, in depths. -/
structure Bracket where
  /-- What stands left of the last operator. -/
  left : Option Nat
  /-- The members since then. -/
  members : List Nat
  deriving DecidableEq, Repr

namespace Bracket

/-- A class at its start. -/
def empty : Bracket := ⟨none, []⟩

/-- A class with another member. -/
def add (bracket : Bracket) (depth : Nat) : Bracket :=
  { bracket with members := depth :: bracket.members }

/-- How deep a class is within its brackets: an operator is one deeper than its sides. -/
def depth (bracket : Bracket) : Nat :=
  match bracket.left with
  | none => nesting bracket.members
  | some left => max left (nesting bracket.members) + 1

/-! ## Members -/

/-- The names of classes, each written between `[:` and `:]`. -/
def classNames : List (List Char) :=
  ["alnum", "alpha", "ascii", "blank", "cntrl", "digit", "graph", "lower", "print", "punct",
    "space", "upper", "word", "xdigit"].map String.toList

/-- Read a named class behind its opening bracket: whether it is negated, and what follows it. -/
def named? : List Char → Option (Bool × List Char)
  | ':' :: text =>
    let (negated, text) := match text with
      | '^' :: rest => (true, rest)
      | _ => (false, text)
    match text.span (· != ':') with
    | (name, ':' :: ']' :: rest) => if classNames.contains name then some (negated, rest) else none
    | _ => none
  | _ => none

/-- Whether a named class may stand in a class. -/
def namedAllowed (mode : Mode) (negated : Bool) : Bool :=
  if mode.bytewise then !negated else !mode.caseless

/-- Read a member, an item or a range, and give what follows it. A hyphen belongs to a range unless
the end of the class or another hyphen follows it. -/
def member? (mode : Mode) (text : List Char) : Option (List Char) := do
  let (first, rest) ← Item.readInClass? mode text
  match mode.skip rest with
  | [] => none
  | '-' :: behind =>
    if mode.glance? behind = some ']' || mode.glance? behind = some '-' then
      if first.allowedInClass mode then some ('-' :: behind) else none
    else
      let (last, after) ← Item.readInClass? mode (mode.skip behind)
      let low ← first.code?
      let high ← last.code?
      if low ≤ high && first.allowedInClass mode && last.allowedInClass mode then some after
      else none
  | rest => if first.allowedInClass mode then some rest else none

/-! ## Classes -/

/-- The text behind an opening bracket and a sign of negation, which no class of bytes may have. -/
def entered? (mode : Mode) (text : List Char) : Option (List Char) :=
  match mode.skip text with
  | '^' :: rest => if mode.bytewise then none else some rest
  | rest => some rest

/-- A character that, doubled, is an operator between lists. -/
def isOperator (c : Char) : Bool := c == '&' || c == '-' || c == '~'

/-- Read the rest of a class inside of others; `fresh` says that nothing but hyphens stands before.
Hyphens at the start of a class are members, and so is a closing bracket that comes first. -/
def readFrom (mode : Mode) :
    Nat → List Bracket → Bool → Bracket → List Char → Option (Nat × List Char)
  | 0, _, _, _, _ => none
  | fuel + 1, outer, fresh, bracket, text =>
    match mode.skip text with
    | [] => none
    | c :: rest =>
      if fresh && (c == '-' || (c == ']' && bracket.members.isEmpty)) then
        if (Item.character c).allowedInClass mode then
          readFrom mode fuel outer (c == '-') (bracket.add 0) rest
        else none
      else if c = ']' then
        match outer with
        | [] => some (bracket.depth + 1, rest)
        | parent :: others => readFrom mode fuel others false (parent.add (bracket.depth + 1)) rest
      else if c = '[' then
        match named? rest with
        | some (negated, behind) =>
          if namedAllowed mode negated then readFrom mode fuel outer false (bracket.add 0) behind
          else none
        | none =>
          (entered? mode rest).bind fun inside =>
            readFrom mode fuel (bracket :: outer) true empty inside
      else if isOperator c && rest.head? == some c then
        readFrom mode fuel outer false ⟨some bracket.depth, []⟩ rest.tail
      else
        (member? mode (c :: rest)).bind fun behind =>
          readFrom mode fuel outer false (bracket.add 0) behind

/-- **Read a class behind its opening bracket**: how deep it is, and what follows it. Every step
takes a character, so their number is fuel enough. -/
def read? (mode : Mode) (text : List Char) : Option (Nat × List Char) :=
  (entered? mode text).bind fun inside => readFrom mode (text.length + 1) [] true empty inside

end Bracket

end PocketCalc.Journal.Pattern
