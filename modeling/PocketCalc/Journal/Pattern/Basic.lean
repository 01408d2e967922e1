import PocketCalc.Journal.Pattern.Bracket
import PocketCalc.Text.Alphanumeric

/-! # Patterns of values

A filter may ask that a value match a pattern, a regular expression. The program says nothing whose
value is compared, so a pattern is never matched; but a filter with a malformed one is refused. A
pattern consists of alternatives, an alternative of items, classes and groups, any of which may be
repeated. A repetition by counts cannot be written: the brace that would end it ends the pattern.

* **`Journal.Pattern.depth?`** — how deep a well-formed pattern is.
* **`Journal.Pattern.wellFormed`** — whether a text is a pattern. -/

namespace PocketCalc.Journal.Pattern

/-! ## Groups -/

/-- **A piece of an alternative.** -/
inductive Piece where
  /-- A change of modes, which cannot be repeated. -/
  | change
  /-- Anything else, of some depth. -/
  | nested (depth : Nat)
  deriving DecidableEq, Repr

/-- How deep a piece is. -/
def Piece.depth : Piece → Nat
  | change => 0
  | nested depth => depth

/-- **What has been read of a group.** -/
structure Group where
  /-- The modes in force. -/
  mode : Mode
  /-- The depths of the alternatives before the last. -/
  alternatives : List Nat
  /-- The pieces of the last alternative, from the last to the first. -/
  pieces : List Piece
  deriving DecidableEq, Repr

namespace Group

/-- A group at its start. -/
def starting (mode : Mode) : Group := ⟨mode, [], []⟩

/-- A group with another piece. -/
def add (group : Group) (depth : Nat) : Group :=
  { group with pieces := .nested depth :: group.pieces }

/-- How deep the last alternative is. -/
def alternativeDepth (group : Group) : Nat := nesting (group.pieces.map Piece.depth)

/-- How deep a group is within its parentheses. -/
def depth (group : Group) : Nat := nesting (group.alternativeDepth :: group.alternatives)

/-- A group with an alternative begun. -/
def split (group : Group) : Group :=
  ⟨group.mode, group.alternativeDepth :: group.alternatives, []⟩

/-- A group with its last piece repeated; none if there is no piece that can be. -/
def repeated? (group : Group) : Option Group :=
  match group.pieces with
  | .nested depth :: before => some { group with pieces := .nested (depth + 1) :: before }
  | _ => none

end Group

/-! ## What a parenthesis opens -/

/-- **What an opening parenthesis begins.** -/
inductive Opening where
  /-- A change of modes for the rest of the group around it. -/
  | change (mode : Mode)
  /-- A group in some modes, perhaps with a name. -/
  | group (mode : Mode) (name : Option (List Char))
  deriving DecidableEq, Repr

/-- Whether a text is the name of a group. -/
def isGroupName : List Char → Bool
  | [] => false
  | c :: rest =>
    (c == '_' || isLetter c) &&
      rest.all fun d => isAlphanumeric d || ['_', '.', '[', ']'].contains d

/-- Read the letters of modes that are turned on and, behind a hyphen, off. Each letter and the
hyphen may stand once, a letter must follow the hyphen, and without letters there is no change. -/
def modes? (seen : List Char) (mode : Mode) : List Char → Option (Opening × List Char)
  | [] => none
  | c :: rest =>
    if c = ':' || c = ')' then
      if seen.head? = some '-' then none
      else if c = ':' then some (.group mode none, rest)
      else if seen.isEmpty then none
      else some (.change mode, rest)
    else if seen.contains c || !(c == '-' || Mode.letters.contains c) then none
    else modes? (c :: seen) (mode.turn c !(seen.contains '-')) rest

/-- Read the name of a group up to the sign that closes it. -/
def groupName? (mode : Mode) (text : List Char) : Option (Opening × List Char) :=
  match text.span (· != '>') with
  | (name, _ :: rest) => if isGroupName name then some (.group mode (some name), rest) else none
  | _ => none

/-- Read what stands between an opening parenthesis and the content of its group. -/
def opening? (mode : Mode) (text : List Char) : Option (Opening × List Char) :=
  match mode.skip text with
  | '?' :: 'P' :: '<' :: rest => groupName? mode rest
  | '?' :: '<' :: rest => groupName? mode rest
  | '?' :: rest => modes? [] mode rest
  | rest => some (.group mode none, rest)

/-! ## Patterns -/

/-- A sign that repeats what stands before it. -/
def repeats (c : Char) : Bool := c == '*' || c == '+' || c == '?'

/-- Read the rest of a pattern inside of groups, with the names of groups so far; a question mark
directly behind a sign of repetition belongs to it. -/
def readFrom :
    Nat → List (List Char) → List Group → Group → List Char → Option Nat
  | 0, _, _, _, _ => none
  | fuel + 1, names, outer, group, text =>
    match group.mode.skip text with
    | [] => if outer.isEmpty then some group.depth else none
    | c :: rest =>
      if c = '(' then
        match opening? group.mode rest with
        | some (.change mode, behind) =>
          readFrom fuel names outer ⟨mode, group.alternatives, .change :: group.pieces⟩ behind
        | some (.group mode name, behind) =>
          if name.any names.contains then none
          else readFrom fuel (name.toList ++ names) (group :: outer) (.starting mode) behind
        | none => none
      else if c = ')' then
        match outer with
        | [] => none
        | parent :: others => readFrom fuel names others (parent.add (group.depth + 1)) rest
      else if c = '|' then readFrom fuel names outer group.split rest
      else if c = '[' then
        (Bracket.read? group.mode rest).bind fun (depth, behind) =>
          readFrom fuel names outer (group.add depth) behind
      else if repeats c then
        group.repeated?.bind fun repeated =>
          readFrom fuel names outer repeated (if rest.head? = some '?' then rest.tail else rest)
      else if c = '{' then none
      else
        (Item.read? group.mode (c :: rest)).bind fun (item, behind) =>
          if item.allowed group.mode then readFrom fuel names outer (group.add 0) behind else none

/-- **How deep a pattern is**; none for a text that is no pattern. Every step takes a character, so
their number is fuel enough. -/
def depth? (text : List Char) : Option Nat :=
  readFrom (text.length + 1) [] [] (.starting Mode.standard) text

/-- The greatest depth of a pattern. -/
def deepest : Nat := 250

/-- **Whether a text is a pattern** and not too deep. -/
def wellFormed (text : List Char) : Bool := (depth? text).any fun depth => depth ≤ deepest

end PocketCalc.Journal.Pattern
