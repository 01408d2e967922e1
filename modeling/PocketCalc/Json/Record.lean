import PocketCalc.Json.Number

/-! # JSON records and lists

A record is read from an object, whose members may come in any order and among unknown ones, or from
an array that holds the fields in their order. A list is read from an array. Everything is read in
one pass, and the first problem decides the fault.

* **`Json.Field`** — a field of a record, read into a draft of it.
* **`Json.skipValue`** — pass over a value of an unknown member, however deep.
* **`Json.readRecord`**, **`Json.readList`** — the draft of a record, the elements of a list.
* **`Json.readDocument`** — a value with nothing behind it. -/

namespace PocketCalc.Json

/-- A blank between the parts of a JSON text. -/
def isSpace (c : Char) : Bool := c == ' ' || c == '\n' || c == '\t' || c == '\r'

/-- The text from the first character on that is no blank. -/
def skipSpace (text : List Char) : List Char := text.dropWhile isSpace

/-- Read the rest of a word, letter by letter. -/
def readWord : List Char → List Char → Except Fault (List Char)
  | [], text => .ok text
  | _ :: _, [] => .error .truncated
  | letter :: word, c :: rest => if c = letter then readWord word rest else .error .malformed

/-- The rest of a literal name behind its first letter. -/
def wordAfter? : Char → Option (List Char)
  | 'n' => some ['u', 'l', 'l']
  | 't' => some ['r', 'u', 'e']
  | 'f' => some ['a', 'l', 's', 'e']
  | _ => none

/-- **The fault of a value that is not of the kind expected**: a scalar is read to its end first,
and its own fault comes before the mismatch. -/
def mismatch (text : List Char) : Fault :=
  match text with
  | [] => .truncated
  | c :: rest =>
    match wordAfter? c with
    | some word =>
      match readWord word rest with
      | .error fault => fault
      | .ok _ => .mistyped
    | none =>
      if c = '-' || c.isDigit then mistypedNumber text
      else if c = quotationMark then
        match readString rest with
        | .error fault => fault
        | .ok _ => .mistyped
      else if c = '[' || c = '{' then .mistyped
      else .malformed

/-- Read a natural number below `2 ^ 64`. -/
def readNatural : Reader Nat := fun text =>
  match skipSpace text with
  | [] => .error .truncated
  | c :: rest =>
    if c.isDigit then
      match readUnsigned (c :: rest) with
      | .ok (some value, behind) => .ok (value, behind)
      | .ok (none, _) => .error .mistyped
      | .error fault => .error fault
    else .error (mismatch (c :: rest))

/-- Read a string. -/
def readText : Reader (List Char) := fun text =>
  match skipSpace text with
  | [] => .error .truncated
  | c :: rest => if c = quotationMark then readString rest else .error (mismatch (c :: rest))

/-! ## Passing over a value -/

/-- A kind of nesting. -/
inductive Nesting where
  /-- Inside an array. -/
  | array
  /-- Inside an object. -/
  | object
  deriving DecidableEq, Repr

/-- The bracket that ends a nesting. -/
def Nesting.closing : Nesting → Char
  | array => ']'
  | object => '}'

/-- **What is expected next** while passing over a value. -/
inductive Expected where
  /-- A value. -/
  | value
  /-- The first member of the innermost nesting, or its end. -/
  | first
  /-- A comma and another member, or the end of the innermost nesting. -/
  | next
  deriving DecidableEq, Repr

/-- Read the name of a member and its colon, if the innermost nesting is an object. -/
def skipMemberName (nesting : Nesting) (text : List Char) : Except Fault (List Char) :=
  match nesting with
  | .array => .ok text
  | .object =>
    match skipSpace text with
    | [] => .error .truncated
    | c :: rest =>
      if c = quotationMark then
        match skipString rest with
        | .error fault => .error fault
        | .ok behind =>
          match skipSpace behind with
          | [] => .error .truncated
          | ':' :: value => .ok value
          | _ :: _ => .error .malformed
      else .error .malformed

/-- Pass over a scalar that starts with the given character. -/
def skipScalar (c : Char) (rest : List Char) : Except Fault (List Char) :=
  match wordAfter? c with
  | some word => readWord word rest
  | none =>
    if c = '-' then skipNumber rest
    else if c.isDigit then skipNumber (c :: rest)
    else if c = quotationMark then skipString rest
    else .error .malformed

/-- Pass over what is left of a value inside some nestings. Every step takes a character or turns
the first member into a value, so twice the length of the text is enough fuel. -/
def skipFrom : Nat → Expected → List Nesting → List Char → Except Fault (List Char)
  | 0, _, _, _ => .error .truncated
  | fuel + 1, .value, nestings, text =>
    match skipSpace text with
    | [] => .error .truncated
    | c :: rest =>
      if c = '[' then skipFrom fuel .first (.array :: nestings) rest
      else if c = '{' then skipFrom fuel .first (.object :: nestings) rest
      else match skipScalar c rest with
        | .error fault => .error fault
        | .ok behind => skipFrom fuel .next nestings behind
  | _ + 1, _, [], text => .ok text
  | fuel + 1, expected, nesting :: outer, text =>
    match skipSpace text with
    | [] => .error .truncated
    | c :: rest =>
      if c = nesting.closing then skipFrom fuel .next outer rest
      else
        let member :=
          if expected = .first then some (c :: rest) else if c = ',' then some rest else none
        match member with
        | none => .error .malformed
        | some start =>
          match skipMemberName nesting start with
          | .error fault => .error fault
          | .ok value => skipFrom fuel .value (nesting :: outer) value

/-- **The text behind a value of any kind.** -/
def skipValue (text : List Char) : Except Fault (List Char) :=
  skipFrom (2 * text.length + 2) .value [] text

/-! ## Records -/

/-- **A field of a record**, read into a draft in which fields are filled one by one. -/
structure Field (Draft : Type) where
  /-- The name of the field. -/
  name : List Char
  /-- Whether the draft already has the field. -/
  filled : Draft → Bool
  /-- Read the value of the field into the draft. -/
  read : Draft → Reader Draft

variable {Draft Value : Type}

/-- Read the colon behind the name of a member. -/
def readColon (text : List Char) : Except Fault (List Char) :=
  match skipSpace text with
  | [] => .error .truncated
  | ':' :: rest => .ok rest
  | _ :: _ => .error .malformed

/-- Read a member behind the opening quote of its name. A field that is already filled is refused
before its value is read; an unknown member is passed over. -/
def readMember (fields : List (Field Draft)) (draft : Draft) : Reader Draft := fun text =>
  match readString text with
  | .error fault => .error fault
  | .ok (name, behind) =>
    match fields.find? (fun field => field.name == name) with
    | some field =>
      if field.filled draft then .error .mistyped
      else match readColon behind with
        | .error fault => .error fault
        | .ok value => field.read draft value
    | none =>
      match readColon behind with
      | .error fault => .error fault
      | .ok value => (skipValue value).map (draft, ·)

/-- Go to the next member of an object: the text behind the opening quote of its name, or `none` at
the end of the object, which is not taken off. -/
def nextMember (isFirst : Bool) (text : List Char) : Except Fault (Option (List Char)) :=
  match skipSpace text with
  | [] => .error .truncated
  | c :: rest =>
    if c = '}' then .ok none
    else if isFirst then
      if c = quotationMark then .ok (some rest) else .error .malformed
    else if c = ',' then
      match skipSpace rest with
      | [] => .error .truncated
      | quote :: name => if quote = quotationMark then .ok (some name) else .error .malformed
    else .error .malformed

/-- Read the members of an object up to its end; every member takes a character, so the length of
the text is enough fuel. -/
def readMembers (fields : List (Field Draft)) : Nat → Bool → Draft → Reader Draft
  | 0, _, _, _ => .error .truncated
  | fuel + 1, isFirst, draft, text =>
    match nextMember isFirst text with
    | .error fault => .error fault
    | .ok none => .ok (draft, text)
    | .ok (some name) =>
      match readMember fields draft name with
      | .error fault => .error fault
      | .ok (next, behind) => readMembers fields fuel false next behind

/-- Read the end of an object. -/
def readObjectEnd (text : List Char) : Except Fault (List Char) :=
  match skipSpace text with
  | [] => .error .truncated
  | '}' :: rest => .ok rest
  | _ :: _ => .error .malformed

/-- Go to the next element of an array: its text, or `none` at the end of the array, which is not
taken off. -/
def nextElement (isFirst : Bool) (text : List Char) : Except Fault (Option (List Char)) :=
  match skipSpace text with
  | [] => .error .truncated
  | c :: rest =>
    if c = ']' then .ok none
    else if isFirst then .ok (some (c :: rest))
    else if c = ',' then
      match skipSpace rest with
      | [] => .error .truncated
      | ']' :: _ => .error .malformed
      | element => .ok (some element)
    else .error .malformed

/-- Read the end of an array. -/
def readArrayEnd (text : List Char) : Except Fault (List Char) :=
  match skipSpace text with
  | [] => .error .truncated
  | ']' :: rest => .ok rest
  | _ :: _ => .error .malformed

/-- Read the elements of an array into the fields of a record, as far as there are elements. -/
def readElements : List (Field Draft) → Bool → Draft → Reader Draft
  | [], _, draft, text => .ok (draft, text)
  | field :: fields, isFirst, draft, text =>
    match nextElement isFirst text with
    | .error fault => .error fault
    | .ok none => .ok (draft, text)
    | .ok (some element) =>
      match field.read draft element with
      | .error fault => .error fault
      | .ok (next, behind) => readElements fields false next behind

/-- **Read a record**: fill a draft from an object or an array, and finish it. A draft that cannot
be finished is refused before the end of an array is looked for. -/
def readRecord (fields : List (Field Draft)) (draft : Draft) (finish : Draft → Option Value) :
    Reader Value := fun text =>
  match skipSpace text with
  | [] => .error .truncated
  | '{' :: rest =>
    match readMembers fields (rest.length + 1) true draft rest with
    | .error fault => .error fault
    | .ok (filled, behind) =>
      match finish filled with
      | none => .error .mistyped
      | some value => (readObjectEnd behind).map (value, ·)
  | '[' :: rest =>
    match readElements fields true draft rest with
    | .error fault => .error fault
    | .ok (filled, behind) =>
      match finish filled with
      | none => .error .mistyped
      | some value => (readArrayEnd behind).map (value, ·)
  | other => .error (mismatch other)

/-! ## Lists and documents -/

/-- Read the elements of an array up to its end; every element takes a character. -/
def readItems (item : Reader Value) : Nat → Bool → Reader (List Value)
  | 0, _, _ => .error .truncated
  | fuel + 1, isFirst, text =>
    match nextElement isFirst text with
    | .error fault => .error fault
    | .ok none => .ok ([], text)
    | .ok (some element) =>
      match item element with
      | .error fault => .error fault
      | .ok (value, behind) =>
        (readItems item fuel false behind).map fun (values, rest) => (value :: values, rest)

/-- **Read a list** from an array. -/
def readList (item : Reader Value) : Reader (List Value) := fun text =>
  match skipSpace text with
  | [] => .error .truncated
  | '[' :: rest =>
    match readItems item (rest.length + 1) true rest with
    | .error fault => .error fault
    | .ok (values, behind) => (readArrayEnd behind).map (values, ·)
  | other => .error (mismatch other)

/-- **Read a whole document**: one value, and nothing but blanks behind it. -/
def readDocument (reader : Reader Value) (text : List Char) : Except Fault Value :=
  match reader text with
  | .error fault => .error fault
  | .ok (value, behind) =>
    match skipSpace behind with
    | [] => .ok value
    | _ :: _ => .error .malformed

end PocketCalc.Json
