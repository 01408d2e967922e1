import PocketCalc.Calendar.Reading
import PocketCalc.Json.Record

/-! # Entries of the history

An entry is an evaluation that succeeded. Entries are stored as a JSON array of objects without
blanks; a reader also takes fields in another order, unknown fields, and arrays in place of objects.

* **`Entry.listJson`** — the JSON text of entries.
* **`Entry.ofJson`** — the entries of a JSON text. -/

namespace PocketCalc

/-- **An evaluation that succeeded.** -/
structure Entry where
  /-- The text that was evaluated. -/
  expression : List Char
  /-- Its result. -/
  result : List Char
  /-- When it was evaluated. -/
  moment : Timestamp
  deriving DecidableEq, Repr

namespace Entry

/-- The name of the field for the expression. -/
def expressionName : List Char := ['e', 'x', 'p', 'r']

/-- The name of the field for the result. -/
def resultName : List Char := ['r', 'e', 's']

/-- The name of the field for the moment. -/
def momentName : List Char := ['a', 't']

/-- The JSON text of an entry. -/
def json (entry : Entry) : List Char :=
  '{' :: Json.writeString expressionName ++ ':' :: Json.writeString entry.expression
    ++ ',' :: Json.writeString resultName ++ ':' :: Json.writeString entry.result
    ++ ',' :: Json.writeString momentName ++ ':' :: Json.writeString entry.moment.text
    ++ ['}']

/-- An entry in which fields are filled one by one. -/
structure Draft where
  /-- The expression, once read. -/
  expression : Option (List Char)
  /-- The result, once read. -/
  result : Option (List Char)
  /-- The moment, once read. -/
  moment : Option Timestamp

/-- A draft with no field filled. -/
def Draft.blank : Draft := ⟨none, none, none⟩

/-- The entry of a draft that is filled completely. -/
def Draft.entry? (draft : Draft) : Option Entry := do
  return ⟨← draft.expression, ← draft.result, ← draft.moment⟩

/-- Read a timestamp from a string. -/
def readMoment : Json.Reader Timestamp := fun text =>
  match Json.readText text with
  | .error fault => .error fault
  | .ok (shown, rest) =>
    match Timestamp.ofText? shown with
    | some moment => .ok (moment, rest)
    | none => .error .mistyped

/-- **The fields of a stored entry**, in the order in which an array holds them. -/
def fields : List (Json.Field Draft) :=
  [ { name := expressionName
      filled := fun draft => draft.expression.isSome
      read := fun draft text => (Json.readText text).map fun (value, rest) =>
        ({ draft with expression := some value }, rest) },
    { name := resultName
      filled := fun draft => draft.result.isSome
      read := fun draft text => (Json.readText text).map fun (value, rest) =>
        ({ draft with result := some value }, rest) },
    { name := momentName
      filled := fun draft => draft.moment.isSome
      read := fun draft text => (readMoment text).map fun (value, rest) =>
        ({ draft with moment := some value }, rest) } ]

/-- Read a stored entry. -/
def read : Json.Reader Entry := Json.readRecord fields Draft.blank Draft.entry?

/-- The JSON text of a list of entries. -/
def listJson (entries : List Entry) : List Char :=
  '[' :: List.intercalate [','] (entries.map json) ++ [']']

/-- The entries of a JSON text. -/
def ofJson (text : List Char) : Except Json.Fault (List Entry) :=
  Json.readDocument (Json.readList read) text

end Entry

end PocketCalc
