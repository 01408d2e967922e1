import PocketCalc.Json.Record
import PocketCalc.Text.Blank

/-! # Settings

A settings text is a JSON record with four fields, each of which may be left out. What is read is
then bounded: lengths lie between one and ten thousand, and a blank history key gives way to the
default.

* **`Settings.ofJson`** — the settings of a JSON text, or the fault in it.
* **`Settings.json`** — the JSON text of settings.
* **`Settings.bounded_bounded`** — bounding twice is bounding once. -/

namespace PocketCalc

/-- **The settings of the calculator.** -/
structure Settings where
  /-- The number of characters that typing may produce. -/
  maxLength : Nat
  /-- The number of history entries kept. -/
  maxEntries : Nat
  /-- The storage key of the history. -/
  historyKey : List Char
  /-- How long an error message shows, in milliseconds. -/
  flashDelay : Nat
  deriving DecidableEq, Repr

namespace Settings

/-- The settings of a calculator that is given none. -/
def standard : Settings where
  maxLength := 120
  maxEntries := 50
  historyKey := "calc_history_v1".toList
  flashDelay := 700

/-- The greatest bound that settings can ask for. -/
def greatestBound : Nat := 10000

/-- A bound between one and the greatest. -/
def clamp (bound : Nat) : Nat := max 1 (min bound greatestBound)

/-- Settings within the bounds. -/
def bounded (settings : Settings) : Settings :=
  { settings with
    maxLength := clamp settings.maxLength
    maxEntries := clamp settings.maxEntries
    historyKey :=
      if (trim settings.historyKey).isEmpty then standard.historyKey else settings.historyKey }

/-- A bound is clamped once. -/
@[simp] theorem clamp_clamp (bound : Nat) : clamp (clamp bound) = clamp bound := by
  simp only [clamp, greatestBound]
  omega

/-- Settings within the bounds stay as they are. -/
theorem bounded_bounded (settings : Settings) : settings.bounded.bounded = settings.bounded := by
  have standardKey : (trim standard.historyKey).isEmpty = false := by decide +kernel
  by_cases blank : (trim settings.historyKey).isEmpty = true
  · simp [bounded, blank, standardKey]
  · simp [bounded, blank]

/-! ## Reading and writing -/

/-- Settings in which fields are filled one by one. -/
structure Draft where
  /-- The greatest length, once read. -/
  maxLength : Option Nat
  /-- The number of entries, once read. -/
  maxEntries : Option Nat
  /-- The key, once read. -/
  historyKey : Option (List Char)
  /-- The delay, once read. -/
  flashDelay : Option Nat

/-- A draft with no field filled. -/
def Draft.blank : Draft := ⟨none, none, none, none⟩

/-- The settings of a draft; what is not filled is standard. -/
def Draft.settings (draft : Draft) : Settings where
  maxLength := draft.maxLength.getD standard.maxLength
  maxEntries := draft.maxEntries.getD standard.maxEntries
  historyKey := draft.historyKey.getD standard.historyKey
  flashDelay := draft.flashDelay.getD standard.flashDelay

/-- Read a value and put it into a draft. -/
def readInto {Value : Type} (reader : Json.Reader Value) (put : Value → Draft) :
    Json.Reader Draft := fun text =>
  (reader text).map fun (value, rest) => (put value, rest)

/-- The name of the field for the greatest length. -/
def maxLengthName : List Char := "longueur_max".toList

/-- The name of the field for the number of entries. -/
def maxEntriesName : List Char := "historique_max".toList

/-- The name of the field for the storage key. -/
def historyKeyName : List Char := "cle_historique".toList

/-- The name of the field for the delay. -/
def flashDelayName : List Char := "delai_flash_ms".toList

/-- **The fields of a settings text**, in the order in which an array holds them. -/
def fields : List (Json.Field Draft) :=
  [ { name := maxLengthName
      filled := fun draft => draft.maxLength.isSome
      read := fun draft =>
        readInto Json.readNatural fun value => { draft with maxLength := some value } },
    { name := maxEntriesName
      filled := fun draft => draft.maxEntries.isSome
      read := fun draft =>
        readInto Json.readNatural fun value => { draft with maxEntries := some value } },
    { name := historyKeyName
      filled := fun draft => draft.historyKey.isSome
      read := fun draft =>
        readInto Json.readText fun value => { draft with historyKey := some value } },
    { name := flashDelayName
      filled := fun draft => draft.flashDelay.isSome
      read := fun draft =>
        readInto Json.readNatural fun value => { draft with flashDelay := some value } } ]

/-- **The settings of a JSON text**, within the bounds, or the fault in the text. -/
def ofJson (text : List Char) : Except Json.Fault Settings :=
  (Json.readDocument (Json.readRecord fields Draft.blank fun draft => some draft.settings) text).map
    bounded

/-- **The JSON text of settings**, without blanks. -/
def json (settings : Settings) : List Char :=
  '{' :: Json.writeString maxLengthName ++ ':' :: Nat.toDigits 10 settings.maxLength
    ++ ',' :: Json.writeString maxEntriesName ++ ':' :: Nat.toDigits 10 settings.maxEntries
    ++ ',' :: Json.writeString historyKeyName ++ ':' :: Json.writeString settings.historyKey
    ++ ',' :: Json.writeString flashDelayName ++ ':' :: Nat.toDigits 10 settings.flashDelay
    ++ ['}']

end Settings

end PocketCalc
