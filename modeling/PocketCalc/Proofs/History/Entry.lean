import PocketCalc.History.Entry
import PocketCalc.Proofs.Calendar.Reading
import PocketCalc.Proofs.Json.Record

/-! # Entries are read back

The stored text of a history gives exactly its entries back: expressions and results character by
character, moments to the nanosecond, in the same order.

* **`Entry.readsBack`** — an entry is read back.
* **`Entry.ofJson_listJson`** — so is a list of entries. -/

namespace PocketCalc.Entry

open Json

/-- A moment is read back. -/
theorem readMoment_writeString (moment : Timestamp) (rest : List Char) :
    readMoment (writeString moment.text ++ rest) = .ok (moment, rest) := by
  simp only [readMoment, readText_writeString, Timestamp.ofText?_text]

/-- The text of the members of an entry. -/
def members (entry : Entry) : List Char :=
  memberText true expressionName (writeString entry.expression) <|
    memberText false resultName (writeString entry.result) <|
      memberText false momentName (writeString entry.moment.text) []

/-- **The members of an entry fill its draft**, field by field. -/
theorem fills_members (entry : Entry) :
    Fills fields true Draft.blank entry.members
      ⟨some entry.expression, some entry.result, some entry.moment⟩ := by
  refine @Fills.member _ _ _ _ ⟨some entry.expression, none, none⟩ _ fields[0] _ _ rfl rfl ?_ ?_
  · intro rest
    simp [fields, readText_writeString, Except.map, Draft.blank]
  refine @Fills.member _ _ _ _ ⟨some entry.expression, some entry.result, none⟩ _ fields[1] _ _
    rfl rfl ?_ ?_
  · intro rest
    simp [fields, readText_writeString, Except.map]
  refine @Fills.member _ _ _ _ _ _ fields[2] _ _ rfl rfl ?_ .done
  · intro rest
    simp [fields, readMoment_writeString, Except.map]

/-- **An entry is read back.** -/
theorem readsBack : ReadsBack Entry.read json where
  visible := fun entry => ⟨'{', _, rfl, by decide, by decide⟩
  reads := by
    intro entry rest
    have shown : entry.json ++ rest = '{' :: entry.members ++ '}' :: rest := by
      simp [json, members, memberText, separator]
    have complete : Draft.entry? ⟨some entry.expression, some entry.result, some entry.moment⟩ =
        some entry := rfl
    rw [shown]
    exact (fills_members entry).readRecord complete rest

/-- **The entries of a stored text are those that were written.** -/
theorem ofJson_listJson (entries : List Entry) : ofJson (listJson entries) = .ok entries :=
  readsBack.list.document entries

end PocketCalc.Entry
