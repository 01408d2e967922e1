import PocketCalc.Proofs.Json.Text

/-! # Lists and members are read back

A reader that takes exactly the text of a value off the front, whatever follows, takes a whole list
of them off in the same way, and the members of an object one after the other.

* **`Json.ReadsBack`** — a reader that inverts a writer.
* **`Json.ReadsBack.list`** — lists of values are read back.
* **`Json.ReadsBack.document`** — so is a document.
* **`Json.Fills`** — the members that fill the draft of a record.
* **`Json.Fills.readRecord`** — a record is read back from such members. -/

namespace PocketCalc.Json

variable {Value Draft : Type}

/-- **A reader that inverts a writer.** -/
structure ReadsBack (reader : Reader Value) (write : Value → List Char) : Prop where
  /-- A value is read back, and what follows its text is left. -/
  reads : ∀ value rest, reader (write value ++ rest) = .ok (value, rest)
  /-- The text of a value starts neither with a blank nor with the end of an array. -/
  visible : ∀ value, ∃ first others,
    write value = first :: others ∧ isSpace first = false ∧ first ≠ ']'

/-- Nothing is skipped before a character that is no blank. -/
theorem skipSpace_cons {c : Char} (visible : isSpace c = false) (rest : List Char) :
    skipSpace (c :: rest) = c :: rest := by
  rw [skipSpace, List.dropWhile_cons_of_neg (by simp [visible])]

/-! ## Documents -/

/-- **A document is read back.** -/
theorem ReadsBack.document {reader : Reader Value} {write : Value → List Char}
    (inverts : ReadsBack reader write) (value : Value) :
    readDocument reader (write value) = .ok value := by
  have read := inverts.reads value []
  rw [List.append_nil] at read
  rw [readDocument, read]
  rfl

/-! ## Lists -/

/-- The text of a list. -/
def listText (write : Value → List Char) (values : List Value) : List Char :=
  '[' :: List.intercalate [','] (values.map write) ++ [']']

/-- The text of the elements behind the first one, each with its comma. -/
def tailText (write : Value → List Char) (values : List Value) : List Char :=
  values.flatMap fun value => ',' :: write value

/-- A comma, an element and those behind it. -/
theorem tailText_cons (write : Value → List Char) (value : Value) (others : List Value) :
    tailText write (value :: others) = ',' :: (write value ++ tailText write others) := by
  rw [tailText, List.flatMap_cons, List.cons_append, tailText]

/-- The first element has no comma. -/
theorem intercalate_map_cons (write : Value → List Char) (first : Value) (others : List Value) :
    List.intercalate [','] ((first :: others).map write) =
      write first ++ tailText write others := by
  induction others generalizing first with
  | nil => simp [List.intercalate, tailText]
  | cons second others ih =>
    have behind := ih second
    rw [List.intercalate, List.map_cons] at behind ⊢
    rw [tailText_cons, ← behind, List.map_cons, List.intersperse_cons_cons, List.flatten_cons,
      List.flatten_cons, List.cons_append, List.nil_append]

section Elements

variable {item : Reader Value} {write : Value → List Char}

/-- An element starts behind its comma. -/
theorem nextElement_comma {first : Char} (visible : isSpace first = false) (inside : first ≠ ']')
    (rest : List Char) :
    nextElement false (',' :: first :: rest) = .ok (some (first :: rest)) := by
  have comma : isSpace ',' = false := by decide
  have separates : (',' : Char) ≠ ']' := by decide
  simp only [nextElement, skipSpace_cons comma, skipSpace_cons visible, if_neg separates,
    Bool.false_eq_true, if_false, if_true]
  split
  · rename_i none
    cases none
  · rename_i ends
    exact absurd (List.cons.inj ends).1 inside
  · rfl

/-- The elements behind the first one are read back, up to the end of the array. -/
theorem readItems_comma (inverts : ReadsBack item write) {values : List Value} {fuel : Nat}
    (enough : (tailText write values).length < fuel) (rest : List Char) :
    readItems item fuel false (tailText write values ++ ']' :: rest) =
      .ok (values, ']' :: rest) := by
  induction values generalizing fuel with
  | nil =>
    obtain ⟨fuel, rfl⟩ := Nat.exists_eq_add_one.mpr enough
    rfl
  | cons value others ih =>
    obtain ⟨fuel, rfl⟩ := Nat.exists_eq_add_one.mpr (Nat.zero_lt_of_lt enough)
    rw [tailText_cons, List.length_cons, List.length_append] at enough
    have behind := @ih fuel (by omega)
    -- The reader of the element leaves exactly the text that the induction is about.
    have read := inverts.reads value (tailText write others ++ ']' :: rest)
    obtain ⟨first, text, shown, visible, inside⟩ := inverts.visible value
    rw [tailText_cons, List.cons_append, List.append_assoc]
    rw [shown, List.cons_append] at read ⊢
    simp only [readItems, nextElement_comma visible inside, read, behind]
    rfl

/-- **Lists are read back.** -/
theorem ReadsBack.list (inverts : ReadsBack item write) :
    ReadsBack (readList item) (listText write) where
  visible := fun values => ⟨'[', _, rfl, by decide, by decide⟩
  reads := by
    intro values rest
    cases values with
    | nil => rfl
    | cons value others =>
      -- The first element has no comma, so its step is not one of those behind it.
      have opened : listText write (value :: others) ++ rest =
          '[' :: (write value ++ (tailText write others ++ ']' :: rest)) := by
        simp only [listText, intercalate_map_cons, List.cons_append, List.append_assoc,
          List.nil_append]
      have enough : (tailText write others).length <
          (write value ++ (tailText write others ++ ']' :: rest)).length := by
        rw [List.length_append, List.length_append, List.length_cons]
        omega
      have behind := readItems_comma inverts enough rest
      have read := inverts.reads value (tailText write others ++ ']' :: rest)
      obtain ⟨first, text, shown, visible, inside⟩ := inverts.visible value
      have bracket : isSpace '[' = false := by decide
      rw [opened]
      rw [shown, List.cons_append] at read behind ⊢
      simp only [readList, skipSpace_cons bracket, readItems, nextElement, skipSpace_cons visible,
        if_neg inside, if_true, read, behind]
      rfl

end Elements

/-! ## Members of an object -/

/-- What stands before a member: a comma, but not before the first one. -/
def separator (isFirst : Bool) : List Char := if isFirst then [] else [',']

/-- The name of a member is found behind its separator. -/
theorem nextMember_writeString (isFirst : Bool) (name rest : List Char) :
    nextMember isFirst (separator isFirst ++ (writeString name ++ rest)) =
      .ok (some (name.flatMap writeChar ++ quotationMark :: rest)) := by
  have shown : writeString name ++ rest =
      quotationMark :: (name.flatMap writeChar ++ quotationMark :: rest) := by
    simp only [writeString, List.cons_append, List.append_assoc, List.nil_append]
  rw [shown]
  cases isFirst <;> rfl

/-- The text of a member and of those behind it. -/
def memberText (isFirst : Bool) (name value others : List Char) : List Char :=
  separator isFirst ++ (writeString name ++ ':' :: (value ++ others))

/-- **Members that fill a draft**, one for each field that gets a value: the draft before them,
their text and the draft afterwards. -/
inductive Fills (fields : List (Field Draft)) : Bool → Draft → List Char → Draft → Prop where
  /-- There are no more members. -/
  | done {isFirst : Bool} {draft : Draft} : Fills fields isFirst draft [] draft
  /-- A member of a field that is not filled yet, and those behind it. -/
  | member {isFirst : Bool} {draft next filled : Draft} {field : Field Draft}
      {value others : List Char}
      (known : fields.find? (fun other => other.name == field.name) = some field)
      (blank : field.filled draft = false)
      (reads : ∀ rest, field.read draft (value ++ rest) = .ok (next, rest))
      (behind : Fills fields false next others filled) :
      Fills fields isFirst draft (memberText isFirst field.name value others) filled

/-- **The members are read into the draft**, up to the end of the object. -/
theorem Fills.readMembers {fields : List (Field Draft)} {isFirst : Bool} {draft filled : Draft}
    {text : List Char} (fills : Fills fields isFirst draft text filled) {fuel : Nat}
    (enough : text.length < fuel) (rest : List Char) :
    readMembers fields fuel isFirst draft (text ++ '}' :: rest) = .ok (filled, '}' :: rest) := by
  induction fills generalizing fuel with
  | done =>
    obtain ⟨fuel, rfl⟩ := Nat.exists_eq_add_one.mpr enough
    rfl
  | @member isFirst draft next filled field value others known blank reads _ ih =>
    obtain ⟨fuel, rfl⟩ := Nat.exists_eq_add_one.mpr (Nat.zero_lt_of_lt enough)
    simp only [memberText, List.length_append, List.length_cons] at enough
    have behind := @ih fuel (by omega)
    -- The name is found behind its separator, the value behind its colon.
    have colon (text : List Char) : readColon (':' :: text) = .ok text := rfl
    simp only [memberText, List.append_assoc, List.cons_append, Json.readMembers,
      nextMember_writeString, readMember, readString_flatMap_writeChar, known, blank,
      Bool.false_eq_true, if_false, colon, reads, behind]

/-- **A record is read back** from an object whose members fill its draft. -/
theorem Fills.readRecord {fields : List (Field Draft)} {draft filled : Draft} {text : List Char}
    (fills : Fills fields true draft text filled) {finish : Draft → Option Value} {value : Value}
    (finished : finish filled = some value) (rest : List Char) :
    readRecord fields draft finish ('{' :: text ++ '}' :: rest) = .ok (value, rest) := by
  have enough : text.length < (text ++ '}' :: rest).length + 1 := by
    rw [List.length_append]
    omega
  have read := fills.readMembers enough rest
  have brace : isSpace '{' = false := by decide
  simp only [Json.readRecord, List.cons_append, skipSpace_cons brace, read, finished]
  rfl

end PocketCalc.Json
