import PocketCalc.Typing.Sign

/-! # What the sign key does

The sign key does one of five things to a text, and which one follows from the text. Everything that
is proved of the key is proved of these five.

* **`unwrap?_eq_some_iff`** — what is unwrapped is the inside of a wrapper.
* **`Buffer.Toggles`** — the five things.
* **`Buffer.toggleSign_eq_ok_iff`** — the key does these and nothing else.
* **`Buffer.toggleSign_eq_of_error`** — where it is refused, it does nothing. -/

namespace PocketCalc

/-! ## Wrappers -/

/-- A text begins with what stands before the text behind it. -/
theorem behind?_eq_some_iff {start text rest : List Char} :
    behind? start text = some rest ↔ text = start ++ rest := by
  unfold behind?
  constructor
  · intro found
    split at found
    · rename_i begins
      obtain ⟨more, rfl⟩ := List.isPrefixOf_iff_prefix.mp begins
      rw [List.drop_left, Option.some.injEq] at found
      rw [found]
    · cases found
  · rintro rfl
    rw [if_pos (List.isPrefixOf_iff_prefix.mpr (List.prefix_append start rest)), List.drop_left]

/-- A text that does not begin so has nothing behind it. -/
theorem behind?_eq_none_iff {start text : List Char} :
    behind? start text = none ↔ ∀ rest, text ≠ start ++ rest := by
  simp only [Option.eq_none_iff_forall_ne_some, ne_eq, behind?_eq_some_iff]

/-- A text ends with the character that stands behind the text before it. -/
theorem before?_eq_some_iff {last : Char} {text rest : List Char} :
    before? last text = some rest ↔ text = rest ++ [last] := by
  unfold before?
  constructor
  · intro found
    split at found
    · rename_i ends
      obtain ⟨start, rfl⟩ := List.getLast?_eq_some_iff.mp ends
      rw [List.dropLast_concat, Option.some.injEq] at found
      rw [found]
    · cases found
  · rintro rfl
    simp

/-- **What is unwrapped is the inside of a wrapper**, and it closes no parenthesis outside. -/
theorem unwrap?_eq_some_iff {text inside : List Char} :
    unwrap? text = some inside ↔ text = wrap inside ∧ staysOpen 0 inside = true := by
  constructor
  · intro unwrapped
    simp only [unwrap?, Option.bind_eq_bind, Option.bind_eq_some_iff] at unwrapped
    obtain ⟨tail, begins, kept, ends, checked⟩ := unwrapped
    split at checked
    · rename_i stays
      obtain rfl : kept = inside := Option.some.inj checked
      rw [behind?_eq_some_iff.mp begins, before?_eq_some_iff.mp ends, wrap, List.append_assoc]
      exact ⟨rfl, stays⟩
    · cases checked
  · rintro ⟨rfl, stays⟩
    exact unwrap?_wrap stays

/-- A wrapper has seven characters. -/
@[simp] theorem length_wrap (text : List Char) : (wrap text).length = text.length + 7 := by
  simp only [wrap, wrapperStart, List.length_append, List.length_cons, List.length_nil]
  omega

namespace Buffer

/-! ## The five cases -/

/-- There is room exactly within the limit. -/
theorem checkRoom_eq_ok_iff {buffer : Buffer} {added : Nat} :
    buffer.checkRoom added = .ok () ↔ buffer.length + added ≤ buffer.limit := by
  unfold checkRoom
  split
  · rename_i full
    exact iff_of_false nofun (Nat.not_le.mpr full)
  · rename_i room
    exact iff_of_true rfl (Nat.le_of_not_lt room)

/-- **What the sign key does to a buffer.** -/
inductive Toggles (buffer : Buffer) : Buffer → Prop where
  /-- Nothing is typed, and a number is begun with its sign. -/
  | begun (nothing : buffer.text = []) : Toggles buffer { buffer with text := ['-'] }
  /-- A wrapped text is unwrapped. -/
  | unwrapped {inside : List Char} (wrapped : unwrap? buffer.text = some inside) :
      Toggles buffer { buffer with text := inside }
  /-- A number loses its sign. -/
  | unsigned {unsigned : List Char} (bare : unwrap? buffer.text = none)
      (number : isPlainNumber buffer.text = true) (signed : buffer.text = '-' :: unsigned) :
      Toggles buffer { buffer with text := unsigned }
  /-- A number gains a sign, if there is room. -/
  | signed (bare : unwrap? buffer.text = none) (number : isPlainNumber buffer.text = true)
      (positive : ∀ unsigned, buffer.text ≠ '-' :: unsigned)
      (room : buffer.length + 1 ≤ buffer.limit) :
      Toggles buffer { buffer with text := '-' :: buffer.text }
  /-- Anything else is wrapped, if there is room. -/
  | wrapped (something : buffer.text ≠ []) (bare : unwrap? buffer.text = none)
      (other : isPlainNumber buffer.text = false) (room : buffer.length + 7 ≤ buffer.limit) :
      Toggles buffer { buffer with text := wrap buffer.text }

/-- No number is empty. -/
theorem ne_nil_of_isPlainNumber {text : List Char} (number : isPlainNumber text = true) :
    text ≠ [] := by
  rintro rfl
  cases number

/-- **The sign key does exactly these things**; where none of them can be done it is refused. -/
theorem toggleSign_eq_ok_iff {buffer next : Buffer} :
    buffer.toggleSign = (.ok (), next) ↔ buffer.Toggles next := by
  constructor
  · -- the branches of the decision in order
    intro toggled
    unfold toggleSign at toggled
    split at toggled
    · rename_i nothing
      obtain rfl := (Prod.mk.inj toggled).2
      exact .begun (List.isEmpty_iff.mp nothing)
    rename_i something
    split at toggled
    · rename_i wrapped
      obtain rfl := (Prod.mk.inj toggled).2
      exact .unwrapped wrapped
    rename_i bare
    split at toggled
    · rename_i number
      split at toggled
      · rename_i signed
        obtain rfl := (Prod.mk.inj toggled).2
        exact .unsigned bare number (behind?_eq_some_iff.mp signed)
      · rename_i positive
        split at toggled
        · cases toggled
        · rename_i room
          obtain rfl := (Prod.mk.inj toggled).2
          exact .signed bare number (behind?_eq_none_iff.mp positive) (checkRoom_eq_ok_iff.mp room)
    · rename_i other
      split at toggled
      · cases toggled
      · rename_i room
        obtain rfl := (Prod.mk.inj toggled).2
        exact .wrapped (mt List.isEmpty_iff.mpr something) bare (Bool.not_eq_true _ ▸ other)
          (checkRoom_eq_ok_iff.mp room)
  · intro toggles
    unfold toggleSign
    cases toggles with
    | begun nothing => rw [nothing]; rfl
    | unwrapped wrapped =>
      have something : buffer.text.isEmpty = false := by
        rw [(unwrap?_eq_some_iff.mp wrapped).1]
        rfl
      rw [something, wrapped]
      rfl
    | unsigned bare number signed =>
      have taken : behind? ['-'] buffer.text = some _ := behind?_eq_some_iff.mpr signed
      have something := mt List.isEmpty_iff.mp (ne_nil_of_isPlainNumber number)
      rw [if_neg something, bare]
      simp only [number, taken, if_true]
    | signed bare number positive room =>
      have taken : behind? ['-'] buffer.text = none := behind?_eq_none_iff.mpr positive
      have something := mt List.isEmpty_iff.mp (ne_nil_of_isPlainNumber number)
      rw [if_neg something, bare]
      simp only [number, taken, if_true, checkRoom_eq_ok_iff.mpr room]
    | wrapped something bare other room =>
      have checked : buffer.checkRoom (wrapperStart.length + 1) = .ok () :=
        checkRoom_eq_ok_iff.mpr room
      rw [if_neg (mt List.isEmpty_iff.mp something), bare]
      simp only [other, checked, Bool.false_eq_true, if_false]

/-- **Where the sign key is refused, it changes nothing**: the room is checked before the text is
changed. -/
theorem toggleSign_eq_of_error {buffer next : Buffer} {refusal : Refusal}
    (refused : buffer.toggleSign = (.error refusal, next)) : next = buffer := by
  unfold toggleSign at refused
  -- a refusal comes from one of the two checks of the room
  repeat' split at refused
  all_goals first | exact (Prod.mk.inj refused).2.symm | cases refused

end Buffer

end PocketCalc
