/-! # The size of a text

File systems and escapes count a text in bytes of UTF-8, the buffer counts it in characters.

* **`byteCount_append`** — the bytes of two texts add up.
* **`length_le_byteCount`** — a character takes at least one byte.
* **`byteCount_eq_length`** — an ASCII character takes no more.
* **`splitBytes?`** — a text in two parts, the first of some number of bytes.
* **`splitBytes?_append`** — two texts that are put together can be split again. -/

namespace PocketCalc

/-- The number of bytes that a text takes in UTF-8. -/
def byteCount : List Char → Nat
  | [] => 0
  | c :: rest => c.utf8Size + byteCount rest

/-- The bytes of two texts add up. -/
@[simp] theorem byteCount_append (first second : List Char) :
    byteCount (first ++ second) = byteCount first + byteCount second := by
  induction first with
  | nil => simp [byteCount]
  | cons c rest ih => rw [List.cons_append, byteCount, byteCount, ih, Nat.add_assoc]

/-- A text has no more characters than bytes. -/
theorem length_le_byteCount (text : List Char) : text.length ≤ byteCount text := by
  induction text with
  | nil => simp
  | cons c rest ih =>
    have positive := Char.utf8Size_pos c
    rw [List.length_cons, byteCount]
    omega

/-- A text of ASCII characters has as many bytes as characters. -/
theorem byteCount_eq_length {text : List Char} (ascii : ∀ c ∈ text, c.toNat < 128) :
    byteCount text = text.length := by
  induction text with
  | nil => rfl
  | cons c rest ih =>
    have one : c.utf8Size = 1 := by
      rw [Char.utf8Size_eq_one_iff, UInt32.le_iff_toNat_le]
      exact Nat.le_of_lt_succ (ascii c List.mem_cons_self)
    have others := ih fun other member => ascii other (List.mem_cons_of_mem c member)
    rw [byteCount, one, others, List.length_cons, Nat.add_comm]

/-- The letters and digits of the core library are ASCII characters. -/
theorem toNat_lt_of_isAlphanum {c : Char} (h : c.isAlphanum = true) : c.toNat < 128 := by
  delta Char.isAlphanum Char.isAlpha Char.isUpper Char.isLower Char.isDigit at h
  simp only [Bool.or_eq_true, Bool.and_eq_true, decide_eq_true_eq, UInt32.le_iff_toNat_le] at h
  have same : c.toNat = c.val.toNat := rfl
  rcases h with (⟨_, upper⟩ | ⟨_, lower⟩) | ⟨_, digit⟩
  · exact same ▸ Nat.lt_of_le_of_lt upper (by decide)
  · exact same ▸ Nat.lt_of_le_of_lt lower (by decide)
  · exact same ▸ Nat.lt_of_le_of_lt digit (by decide)

/-- A text in two parts, the first of which takes a number of bytes; none if the text is shorter or
the end of these bytes is inside a character. -/
def splitBytes? (count : Nat) : List Char → Option (List Char × List Char)
  | [] => if count = 0 then some ([], []) else none
  | c :: rest =>
    if count = 0 then some ([], c :: rest)
    else if c.utf8Size ≤ count then
      (splitBytes? (count - c.utf8Size) rest).map fun (first, second) => (c :: first, second)
    else none

/-- **Two texts that are put together** can be split again behind the bytes of the first. -/
theorem splitBytes?_append (first second : List Char) :
    splitBytes? (byteCount first) (first ++ second) = some (first, second) := by
  induction first with
  | nil => cases second <;> simp [byteCount, splitBytes?]
  | cons c rest ih =>
    have positive := Char.utf8Size_pos c
    rw [byteCount, List.cons_append, splitBytes?, if_neg (by omega), if_pos (by omega),
      Nat.add_sub_cancel_left, ih]
    rfl

end PocketCalc
