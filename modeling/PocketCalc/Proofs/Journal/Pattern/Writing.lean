import PocketCalc.Journal.Value
import PocketCalc.Proofs.Journal.Pattern.Reading
import Mathlib.Data.List.Induction

/-! # Patterns that are written down

The grammar of patterns without changes of modes, said without a stack: a piece is a character, one
of the signs that stand for places and characters, or alternatives in parentheses; a row consists of
pieces, each perhaps repeated, and alternatives are rows between bars. What the grammar writes is
read, and with the depth that the grammar gives it.

* **`Journal.Pattern.Writes`** — which texts the grammar writes, and how deep they are.
* **`Journal.Pattern.depth?_of_writes`** — what it writes is a pattern of that depth.
* **`Journal.Pattern.wellFormed_escape`** — every text has a pattern that stands for it. -/

namespace PocketCalc.Journal.Pattern

/-! ## The grammar -/

/-- A character as it is written where it stands for itself: signs stand behind a backslash, except
for the two that would be borders there. -/
def escape (c : Char) : List Char :=
  if Item.isSign c && c != '<' && c != '>' then ['\\', c] else [c]

/-- **What a text writes**, in depths. -/
inductive Part where
  /-- A piece. -/
  | piece (depth : Nat)
  /-- A row of pieces, from the last to the first. -/
  | row (depths : List Nat)
  /-- Alternatives: those before the last, and the row of the last. -/
  | choice (before : List Nat) (depths : List Nat)

/-- **The grammar of patterns.** `Writes text part` says that a text writes a part of a pattern. -/
inductive Writes : List Char → Part → Prop where
  /-- A character that stands for itself. -/
  | literal (c : Char) : Writes (escape c) (.piece 0)
  /-- Any character, the start or the end. -/
  | sign {c : Char} (listed : c ∈ ['.', '^', '$']) : Writes [c] (.piece 0)
  /-- Alternatives in parentheses. -/
  | group {inside : List Char} {before depths : List Nat}
      (choice : Writes inside (.choice before depths)) :
      Writes ('(' :: (inside ++ [')'])) (.piece (nesting (nesting depths :: before) + 1))
  /-- No piece. -/
  | empty : Writes [] (.row [])
  /-- A row with another piece. -/
  | next {text piece : List Char} {depths : List Nat} {depth : Nat}
      (row : Writes text (.row depths)) (last : Writes piece (.piece depth)) :
      Writes (text ++ piece) (.row (depth :: depths))
  /-- A row with another piece that is repeated. -/
  | repeated {text piece : List Char} {depths : List Nat} {depth : Nat} {c : Char}
      (row : Writes text (.row depths)) (last : Writes piece (.piece depth))
      (repeats : repeats c = true) :
      Writes (text ++ (piece ++ [c])) (.row ((depth + 1) :: depths))
  /-- One alternative. -/
  | alone {text : List Char} {depths : List Nat} (row : Writes text (.row depths)) :
      Writes text (.choice [] depths)
  /-- Another alternative. -/
  | alternative {text last : List Char} {before depths lastDepths : List Nat}
      (choice : Writes text (.choice before depths)) (row : Writes last (.row lastDepths)) :
      Writes (text ++ '|' :: last) (.choice (nesting depths :: before) lastDepths)

/-! ## Characters that stand for themselves -/

/-- The signs that are read otherwise at the start of a piece. -/
def reserved : List Char := ['(', ')', '|', '[', '*', '+', '?', '{', '\\', '.', '^', '$']

/-- The signs that are no items. -/
def structural : List Char := ['(', ')', '|', '[', '*', '+', '?', '{']

/-- What is written as itself is not reserved. -/
theorem notMem_reserved {c : Char} (plain : (Item.isSign c && c != '<' && c != '>') = false) :
    c ∉ reserved := by
  intro member
  have signs : reserved.all (fun c => Item.isSign c && c != '<' && c != '>') = true := by decide
  rw [List.all_eq_true.mp signs c member] at plain
  cases plain

/-- A character that stands for itself begins with no sign that is no item. -/
theorem exists_cons_escape (c : Char) : ∃ d others, escape c = d :: others ∧ d ∉ structural := by
  unfold escape
  split
  · exact ⟨'\\', [c], rfl, by decide⟩
  · rename_i plain
    have free := notMem_reserved (Bool.eq_false_iff.mpr plain)
    have listed : structural.all (reserved.contains ·) = true := by decide
    refine ⟨c, [], rfl, fun member => free ?_⟩
    exact List.contains_iff_mem.mp (List.all_eq_true.mp listed c member)

namespace Item

variable {mode : Mode} {c : Char}

/-- A sign behind a backslash stands for itself. -/
theorem escaped?_of_isSign (sign : (isSign c && c != '<' && c != '>') = true) (rest : List Char) :
    escaped? mode (c :: rest) = some (.character c, rest) := by
  simp only [Bool.and_eq_true, bne_iff_ne] at sign
  obtain ⟨⟨one, notLess⟩, notGreater⟩ := sign
  have noControl : controls.lookup c = none := by
    have letters : ∀ pair ∈ controls, isSign pair.1 = false := by decide
    refine List.lookup_eq_none_iff.mpr fun pair member => ?_
    rw [bne_iff_ne]
    rintro rfl
    rw [letters pair member] at one
    cases one
  unfold escaped?
  simp only
  split
  -- No letter is a sign, and the two signs for borders are left out.
  all_goals first
    | exact absurd one (by decide)
    | exact absurd rfl notLess
    | exact absurd rfl notGreater
    | rw [noControl, if_pos one]

/-- **A character that is written to stand for itself** is read as that. -/
theorem read?_escape (c : Char) (rest : List Char) :
    read? mode (escape c ++ rest) = some (.character c, rest) := by
  unfold escape
  split
  · rename_i sign
    exact escaped?_of_isSign sign rest
  · rename_i plain
    have free := notMem_reserved (Bool.eq_false_iff.mpr plain)
    simp only [reserved, List.mem_cons, not_or] at free
    rw [List.singleton_append]
    unfold read?
    split <;> simp_all

/-- The signs for places and characters are read as items that may stand anywhere. -/
theorem exists_read?_of_mem (listed : c ∈ ['.', '^', '$']) (rest : List Char) :
    ∃ item, read? mode (c :: rest) = some (item, rest) ∧ allowed Mode.standard item = true := by
  simp only [List.mem_cons, List.not_mem_nil, or_false] at listed
  rcases listed with rfl | rfl | rfl
  · exact ⟨.any, rfl, rfl⟩
  · exact ⟨.edge, rfl, rfl⟩
  · exact ⟨.edge, rfl, rfl⟩

end Item

/-! ## Reading without counting -/

/-- In the standard modes no text is layout. -/
theorem Mode.skip_standard (text : List Char) : Mode.standard.skip text = text := rfl

variable {names : List (List Char)} {outer : List Group} {group : Group}

/-- The rest of a pattern, read with a step for every character and one for the end. -/
def readAll (names : List (List Char)) (outer : List Group) (group : Group) (text : List Char) :
    Option Nat :=
  readFrom (text.length + 1) names outer group text

/-- More steps lead no further. -/
theorem readFrom_eq_readAll {fuel : Nat} {text : List Char} (enough : text.length < fuel) :
    readFrom fuel names outer group text = readAll names outer group text :=
  readFrom_eq_of_length_lt enough (Nat.lt_succ_self _)

/-- The end of a pattern. -/
theorem readAll_nil (standard : group.mode = Mode.standard) :
    readAll names [] group [] = some group.depth := by
  rw [readAll, readFrom, standard, Mode.skip_standard]
  rfl

/-- An item. -/
theorem readAll_item {c : Char} {rest behind : List Char} {item : Item}
    (standard : group.mode = Mode.standard) (free : c ∉ structural)
    (read : Item.read? Mode.standard (c :: rest) = some (item, behind))
    (allowed : item.allowed Mode.standard = true) :
    readAll names outer group (c :: rest) = readAll names outer (group.add 0) behind := by
  have shorter := Item.length_lt_of_read? read
  simp only [structural, List.mem_cons, List.not_mem_nil, or_false, not_or] at free
  obtain ⟨opens, closes, splits, lists, star, plus, question, counts⟩ := free
  have once : repeats c = false := by simp [repeats, star, plus, question]
  rw [readAll, readFrom, standard, Mode.skip_standard]
  simp only [if_neg opens, if_neg closes, if_neg splits, if_neg lists, once, if_neg counts, read,
    Option.bind_some, if_pos allowed]
  exact readFrom_eq_readAll shorter

/-- A parenthesis that opens a group without a mark. -/
theorem readAll_open {rest : List Char} (standard : group.mode = Mode.standard)
    (unmarked : rest.head? ≠ some '?') :
    readAll names outer group ('(' :: rest) =
      readAll names (group :: outer) (.starting Mode.standard) rest := by
  have opened : opening? Mode.standard rest = some (.group Mode.standard none, rest) := by
    unfold opening?
    rw [Mode.skip_standard]
    split <;> simp_all
  rw [readAll, readFrom, standard, Mode.skip_standard]
  simp only [if_true, opened]
  exact readFrom_eq_readAll (Nat.lt_succ_self _)

/-- A parenthesis that closes a group. -/
theorem readAll_close {parent : Group} {rest : List Char} (standard : group.mode = Mode.standard) :
    readAll names (parent :: outer) group (')' :: rest) =
      readAll names outer (parent.add (group.depth + 1)) rest := by
  rw [readAll, readFrom, standard, Mode.skip_standard]
  exact readFrom_eq_readAll (Nat.lt_succ_self _)

/-- A bar between alternatives. -/
theorem readAll_split {rest : List Char} (standard : group.mode = Mode.standard) :
    readAll names outer group ('|' :: rest) = readAll names outer group.split rest := by
  rw [readAll, readFrom, standard, Mode.skip_standard]
  exact readFrom_eq_readAll (Nat.lt_succ_self _)

/-- A sign that repeats the piece before it. -/
theorem readAll_repeated {c : Char} {rest : List Char} {depth : Nat}
    (standard : group.mode = Mode.standard) (sign : repeats c = true)
    (unmarked : rest.head? ≠ some '?') :
    readAll names outer (group.add depth) (c :: rest) =
      readAll names outer (group.add (depth + 1)) rest := by
  have repeated : (group.add depth).repeated? = some (group.add (depth + 1)) := rfl
  have alone : c ≠ '(' ∧ c ≠ ')' ∧ c ≠ '|' ∧ c ≠ '[' := by
    refine ⟨?_, ?_, ?_, ?_⟩ <;> rintro rfl <;> cases sign
  obtain ⟨opens, closes, splits, lists⟩ := alone
  rw [readAll, readFrom, show (group.add depth).mode = Mode.standard from standard,
    Mode.skip_standard]
  simp only [if_neg opens, if_neg closes, if_neg splits, if_neg lists, sign, if_true, repeated,
    Option.bind_some, if_neg unmarked]
  exact readFrom_eq_readAll (Nat.lt_succ_self _)

/-! ## Reading what is written -/

/-- A group with further pieces of the given depths, from the last to the first. -/
def Group.addAll (group : Group) (depths : List Nat) : Group :=
  { group with pieces := depths.map .nested ++ group.pieces }

/-- The depths of pieces are those they were added with. -/
theorem depth_addAll (before depths : List Nat) :
    (Group.addAll ⟨Mode.standard, before, []⟩ depths).alternativeDepth = nesting depths := by
  have same : Piece.depth ∘ Piece.nested = id := rfl
  rw [Group.alternativeDepth, Group.addAll, List.append_nil, List.map_map, same, List.map_id]

/-- **What it means to read a part**: behind its text the group has what the part adds. Directly
behind a sign of repetition a question mark would belong to that, so rows and alternatives are read
before other characters. -/
def Part.IsRead (text : List Char) : Part → Prop
  | piece depth => ∀ names outer (group : Group) rest, group.mode = Mode.standard →
      readAll names outer group (text ++ rest) = readAll names outer (group.add depth) rest
  | row depths => ∀ names outer (group : Group) rest, group.mode = Mode.standard →
      rest.head? ≠ some '?' →
      readAll names outer group (text ++ rest) = readAll names outer (group.addAll depths) rest
  | choice before depths => ∀ names outer rest, rest.head? ≠ some '?' →
      readAll names outer (.starting Mode.standard) (text ++ rest) =
        readAll names outer (Group.addAll ⟨Mode.standard, before, []⟩ depths) rest

/-- A text begins with no question mark if its parts do not. -/
theorem head?_append_ne {text rest : List Char} (first : text.head? ≠ some '?')
    (second : rest.head? ≠ some '?') : (text ++ rest).head? ≠ some '?' := by
  cases text with
  | nil => exact second
  | cons c others => exact first

/-- Nor does it if it begins with something else. -/
theorem head?_append_ne_of_ne_nil {text : List Char} (something : text ≠ [])
    (first : text.head? ≠ some '?') (rest : List Char) : (text ++ rest).head? ≠ some '?' := by
  cases text with
  | nil => exact absurd rfl something
  | cons c others => exact first

namespace Writes

variable {text : List Char} {part : Part}

/-- A piece is written as something. -/
theorem ne_nil {depth : Nat} (writes : Writes text (.piece depth)) : text ≠ [] := by
  cases writes with
  | literal c =>
    unfold escape
    split <;> simp
  | sign listed => simp
  | group choice => simp

/-- **Nothing that is written** begins with a question mark. -/
theorem head?_ne (writes : Writes text part) : text.head? ≠ some '?' := by
  induction writes with
  | literal c =>
    obtain ⟨d, others, written, free⟩ := exists_cons_escape c
    rw [written]
    rintro ⟨rfl⟩
    exact free (by decide)
  | sign listed =>
    rintro ⟨rfl⟩
    exact absurd listed (by decide)
  | group choice _ => simp
  | empty => simp
  | next row last ihRow ihLast => exact head?_append_ne ihRow ihLast
  | @repeated _ _ _ _ c row last repeats ihRow ihLast =>
    exact head?_append_ne ihRow (head?_append_ne_of_ne_nil last.ne_nil ihLast [c])
  | alone row ih => exact ih
  | alternative choice row ihChoice ihRow => exact head?_append_ne ihChoice (by simp)

/-- **What the grammar writes** is read as the part that it is. -/
theorem isRead (writes : Writes text part) : part.IsRead text := by
  induction writes with
  | literal c =>
    intro names outer group rest standard
    obtain ⟨d, others, written, free⟩ := exists_cons_escape c
    have read : Item.read? Mode.standard (escape c ++ rest) = some (.character c, rest) :=
      Item.read?_escape c rest
    rw [written] at read ⊢
    exact readAll_item standard free read rfl
  | @sign c listed =>
    intro names outer group rest standard
    obtain ⟨item, read, allowed⟩ := Item.exists_read?_of_mem listed rest
    have free : c ∉ structural := by
      simp only [List.mem_cons, List.not_mem_nil, or_false] at listed
      rcases listed with rfl | rfl | rfl <;> decide
    exact readAll_item standard free read allowed
  | @group inside before depths choice ih =>
    intro names outer group rest standard
    have unmarked : (inside ++ ')' :: rest).head? ≠ some '?' :=
      head?_append_ne choice.head?_ne (by simp)
    rw [List.cons_append, List.append_assoc, List.singleton_append,
      readAll_open standard unmarked, ih _ _ _ (by simp), readAll_close rfl, Group.depth,
      depth_addAll]
    rfl
  | empty =>
    intro names outer group rest standard unmarked
    rfl
  | @next text piece depths depth row last ihRow ihLast =>
    intro names outer group rest standard unmarked
    have behind : (piece ++ rest).head? ≠ some '?' := head?_append_ne last.head?_ne unmarked
    rw [List.append_assoc, ihRow names outer group _ standard behind]
    exact ihLast names outer (group.addAll depths) rest standard
  | @repeated text piece depths depth c row last repeats ihRow ihLast =>
    intro names outer group rest standard unmarked
    have behind : (piece ++ ([c] ++ rest)).head? ≠ some '?' :=
      head?_append_ne_of_ne_nil last.ne_nil last.head?_ne _
    rw [List.append_assoc, List.append_assoc, ihRow names outer group _ standard behind,
      ihLast names outer (group.addAll depths) _ standard, List.singleton_append]
    exact readAll_repeated standard repeats unmarked
  | alone row ih =>
    intro names outer rest unmarked
    exact ih names outer _ rest rfl unmarked
  | alternative choice row ihChoice ihRow =>
    intro names outer rest unmarked
    rw [List.append_assoc, ihChoice names outer _ (by simp), List.cons_append, readAll_split rfl,
      Group.split, depth_addAll]
    exact ihRow names outer _ rest rfl unmarked

end Writes

/-- **What the grammar writes** is a pattern of the depth that the grammar gives it. -/
theorem depth?_of_writes {text : List Char} {before depths : List Nat}
    (writes : Writes text (.choice before depths)) :
    depth? text = some (nesting (nesting depths :: before)) := by
  have read := writes.isRead [] [] [] (by simp)
  rw [List.append_nil, readAll_nil rfl, Group.depth, depth_addAll] at read
  exact read

/-- So it is a pattern unless it is too deep. -/
theorem wellFormed_of_writes {text : List Char} {before depths : List Nat}
    (writes : Writes text (.choice before depths)) :
    wellFormed text = decide (nesting (nesting depths :: before) ≤ deepest) := by
  rw [wellFormed, depth?_of_writes writes, Option.any_some]

/-! ## Texts as patterns -/

/-- A text is written as a row of its characters. -/
theorem writes_flatMap_escape (text : List Char) :
    Writes (text.flatMap escape) (.row (List.replicate text.length 0)) := by
  induction text using List.reverseRecOn with
  | nil => exact .empty
  | append_singleton text c ih =>
    rw [List.flatMap_append, List.flatMap_singleton, List.length_append, List.length_singleton,
      List.replicate_succ]
    exact .next ih (.literal c)

/-- A row of characters is at most one deep. -/
theorem nesting_replicate_le (count : Nat) : nesting (List.replicate count 0) ≤ 1 := by
  have flat : (List.replicate count 0).foldl max 0 = 0 := by
    induction count with
    | zero => rfl
    | succ count ih => exact ih
  match count with
  | 0 => exact Nat.zero_le _
  | 1 => exact Nat.zero_le _
  | count + 2 => exact Nat.le_of_eq (congrArg (· + 1) flat)

/-- **Every text has a pattern** that stands for it. -/
theorem wellFormed_escape (text : List Char) : wellFormed (text.flatMap escape) = true := by
  rw [wellFormed_of_writes (.alone (writes_flatMap_escape text)), decide_eq_true_eq]
  exact Nat.le_trans (nesting_replicate_le text.length) (by decide)

/-- Every text can be asked for as a value. -/
theorem isValue_escape (text : List Char) : isValue (text.flatMap escape) = true := by
  rw [isValue, wellFormed_escape, Bool.or_true]

end PocketCalc.Journal.Pattern
