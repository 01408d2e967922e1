import Mathlib.Data.List.InsertIdx
import Mathlib.Data.List.Induction
import PocketCalc.History.Basic

/-! # The numbers of entries

Entries are told apart by numbers, which they get in order of age: first those that are loaded,
from the oldest on, and then those that are recorded. The history itself knows no numbers, and two
of its entries may be equal. Along a run it is a list of numbers that fall, each entry has stayed
what it was when it got its number, and where a number is missing there was a reason.

* **`HistoryChange`**, **`History.run`** — changes, and the history after several of them.
* **`annals`** — all entries that were ever loaded or recorded, by their numbers.
* **`Loses`** — the reasons for which a change loses an entry.
* **`IsNumbering`** — what the numbers present tell about every moment of a run.
* **`Numbered.apply`**, **`notMem_renumber_iff`** — one change.
* **`notMem_present_iff`** — an entry is missing exactly if it was lost.
* **`exists_isNumbering`** — every run can be numbered. -/

namespace PocketCalc

/-! ## Runs -/

/-- **A change of the history.** -/
inductive HistoryChange where
  /-- An evaluation is recorded. -/
  | record (entry : Entry)
  /-- The entry at an index is removed. -/
  | remove (index : Nat)
  /-- All entries are removed. -/
  | clear
  deriving DecidableEq, Repr

/-- The entry that a change records. -/
def HistoryChange.recorded? : HistoryChange → Option Entry
  | record entry => some entry
  | remove _ => none
  | clear => none

namespace History

/-- The history after a change. -/
def apply (history : History) : HistoryChange → History
  | .record entry => history.record entry
  | .remove index => history.remove index
  | .clear => history.clear

/-- **The history after several changes.** -/
def run (history : History) (changes : List HistoryChange) : History := changes.foldl apply history

variable {history : History}

/-- The last change is made behind the others. -/
theorem run_concat (changes : List HistoryChange) (change : HistoryChange) :
    history.run (changes ++ [change]) = (history.run changes).apply change := by
  simp [run]

/-- No change moves the bound. -/
@[simp] theorem limit_apply (change : HistoryChange) :
    (history.apply change).limit = history.limit := by
  cases change <;> rfl

/-- Nor does a run. -/
@[simp] theorem limit_run (changes : List HistoryChange) :
    (history.run changes).limit = history.limit := by
  induction changes using List.reverseRecOn with
  | nil => rfl
  | append_singleton changes change ih => rw [run_concat, limit_apply, ih]

/-- Beyond the last entry, a removal only saves. -/
theorem remove_of_length_le {index : Nat} (beyond : history.entries.length ≤ index) :
    history.remove index = history.save.2 := by
  rw [remove, removed, List.eraseIdx_of_length_le beyond]
  rfl

/-- The entries that are stored under a key, newest first; none if they cannot be read. -/
def storedOrNone (storage : Storage) (key : List Char) : List Entry :=
  (storedEntries storage key).toOption.getD []

/-- **What is loaded is what is stored**, without the oldest entries beyond the bound. -/
theorem entries_load_eq_take (storage : Storage) (key : List Char) (limit : Nat) :
    (load storage key limit).entries = (storedOrNone storage key).take limit := by
  rw [load, storedOrNone]
  cases storedEntries storage key with
  | error cause => exact List.take_nil.symm
  | ok entries => rfl

end History

/-! ## Numbers -/

/-- **All entries that were ever loaded or recorded**, the oldest first. The number of an entry is
its place among them. -/
def annals (loaded : List Entry) (changes : List HistoryChange) : List Entry :=
  loaded.reverse ++ changes.filterMap HistoryChange.recorded?

/-- A change adds the entry that it records. -/
theorem annals_concat (loaded : List Entry) (changes : List HistoryChange)
    (change : HistoryChange) :
    annals loaded (changes ++ [change]) = annals loaded changes ++ change.recorded?.toList := by
  rw [annals, annals, List.filterMap_append, List.append_assoc]
  cases change <;> rfl

/-- No entry of the annals is ever taken out. -/
theorem annals_mono {loaded : List Entry} {before changes : List HistoryChange}
    (part : before <+: changes) : annals loaded before <+: annals loaded changes :=
  (List.prefix_append_right_inj _).mpr (part.filterMap _)

/-- **How a change loses the entry with a number**, where `present` are the numbers of the entries
before it and `next` is the one that a recorded entry gets. -/
inductive Loses (limit next : Nat) (present : List Nat) (number : Nat) : HistoryChange → Prop where
  /-- It stands at the index of a removal. -/
  | removed {index : Nat} (there : present[index]? = some number) :
      Loses limit next present number (.remove index)
  /-- It is there when all entries are removed. -/
  | cleared (there : number ∈ present) : Loses limit next present number .clear
  /-- An entry is recorded, and then at least as many are newer than it as there may be entries. -/
  | crowded {entry : Entry} (there : number ∈ next :: present)
      (newer : limit ≤ (next :: present).countP (number < ·)) :
      Loses limit next present number (.record entry)

/-- **How an entry is lost** in the course of changes: it was left out when the history was loaded,
because at least as many loaded entries are newer as there may be entries, or a change lost it. -/
def Lost (limit : Nat) (loaded : List Entry) (present : List HistoryChange → List Nat)
    (number : Nat) (changes : List HistoryChange) : Prop :=
  number + limit < loaded.length ∨ ∃ before change, before ++ [change] <+: changes ∧
    Loses limit (annals loaded before).length (present before) number change

/-- **A numbering of all runs** of a history that starts with what was loaded. It gives the numbers
of the entries that are present after any changes. -/
structure IsNumbering (start : History) (loaded : List Entry)
    (present : List HistoryChange → List Nat) : Prop where
  /-- There are no more entries than the bound. -/
  bounded : ∀ changes, (start.run changes).entries.length ≤ start.limit
  /-- Every entry is what it was when it got its number. -/
  entries : ∀ changes, (start.run changes).entries.map some =
    (present changes).map fun number => (annals loaded changes)[number]?
  /-- The newest entry comes first, and none is there twice. -/
  decreasing : ∀ changes, (present changes).Pairwise (· > ·)
  /-- A removal beyond the last entry changes nothing, though the entries are saved once more. -/
  beyond : ∀ changes index, (start.run changes).entries.length ≤ index →
    present (changes ++ [.remove index]) = present changes ∧
      (start.run (changes ++ [.remove index])).entries = (start.run changes).entries ∧
      start.run (changes ++ [.remove index]) = (start.run changes).save.2
  /-- An entry that was loaded or recorded is missing exactly if it was lost. -/
  missing : ∀ changes number, number < (annals loaded changes).length →
    (number ∉ present changes ↔ Lost start.limit loaded present number changes)
  /-- An entry that is missing does not come back. -/
  gone : ∀ changes later number, number < (annals loaded changes).length →
    number ∉ present changes → number ∉ present (changes ++ later)

/-! ## One change -/

namespace HistoryChange

/-- The numbers that are there while a change is made, that of a recorded entry among them. -/
def held (next : Nat) (present : List Nat) : HistoryChange → List Nat
  | record _ => next :: present
  | remove _ => present
  | clear => present

/-- The numbers that are there after it. -/
def renumber (limit next : Nat) (present : List Nat) : HistoryChange → List Nat
  | record _ => (next :: present).take limit
  | remove index => present.eraseIdx index
  | clear => []

/-- What is there after a change was held, in the same order. -/
theorem renumber_sublist (limit next : Nat) (present : List Nat) (change : HistoryChange) :
    (change.renumber limit next present).Sublist (change.held next present) := by
  cases change with
  | record entry => exact List.take_sublist limit _
  | remove index => exact List.eraseIdx_sublist present index
  | clear => exact List.nil_sublist present

/-- What is held was there, or it gets its number now. -/
theorem mem_held_iff {annals : List Entry} {present : List Nat} {number : Nat}
    (change : HistoryChange) :
    number ∈ change.held annals.length present ↔ number ∈ present ∨
      (annals.length ≤ number ∧ number < (annals ++ change.recorded?.toList).length) := by
  cases change with
  | record entry =>
    rw [held, recorded?, Option.toList_some, List.length_append, List.length_singleton,
      List.mem_cons, or_comm]
    exact or_congr_right (by omega)
  | remove index | clear =>
    have none : ¬ (annals.length ≤ number ∧ number < annals.length) := by omega
    simp only [held, recorded?, Option.toList_none, List.append_nil, none, or_false]

end HistoryChange

/-- **A history with the numbers of its entries.** -/
structure Numbered (annals : List Entry) (present : List Nat) (history : History) : Prop where
  /-- There are no more entries than the bound. -/
  bounded : history.entries.length ≤ history.limit
  /-- The entries are those with the numbers. -/
  entries : history.entries.map some = present.map fun number => annals[number]?
  /-- The numbers fall. -/
  decreasing : present.Pairwise (· > ·)
  /-- The numbers have been given. -/
  given : ∀ number ∈ present, number < annals.length

namespace Numbered

variable {annals : List Entry} {present : List Nat} {history : History}

/-- While a change is made the numbers fall, too. -/
theorem held_decreasing (numbered : Numbered annals present history) (change : HistoryChange) :
    (change.held annals.length present).Pairwise (· > ·) := by
  cases change with
  | record entry => exact List.pairwise_cons.mpr ⟨numbered.given, numbered.decreasing⟩
  | remove index => exact numbered.decreasing
  | clear => exact numbered.decreasing

/-- What is held has been given its number. -/
theorem lt_of_mem_held (numbered : Numbered annals present history) {change : HistoryChange}
    {number : Nat} (held : number ∈ change.held annals.length present) :
    number < (annals ++ change.recorded?.toList).length := by
  rcases change.mem_held_iff.mp held with older | ⟨-, new⟩
  · exact Nat.lt_of_lt_of_le (numbered.given _ older) (List.prefix_append annals _).length_le
  · exact new

/-- The entries of a changed history are those with the numbers that are there after the change. -/
theorem entries_apply (numbered : Numbered annals present history) (change : HistoryChange) :
    (history.apply change).entries.map some =
      (change.renumber history.limit annals.length present).map fun number =>
        (annals ++ change.recorded?.toList)[number]? := by
  cases change with
  | record entry =>
    -- the new entry gets the next number, and the others keep theirs
    have known : (present.map fun number => (annals ++ [entry])[number]?) =
        present.map fun number => annals[number]? :=
      List.map_congr_left fun number member => List.getElem?_append_left (numbered.given _ member)
    change ((entry :: history.entries).take history.limit).map some =
      ((annals.length :: present).take history.limit).map fun number =>
        (annals ++ [entry])[number]?
    rw [List.map_take, List.map_take, List.map_cons, List.map_cons, known, numbered.entries,
      List.getElem?_concat_length]
  | remove index =>
    change (history.entries.eraseIdx index).map some =
      (present.eraseIdx index).map fun number => (annals ++ [])[number]?
    rw [← List.eraseIdx_map, ← List.eraseIdx_map, numbered.entries, List.append_nil]
  | clear => rfl

/-- **A change leaves the history numbered.** -/
theorem apply (numbered : Numbered annals present history) (change : HistoryChange) :
    Numbered (annals ++ change.recorded?.toList)
      (change.renumber history.limit annals.length present) (history.apply change) where
  bounded := by
    cases change with
    | record entry => exact List.length_take_le _ _
    | remove index =>
      have fewer := (List.eraseIdx_sublist history.entries index).length_le
      exact Nat.le_trans fewer numbered.bounded
    | clear => exact Nat.zero_le _
  entries := numbered.entries_apply change
  decreasing := (numbered.held_decreasing change).sublist (change.renumber_sublist _ _ _)
  given _ member := numbered.lt_of_mem_held ((change.renumber_sublist _ _ _).mem member)

end Numbered

/-! ## What a change loses -/

/-- In falling numbers, one is cut off exactly if as many are greater as are kept. -/
theorem notMem_take_iff {numbers : List Nat} (decreasing : numbers.Pairwise (· > ·)) {number : Nat}
    (member : number ∈ numbers) (limit : Nat) :
    number ∉ numbers.take limit ↔ limit ≤ numbers.countP (number < ·) := by
  induction numbers generalizing limit with
  | nil => cases member
  | cons first rest ih =>
    obtain ⟨above, falling⟩ := List.pairwise_cons.mp decreasing
    cases limit with
    | zero => simp
    | succ limit =>
      rcases List.mem_cons.mp member with rfl | behind
      · -- the first is kept, and none is greater
        have none : rest.countP (number < ·) = 0 := by
          rw [List.countP_eq_zero]
          intro other member
          have less := above other member
          simpa using Nat.le_of_lt less
        simp [none]
      · have greater := above number behind
        rw [List.take_succ_cons, List.countP_cons_of_pos (by simpa using greater),
          Nat.succ_le_succ_iff, ← ih falling behind limit, List.mem_cons, not_or]
        exact and_iff_right (Nat.ne_of_lt greater)

/-- One is taken out exactly if it stands at the index. -/
theorem notMem_eraseIdx_iff {numbers : List Nat} (decreasing : numbers.Pairwise (· > ·))
    {number : Nat} (member : number ∈ numbers) (index : Nat) :
    number ∉ numbers.eraseIdx index ↔ numbers[index]? = some number := by
  have once : numbers.Nodup := decreasing.imp Nat.ne_of_gt
  obtain ⟨place, found⟩ := List.mem_iff_getElem?.mp member
  have within : place < numbers.length := (List.getElem?_eq_some_iff.mp found).1
  rw [List.mem_eraseIdx_iff_getElem?]
  constructor
  · intro nowhere
    by_cases same : place = index
    · rwa [← same]
    · exact absurd ⟨place, same, found⟩ nowhere
  · rintro here ⟨other, different, again⟩
    have first := (List.getElem?_inj within once).mp (found.trans here.symm)
    have second := (List.getElem?_inj within once).mp (found.trans again.symm)
    exact different (second.symm.trans first)

/-- What a change loses is held. -/
theorem Loses.mem_held {limit next number : Nat} {present : List Nat} {change : HistoryChange}
    (loses : Loses limit next present number change) : number ∈ change.held next present := by
  cases loses with
  | removed there => exact List.mem_of_getElem? there
  | cleared there => exact there
  | crowded there newer => exact there

/-- **What is held is there after a change, unless the change loses it.** -/
theorem Numbered.notMem_renumber_iff {annals : List Entry} {present : List Nat} {history : History}
    (numbered : Numbered annals present history) (change : HistoryChange) (number : Nat) :
    number ∉ change.renumber history.limit annals.length present ↔
      number ∉ change.held annals.length present ∨
        Loses history.limit annals.length present number change := by
  by_cases held : number ∈ change.held annals.length present
  · have falling := numbered.held_decreasing change
    simp only [held, not_true_eq_false, false_or]
    cases change with
    | record entry =>
      refine (notMem_take_iff falling held history.limit).trans ⟨.crowded held, fun loses => ?_⟩
      cases loses with
      | crowded _ newer => exact newer
    | remove index =>
      refine (notMem_eraseIdx_iff falling held index).trans ⟨.removed, fun loses => ?_⟩
      cases loses with
      | removed there => exact there
    | clear => exact iff_of_true List.not_mem_nil (.cleared held)
  · -- what is not held is not there afterwards either, whatever the change is
    have after := mt (change.renumber_sublist history.limit annals.length present).mem held
    exact iff_of_true after (.inl held)

/-- What is lost by one change more was lost before or is lost by it. -/
theorem lost_concat_iff {limit number : Nat} {loaded : List Entry}
    {present : List HistoryChange → List Nat} {changes : List HistoryChange}
    {change : HistoryChange} : Lost limit loaded present number (changes ++ [change]) ↔
      Lost limit loaded present number changes ∨
        Loses limit (annals loaded changes).length (present changes) number change := by
  constructor
  · rintro (old | ⟨before, cause, part, loses⟩)
    · exact .inl (.inl old)
    · rcases List.prefix_concat_iff.mp part with same | earlier
      · obtain ⟨rfl, rfl⟩ := List.append_singleton_inj.mp same
        exact .inr loses
      · exact .inl (.inr ⟨before, cause, earlier, loses⟩)
  · rintro ((old | ⟨before, cause, part, loses⟩) | loses)
    · exact .inl old
    · exact .inr ⟨before, cause, part.trans (List.prefix_append changes [change]), loses⟩
    · exact .inr ⟨changes, change, List.prefix_refl _, loses⟩

/-- What was lost stays lost. -/
theorem Lost.append {limit number : Nat} {loaded : List Entry}
    {present : List HistoryChange → List Nat} {changes : List HistoryChange}
    (lost : Lost limit loaded present number changes) (later : List HistoryChange) :
    Lost limit loaded present number (changes ++ later) := by
  rcases lost with old | ⟨before, cause, part, loses⟩
  · exact .inl old
  · exact .inr ⟨before, cause, part.trans (List.prefix_append changes later), loses⟩

/-! ## Whole runs -/

/-- The next number and the numbers present, after changes of a history with so many loaded
entries. -/
def numbersAfter (limit count : Nat) (changes : List HistoryChange) : Nat × List Nat :=
  changes.foldl (fun (next, present) change =>
      (next + change.recorded?.toList.length, change.renumber limit next present))
    (count, (List.range count).reverse.take limit)

/-- The numbers of the entries present after changes. -/
def present (limit : Nat) (loaded : List Entry) (changes : List HistoryChange) : List Nat :=
  (numbersAfter limit loaded.length changes).2

/-- The next number is that of the entry that the annals do not have yet. -/
theorem numbersAfter_fst (limit : Nat) (loaded : List Entry) (changes : List HistoryChange) :
    (numbersAfter limit loaded.length changes).1 = (annals loaded changes).length := by
  induction changes using List.reverseRecOn with
  | nil => simp [numbersAfter, annals]
  | append_singleton changes change ih =>
    rw [annals_concat, List.length_append, ← ih]
    simp [numbersAfter]

/-- At first the newest of the loaded entries are there. -/
theorem present_nil (limit : Nat) (loaded : List Entry) :
    present limit loaded [] = (List.range loaded.length).reverse.take limit := rfl

/-- The last change renumbers what the others left. -/
theorem present_concat (limit : Nat) (loaded : List Entry) (changes : List HistoryChange)
    (change : HistoryChange) :
    present limit loaded (changes ++ [change]) =
      change.renumber limit (annals loaded changes).length (present limit loaded changes) := by
  rw [← numbersAfter_fst limit]
  simp [present, numbersAfter]

/-- The numbers of loaded entries fall from the newest on. -/
theorem reverse_range_decreasing (count : Nat) : (List.range count).reverse.Pairwise (· > ·) :=
  List.pairwise_reverse.mpr List.pairwise_lt_range

/-- As many of them are greater as were loaded behind one. -/
theorem countP_lt_range (number count : Nat) :
    (List.range count).countP (number < ·) = count - (number + 1) := by
  induction count with
  | zero => simp
  | succ count ih =>
    rw [List.range_succ, List.countP_append, ih, List.countP_singleton]
    by_cases greater : number < count
    · rw [if_pos (by simpa using greater)]
      omega
    · rw [if_neg (by simpa using greater)]
      omega

/-- What stands at the places of a list is the list. -/
theorem map_getElem?_range {α : Type} (items : List α) :
    ((List.range items.length).map fun place => items[place]?) = items.map some := by
  refine List.ext_getElem (by simp) fun place _ within => ?_
  rw [List.length_map] at within
  simp [within]

section Run

variable {start : History} {loaded : List Entry}

/-- What is there at first is numbered. -/
theorem numbered_start (initially : start.entries = loaded.take start.limit) :
    Numbered (annals loaded []) (present start.limit loaded []) start := by
  have all : annals loaded [] = loaded.reverse := List.append_nil _
  refine ⟨?_, ?_, ?_, ?_⟩
  · rw [initially]
    exact List.length_take_le _ _
  · -- the stored list is newest first, the annals are oldest first
    rw [initially, present_nil, List.map_take, List.map_take, List.map_reverse, all,
      ← List.length_reverse, map_getElem?_range, ← List.map_reverse, List.reverse_reverse]
  · exact (reverse_range_decreasing loaded.length).sublist (List.take_sublist _ _)
  · intro number member
    rw [all, List.length_reverse]
    exact List.mem_range.mp (List.mem_reverse.mp (List.mem_of_mem_take member))

variable (initially : start.entries = loaded.take start.limit)

include initially

/-- **The history is numbered throughout a run.** -/
theorem numbered_run (changes : List HistoryChange) :
    Numbered (annals loaded changes) (present start.limit loaded changes) (start.run changes) := by
  induction changes using List.reverseRecOn with
  | nil => exact numbered_start initially
  | append_singleton changes change ih =>
    have step := ih.apply change
    rwa [History.limit_run, ← annals_concat, ← present_concat, ← History.run_concat] at step

/-- What was lost had been loaded or recorded. -/
theorem Lost.given {changes : List HistoryChange} {number : Nat}
    (lost : Lost start.limit loaded (present start.limit loaded) number changes) :
    number < (annals loaded changes).length := by
  rcases lost with old | ⟨before, change, part, loses⟩
  · rw [annals, List.length_append, List.length_reverse]
    omega
  · have held := (numbered_run initially before).lt_of_mem_held loses.mem_held
    rw [← annals_concat] at held
    exact Nat.lt_of_lt_of_le held (annals_mono part).length_le

/-- **An entry is missing exactly if it was lost**, by induction on the changes from the right: what
was lost before is not held any more, and what was not is lost by the last change or not at all. -/
theorem notMem_present_iff {changes : List HistoryChange} {number : Nat}
    (given : number < (annals loaded changes).length) :
    number ∉ present start.limit loaded changes ↔
      Lost start.limit loaded (present start.limit loaded) number changes := by
  induction changes using List.reverseRecOn with
  | nil =>
    have inside : number < loaded.length := by simpa [annals] using given
    have member := List.mem_reverse.mpr (List.mem_range.mpr inside)
    rw [present_nil, notMem_take_iff (reverse_range_decreasing _) member, List.countP_reverse,
      countP_lt_range]
    constructor
    · intro newer
      exact .inl (by omega)
    · rintro (old | ⟨before, change, part, -⟩)
      · omega
      · simp at part
  | append_singleton changes change ih =>
    have last := (numbered_run initially changes).notMem_renumber_iff change number
    rw [History.limit_run, ← present_concat] at last
    rw [last, lost_concat_iff]
    refine or_congr_left ?_
    by_cases old : number < (annals loaded changes).length
    · rw [change.mem_held_iff, ← ih old]
      simp only [Nat.not_le_of_lt old, false_and, or_false]
    · -- the entry that is recorded last is held, and nothing has lost it before
      rw [annals_concat] at given
      refine iff_of_false (not_not_intro ?_) fun lost => old (lost.given initially)
      exact change.mem_held_iff.mpr (.inr ⟨Nat.le_of_not_lt old, given⟩)

/-- **A run is numbered by the numbers present.** -/
theorem isNumbering_present : IsNumbering start loaded (present start.limit loaded) where
  bounded changes := by
    have bounded := (numbered_run initially changes).bounded
    rwa [History.limit_run] at bounded
  entries changes := (numbered_run initially changes).entries
  decreasing changes := (numbered_run initially changes).decreasing
  beyond changes index beyond := by
    have same : (present start.limit loaded changes).length ≤ index := by
      have lengths := congrArg List.length (numbered_run initially changes).entries
      rw [List.length_map, List.length_map] at lengths
      exact Nat.le_trans (Nat.le_of_eq lengths.symm) beyond
    have saved : start.run (changes ++ [.remove index]) = (start.run changes).save.2 := by
      rw [History.run_concat, History.apply, History.remove_of_length_le beyond]
    refine ⟨?_, ?_, saved⟩
    · rw [present_concat, HistoryChange.renumber, List.eraseIdx_of_length_le same]
    · rw [saved, History.entries_save]
  missing changes number given := notMem_present_iff initially given
  gone changes later number given absent := by
    have lost := ((notMem_present_iff initially given).mp absent).append later
    exact (notMem_present_iff initially (lost.given initially)).mpr lost

end Run

/-- Of three loaded entries two are kept. Recording another drops the older of them, a removal drops
the other, and the number of neither is given again. -/
example (entry : Entry) :
    present 2 [entry, entry, entry] [.record entry, .remove 1, .record entry] = [4, 3] := rfl

/-- **Every run can be numbered.** Whatever is stored under the key, and whatever the bound is: at
every moment of a run there are no more entries than the bound, newest first, none twice, and each
as it was loaded or recorded. An entry that is missing was at the index of a removal, or was there
when all were removed, or was dropped when as many newer entries were there as are kept; and it does
not come back. -/
theorem exists_isNumbering (storage : Storage) (key : List Char) (limit : Nat) :
    ∃ present, IsNumbering (History.load storage key limit) (History.storedOrNone storage key)
      present :=
  ⟨_, isNumbering_present (History.entries_load_eq_take storage key limit)⟩

end PocketCalc
