import Mathlib.Data.List.Induction

/-! # The leftmost fault

A list that is read from the left is refused for the first item that has no place behind the items
before it, and whatever comes later is not looked at. What has no place is a matter of the list;
that there is a first such item, or none, is not.

* **`Faultless`**, **`LeftmostFault`** — lists in which every item has its place, and the item that
  is to blame for any other.
* **`faultless_or_leftmostFault`** — one of the two holds of every list. -/

namespace PocketCalc

section Faults

variable {α : Type} {misplaced : List α → α → Prop} {items : List α}

/-- **A list without a fault**: no item is out of place behind those before it. -/
def Faultless (misplaced : List α → α → Prop) (items : List α) : Prop :=
  ∀ before item, before ++ [item] <+: items → ¬ misplaced before item

/-- **The leftmost fault of a list**: the first item out of place, with the items before it. -/
structure LeftmostFault (misplaced : List α → α → Prop) (items before : List α) (item : α) :
    Prop where
  /-- The item comes behind those before it. -/
  begins : before ++ [item] <+: items
  /-- None of these is out of place. -/
  faultless : Faultless misplaced before
  /-- The item is. -/
  faulty : misplaced before item

/-- No item of the empty list is out of place. -/
theorem faultless_nil : Faultless misplaced [] := by
  intro before item part
  simp at part

/-- One more item leaves a list without a fault if it has its place. -/
theorem faultless_concat_iff {last : α} :
    Faultless misplaced (items ++ [last]) ↔ Faultless misplaced items ∧ ¬ misplaced items last := by
  constructor
  · intro faultless
    refine ⟨fun before item part => ?_, faultless items last (List.prefix_refl _)⟩
    exact faultless before item (part.trans (List.prefix_append items [last]))
  · rintro ⟨faultless, fits⟩ before item part
    rcases List.prefix_concat_iff.mp part with same | shorter
    · obtain ⟨rfl, rfl⟩ := List.append_singleton_inj.mp same
      exact fits
    · exact faultless before item shorter

/-- A fault of a beginning is one of the whole list. -/
theorem LeftmostFault.append {before : List α} {item : α}
    (first : LeftmostFault misplaced items before item) (rest : List α) :
    LeftmostFault misplaced (items ++ rest) before item :=
  ⟨first.begins.trans (List.prefix_append items rest), first.faultless, first.faulty⟩

/-- **Either no item is out of place or one is the first**, by induction on the list from the
right. -/
theorem faultless_or_leftmostFault (misplaced : List α → α → Prop) (items : List α) :
    Faultless misplaced items ∨ ∃ before item, LeftmostFault misplaced items before item := by
  induction items using List.reverseRecOn with
  | nil => exact .inl faultless_nil
  | append_singleton items last ih =>
    rcases ih with faultless | ⟨before, item, first⟩
    · by_cases faulty : misplaced items last
      · exact .inr ⟨items, last, List.prefix_refl _, faultless, faulty⟩
      · exact .inl (faultless_concat_iff.mpr ⟨faultless, faulty⟩)
    · exact .inr ⟨before, item, first.append [last]⟩

end Faults

end PocketCalc
