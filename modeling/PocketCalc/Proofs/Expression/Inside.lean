import PocketCalc.Proofs.Expression.Reading
import PocketCalc.Proofs.Expression.Scanning

/-! # The inside of a group

What stands behind an opening parenthesis can be read without what stands before it, as long as it
does not close that parenthesis. Whether it does is seen in the text as well as in its tokens: the
scanner keeps the parentheses and their order.

* **`openGroups`**, **`ClosesOwnGroups`** — the groups that tokens leave open.
* **`Reading.inside`** — the tokens behind an opening parenthesis, read alone.
* **`IsGrammatical.of_group`** — the inside of a group that ends an expression.
* **`Token.exists_prefix_of_scan`** — a beginning of the tokens leaves open what a beginning of the
  text does. -/

namespace PocketCalc

/-! ## Open groups -/

/-- **Groups still open**: those that tokens open less those that they close. -/
def openGroups (tokens : List Token) : Int :=
  (tokens.count .opening : Int) - (tokens.count .closing : Int)

/-- No group is open in no tokens. -/
@[simp] theorem openGroups_nil : openGroups [] = 0 := rfl

/-- The open groups of two lists add up. -/
@[simp] theorem openGroups_append (first second : List Token) :
    openGroups (first ++ second) = openGroups first + openGroups second := by
  simp [openGroups]
  omega

/-- The first token adds what it leaves open alone. -/
theorem openGroups_cons_add (token : Token) (rest : List Token) :
    openGroups (token :: rest) = openGroups [token] + openGroups rest :=
  openGroups_append [token] rest

/-- The first character adds what it leaves open alone. -/
theorem openParens_cons_add (c : Char) (rest : List Char) :
    openParens (c :: rest) = openParens [c] + openParens rest :=
  openParens_append [c] rest

/-- **Tokens that close only groups of their own**: no beginning of them closes more groups than it
opens. -/
def ClosesOwnGroups (tokens : List Token) : Prop :=
  ∀ start, start <+: tokens → 0 ≤ openGroups start

namespace ClosesOwnGroups

variable {tokens : List Token} {token : Token}

/-- So do the tokens before the last. -/
theorem of_concat (own : ClosesOwnGroups (tokens ++ [token])) : ClosesOwnGroups tokens :=
  fun start part => own start (part.trans (List.prefix_append tokens [token]))

/-- A group that is closed at the end was open before it. -/
theorem opened (own : ClosesOwnGroups (tokens ++ [.closing])) : 0 < openGroups tokens := by
  have level := own _ (List.prefix_refl _)
  rw [openGroups_append, show openGroups [.closing] = -1 from rfl] at level
  omega

end ClosesOwnGroups

/-! ## Reading the inside -/

/-- The last item of those from a given one on is that item itself, or it comes behind others. -/
theorem concat_eq_append_cons {α : Type} {items before inside : List α} {first last : α}
    (same : items ++ [last] = before ++ first :: inside) :
    (inside = [] ∧ last = first ∧ items = before) ∨
      ∃ others, inside = others ++ [last] ∧ items = before ++ first :: others := by
  rcases List.eq_nil_or_concat inside with rfl | ⟨others, final, rfl⟩
  · obtain ⟨rfl, rfl⟩ := List.append_singleton_inj.mp same
    exact .inl ⟨rfl, rfl, rfl⟩
  · rw [List.concat_eq_append, ← List.cons_append, ← List.append_assoc] at same
    obtain ⟨rfl, rfl⟩ := List.append_singleton_inj.mp same
    exact .inr ⟨others, by simp, rfl⟩

/-- The open parentheses of what is read are its open groups. -/
theorem Reading.openGroups_eq {afterValue : Bool} {depth extra : Nat} {tokens : List Token}
    (reading : Reading afterValue depth extra tokens) : openGroups tokens = depth := by
  induction reading with
  | start => rfl
  | number value _ ih => rw [openGroups_append, ih]; exact Int.add_zero _
  | opening _ ih => rw [openGroups_append, ih]; rfl
  | closing _ ih =>
    rw [openGroups_append, ih, show openGroups [.closing] = -1 from rfl]
    omega
  | join operation _ ih => rw [openGroups_append, ih]; exact Int.add_zero _
  | negate _ ih => rw [openGroups_append, ih]; exact Int.add_zero _

/-- **What stands behind an opening parenthesis is read alone**, if it closes only groups of its
own: the same value ends there. By induction on the reading of the whole; the parenthesis itself is
where the reading of the inside starts. -/
theorem Reading.inside {afterValue : Bool} {depth extra : Nat} {whole before inside : List Token}
    (reading : Reading afterValue depth extra whole) (single : extra = 0)
    (same : whole = before ++ .opening :: inside) (own : ClosesOwnGroups inside) :
    ∃ inner, Reading afterValue inner 0 inside := by
  induction reading generalizing inside with
  | start => simp at same
  | @number afterValue depth extra tokens value reading ih =>
    obtain ⟨rfl, behind⟩ := Nat.add_eq_zero_iff.mp single
    rcases concat_eq_append_cons same with ⟨-, other, -⟩ | ⟨others, rfl, rest⟩
    · cases other
    · obtain ⟨inner, read⟩ := ih rfl rest own.of_concat
      have next := read.number value
      rw [behind] at next
      exact ⟨inner, next⟩
  | @opening afterValue depth extra tokens reading ih =>
    obtain ⟨rfl, behind⟩ := Nat.add_eq_zero_iff.mp single
    rcases concat_eq_append_cons same with ⟨rfl, -, -⟩ | ⟨others, rfl, rest⟩
    · exact ⟨0, .start⟩
    · obtain ⟨inner, read⟩ := ih rfl rest own.of_concat
      have next := read.opening
      rw [behind] at next
      exact ⟨inner + 1, next⟩
  | closing reading ih =>
    rcases concat_eq_append_cons same with ⟨-, other, -⟩ | ⟨others, rfl, rest⟩
    · cases other
    · obtain ⟨inner, read⟩ := ih single rest own.of_concat
      -- the group that is closed is one of the inside's own
      have opened := own.opened
      rw [read.openGroups_eq] at opened
      obtain ⟨outer, rfl⟩ := Nat.exists_eq_add_one.mpr (Int.ofNat_lt.mp opened)
      exact ⟨outer, read.closing⟩
  | join operation reading ih =>
    rcases concat_eq_append_cons same with ⟨-, other, -⟩ | ⟨others, rfl, rest⟩
    · cases other
    · obtain ⟨inner, read⟩ := ih single rest own.of_concat
      exact ⟨inner, read.join operation⟩
  | negate reading ih =>
    rcases concat_eq_append_cons same with ⟨-, other, -⟩ | ⟨others, rfl, rest⟩
    · cases other
    · obtain ⟨inner, read⟩ := ih single rest own.of_concat
      exact ⟨inner, read.negate⟩

/-- Before a closing parenthesis a value ends, and one more is open. -/
theorem Reading.of_closing {afterValue : Bool} {depth extra : Nat} {tokens : List Token}
    (reading : Reading afterValue depth extra (tokens ++ [.closing])) :
    Reading true (depth + 1) extra tokens := by
  generalize same : tokens ++ [.closing] = whole at reading
  cases reading with
  | start => simp at same
  | closing before =>
    obtain ⟨rfl, -⟩ := List.append_singleton_inj.mp same
    exact before
  | number | opening | join | negate => cases (List.append_singleton_inj.mp same).2

/-- **The inside of a group is an expression**, if the whole is one that ends with the group: what
stands before the group closes what it opens, and the inside closes only groups of its own. -/
theorem IsGrammatical.of_group {before inside : List Token}
    (grammatical : IsGrammatical (before ++ .opening :: inside ++ [.closing]))
    (unmarked : .negate ∉ before ++ .opening :: inside ++ [.closing])
    (level : openGroups before = 0) (own : ClosesOwnGroups inside) : IsGrammatical inside := by
  have whole := (grammatical.reading unmarked).of_closing
  obtain ⟨inner, reading⟩ := whole.inside rfl rfl own
  have count := whole.openGroups_eq
  rw [openGroups_append, openGroups_cons_add, level, reading.openGroups_eq,
    show openGroups [.opening] = 1 from rfl] at count
  obtain rfl : inner = 0 := by omega
  exact reading.isGrammatical

/-! ## Parentheses of a text -/

/-- A beginning of two lists is one of the first, or all of it and a beginning of the second. -/
theorem prefix_or_of_prefix_append {α : Type} {first second start : List α}
    (part : start <+: first ++ second) :
    start <+: first ∨ ∃ more, start = first ++ more ∧ more <+: second := by
  rcases List.prefix_or_prefix_of_prefix part (List.prefix_append first second) with
    within | ⟨more, rfl⟩
  · exact .inl within
  · exact .inr ⟨more, rfl, (List.prefix_append_right_inj first).mp part⟩

namespace Token

/-- A numeral opens and closes no group. -/
theorem openGroups_of_numeralToken {run : List Char} {tokens start : List Token}
    (made : numeralToken run = .ok tokens) (part : start <+: tokens) : openGroups start = 0 := by
  rcases numeralToken_eq_ok made with ⟨-, rfl⟩ | ⟨-, value, rfl⟩
  · rw [List.prefix_nil.mp part, openGroups_nil]
  · rcases List.prefix_cons_iff.mp part with rfl | ⟨rest, rfl, nothing⟩
    · rfl
    · rw [List.prefix_nil.mp nothing]
      rfl

/-- A character opens and closes what its token does. -/
theorem openParens_of_ofChar? {c : Char} {token : Token} (single : ofChar? c = some token) :
    openParens [c] = openGroups [token] := by
  unfold ofChar? at single
  split at single
  case h_7 => simp at single
  all_goals
    obtain rfl := Option.some.inj single
    rfl

/-- A character that is no parenthesis leaves everything as it is. -/
theorem openParens_singleton {c : Char} (opening : c ≠ '(') (closing : c ≠ ')') :
    openParens [c] = 0 := by
  simp [openParens, opening, closing]

/-- Behind an unfinished run, a beginning of the tokens leaves open what a beginning of the text
does. -/
theorem exists_prefix_of_scanFrom {run text : List Char} {tokens start : List Token}
    (scanned : scanFrom run text = .ok tokens) (part : start <+: tokens) :
    ∃ begun, begun <+: text ∧ openGroups start = openParens begun := by
  fun_induction scanFrom run text generalizing tokens start with
  | case1 run =>
    exact ⟨[], List.nil_prefix, openGroups_of_numeralToken scanned part⟩
  | case4 run c rest numeral _ ih =>
    obtain ⟨begun, within, level⟩ := ih scanned part
    have neutral : openParens [c] = 0 := by
      apply openParens_singleton
      all_goals
        rintro rfl
        cases numeral
    refine ⟨c :: begun, (List.prefix_cons_inj c).mpr within, ?_⟩
    rw [level, openParens_cons_add, neutral, Int.zero_add]
  | case6 run c rest _ numeral made blank ih =>
    obtain ⟨later, found, rfl⟩ := map_append_eq_ok numeral scanned
    rcases prefix_or_of_prefix_append part with within | ⟨more, rfl, behind⟩
    · exact ⟨[], List.nil_prefix, openGroups_of_numeralToken made within⟩
    · obtain ⟨begun, within, level⟩ := ih found behind
      have neutral : openParens [c] = 0 := by
        apply openParens_singleton
        all_goals
          rintro rfl
          cases blank
      refine ⟨c :: begun, (List.prefix_cons_inj c).mpr within, ?_⟩
      rw [openGroups_append, openGroups_of_numeralToken made (List.prefix_refl _), level,
        openParens_cons_add, neutral]
  | case7 run c rest _ numeral made visible token single ih =>
    obtain ⟨later, found, rfl⟩ := map_append_eq_ok (numeral ++ [token]) (by simpa using scanned)
    rw [List.append_assoc] at part
    rcases prefix_or_of_prefix_append part with within | ⟨more, rfl, behind⟩
    · exact ⟨[], List.nil_prefix, openGroups_of_numeralToken made within⟩
    · have closed := openGroups_of_numeralToken made (List.prefix_refl _)
      rcases List.prefix_cons_iff.mp behind with rfl | ⟨others, rfl, last⟩
      · exact ⟨[], List.nil_prefix, by rw [List.append_nil, closed, openParens_nil]⟩
      · obtain ⟨begun, within, level⟩ := ih found last
        refine ⟨c :: begun, (List.prefix_cons_inj c).mpr within, ?_⟩
        rw [openGroups_append, closed, openGroups_cons_add, level, openParens_cons_add,
          openParens_of_ofChar? single, Int.zero_add]
  | _ => simp at scanned

/-- **A beginning of the tokens leaves open what a beginning of the text does.** -/
theorem exists_prefix_of_scan {text : List Char} {tokens start : List Token}
    (scanned : scan text = .ok tokens) (part : start <+: tokens) :
    ∃ begun, begun <+: text ∧ openGroups start = openParens begun :=
  exists_prefix_of_scanFrom scanned part

end Token

end PocketCalc
