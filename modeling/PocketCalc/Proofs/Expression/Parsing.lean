import PocketCalc.Expression.Grammar

/-! # Parsing what the grammar derives

The grammar knows nothing of stacks. This file shows that postfix order nevertheless finds exactly
the tree of a derivation. While the tokens of an expression are read, a part of its postorder is
written and the rest is kept waiting; what is kept is released by every operation that may follow
the expression, and nothing below it is touched.

* **`Rank.level`** — the least precedence of the operations that join an expression of a rank.
* **`Waiting.Releases`**, **`Waiting.Holds`** — stacks that such operations take off, or leave.
* **`Delivers`** — what reading an expression writes, keeps and leaves alone.
* **`Derives.delivers`** — reading a derivation delivers its tree.
* **`exists_postfix_of_derives`** — a derivation is parsed into its tree. -/

namespace PocketCalc

/-! ## Outcomes -/

section Outcomes

variable {ε α : Type} {outcome : Except ε (List α)}

/-- What is put before an outcome twice is put before it at once. -/
theorem map_append_map_append (outcome : Except ε (List α)) (first second : List α) :
    (outcome.map (second ++ ·)).map (first ++ ·) = outcome.map (first ++ second ++ ·) := by
  cases outcome with
  | error fault => rfl
  | ok rest => simp [Except.map]

/-- It makes no difference whether something is put before an outcome or behind it first. -/
theorem map_append_comm (outcome : Except ε (List α)) (first last : List α) :
    (outcome.map (· ++ last)).map (first ++ ·) = (outcome.map (first ++ ·)).map (· ++ last) := by
  cases outcome with
  | error fault => rfl
  | ok rest => simp [Except.map]

/-- Putting nothing before an outcome changes nothing. -/
@[simp] theorem map_nil_append (outcome : Except ε (List α)) :
    outcome.map ([] ++ ·) = outcome := by
  cases outcome <;> rfl

/-- An outcome with something before it comes from an outcome without it. -/
theorem map_append_eq_ok (first : List α) {whole : List α}
    (result : outcome.map (first ++ ·) = .ok whole) :
    ∃ rest, outcome = .ok rest ∧ whole = first ++ rest := by
  cases outcome with
  | error fault => simp [Except.map] at result
  | ok rest =>
    simp only [Except.map, Except.ok.injEq] at result
    exact ⟨rest, rfl, result.symm⟩

end Outcomes

/-! ## Levels -/

/-- **The level of a rank**: an expression of the rank is joined by operations of at least this
precedence. No operation joins a factor. -/
def Rank.level : Rank → Nat
  | .sum => 1
  | .term => 2
  | .factor => 3

/-- Every operation joins sums, and none joins factors. -/
theorem Operation.precedence_bounds (operation : Operation) :
    1 ≤ operation.precedence ∧ operation.precedence < 3 := by
  cases operation <;> decide

/-! ## Stacks -/

namespace Waiting

/-- Items that every operation up to a precedence releases. -/
def Releases (level : Nat) (items : List Waiting) : Prop :=
  ∀ item ∈ items, ∀ operation : Operation, operation.precedence ≤ level →
    item.yieldsTo operation = true

/-- A stack of which no operation from a precedence on releases anything: its top stays. -/
def Holds (level : Nat) (stack : List Waiting) : Prop :=
  ∀ item ∈ stack.head?, ∀ operation : Operation, level ≤ operation.precedence →
    item.yieldsTo operation = false

/-- No item is released at every level. -/
theorem Releases.nil (level : Nat) : Releases level [] := by
  intro item member
  simp at member

/-- What a level releases, a lower level releases. -/
theorem Releases.mono {low high : Nat} (le : low ≤ high) {items : List Waiting}
    (releases : Releases high items) : Releases low items :=
  fun item member operation bound => releases item member operation (Nat.le_trans bound le)

/-- A released item below released items is released with them. -/
theorem Releases.append_singleton {level : Nat} {items : List Waiting} {item : Waiting}
    (releases : Releases level items)
    (yields : ∀ operation : Operation, operation.precedence ≤ level →
      item.yieldsTo operation = true) : Releases level (items ++ [item]) := by
  intro other member operation bound
  rcases List.mem_append.mp member with above | last
  · exact releases other above operation bound
  · rw [List.mem_singleton.mp last]
    exact yields operation bound

/-- A parenthesis is never released. -/
theorem Releases.opening_notMem {level : Nat} {items : List Waiting}
    (positive : 1 ≤ level) (releases : Releases level items) : opening ∉ items := by
  intro member
  have yields := releases opening member .add positive
  simp [yieldsTo] at yields

/-- A stack that holds at a level holds at every higher one. -/
theorem Holds.mono {low high : Nat} (le : low ≤ high) {stack : List Waiting}
    (holds : Holds low stack) : Holds high stack :=
  fun item top operation bound => holds item top operation (Nat.le_trans le bound)

/-- No operation is above the level of factors, so every stack holds there. -/
theorem holds_factor (stack : List Waiting) : Holds Rank.factor.level stack := by
  intro item _ operation bound
  have below := operation.precedence_bounds.2
  simp only [Rank.level] at bound
  omega

/-- An empty stack holds. -/
theorem holds_nil (level : Nat) : Holds level [] := by
  intro item top
  simp at top

/-- A stack with a parenthesis on top holds. -/
theorem holds_opening (level : Nat) (below : List Waiting) : Holds level (opening :: below) := by
  intro item top operation _
  simp only [List.head?_cons, Option.mem_some_iff] at top
  rw [← top, yieldsTo]

/-- A stack with an operation on top holds against every tighter one. -/
theorem holds_operation (joining : Operation) (below : List Waiting) :
    Holds (joining.precedence + 1) (operation joining :: below) := by
  intro item top incoming bound
  simp only [List.head?_cons, Option.mem_some_iff] at top
  rw [← top, yieldsTo]
  exact decide_eq_false (by omega)

/-- **An operation releases what yields and stops at what holds.** -/
theorem span_yieldsTo {items stack : List Waiting} {operation : Operation}
    (releases : Releases operation.precedence items) (holds : Holds operation.precedence stack) :
    (items ++ stack).takeWhile (yieldsTo operation) = items ∧
      (items ++ stack).dropWhile (yieldsTo operation) = stack := by
  have yields : ∀ item ∈ items, item.yieldsTo operation = true :=
    fun item member => releases item member operation (Nat.le_refl _)
  rw [List.takeWhile_append_of_pos yields, List.dropWhile_append_of_pos yields]
  cases stack with
  | nil => simp
  | cons top below =>
    have stays : top.yieldsTo operation = false := holds top rfl operation (Nat.le_refl _)
    simp [stays]

end Waiting

/-! ## Delivery -/

/-- **What reading an expression delivers**: a part of its postorder is written, the rest is kept on
the stack, where every operation up to the level releases it; whatever was waiting before stays
below, if it holds at the level. -/
structure Delivers (level : Nat) (tokens : List Token) (expression : Expression)
    (written : List Token) (kept : List Waiting) : Prop where
  /-- Written and kept together are the postorder. -/
  postorder : written ++ kept.map Waiting.token = expression.postorder
  /-- What is kept is released by what follows. -/
  releases : Waiting.Releases level kept
  /-- Reading starts where an operand is due and stops behind a value. -/
  reads : ∀ (waiting : List Waiting) (rest : List Token), Waiting.Holds level waiting →
    toPostfixFrom waiting false (tokens ++ rest) =
      (toPostfixFrom (kept ++ waiting) true rest).map (written ++ ·)

namespace Delivers

variable {tokens : List Token} {expression : Expression} {written : List Token}
  {kept : List Waiting}

/-- A number is written at once. -/
theorem number (level : Nat) (value : Binary64) :
    Delivers level [.number value] (.number value) [.number value] [] where
  postorder := rfl
  releases := .nil level
  reads := fun _ _ _ => rfl

/-- A minus sign before a factor is kept below what the factor keeps. -/
theorem negate (factor : Delivers Rank.factor.level tokens expression written kept) :
    Delivers Rank.factor.level (.operation .subtract :: tokens) (.negate expression) written
      (kept ++ [.negate]) where
  postorder := by
    rw [Expression.postorder, ← factor.postorder]
    simp [Waiting.token]
  releases := factor.releases.append_singleton fun _ _ => rfl
  reads := by
    intro waiting rest _
    rw [List.cons_append, toPostfixFrom, if_neg Bool.false_ne_true, if_pos rfl,
      factor.reads _ _ (Waiting.holds_factor _), List.append_assoc]
    rfl

/-- A group in parentheses writes all that its inside keeps. -/
theorem group (sum : Delivers Rank.sum.level tokens expression written kept) :
    Delivers Rank.factor.level (.opening :: tokens ++ [.closing]) expression
      (written ++ kept.map Waiting.token) [] where
  postorder := by rw [List.map_nil, List.append_nil, sum.postorder]
  releases := .nil _
  reads := by
    intro waiting rest _
    -- the closing parenthesis takes off what the inside keeps, down to the opening one
    have free : Waiting.opening ∉ kept := sum.releases.opening_notMem (Nat.le_refl 1)
    have inside := sum.reads (.opening :: waiting) (.closing :: rest)
      (Waiting.holds_opening _ waiting)
    rw [toPostfixFrom, Waiting.close?_eq_some_iff.mpr ⟨kept, free, rfl, rfl⟩] at inside
    rw [List.append_assoc, List.cons_append, toPostfixFrom, List.singleton_append, inside,
      map_append_map_append, List.nil_append]

/-- What is delivered at a level is delivered at every lower one: less is released, and more stacks
hold. -/
theorem mono {low high : Nat} (le : low ≤ high)
    (delivers : Delivers high tokens expression written kept) :
    Delivers low tokens expression written kept where
  postorder := delivers.postorder
  releases := delivers.releases.mono le
  reads := fun waiting rest holds => delivers.reads waiting rest (holds.mono le)

/-- **Two operands joined by an operation.** The operation releases what the left operand keeps and
then waits itself, below what the right operand keeps. -/
theorem join {level : Nat} {operation : Operation} (binds : operation.precedence = level)
    {leftTokens rightTokens leftWritten rightWritten : List Token}
    {left right : Expression} {leftKept rightKept : List Waiting}
    (ofLeft : Delivers level leftTokens left leftWritten leftKept)
    (ofRight : Delivers (level + 1) rightTokens right rightWritten rightKept) :
    Delivers level (leftTokens ++ .operation operation :: rightTokens)
      (.apply operation left right)
      (leftWritten ++ leftKept.map Waiting.token ++ rightWritten)
      (rightKept ++ [.operation operation]) where
  postorder := by
    rw [Expression.postorder, ← ofLeft.postorder, ← ofRight.postorder]
    simp [Waiting.token]
  releases := by
    apply (ofRight.releases.mono (Nat.le_succ _)).append_singleton
    intro incoming bound
    rw [← binds] at bound
    exact decide_eq_true bound
  reads := by
    intro waiting rest holds
    subst binds
    -- behind the left operand, its kept items are released and `waiting` is not touched
    obtain ⟨released, below⟩ := Waiting.span_yieldsTo ofLeft.releases holds
    rw [List.append_assoc, List.cons_append, ofLeft.reads _ _ holds, toPostfixFrom, if_pos rfl]
    simp only [released, below]
    rw [ofRight.reads _ _ (Waiting.holds_operation operation waiting), map_append_map_append,
      map_append_map_append, List.append_assoc rightKept]
    rfl

end Delivers

/-- **Reading a derivation delivers its tree**, by induction on the derivation: the rank is the
level at which what is kept can be released. -/
theorem Derives.delivers {rank : Rank} {tokens : List Token} {expression : Expression}
    (derivation : Derives rank tokens expression) :
    ∃ written kept, Delivers rank.level tokens expression written kept := by
  induction derivation with
  | number value => exact ⟨_, _, .number _ value⟩
  | negate _ ih =>
    obtain ⟨written, kept, factor⟩ := ih
    exact ⟨_, _, factor.negate⟩
  | group _ ih =>
    obtain ⟨written, kept, sum⟩ := ih
    exact ⟨_, _, sum.group⟩
  | ofFactor _ ih =>
    obtain ⟨written, kept, factor⟩ := ih
    exact ⟨written, kept, factor.mono (by decide)⟩
  | multiplicative binds _ _ ihLeft ihRight =>
    obtain ⟨leftWritten, leftKept, ofLeft⟩ := ihLeft
    obtain ⟨rightWritten, rightKept, ofRight⟩ := ihRight
    -- a product joins a term, level 2, to a factor, level 3
    exact ⟨_, _, .join binds ofLeft ofRight⟩
  | ofTerm _ ih =>
    obtain ⟨written, kept, term⟩ := ih
    exact ⟨written, kept, term.mono (by decide)⟩
  | additive binds _ _ ihLeft ihRight =>
    obtain ⟨leftWritten, leftKept, ofLeft⟩ := ihLeft
    obtain ⟨rightWritten, rightKept, ofRight⟩ := ihRight
    -- a sum joins a sum, level 1, to a term, level 2
    exact ⟨_, _, .join binds ofLeft ofRight⟩

/-- At the end of a derivation the stack is unwound, and the postorder is complete. -/
theorem Derives.toPostfix_eq {tokens : List Token} {expression : Expression}
    (derivation : Derives .sum tokens expression) :
    toPostfix tokens = .ok expression.postorder := by
  obtain ⟨written, kept, delivers⟩ := derivation.delivers
  have free : Waiting.opening ∉ kept := delivers.releases.opening_notMem (Nat.le_refl 1)
  have unwound : Waiting.unwind kept = .ok (kept.map Waiting.token) :=
    Waiting.unwind_eq_ok_iff.mpr ⟨free, rfl⟩
  have whole := delivers.reads [] [] (Waiting.holds_nil _)
  rw [List.append_nil, List.append_nil, toPostfixFrom, unwound] at whole
  rw [toPostfix, whole, ← delivers.postorder]
  rfl

/-- **The parser is correct and complete on its grammar**: the tokens of a derivation have a postfix
order, and what is rebuilt from it is the tree of the derivation. -/
theorem exists_postfix_of_derives {tokens : List Token} {expression : Expression}
    (derivation : Derives .sum tokens expression) :
    ∃ ordered, toPostfix tokens = .ok ordered ∧ Expression.ofPostfix ordered = .ok expression :=
  ⟨expression.postorder, derivation.toPostfix_eq, expression.ofPostfix_postorder⟩

/-- `8-3-2*-(4)` is the difference of `8-3` and `2*-(4)`. -/
theorem exists_postfix_of_mixed_signs :
    let eight := Binary64.ofNat 8
    let three := Binary64.ofNat 3
    let two := Binary64.ofNat 2
    let four := Binary64.ofNat 4
    let tokens : List Token := [.number eight, .operation .subtract, .number three,
      .operation .subtract, .number two, .operation .multiply, .operation .subtract, .opening,
      .number four, .closing]
    let expression : Expression := .apply .subtract
      (.apply .subtract (.number eight) (.number three))
      (.apply .multiply (.number two) (.negate (.number four)))
    Derives .sum tokens expression ∧
      ∃ ordered, toPostfix tokens = .ok ordered ∧
        Expression.ofPostfix ordered = .ok expression := by
  intro eight three two four tokens expression
  have difference : Derives .sum ([.number eight] ++ .operation .subtract :: [.number three])
      (.apply .subtract (.number eight) (.number three)) :=
    .additive rfl (.sum_of_factor (.number eight)) (.ofFactor (.number three))
  have product : Derives .term ([.number two] ++ .operation .multiply ::
      (.operation .subtract :: (.opening :: [.number four] ++ [.closing])))
      (.apply .multiply (.number two) (.negate (.number four))) :=
    .multiplicative rfl (.ofFactor (.number two)) (.negate (.group (.sum_of_factor (.number four))))
  have derivation : Derives .sum tokens expression := .additive rfl difference product
  exact ⟨derivation, exists_postfix_of_derives derivation⟩

end PocketCalc
