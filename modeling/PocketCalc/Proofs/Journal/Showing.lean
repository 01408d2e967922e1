import PocketCalc.Journal.Filter
import Mathlib.Data.List.Induction

/-! # Which rule decides

Rules are compared by how closely they name lines: by the lengths of their targets, and then by
their scopes, which are linearly ordered. Two rules about one line that are equally close have the
same target and the same scope, so they name the same lines. The order in which the rules of a
filter are written therefore makes no difference, except between two rules that name the same lines,
of which the later counts.

* **`Journal.Filter.Decides`** — a rule of a filter that decides about a line.
* **`Journal.Filter.deciding?_eq_some_iff`** — the rule that is found is the one that decides.
* **`Journal.Filter.shows_iff`** — which lines are shown.
* **`Journal.Filter.shows_eq_of_perm`** — the order of rules that name different lines.
* **`Journal.Filter.shows_of_verbosity_le`** — lines that matter more. -/

namespace PocketCalc.Journal

/-! ## How closely lines are named -/

namespace Scope

variable {scope other third : Scope}

/-- Of two scopes one is at most as close as the other. -/
theorem atMost_total (scope other : Scope) :
    scope.atMost other = true ∨ other.atMost scope = true := by
  cases scope <;> cases other <;> simp [atMost, List.le_total]

/-- What is at most as close as a scope is so as any closer one. -/
theorem atMost_trans (first : scope.atMost other = true) (second : other.atMost third = true) :
    scope.atMost third = true := by
  cases scope with
  | all => rfl
  | span => cases other <;> first | exact second | cases first
  | field name =>
    cases other with
    | all => cases first
    | span => cases third <;> first | rfl | cases second
    | field between =>
      cases third with
      | all => cases second
      | span => rfl
      | field last =>
        exact decide_eq_true (List.le_trans (of_decide_eq_true first) (of_decide_eq_true second))

/-- Scopes that are equally close are the same. -/
theorem eq_of_atMost (first : scope.atMost other = true) (second : other.atMost scope = true) :
    scope = other := by
  cases scope with
  | all => cases other <;> first | rfl | cases second
  | span => cases other <;> first | rfl | cases first
  | field name =>
    cases other with
    | all => cases first
    | span => cases second
    | field =>
      exact congrArg field (List.le_antisymm (of_decide_eq_true first) (of_decide_eq_true second))

end Scope

namespace Rule

variable {rule other third : Rule} {line : Line}

/-- How closely rules name lines, by the lengths of their targets and by their scopes. -/
theorem atMost_iff : rule.atMost other = true ↔ rule.target.length < other.target.length ∨
    rule.target.length = other.target.length ∧ rule.scope.atMost other.scope = true := by
  simp [atMost]

/-- Of two rules one names lines at most as closely as the other. -/
theorem atMost_total (rule other : Rule) : rule.atMost other = true ∨ other.atMost rule = true := by
  rw [atMost_iff, atMost_iff]
  rcases Nat.lt_trichotomy rule.target.length other.target.length with shorter | same | longer
  · exact .inl (.inl shorter)
  · exact (Scope.atMost_total rule.scope other.scope).imp
      (fun close => .inr ⟨same, close⟩) fun close => .inr ⟨same.symm, close⟩
  · exact .inr (.inl longer)

/-- What names lines at most as closely as a rule does so as any closer one. -/
theorem atMost_trans (first : rule.atMost other = true) (second : other.atMost third = true) :
    rule.atMost third = true := by
  rw [atMost_iff] at first second ⊢
  rcases first with shorter | ⟨same, close⟩
  · exact .inl (by omega)
  · rcases second with shorter | ⟨next, closer⟩
    · exact .inl (by omega)
    · exact .inr ⟨same.trans next, Scope.atMost_trans close closer⟩

/-- Where a rule is not at most as close as another, the other is at most as close as it. -/
theorem atMost_of_eq_false (closer : rule.atMost other = false) : other.atMost rule = true :=
  (atMost_total rule other).resolve_left (by simp [closer])

/-- A rule is about the lines from parts whose names begin with its target, in its scope. -/
theorem covers_iff : rule.covers line = true ↔
    rule.target <+: line.source.target ∧ rule.scope.includes line = true := by
  simp [covers]

/-- **Equally close rules** about one line have the same target and the same scope. -/
theorem eq_of_atMost (first : rule.atMost other = true) (second : other.atMost rule = true)
    (covers : rule.covers line = true) (alsoCovers : other.covers line = true) :
    rule.target = other.target ∧ rule.scope = other.scope := by
  rw [atMost_iff] at first second
  have same : rule.target.length = other.target.length := by omega
  -- Both targets begin the name of the part that the line comes from.
  have target : rule.target = other.target :=
    List.IsPrefix.eq_of_length
      (List.prefix_of_prefix_length_le (covers_iff.mp covers).1 (covers_iff.mp alsoCovers).1
        (Nat.le_of_eq same)) same
  refine ⟨target, Scope.eq_of_atMost ?_ ?_⟩
  · exact (first.resolve_left (by omega)).2
  · exact (second.resolve_left (by omega)).2

/-- What a rule names: its target and its scope. -/
def named (rule : Rule) : List Char × Scope := (rule.target, rule.scope)

end Rule

namespace Filter

variable {filter : Filter} {rule other : Rule} {line : Line}

/-! ## The rule that decides -/

/-- **A rule of a filter decides about a line**: it is about the line, no other rule about it names
it more closely, and those that stand behind it name it less closely. -/
def Decides (filter : Filter) (line : Line) (rule : Rule) : Prop :=
  ∃ before behind, filter = before ++ rule :: behind ∧ rule.covers line = true ∧
    (∀ other ∈ before, other.covers line = true → other.atMost rule = true) ∧
    ∀ other ∈ behind, other.covers line = true → rule.atMost other = false

/-- The rule that decides is one of the filter. -/
theorem Decides.mem (decides : filter.Decides line rule) : rule ∈ filter := by
  obtain ⟨before, behind, rfl, -⟩ := decides
  simp

/-- The rule that decides is about the line. -/
theorem Decides.covers (decides : filter.Decides line rule) : rule.covers line = true := by
  obtain ⟨before, behind, -, covers, -⟩ := decides
  exact covers

/-- No rule about the line names it more closely than the one that decides. -/
theorem Decides.atMost (decides : filter.Decides line rule) (member : other ∈ filter)
    (covers : other.covers line = true) : other.atMost rule = true := by
  obtain ⟨before, behind, rfl, ruleCovers, early, late⟩ := decides
  rcases List.mem_append.mp member with isBefore | isBehind
  · exact early other isBefore covers
  · rcases List.mem_cons.mp isBehind with rfl | isBehind
    · exact (Rule.atMost_total other other).elim id id
    · exact Rule.atMost_of_eq_false (late other isBehind covers)

/-- Of two rules about a line the earlier cannot be less close than the later as well as closer. -/
theorem not_atMost_behind {before between behind : List Rule} (covers : rule.covers line = true)
    (alsoCovers : other.covers line = true)
    (early : ∀ earlier ∈ before ++ rule :: between, earlier.covers line = true →
      earlier.atMost other = true)
    (late : ∀ later ∈ between ++ other :: behind, later.covers line = true →
      rule.atMost later = false) : False := by
  have close := early rule (by simp) covers
  rw [late other (by simp) alsoCovers] at close
  exact Bool.false_ne_true close

/-- **No two rules decide** about a line. -/
theorem Decides.unique (decides : filter.Decides line rule)
    (alsoDecides : filter.Decides line other) : rule = other := by
  obtain ⟨before, behind, rfl, covers, early, late⟩ := decides
  obtain ⟨before', behind', split, covers', early', late'⟩ := alsoDecides
  rcases List.append_eq_append_iff.mp split with ⟨between, rfl, rest⟩ | ⟨between, rfl, rest⟩
  · cases between with
    | nil => exact (List.cons_eq_cons.mp rest).1
    | cons first between =>
      obtain ⟨rfl, rfl⟩ := List.cons_eq_cons.mp rest
      exact (not_atMost_behind covers covers' early' late).elim
  · cases between with
    | nil => exact (List.cons_eq_cons.mp rest).1.symm
    | cons first between =>
      obtain ⟨rfl, rfl⟩ := List.cons_eq_cons.mp rest
      exact (not_atMost_behind covers' covers early late').elim

/-- The rule that decides still does with a rule behind it that is not about the line or names it
less closely. -/
theorem Decides.concat (decides : filter.Decides line rule)
    (less : other.covers line = true → rule.atMost other = false) :
    Decides (filter ++ [other]) line rule := by
  obtain ⟨before, behind, rfl, covers, early, late⟩ := decides
  refine ⟨before, behind ++ [other], by simp, covers, early, ?_⟩
  intro later member alsoCovers
  rcases List.mem_append.mp member with isBehind | isLast
  · exact late later isBehind alsoCovers
  · obtain rfl := List.mem_singleton.mp isLast
    exact less alsoCovers

/-- The last rule decides if it is about the line and no rule names that more closely. -/
theorem decides_last (covers : rule.covers line = true)
    (closest : ∀ other ∈ filter, other.covers line = true → other.atMost rule = true) :
    Decides (filter ++ [rule]) line rule :=
  ⟨filter, [], rfl, covers, closest, by simp⟩

/-- The rule that is found once another is written behind the filter: the new one if it is about the
line and at least as close. -/
theorem deciding?_concat (filter : Filter) (rule : Rule) (line : Line) :
    deciding? (filter ++ [rule]) line =
      if rule.covers line = true then
        match filter.deciding? line with
        | some found => if found.atMost rule then some rule else some found
        | none => some rule
      else filter.deciding? line := by
  unfold deciding?
  rw [List.filter_append, List.foldl_append]
  by_cases covers : rule.covers line = true
  · rw [if_pos covers, List.filter_cons, if_pos covers]
    rfl
  · rw [if_neg covers, List.filter_cons, if_neg covers]
    rfl

/-- **What is found decides**, and nothing is found only where no rule is about the line. By
induction on the filter, from the rule that is written last. -/
theorem deciding?_spec (filter : Filter) (line : Line) :
    (∃ rule, filter.deciding? line = some rule ∧ filter.Decides line rule) ∨
      filter.deciding? line = none ∧ ∀ rule ∈ filter, rule.covers line = false := by
  induction filter using List.reverseRecOn with
  | nil => exact .inr ⟨rfl, by simp⟩
  | append_singleton filter rule ih =>
    rw [deciding?_concat]
    by_cases covers : rule.covers line = true
    · rw [if_pos covers]
      rcases ih with ⟨found, eq, decides⟩ | ⟨eq, nothing⟩
      · rw [eq]
        by_cases close : found.atMost rule = true
        · refine .inl ⟨rule, if_pos close, decides_last covers ?_⟩
          intro other member alsoCovers
          exact Rule.atMost_trans (decides.atMost member alsoCovers) close
        · exact .inl ⟨found, if_neg close, decides.concat fun _ => Bool.eq_false_iff.mpr close⟩
      · rw [eq]
        refine .inl ⟨rule, rfl, decides_last covers ?_⟩
        intro other member alsoCovers
        rw [nothing other member] at alsoCovers
        cases alsoCovers
    · rw [if_neg covers]
      rcases ih with ⟨found, eq, decides⟩ | ⟨eq, nothing⟩
      · exact .inl ⟨found, eq, decides.concat fun also => absurd also covers⟩
      · refine .inr ⟨eq, ?_⟩
        intro other member
        rcases List.mem_append.mp member with isBefore | isLast
        · exact nothing other isBefore
        · rw [List.mem_singleton.mp isLast]
          exact Bool.eq_false_iff.mpr covers

/-- **The rule that is found** is the one that decides. -/
theorem deciding?_eq_some_iff : filter.deciding? line = some rule ↔ filter.Decides line rule := by
  rcases deciding?_spec filter line with ⟨found, eq, decides⟩ | ⟨eq, nothing⟩
  · rw [eq, Option.some.injEq]
    constructor
    · rintro rfl
      exact decides
    · exact decides.unique
  · rw [eq]
    constructor
    · intro found
      cases found
    · rintro ⟨before, behind, rfl, covers, -⟩
      rw [nothing rule (by simp)] at covers
      cases covers

/-! ## What is shown -/

/-- **A line is shown** exactly when the rule that decides about it is talkative enough. -/
theorem shows_iff : filter.shows line = true ↔
    ∃ rule, filter.Decides line rule ∧ line.level.verbosity ≤ rule.verbosity := by
  simp only [← deciding?_eq_some_iff]
  unfold shows
  cases filter.deciding? line <;> simp

/-- The filter without targets shows the lines of its verbosity and below. -/
theorem shows_upTo (verbosity : Nat) (line : Line) :
    (upTo verbosity).shows line = decide (line.level.verbosity ≤ verbosity) := rfl

/-- **Lines that matter more** are shown where lines of the same part with the same fields are. -/
theorem shows_of_verbosity_le {other : Line} (source : other.source = line.source)
    (fields : other.fieldNames = line.fieldNames)
    (matters : other.level.verbosity ≤ line.level.verbosity) (shown : filter.shows line = true) :
    filter.shows other = true := by
  have alike (rule : Rule) : rule.covers other = rule.covers line := by
    unfold Rule.covers Scope.includes
    rw [source, fields]
  obtain ⟨rule, decides, enough⟩ := shows_iff.mp shown
  refine shows_iff.mpr ⟨rule, ?_, Nat.le_trans matters enough⟩
  unfold Decides at decides ⊢
  simpa only [alike] using decides

/-! ## The order of rules -/

/-- Where all rules name different lines, the closest rule decides. -/
theorem decides_iff_of_nodup (different : (filter.map Rule.named).Nodup) :
    filter.Decides line rule ↔ rule ∈ filter ∧ rule.covers line = true ∧
      ∀ other ∈ filter, other.covers line = true → other.atMost rule = true := by
  constructor
  · intro decides
    exact ⟨decides.mem, decides.covers, fun other => decides.atMost⟩
  · rintro ⟨member, covers, closest⟩
    obtain ⟨before, behind, rfl⟩ := List.append_of_mem member
    refine ⟨before, behind, rfl, covers, fun other early => closest other (by simp [early]), ?_⟩
    intro other late alsoCovers
    -- Were the later rule as close, both would name the same lines.
    refine Bool.eq_false_iff.mpr fun close => ?_
    obtain ⟨target, scope⟩ := Rule.eq_of_atMost close (closest other (by simp [late]) alsoCovers)
      covers alsoCovers
    have twice : rule.named ∈ behind.map Rule.named :=
      List.mem_map.mpr ⟨other, late, Prod.ext target.symm scope.symm⟩
    rw [List.map_append, List.map_cons] at different
    exact (List.nodup_cons.mp (List.nodup_append.mp different).2.1).1 twice

/-- **The order of the rules** makes no difference where all of them name different lines. -/
theorem shows_eq_of_perm {others : Filter} (same : filter.Perm others)
    (different : (filter.map Rule.named).Nodup) (line : Line) :
    filter.shows line = others.shows line := by
  have alsoDifferent : (others.map Rule.named).Nodup := (same.map Rule.named).nodup_iff.mp different
  rw [Bool.eq_iff_iff, shows_iff, shows_iff]
  simp only [decides_iff_of_nodup different, decides_iff_of_nodup alsoDifferent, same.mem_iff]

end Filter

end PocketCalc.Journal
