import Mathlib.Algebra.Order.Group.Unbundled.Basic
import Mathlib.Algebra.Order.Ring.Rat
import PocketCalc.Panel.Frame
import PocketCalc.Proofs.Panel.Run

/-! # Purging is not seen

A message that has expired is not shown, so it makes no difference whether it has been forgotten as
well. Purging tests whether time is left and the screen compares two times; where times are exact,
the two agree. What the screen shows is therefore a function of the last message announced.

* **`Panel.purge_eq`** — purging keeps exactly the message that still shows.
* **`Panel.visible?_run`** — the message on the screen after a run.
* **`Panel.AgreesAt`** — panels that differ in expired messages only, and what they have in common.
* **`screen_run_eq_of_lasting_eq`** — runs that differ in purges only are not told apart. -/

namespace PocketCalc

variable {Time : Type} [AddCommGroup Time] [LinearOrder Time] [IsOrderedAddMonoid Time]

namespace Panel

/-! ## Purges -/

/-- **Purging keeps exactly the message that still shows.** -/
theorem purge_eq (panel : Panel Time) (now : Time) :
    panel.purge now =
      { panel with flash := panel.flash.filter fun flash => now < flash.expiry } := by
  obtain ⟨calculator, flash, delay⟩ := panel
  cases flash with
  | none => rfl
  | some flash =>
    by_cases shows : now < flash.expiry
    · simp [purge, remaining?, Option.filter_some, shows]
    · simp [purge, remaining?, Option.filter_some, shows]

/-- What was shown by then is shown after a purge, and nothing else. -/
theorem visible?_purge (panel : Panel Time) {now time : Time} (later : now ≤ time) :
    (panel.purge now).visible? time = panel.visible? time := by
  rw [purge_eq]
  obtain ⟨calculator, flash, delay⟩ := panel
  cases flash with
  | none => rfl
  | some flash =>
    by_cases shows : now < flash.expiry
    · simp [visible?, Option.filter_some, shows]
    · have expired : ¬ time < flash.expiry := fun showing => shows (lt_of_le_of_lt later showing)
      simp [visible?, Option.filter_some, shows, expired]

/-! ## Runs -/

/-- **What a step leaves to be seen**: what it announces, as long as that shows, and else what was
there before. -/
theorem visible?_perform (panel : Panel Time) (step : PanelStep Time) {time : Time}
    (past : step.time ≤ time) :
    (panel.perform step).visible? time =
      match step.announced? panel.calculator with
      | some message => if time < step.time + panel.delay then some message else none
      | none => panel.visible? time := by
  cases purges : step.isPurge with
  | true =>
    have operation : step.operation = .purge := beq_iff_eq.mp purges
    rw [(step.after_announced?_of_isPurge purges _).2, perform, operation]
    exact panel.visible?_purge past
  | false =>
    rw [panel.perform_eq purges]
    cases step.announced? panel.calculator with
    | none => rfl
    | some message => rfl

/-- A step does to the calculator what it does without a panel, and the delay stays. -/
theorem calculator_delay_perform (panel : Panel Time) (step : PanelStep Time) :
    (panel.perform step).calculator = step.after panel.calculator ∧
      (panel.perform step).delay = panel.delay := by
  cases purges : step.isPurge with
  | true =>
    have operation : step.operation = .purge := beq_iff_eq.mp purges
    rw [(step.after_announced?_of_isPurge purges _).1, perform, operation]
    simp [purge_eq]
  | false => simp [panel.perform_eq purges]

/-- A run does to the calculator what its steps do without a panel. -/
theorem calculator_run (panel : Panel Time) (steps : List (PanelStep Time)) :
    (panel.run steps).calculator = afterAll panel.calculator steps := by
  induction steps generalizing panel with
  | nil => rfl
  | cons step rest ih =>
    have first := (panel.calculator_delay_perform step).1
    rw [afterAll, List.foldl_cons, ← first]
    exact ih (panel.perform step)

/-- **The message on the screen after a run** is the last one announced, as long as it shows, and if
none was, the one that was there before. By induction on the run, which may purge at any time. -/
theorem visible?_run (panel : Panel Time) (steps : List (PanelStep Time)) {time : Time}
    (past : ∀ step ∈ steps, step.time ≤ time) :
    (panel.run steps).visible? time =
      match latest? panel.calculator steps with
      | some (message, made) => if time < made + panel.delay then some message else none
      | none => panel.visible? time := by
  induction steps generalizing panel with
  | nil => rfl
  | cons step rest ih =>
    obtain ⟨calculator, delay⟩ := panel.calculator_delay_perform step
    have behind := ih (panel.perform step) fun other member => past other (by simp [member])
    rw [calculator, delay] at behind
    refine Eq.trans behind ?_
    rw [latest?]
    cases latest? (step.after panel.calculator) rest with
    | some last => rfl
    | none =>
      -- nothing is announced later, so what the first step leaves is still seen
      rw [Option.none_or, panel.visible?_perform step (past step (by simp))]
      cases step.announced? panel.calculator with
      | none => rfl
      | some message => rfl

/-! ## Frames -/

/-- **Panels that agree at a time**: they differ at most in a message that has expired by then. -/
def AgreesAt (now : Time) (first second : Panel Time) : Prop :=
  first.purge now = second.purge now

/-- A panel agrees with what purging leaves of it. -/
theorem agreesAt_purge (panel : Panel Time) (now : Time) :
    AgreesAt now panel (panel.purge now) := by
  simp [AgreesAt, purge_eq]

namespace AgreesAt

variable {now : Time} {first second : Panel Time}

/-- Panels that agree have the same calculator, and show messages for as long. -/
theorem calculator_delay_eq (agrees : AgreesAt now first second) :
    first.calculator = second.calculator ∧ first.delay = second.delay := by
  simp only [AgreesAt, purge_eq, Panel.mk.injEq] at agrees
  exact ⟨agrees.1, agrees.2.2⟩

/-- What changes the calculator alone, in the same way on both sides, leaves them in agreement. -/
theorem withCalculator (agrees : AgreesAt now first second) (calculator : Calculator) :
    AgreesAt now (first.withCalculator calculator) (second.withCalculator calculator) := by
  simp only [AgreesAt, purge_eq, Panel.withCalculator, Panel.mk.injEq] at agrees ⊢
  exact ⟨trivial, agrees.2⟩

/-- A new message replaces whatever was there. -/
theorem showMessage (agrees : AgreesAt now first second) (message : List Char) (time : Time) :
    AgreesAt now (first.showMessage message time) (second.showMessage message time) := by
  obtain ⟨calculator, delay⟩ := agrees.calculator_delay_eq
  simp [AgreesAt, Panel.showMessage, calculator, delay]

/-- The same command does the same. -/
theorem execute (agrees : AgreesAt now first second) (time : Time) (moment : Timestamp)
    (command : Command) :
    AgreesAt now (first.execute time moment command) (second.execute time moment command) := by
  unfold Panel.execute
  rw [agrees.calculator_delay_eq.1]
  rcases second.calculator.execute moment command with ⟨error | accepted, next⟩
  · exact (agrees.withCalculator next).showMessage _ time
  · exact agrees.withCalculator next

/-- So do the same commands, one after the other. -/
theorem executeAll (agrees : AgreesAt now first second) (time : Time) (moment : Timestamp)
    (commands : List Command) :
    AgreesAt now (first.executeAll time moment commands)
      (second.executeAll time moment commands) := by
  induction commands generalizing first second with
  | nil => exact agrees
  | cons command rest ih => exact ih (agrees.execute time moment command)

/-- A click on the history does the same. -/
theorem clickHistory (agrees : AgreesAt now first second) (widget : Widget) :
    AgreesAt now (first.clickHistory widget) (second.clickHistory widget) := by
  have calculator := agrees.calculator_delay_eq.1
  have offers : first.offers widget = second.offers widget := by
    cases widget <;> simp [Panel.offers, calculator]
  unfold Panel.clickHistory
  rw [offers]
  split
  · cases widget with
    | key command => exact agrees
    | row index =>
      simp only [Panel.reload, calculator]
      exact agrees.withCalculator _
    | bin index =>
      simp only [Panel.removeEntry, calculator]
      exact agrees.withCalculator _
    | clearHistory =>
      simp only [Panel.clearHistory, calculator]
      exact agrees.withCalculator _
  · exact agrees

/-- A click on the keypad does the same. -/
theorem clickKeypad (agrees : AgreesAt now first second) (time : Time) (moment : Timestamp)
    (widget : Widget) :
    AgreesAt now (first.clickKeypad time moment widget)
      (second.clickKeypad time moment widget) := by
  cases widget with
  | key command => exact agrees.execute time moment command
  | row index => exact agrees
  | bin index => exact agrees
  | clearHistory => exact agrees

/-- The screen is the same. -/
theorem screen_eq (agrees : AgreesAt now first second) : first.screen now = second.screen now := by
  rw [Panel.screen, Panel.screen, ← first.visible?_purge le_rfl, ← second.visible?_purge le_rfl,
    agrees.calculator_delay_eq.1]
  rw [show first.purge now = second.purge now from agrees]

end AgreesAt

/-- What is drawn is the same. -/
theorem AgreesAt.draw_eq {now : Time} {rows shown otherRows otherShown : Panel Time}
    (behind : AgreesAt now rows otherRows) (above : AgreesAt now shown otherShown) :
    draw rows shown now = draw otherRows otherShown now := by
  rw [draw, draw, behind.calculator_delay_eq.1, above.screen_eq]

/-- **Panels that agree make the same of a frame.** -/
theorem AgreesAt.advance_eq {first second : Panel Time} {frame : Frame Time}
    (agrees : AgreesAt frame.time first second) (moment : Timestamp) :
    first.advance moment frame = second.advance moment frame := by
  have typed := agrees.executeAll frame.time moment (frame.events.flatMap KeyEvent.commands)
  cases clicked : frame.click with
  | none =>
    simp only [advance, typeEvents, clicked, Option.elim_none]
    rw [typed.draw_eq typed]
    exact congrArg (·, _) typed
  | some widget =>
    have chosen := typed.clickHistory widget
    have pressed := chosen.clickKeypad frame.time moment widget
    simp only [advance, typeEvents, clicked, Option.elim_some]
    rw [typed.draw_eq chosen]
    exact congrArg (·, _) pressed

/-- **The events of a frame may be spread over two frames** at the same time: the panel is the same
afterwards, and the same was drawn last. -/
theorem advance_append (panel : Panel Time) (moment : Timestamp) (time : Time)
    (early late : List KeyEvent) (click : Option Widget) :
    panel.advance moment ⟨time, early ++ late, click⟩ =
      (panel.advance moment ⟨time, early, none⟩).1.advance moment ⟨time, late, click⟩ := by
  have typed : panel.typeEvents time moment (early ++ late) =
      (panel.typeEvents time moment early).typeEvents time moment late := by
    simp only [typeEvents, executeAll, List.flatMap_append, List.foldl_append]
  have spread : panel.advance moment ⟨time, early ++ late, click⟩ =
      (panel.typeEvents time moment early).advance moment ⟨time, late, click⟩ := by
    simp only [advance, typed]
  -- the first of the two frames ends with a purge, which the second cannot tell
  rw [spread]
  exact (agreesAt_purge (panel.typeEvents time moment early) time).advance_eq moment

end Panel

/-! ## Schedules of purges -/

/-- **The screen after a run from the start**: the last message announced, exactly as long as its
time and the delay reach, and otherwise the text of the buffer, or a zero where there is none. -/
theorem screen_run (calculator : Calculator) (delay : Time) (steps : List (PanelStep Time))
    {time : Time} (past : ∀ step ∈ steps, step.time ≤ time) :
    let reached := (Panel.start calculator delay).run steps
    let typed :=
      if reached.calculator.buffer.text = [] then ['0'] else reached.calculator.buffer.text
    match latest? calculator steps with
    | some (message, made) =>
      reached.isFlashing time = decide (made + delay > time) ∧
        reached.screen time = if made + delay > time then message else typed
    | none => reached.isFlashing time = false ∧ reached.screen time = typed := by
  intro reached typed
  have displayed : reached.calculator.display = typed := reached.calculator.display_eq
  have visible := Panel.visible?_run (Panel.start calculator delay) steps past
  change reached.visible? time = match latest? calculator steps with
    | some (message, made) => if time < made + delay then some message else none
    | none => none at visible
  unfold Panel.isFlashing Panel.screen
  rw [visible, displayed]
  cases latest? calculator steps with
  | none => exact ⟨rfl, rfl⟩
  | some last =>
    by_cases shows : time < last.2 + delay
    · simp [shows]
    · simp [shows]

/-- **Purging is not seen.** Let two runs of a panel differ in purges only. Then the calculators end
up the same. At any time that is not before a step of theirs, a message shows on both or on neither,
and the screens are the same: the last message announced, by a refusal or on request, exactly as
long as its time and the delay reach, and otherwise the text of the buffer, or a zero where there is
none. A beginning of a run is a run, so this holds behind every step. In particular, the events of a
frame may be spread over two frames, between which there is a purge. -/
theorem screen_run_eq_of_lasting_eq (calculator : Calculator) (delay : Time)
    {first second : List (PanelStep Time)} (same : lasting first = lasting second) :
    let one := (Panel.start calculator delay).run first
    let other := (Panel.start calculator delay).run second
    let typed := if one.calculator.buffer.text = [] then ['0'] else one.calculator.buffer.text
    one.calculator = other.calculator ∧
      (∀ time, (∀ step ∈ first, step.time ≤ time) → (∀ step ∈ second, step.time ≤ time) →
        one.isFlashing time = other.isFlashing time ∧ one.screen time = other.screen time ∧
        match latest? calculator first with
        | some (message, made) =>
          one.isFlashing time = decide (made + delay > time) ∧
            one.screen time = if made + delay > time then message else typed
        | none => one.isFlashing time = false ∧ one.screen time = typed) ∧
      ∀ (panel : Panel Time) (moment : Timestamp) (time : Time) (early late : List KeyEvent)
        (click : Option Widget),
        panel.advance moment ⟨time, early ++ late, click⟩ =
          (panel.advance moment ⟨time, early, none⟩).1.advance moment ⟨time, late, click⟩ := by
  intro one other typed
  have calculators : one.calculator = other.calculator := by
    rw [Panel.calculator_run, Panel.calculator_run, ← afterAll_lasting, same, afterAll_lasting]
  have announced : latest? (Panel.start calculator delay).calculator second =
      latest? (Panel.start calculator delay).calculator first := by
    rw [← latest?_lasting, ← same, latest?_lasting]
  refine ⟨calculators, ?_, Panel.advance_append⟩
  intro time past pastOther
  have visible : one.visible? time = other.visible? time := by
    rw [Panel.visible?_run _ first past, Panel.visible?_run _ second pastOther, announced]
  refine ⟨?_, ?_, screen_run calculator delay first past⟩
  · rw [Panel.isFlashing, Panel.isFlashing, visible]
  · rw [Panel.screen, Panel.screen, visible, calculators]

/-- A refusal and a message half a second later; one run purges the refusal before the message and
the message once it has expired, the other only when the message has just come. -/
theorem screen_run_eq_of_two_messages :
    let moment : Timestamp := ⟨⟨2024, 2, 29, by decide, by decide⟩, 12, 30, 59, 0, by decide⟩
    let calculator := Calculator.start Settings.standard (.memory [])
    let refused : PanelStep ℚ := ⟨10, moment, .calculator (.command (.symbol '*'))⟩
    let asked : PanelStep ℚ := ⟨21 / 2, moment, .flash ['B']⟩
    let first := [refused, ⟨10, moment, .purge⟩, asked, ⟨12, moment, .purge⟩]
    let second := [refused, asked, ⟨21 / 2, moment, .purge⟩]
    let one := (Panel.start calculator (7 / 10)).run first
    let other := (Panel.start calculator (7 / 10)).run second
    let typed := if one.calculator.buffer.text = [] then ['0'] else one.calculator.buffer.text
    lasting first = lasting second ∧ one.calculator = other.calculator ∧
      (∀ time, (∀ step ∈ first, step.time ≤ time) → (∀ step ∈ second, step.time ≤ time) →
        one.isFlashing time = other.isFlashing time ∧ one.screen time = other.screen time ∧
        match latest? calculator first with
        | some (message, made) =>
          one.isFlashing time = decide (made + 7 / 10 > time) ∧
            one.screen time = if made + 7 / 10 > time then message else typed
        | none => one.isFlashing time = false ∧ one.screen time = typed) ∧
      ∀ (panel : Panel ℚ) (moment : Timestamp) (time : ℚ) (early late : List KeyEvent)
        (click : Option Widget),
        panel.advance moment ⟨time, early ++ late, click⟩ =
          (panel.advance moment ⟨time, early, none⟩).1.advance moment ⟨time, late, click⟩ := by
  intro moment calculator refused asked first second
  have same : lasting first = lasting second := rfl
  exact ⟨same, screen_run_eq_of_lasting_eq calculator (7 / 10) same⟩

end PocketCalc
