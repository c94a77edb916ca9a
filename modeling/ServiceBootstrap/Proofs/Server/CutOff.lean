import ServiceBootstrap.Proofs.Server.Shutdown

/-!
What a stop counts as cut off.

The loop counts its set of connections in the moment in which it leaves, and by then the set may
hold handlers that have finished and that nobody has taken out yet. They are counted like the
others. So a report tells how many handlers were running when the loop left only if every handler
that had finished was out of the set by then.
-/

namespace ServiceBootstrap.Server

namespace Acceptor

/-- How many handlers have finished and are still in the set. -/
def unreaped (a : Acceptor) : Nat := a.handlers.count .finished

lemma length_handlers (a : Acceptor) : a.handlers.length = a.running + a.unreaped := by
  unfold running unreaped
  induction a.handlers with
  | nil => rfl
  | cons h handlers ih => cases h <;> simp <;> omega

lemma length_handlers_eq_running_iff (a : Acceptor) :
    a.handlers.length = a.running ↔ .finished ∉ a.handlers := by
  rw [length_handlers, Nat.add_eq_left]
  exact List.count_eq_zero

variable {a : Acceptor} {signal : Signal}

/-- There is one way out of the selection. -/
lemma eq_observe_of_hasLeft {s : Step} (hleft : ¬ a.HasLeft) (hstep : (a.step signal s).HasLeft) :
    s = .observe := by
  by_contra hother
  -- What is not done on the channel is done as if nobody had asked.
  have hsame : a.step signal s = a.step {} s := by
    cases s with
    | observe => exact absurd rfl hother
    | accept | acceptFails | resume | finish | reap | cutOff => rfl
  rw [hsame] at hstep
  exact not_hasLeft_step hleft rfl s hstep

/-- The count is that of the set in the moment of leaving. -/
lemma aborted_observe (hleft : ¬ a.HasLeft) (hstep : (a.step signal .observe).HasLeft) :
    (a.step signal .observe).aborted = a.handlers.length := by
  simp only [Acceptor.step] at hstep ⊢
  split_ifs at hstep ⊢ with hlooks
  · split at hstep
    · rfl
    · exact absurd hstep (not_hasLeft_of_selecting hlooks.1)
    · exact absurd hstep hleft
  · exact absurd hstep hleft

/-- Nothing is counted again once the loop has left. -/
lemma HasLeft.aborted_step (h : a.HasLeft) (s : Step) :
    (a.step signal s).aborted = a.aborted := by
  have hselecting : a.stand ≠ .selecting := fun hstand => not_hasLeft_of_selecting hstand h
  cases s with
  | observe => simp [Acceptor.step, hselecting]
  | accept | acceptFails | resume | finish | reap | cutOff =>
    simp only [Acceptor.step]
    try split_ifs
    all_goals rfl

end Acceptor

namespace Running

variable {r : Running}

/-- The loop of a server leaves on what it sees right behind some steps. -/
def LeavesAfter (r : Running) (steps : List Step) : Prop :=
  ¬ (r.run steps).acceptor.HasLeft ∧ ((r.run steps).step (.acceptor .observe)).acceptor.HasLeft

lemma aborted_step (h : r.acceptor.HasLeft) (s : Step) :
    (r.step s).acceptor.aborted = r.acceptor.aborted := by
  cases s with
  | acceptor s => exact h.aborted_step s
  | copy | stop | work | poll | dropRequest =>
    simp only [Running.step]
    split <;> (try split) <;> rfl
  | drop => rfl

lemma aborted_run (h : r.acceptor.HasLeft) (steps : List Step) :
    (r.run steps).acceptor.aborted = r.acceptor.aborted := by
  induction steps generalizing r with
  | nil => rfl
  | cons s steps ih =>
    have hrest := ih (step_hasLeft (l := {}) h s).1
    exact hrest.trans (aborted_step h s)

lemma eq_observe_of_hasLeft {s : Step} (hleft : ¬ r.acceptor.HasLeft)
    (hstep : (r.step s).acceptor.HasLeft) : s = .acceptor .observe := by
  cases s with
  | acceptor s => rw [Acceptor.eq_observe_of_hasLeft hleft hstep]
  | copy | stop | work | poll | dropRequest =>
    simp only [Running.step] at hstep
    split at hstep <;> (try split at hstep) <;> exact absurd hstep hleft
  | drop => exact absurd hstep hleft

/-- A loop that is found to have left did so in one of the steps. -/
lemma exists_leavesAfter (hleft : ¬ r.acceptor.HasLeft) {steps : List Step}
    (hrun : (r.run steps).acceptor.HasLeft) :
    ∃ before after, steps = before ++ .acceptor .observe :: after ∧ r.LeavesAfter before := by
  induction steps generalizing r with
  | nil => exact absurd hrun hleft
  | cons s steps ih =>
    by_cases hnow : (r.step s).acceptor.HasLeft
    · obtain rfl := eq_observe_of_hasLeft hleft hnow
      exact ⟨[], steps, rfl, hleft, hnow⟩
    · obtain ⟨before, after, rfl, hleaves⟩ := ih hnow hrun
      exact ⟨s :: before, after, rfl, hleaves⟩

lemma LeavesAfter.aborted {before : List Step} (h : r.LeavesAfter before) (after : List Step) :
    (r.run (before ++ .acceptor .observe :: after)).acceptor.aborted =
      (r.run before).acceptor.handlers.length := by
  have hrun : r.run (before ++ .acceptor .observe :: after) =
      ((r.run before).step (.acceptor .observe)).run after := by
    unfold run
    rw [List.foldl_append, List.foldl_cons]
  rw [hrun, aborted_run h.2]
  exact Acceptor.aborted_observe h.1 h.2

/-- **A stop counts the whole set as cut off.** Whatever happens to a server and in whatever order,
a report is there only if the loop has left. As cut off it counts the handlers that were running
when the loop left, and with them those that had finished and stood in the set nevertheless. It
counts the running ones alone exactly if none of the others was left in the set. -/
theorem aborted_counts_set (handle : ServerHandle) (steps : List Step) :
    let start : Running := { handle }
    let r := start.run steps
    ∀ report, r.work = .done report ∨ r.request = .resolved report →
      (∃ before after, steps = before ++ .acceptor .observe :: after ∧ start.LeavesAfter before) ∧
      ∀ before after, steps = before ++ .acceptor .observe :: after → start.LeavesAfter before →
        let a := (start.run before).acceptor
        report.aborted = a.running + a.unreaped ∧
        (report.aborted = a.running ↔ .finished ∉ a.handlers) := by
  intro start r report hreport
  have h : r.Sound (start.ledger {} steps) := (sound_start handle).run steps
  obtain ⟨hstand, -, haborted⟩ := h.of_report hreport
  have hstart : ¬ start.acceptor.HasLeft := Acceptor.not_hasLeft_of_selecting rfl
  refine ⟨exists_leavesAfter hstart (.inr hstand), fun before after hsteps hleaves => ?_⟩
  have hcount : report.aborted = (start.run before).acceptor.handlers.length := by
    rw [haborted, ← hleaves.aborted after, ← hsteps]
  rw [hcount]
  exact ⟨Acceptor.length_handlers _, Acceptor.length_handlers_eq_running_iff _⟩

/-- A handler that had finished before anybody asked for the stop is counted as cut off. -/
example (handle : ServerHandle) (now : Nat) :
    let before : List Step := [.acceptor .accept, .acceptor (.finish 0), .stop]
    let r := ({ handle } : Running).run before
    r.acceptor.running = 0 ∧ (r.run (windDown now)).work =
      .done ⟨handle.id, 1, 1, now - handle.startedAt⟩ :=
  ⟨rfl, rfl⟩

end Running

end ServiceBootstrap.Server
