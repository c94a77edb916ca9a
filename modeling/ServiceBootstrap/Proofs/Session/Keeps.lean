import ServiceBootstrap.Proofs.Session.Coarse

/-!
What anybody but the callers of its stop can do to the life of an instance: give up its completion,
and nothing else.
-/

namespace ServiceBootstrap

/-- Where a phase stands in a life. -/
def Phase.rank : Phase → Nat
  | running => 0
  | stopping => 1
  | stopped => 2

lemma Phase.rank_le_stopped (p : Phase) : p.rank ≤ Phase.stopped.rank := by
  cases p <;> decide

namespace Lifecycle

/-- The life of an instance that was asked to stop. -/
def Asked (l : Lifecycle) : Prop :=
  l.completion ≠ .unissued ∧
    l.phase = if l.completion = .held ∧ l.concluded = false then .stopping else .stopped

lemma release_start : start.release = start := rfl

lemma release_release (l : Lifecycle) : l.release.release = l.release := by
  unfold release
  split <;> simp_all

lemma release_concluded (l : Lifecycle) : l.release.concluded = l.concluded := by
  unfold release
  split <;> rfl

lemma Asked.release {l : Lifecycle} (h : l.Asked) : l.release.Asked := by
  unfold Lifecycle.release
  split
  · simp [Asked]
  · exact h

lemma Asked.conclude {l : Lifecycle} (h : l.Asked) : l.conclude.Asked :=
  ⟨h.1, by simp [Lifecycle.conclude]⟩

lemma Asked.phase_iff {l : Lifecycle} (h : l.Asked) :
    l.phase ≠ .running ∧
    (l.phase = .stopping ↔ l.completion = .held ∧ ¬ l.concluded = true) ∧
    (l.phase = .stopped ↔ ¬ (l.completion = .held ∧ ¬ l.concluded = true)) := by
  have hphase := h.2
  split at hphase
  · next hopen => simp [hphase, hopen]
  · next hclosed => simpa [hphase] using hclosed

lemma Asked.request? {l : Lifecycle} (h : l.Asked) : l.request? = none := by
  unfold Lifecycle.request?
  rw [h.2]
  split <;> simp

lemma rank_le_release (l : Lifecycle) : l.phase.rank ≤ l.release.phase.rank := by
  unfold release
  split
  · exact l.phase.rank_le_stopped
  · exact Nat.le_refl _

end Lifecycle

namespace Session

variable {W : Type} {key : InstanceKey}

/-- The life of an instance is as it was, or its completion was given up. -/
def Keeps (key : InstanceKey) (s t : Stage W) : Prop :=
  t.lifecycle key = s.lifecycle key ∨ t.lifecycle key = (s.lifecycle key).release

lemma Keeps.coarse : Coarse (Keeps (W := W) key) where
  same hlife _ _ _ := .inl (congrArg (·.get key) hlife)
  trans {s t u} hst htu := by
    unfold Keeps at *
    rcases hst with hst | hst <;> rcases htu with htu | htu <;> rw [htu, hst]
    · exact .inl rfl
    · exact .inr rfl
    · exact .inr rfl
    · exact .inr (Lifecycle.release_release _)

lemma Keeps.of_lifecycles {s t : Stage W} (h : t.lifecycles = s.lifecycles) : Keeps key s t :=
  .inl (congrArg (·.get key) h)

/-- Nobody can give up the completion of an instance that was not asked to stop. -/
lemma Keeps.start {s t : Stage W} (h : Keeps key s t) (hs : s.lifecycle key = .start) :
    t.lifecycle key = .start := by
  rcases h with h | h
  · exact h.trans hs
  · rw [h, hs, Lifecycle.release_start]

lemma Keeps.retire (r : Scheduler) (s : Stage W) : Keeps key s (s.retire r) := by
  cases r <;> exact .of_lifecycles rfl

lemma Keeps.release (other : InstanceKey) (s : Stage W) : Keeps key s (s.release other) := by
  by_cases h : key = other
  · subst h
    exact .inr (Table.get_set_self _ _ _)
  · -- giving up the completion of another instance does nothing to this one
    exact .inl (Table.get_set_of_ne _ h _)

lemma Keeps.rank_le {s t : Stage W} (h : Keeps key s t) :
    (s.phase key).rank ≤ (t.phase key).rank := by
  unfold Stage.phase
  rcases h with h | h
  · exact Nat.le_of_eq (by rw [h])
  · rw [h]
    exact Lifecycle.rank_le_release _

lemma Script.keeps : Task.Within Script (Keeps key) :=
  Script.within Keeps.coarse (fun _ _ => .of_lifecycles rfl) fun other s => .release other s

end Session

end ServiceBootstrap
