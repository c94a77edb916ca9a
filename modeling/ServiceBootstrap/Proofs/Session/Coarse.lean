import ServiceBootstrap.Proofs.Pending.Handle
import ServiceBootstrap.Session.Stop

/-!
What a scheduler does to the lives of the instances and to the log: nothing of its own.

A relation between stages is coarse if it can be chained and holds between stages that differ in
lines, tasks and listeners only, and in what was added to the queue. If all work stays within a
coarse relation, so do the turns of a scheduler if it may take its work out of the queue, and its
going away if that alone does.
-/

namespace ServiceBootstrap.Session

variable {W : Type}

abbrev Handle (W : Type) := ServiceBootstrap.Handle (Stage W) (Source W) Yield

structure Coarse (R : Stage W → Stage W → Prop) : Prop where
  same : ∀ {s t : Stage W}, t.lifecycles = s.lifecycles → t.log = s.log →
    t.provider.alive = s.provider.alive → s.queue ⊆ t.queue → R s t
  trans : ∀ {s t u : Stage W}, R s t → R t u → R s u

/-- All that work does, whoever polls it, stays within a relation. -/
structure Task.Within (W : Type) [Task W] (R : Stage W → Stage W → Prop) : Prop where
  advance : ∀ (task? : Option Line) (w : W) (s : Stage W), R s (Task.advance task? w s).2
  abandon : ∀ (w : W) (s : Stage W), R s (Task.abandon w s)

variable {R : Stage W → Stage W → Prop}

lemma Coarse.refl (hR : Coarse R) (s : Stage W) : R s s := hR.same rfl rfl rfl (List.Subset.refl _)

/-! ### Lines -/

lemma Coarse.setLine (hR : Coarse R) (line : Line) (l : LineState) (s : Stage W) :
    R s (s.setLine line l) := hR.same rfl rfl rfl (List.Subset.refl _)

lemma Coarse.hangUp (hR : Coarse R) (line : Line) (s : Stage W) : R s (s.hangUp line) :=
  hR.setLine line .deaf s

lemma Coarse.wake (hR : Coarse R) (task? : Option Line) (s : Stage W) : R s (s.wake task?) := by
  cases task? with
  | none => exact hR.refl s
  | some task => exact hR.same rfl rfl rfl (List.subset_append_left _ _)

lemma Coarse.endSilence (hR : Coarse R) (line : Line) (l : LineState) (s : Stage W) :
    R s (s.endSilence line l).2 := by
  unfold Stage.endSilence
  split
  · exact hR.trans (hR.setLine line l s) (hR.wake _ _)
  · exact hR.refl s
  · exact hR.refl s
  · exact hR.refl s

lemma Coarse.closeLine (hR : Coarse R) (line : Line) (s : Stage W) : R s (s.closeLine line) :=
  hR.endSilence line .closed s

lemma Coarse.receive (hR : Coarse R) (task? : Option Line) (line : Line) (s : Stage W) :
    R s (s.receive task? line).2 := by
  unfold Stage.receive
  split
  · exact hR.hangUp line s
  · exact hR.setLine line _ s
  · exact hR.refl s
  · exact hR.refl s

/-! ### The scheduler -/

lemma Coarse.foldl (hR : Coarse R) {f : Stage W → Line → Stage W} (hf : ∀ s line, R s (f s line))
    (lines : List Line) (s : Stage W) : R s (lines.foldl f s) := by
  induction lines generalizing s with
  | nil => exact hR.refl s
  | cons line lines ih => exact hR.trans (hf s line) (ih (f s line))

variable [Task W]

lemma Coarse.work (hR : Coarse R) (hwork : Task.Within W R) :
    Work.Within (Stage W) (Source W) Yield R where
  advance w s := by
    cases w with
    | line line =>
      have hadvance : (Work.advance (V := Yield) (Source.line line : Source W) s).2 =
          (s.receive none line).2 := by
        simp only [Work.advance]
        rcases s.receive none line with ⟨_ | o, s'⟩ <;> rfl
      rw [hadvance]
      exact hR.receive none line s
    | work w => exact hwork.advance none w s
  abandon w s := by
    cases w with
    | line line => exact hR.hangUp line s
    | work w => exact hwork.abandon w s

lemma Coarse.spawn (hR : Coarse R) (hwork : Task.Within W R) (line : Line) (w : W) (s : Stage W) :
    R s (Pending.spawn line w s).2 := by
  have hopened : R s (s.setLine line (.silent none)) := hR.setLine line _ s
  unfold Pending.spawn Stage.spawn
  split
  · exact hR.same rfl rfl rfl (List.subset_append_left _ _)
  · exact hR.trans hopened (hR.trans (hwork.abandon w _) (hR.closeLine line _))

omit [Task W] in
lemma Coarse.endTask (hR : Coarse R) (line : Line) (l : LineState) (s : Stage W) :
    R s (s.endTask line l) := by
  have hset : R s { s with tasks := s.tasks.set line none } :=
    hR.same rfl rfl rfl (List.Subset.refl _)
  exact hR.trans hset (hR.endSilence line l _)

lemma Coarse.giveUpTask (hR : Coarse R) (hwork : Task.Within W R) (line : Line) (w : W)
    (s : Stage W) : R s (s.giveUpTask line w) :=
  hR.trans (hwork.abandon w s) (hR.endTask line .closed _)

lemma Coarse.advanceTask (hR : Coarse R) (hwork : Task.Within W R) (line : Line) (w : W)
    (s : Stage W) : R s (s.advanceTask line w) := by
  have hadv := hwork.advance (some line) w s
  unfold Stage.advanceTask
  generalize Task.advance (some line) w s = r at hadv ⊢
  rcases r with ⟨w' | o | w', s'⟩
  · exact hR.trans hadv (hR.same rfl rfl rfl (List.Subset.refl _))
  · exact hR.trans hadv (hR.endTask line (.sent o) s')
  · exact hR.trans hadv (hR.giveUpTask hwork line w' s')

omit [Task W] in
lemma Coarse.onTask (hR : Coarse R) {act : Line → W → Stage W → Stage W}
    (hact : ∀ line w s, R s (act line w s)) (s : Stage W) (line : Line) :
    R s (s.onTask act line) := by
  unfold Stage.onTask
  split
  · exact hR.refl s
  · exact hact line _ s

lemma Coarse.runTasks (hR : Coarse R) (hwork : Task.Within W R) (lines : List Line) (s : Stage W) :
    R s (lines.foldl Stage.runTask s) :=
  hR.foldl (hR.onTask (hR.advanceTask hwork)) lines s

section

variable {r : Scheduler}
  (htaken : ∀ s : Stage W, R s { s with queue := s.queue.filter (·.scheduler ≠ r) })

include htaken

lemma Coarse.turn (hR : Coarse R) (hwork : Task.Within W R) (s : Stage W) : R s (s.turn r) :=
  hR.trans (htaken s) (hR.runTasks hwork _ _)

lemma Coarse.shutdown (hR : Coarse R) (hwork : Task.Within W R) {s : Stage W}
    (hretired : R s (s.retire r)) : R s (s.shutdown r) := by
  have hdrop := hR.foldl (hR.onTask (hR.giveUpTask hwork))
    (s.spawned.filter (·.scheduler = r)) (s.retire r)
  exact hR.trans (hR.trans hretired hdrop) (htaken _)

end

/-! ### Scripts -/

/-- Scripts say things and give completions up; everything else they do is between lines, or to the
network provider. -/
lemma Script.within {R : Stage Script → Stage Script → Prop} (hR : Coarse R)
    (hsay : ∀ n s, R s (s.say n)) (hrelease : ∀ key s, R s (s.release key)) :
    Task.Within Script R where
  advance task? w s := by
    obtain ⟨cues, o⟩ := w
    change R s (Session.advance task? cues o s).2
    induction cues generalizing o s with
    | nil => exact hR.refl s
    | cons cue cues ih =>
      cases cue with
      | note n => exact hR.trans (hsay n s) (ih _ o)
      | release key => exact hR.trans (hrelease key s) (ih _ o)
      | pause => exact hR.wake task? s
      | panic => exact hR.refl s
      | openListener key c =>
        have hstarted : R s { s with provider := (s.provider.start c key.id 0).2 } :=
          hR.same rfl rfl (Server.Provider.alive_start ..) (List.Subset.refl _)
        exact hR.trans hstarted (ih _ _)
      | close address =>
        have hclosed : R s { s with provider := s.provider.close address } :=
          hR.same rfl rfl rfl (List.Subset.refl _)
        exact hR.trans hclosed (ih _ o)
      | receive work =>
        have hreceive := hR.receive task? (.hand work) s
        unfold Session.advance
        generalize s.receive task? (.hand work) = r at hreceive ⊢
        rcases r with ⟨_ | received, s'⟩
        · exact hreceive
        · exact hR.trans hreceive (ih s' received)
  abandon w s := by
    obtain ⟨cues, o⟩ := w
    change R s (cues.foldl (fun s c => c.abandon s) s)
    induction cues generalizing s with
    | nil => exact hR.refl s
    | cons cue cues ih =>
      have hcue : R s (cue.abandon s) := by
        cases cue with
        | note n => exact hR.refl s
        | release key => exact hrelease key s
        | pause => exact hR.refl s
        | panic => exact hR.refl s
        | openListener key c => exact hR.refl s
        | close address => exact hR.refl s
        | receive work => exact hR.hangUp (.hand work) s
      exact hR.trans hcue (ih (cue.abandon s))

/-! ### Controls -/

omit [Task W] in
lemma Coarse.complete (hR : Coarse R) (hrelease : ∀ key s, R s (s.release key)) (name : String)
    (s : Stage W) : R s ((s.complete name).getD s) := by
  unfold Stage.complete
  cases s.completions.get name with
  | none => exact hR.refl s
  | some old =>
    have hcleared : R s { s with completions := s.completions.set name none } :=
      hR.same rfl rfl rfl (List.Subset.refl _)
    exact hR.trans hcleared (hrelease old _)

omit [Task W] in
lemma Coarse.abandonNative (hR : Coarse R) (name : String) (s : Stage W) :
    R s ((s.abandonNative name).getD s) := by
  unfold Stage.abandonNative
  cases s.natives.get name with
  | none => exact hR.refl s
  | some old =>
    have hcleared : R s { s with natives := s.natives.set name none } :=
      hR.same rfl rfl rfl (List.Subset.refl _)
    exact hR.trans hcleared (hR.closeLine (.native old) _)

omit [Task W] in
lemma Coarse.keep (hR : Coarse R) (hrelease : ∀ key s, R s (s.release key)) (name : String)
    (key : InstanceKey) (s : Stage W) : R s (s.keep name key) := by
  have hcompletion : R s ((s.complete name).getD s) := hR.complete hrelease name s
  have hnative := hR.trans hcompletion (hR.abandonNative name _)
  exact hR.trans hnative (hR.same rfl rfl rfl (List.Subset.refl _))

/-- The controls of a session say things, give completions up and leave them to scripts. -/
lemma Coarse.stop {R : Stage Script → Stage Script → Prop} (hR : Coarse R)
    (hsay : ∀ n s, R s (s.say n)) (hrelease : ∀ key s, R s (s.release key)) (c : Control)
    (key : InstanceKey) (s : Stage Script) : R s (c.stop key s).2 := by
  have htold : R s (s.say (.controlStop c.name)) := hsay _ s
  unfold Control.stop
  cases c.kind with
  | immediate => exact hR.trans htold (hrelease key _)
  | lazy => exact htold
  | spawned => exact hR.trans htold (hR.spawn (Script.within hR hsay hrelease) _ _ _)
  | manual => exact hR.trans htold (hR.keep hrelease c.name key _)
  | listener address => exact hR.spawn (Script.within hR hsay hrelease) _ _ s

/-- What a control of a session leaves to be waited for has no layers of its own. -/
lemma stop_within {R : Stage Script → Stage Script → Prop} (c : Control) (key : InstanceKey)
    (s : Stage Script) : (c.stop key s).1.Within R := by
  unfold Control.stop
  cases c.kind <;> trivial

end ServiceBootstrap.Session
