import Mathlib.Tactic.Lemma
import ServiceBootstrap.Session.Script

/-!
What happens on a stage beside one line.

Spawned work replies over a line of its own. Nobody but the work's sender and its owner has an end
of that line, so everything else is done as it would be done with any other state of the line,
leaves that state as it is, and leaves the work in its place.
-/

namespace ServiceBootstrap.Session

variable {W : Type} {line other : Line}

/-! ### The state of a line -/

@[simp] lemma setLine_setLine (line : Line) (l m : LineState) (s : Stage W) :
    (s.setLine line l).setLine line m = s.setLine line m := by
  simp [Stage.setLine]

@[simp] lemma setLine_get (line : Line) (s : Stage W) :
    s.setLine line (s.lines.get line) = s := by
  simp [Stage.setLine]

@[simp] lemma get_setLine (line : Line) (l : LineState) (s : Stage W) :
    (s.setLine line l).lines.get line = l := Table.get_set_self _ _ _

lemma hangUp_ne_silent (line : Line) (s : Stage W) (waiter? : Option Line) :
    (s.hangUp line).lines.get line ≠ .silent waiter? := by
  simp [Stage.hangUp]

lemma get_setLine_of_ne (h : other ≠ line) (l : LineState) (s : Stage W) :
    (s.setLine line l).lines.get other = s.lines.get other := Table.get_set_of_ne _ h _

lemma setLine_comm (h : other ≠ line) (l m : LineState) (s : Stage W) :
    (s.setLine line l).setLine other m = (s.setLine other m).setLine line l := by
  simp [Stage.setLine, Table.set_comm _ h]

lemma endSilence_of_silent {s : Stage W} (h : s.lines.get line = .silent none) (l : LineState) :
    (s.endSilence line l).2 = s.setLine line l := by
  unfold Stage.endSilence
  rw [h]
  rfl

lemma endSilence_of_ne_silent {s : Stage W} (h : ∀ waiter?, s.lines.get line ≠ .silent waiter?)
    (l : LineState) : (s.endSilence line l).2 = s := by
  unfold Stage.endSilence
  split
  · next hline => exact absurd hline (h _)
  · rfl
  · rfl
  · rfl

/-- Something that is done beside a line and the work that replies on it. -/
structure Beside (line : Line) (f : Stage W → Stage W) : Prop where
  setLine : ∀ s l, f (s.setLine line l) = (f s).setLine line l
  task : ∀ s, (f s).tasks.get line = s.tasks.get line
  spawned : ∀ s, line ∈ s.spawned → line ∈ (f s).spawned

lemma Beside.get {f : Stage W → Stage W} (h : Beside line f) (s : Stage W) :
    (f s).lines.get line = s.lines.get line := by
  have hset := h.setLine s (s.lines.get line)
  rw [setLine_get] at hset
  rw [hset, get_setLine]

lemma Beside.id : Beside line (fun s : Stage W => s) := ⟨fun _ _ => rfl, fun _ => rfl, fun _ h => h⟩

lemma Beside.comp {f g : Stage W → Stage W} (hf : Beside line f) (hg : Beside line g) :
    Beside line fun s => g (f s) where
  setLine s l := by rw [hf.setLine, hg.setLine]
  task s := (hg.task _).trans (hf.task s)
  spawned s h := hg.spawned _ (hf.spawned s h)

/-- Something that goes by what another thing came to. -/
lemma Beside.bind {A : Type} {f : Stage W → A × Stage W} {g : A → Stage W → Stage W}
    (hsame : ∀ s l, (f (s.setLine line l)).1 = (f s).1) (hf : Beside line fun s => (f s).2)
    (hg : ∀ a, Beside line (g a)) : Beside line fun s => g (f s).1 (f s).2 where
  setLine s l := by rw [hsame, hf.setLine, (hg _).setLine]
  task s := ((hg _).task _).trans (hf.task s)
  spawned s h := (hg _).spawned _ (hf.spawned s h)

/-! ### Other lines -/

lemma beside_say (n : Note) : Beside line (Stage.say (W := W) n) :=
  ⟨fun _ _ => rfl, fun _ => rfl, fun _ h => h⟩

lemma beside_release (key : InstanceKey) : Beside line (Stage.release (W := W) key) :=
  ⟨fun _ _ => rfl, fun _ => rfl, fun _ h => h⟩

lemma beside_provider (f : Server.Provider → Server.Provider) :
    Beside line fun s : Stage W => { s with provider := f s.provider } :=
  ⟨fun _ _ => rfl, fun _ => rfl, fun _ h => h⟩

lemma beside_retire (r : Scheduler) : Beside line (Stage.retire (W := W) r) := by
  cases r <;> exact ⟨fun _ _ => rfl, fun _ => rfl, fun _ h => h⟩

lemma beside_wake (task? : Option Line) : Beside line (Stage.wake (W := W) task?) := by
  cases task? <;> exact ⟨fun _ _ => rfl, fun _ => rfl, fun _ h => h⟩

lemma beside_setLine (h : other ≠ line) (l : LineState) :
    Beside line (Stage.setLine (W := W) other l) :=
  ⟨fun s m => setLine_comm h m l s, fun _ => rfl, fun _ h => h⟩

lemma beside_endSilence (h : other ≠ line) (l : LineState) :
    Beside line fun s : Stage W => (s.endSilence other l).2 := by
  have hwake : ∀ waiter?, Beside line fun s : Stage W => (s.setLine other l).wake waiter? :=
    fun waiter? => (beside_setLine h l).comp (beside_wake waiter?)
  refine ⟨fun s m => ?_, fun s => ?_, fun s hs => ?_⟩
  · unfold Stage.endSilence
    rw [get_setLine_of_ne h]
    cases s.lines.get other with
    | silent waiter? => exact (hwake waiter?).setLine s m
    | sent o => rfl
    | closed => rfl
    | deaf => rfl
  · unfold Stage.endSilence
    cases s.lines.get other with
    | silent waiter? => exact (hwake waiter?).task s
    | sent o => rfl
    | closed => rfl
    | deaf => rfl
  · unfold Stage.endSilence
    cases s.lines.get other with
    | silent waiter? => exact (hwake waiter?).spawned s hs
    | sent o => exact hs
    | closed => exact hs
    | deaf => exact hs

lemma receive_setLine (h : other ≠ line) (task? : Option Line) (l : LineState) (s : Stage W) :
    (s.setLine line l).receive task? other =
      ((s.receive task? other).1, (s.receive task? other).2.setLine line l) := by
  unfold Stage.receive
  rw [get_setLine_of_ne h]
  cases s.lines.get other with
  | silent waiter? => exact Prod.ext rfl (setLine_comm h l _ s)
  | sent o => exact Prod.ext rfl (setLine_comm h l .deaf s)
  | closed => rfl
  | deaf => rfl

lemma beside_receive (h : other ≠ line) (task? : Option Line) :
    Beside line fun s : Stage W => (s.receive task? other).2 where
  setLine s l := by rw [receive_setLine h]
  task s := by unfold Stage.receive; split <;> rfl
  spawned s hs := by unfold Stage.receive; split <;> exact hs

lemma beside_setTask (h : other ≠ line) (task? : Option W) :
    Beside line fun s : Stage W => { s with tasks := s.tasks.set other task? } :=
  ⟨fun _ _ => rfl, fun _ => Table.get_set_of_ne _ h.symm _, fun _ h => h⟩

lemma beside_endTask (h : other ≠ line) (l : LineState) :
    Beside line (Stage.endTask (W := W) other l) :=
  (beside_setTask h none).comp (beside_endSilence h l)

lemma onTask_of_none {s : Stage W} (h : s.tasks.get line = none)
    (act : Line → W → Stage W → Stage W) : s.onTask act line = s := by
  unfold Stage.onTask
  rw [h]

lemma onTask_of_some {s : Stage W} {w : W} (h : s.tasks.get line = some w)
    (act : Line → W → Stage W → Stage W) : s.onTask act line = act line w s := by
  unfold Stage.onTask
  rw [h]

lemma beside_onTask {act : Line → W → Stage W → Stage W} (hact : ∀ w, Beside line (act other w)) :
    Beside line fun s : Stage W => s.onTask act other := by
  refine ⟨fun s l => ?_, fun s => ?_, fun s hs => ?_⟩
  · have htask : (s.setLine line l).tasks.get other = s.tasks.get other := rfl
    cases h : s.tasks.get other with
    | none => rw [onTask_of_none h, onTask_of_none (htask.trans h)]
    | some w =>
      rw [onTask_of_some h, onTask_of_some (htask.trans h)]
      exact (hact w).setLine s l
  · cases h : s.tasks.get other with
    | none => rw [onTask_of_none h]
    | some w => rw [onTask_of_some h]; exact (hact w).task s
  · cases h : s.tasks.get other with
    | none => rwa [onTask_of_none h]
    | some w => rw [onTask_of_some h]; exact (hact w).spawned s hs

/-! ### Work -/

variable [Task W]

/-- All work leaves a line alone, and takes no notice of it. -/
structure Task.LeavesAlone (W : Type) [Task W] (line : Line) : Prop where
  advance : ∀ task? w, Beside line fun s : Stage W => (Task.advance task? w s).2
  progress : ∀ task? w (s : Stage W) l,
    (Task.advance task? w (s.setLine line l)).1 = (Task.advance task? w s).1
  abandon : ∀ w, Beside line fun s : Stage W => Task.abandon w s

lemma beside_giveUpTask (hwork : Task.LeavesAlone W line) (h : other ≠ line) (w : W) :
    Beside line (Stage.giveUpTask other w) :=
  (hwork.abandon w).comp (beside_endTask h .closed)

lemma beside_settleTask (hwork : Task.LeavesAlone W line) (h : other ≠ line)
    (p : Progress W Yield) : Beside line (Stage.settleTask other p) := by
  cases p with
  | waiting w => exact beside_setTask h (some w)
  | finished o => exact beside_endTask h (.sent o)
  | broken w => exact beside_giveUpTask hwork h w

lemma beside_advanceTask (hwork : Task.LeavesAlone W line) (h : other ≠ line) (w : W) :
    Beside line (Stage.advanceTask other w) :=
  Beside.bind (hwork.progress (some other) w) (hwork.advance (some other) w)
    (beside_settleTask hwork h)

lemma beside_runTask (hwork : Task.LeavesAlone W line) (h : other ≠ line) :
    Beside line fun s : Stage W => s.runTask other :=
  beside_onTask (beside_advanceTask hwork h)

/-! ### Scripts -/

lemma progress_script (hline : ∀ n, .hand n ≠ line) (task? : Option Line) (cues : List Cue)
    (o : Outcome Yield) (s : Stage Script) (l : LineState) :
    (Session.advance task? cues o (s.setLine line l)).1 =
      (Session.advance task? cues o s).1 := by
  induction cues generalizing o s with
  | nil => rfl
  | cons cue cues ih =>
    cases cue with
    | note n => exact ih o (s.say n)
    | release key => exact ih o (s.release key)
    | pause => rfl
    | panic => rfl
    | openListener key c => exact ih _ { s with provider := (s.provider.start c key.id 0).2 }
    | close address => exact ih o { s with provider := s.provider.close address }
    | receive work =>
      unfold Session.advance
      rw [receive_setLine (hline work)]
      rcases s.receive task? (.hand work) with ⟨_ | received, s'⟩
      · rfl
      · exact ih received s'

lemma beside_script (hline : ∀ n, .hand n ≠ line) (task? : Option Line) (cues : List Cue)
    (o : Outcome Yield) : Beside line fun s => (Session.advance task? cues o s).2 := by
  induction cues generalizing o with
  | nil => exact .id
  | cons cue cues ih =>
    cases cue with
    | note n => exact (beside_say n).comp (ih o)
    | release key => exact (beside_release key).comp (ih o)
    | pause => exact beside_wake task?
    | panic => exact .id
    | openListener key c =>
      let started (p : Server.Provider) : Outcome Yield :=
        (p.start c key.id 0).1.map (.started ∘ serverInstance key)
      exact Beside.bind (f := fun s => (started s.provider,
          { s with provider := (s.provider.start c key.id 0).2 }))
        (fun _ _ => rfl) (beside_provider fun p => (p.start c key.id 0).2) ih
    | close address => exact (beside_provider (·.close address)).comp (ih o)
    | receive work =>
      let rest : Option (Outcome Yield) → Stage Script → Stage Script
        | some received, s => (Session.advance task? cues received s).2
        | none, s => s
      have hrest : ∀ received?, Beside line (rest received?) := by
        rintro (_ | received)
        · exact .id
        · exact ih received
      have heq : (fun s => (Session.advance task? (.receive work :: cues) o s).2) =
          fun s => rest (s.receive task? (.hand work)).1 (s.receive task? (.hand work)).2 := by
        funext s
        rw [Session.advance]
        rcases s.receive task? (.hand work) with ⟨_ | received, s'⟩ <;> rfl
      rw [heq]
      exact Beside.bind (fun s l => by rw [receive_setLine (hline work)])
        (beside_receive (hline work) task?) hrest

lemma beside_abandon (hline : ∀ n, .hand n ≠ line) (cue : Cue) : Beside line cue.abandon := by
  cases cue with
  | note n => exact .id
  | release key => exact beside_release key
  | pause => exact .id
  | panic => exact .id
  | openListener key c => exact .id
  | close address => exact .id
  | receive work => exact beside_setLine (hline work) .deaf

/-- Scripts wait for hands only. -/
lemma Script.leavesAlone (hline : ∀ n, .hand n ≠ line) : Task.LeavesAlone Script line where
  advance task? w := beside_script hline task? w.cues w.outcome
  progress task? w := progress_script hline task? w.cues w.outcome
  abandon w := by
    obtain ⟨cues, o⟩ := w
    induction cues with
    | nil => exact .id
    | cons cue cues ih => exact (beside_abandon hline cue).comp ih

end ServiceBootstrap.Session
