import ServiceBootstrap.Proofs.Session.Beside
import ServiceBootstrap.Proofs.Session.Coarse

/-!
Spawned work and its owner, in any order of what the schedulers, the owner and others do.

What becomes of the work is told by watching the work alone: whenever its scheduler lets it go on,
by how that ends, and when the scheduler goes away, by whether it was still unfinished. The state of
the line between the work and its owner follows what becomes of the work, and this is all that the
owner ever learns.
-/

namespace ServiceBootstrap.Session

variable {W : Type} {line : Line}

/-- What has become of spawned work. -/
inductive Fate (W : Type) where
  | running (w : W)
  | finished (o : Outcome Yield)
  /-- Went away unfinished, or broke down. -/
  | dropped

namespace Fate

/-- What a poll of the owner gives. -/
def upshot : Fate W → ServiceBootstrap.Pending.Upshot Yield
  | running _ => .waiting
  | finished o => .outcome o
  | dropped => .outcome (.error .abandoned)

def work? : Fate W → Option W
  | running w => some w
  | finished _ | dropped => none

/-- What is on the line of an owner that has not looked yet. -/
def onLine : Fate W → LineState
  | running _ => .silent none
  | finished o => .sent o
  | dropped => .closed

def drop : Fate W → Fate W
  | running _ => dropped
  | finished o => finished o
  | dropped => dropped

def ofProgress : Progress W Yield → Fate W
  | .waiting w => running w
  | .finished o => finished o
  | .broken _ => dropped

/-- A scheduler lets the work on some line go on. -/
def run [Task W] (line ran : Line) (s : Stage W) : Fate W → Fate W
  | running w =>
    if ran = line then ofProgress (Task.advance (some line) w s).1 else running w
  | finished o => finished o
  | dropped => dropped

end Fate

/-- Something that others do. -/
structure Other (W : Type) (line : Line) where
  run : Stage W → Stage W
  beside : Beside line run

inductive Occurrence (W : Type) (line : Line) where
  /-- The owner polls. -/
  | poll
  /-- The owner gives up. -/
  | drop
  /-- A scheduler lets one piece of work go on. -/
  | run (ran : Line)
  | turn (of : Scheduler)
  | shutdown (of : Scheduler)
  | other (o : Other W line)

def Occurrence.isOwners : Occurrence W line → Bool
  | poll | drop => true
  | run _ | turn _ | shutdown _ | other _ => false

/-- A stage, and the owner of a pending outcome. -/
structure Scene (W : Type) where
  stage : Stage W
  owner : Handle W

/-- What is on a line is what its owner is to learn of the work, or nobody is silent on it. -/
def Owns (line : Line) (s : Stage W) (fate : Fate W) : Handle W → Prop
  | .held p => p = Pending.receive line ∧ s.lines.get line = fate.onLine
  | .resolved o => fate.upshot = .outcome o ∧ ∀ waiter?, s.lines.get line ≠ .silent waiter?
  | .gone => ∀ waiter?, s.lines.get line ≠ .silent waiter?

/-- What holds of a line, the work on it and its owner between any two steps. -/
structure Scene.Sound (line : Line) (s : Stage W) (owner : Handle W) (fate : Fate W) : Prop where
  task : s.tasks.get line = fate.work?
  spawned : fate.work?.isSome → line ∈ s.spawned
  owner : Owns line s fate owner

/-! ### The end of the work -/

variable {s : Stage W} {owner : Handle W} {fate : Fate W}

lemma Scene.Sound.beside (h : Scene.Sound line s owner fate) {f : Stage W → Stage W}
    (hf : Beside line f) : Scene.Sound line (f s) owner fate where
  task := (hf.task s).trans h.task
  spawned hwork := hf.spawned s (h.spawned hwork)
  owner := by
    have howner := h.owner
    unfold Owns at howner ⊢
    rwa [hf.get]

/-- Nobody is woken by what comes over the line of an owner. -/
lemma Scene.Sound.unwaited (h : Scene.Sound line s owner fate) (task : Line) :
    s.lines.get line ≠ .silent (some task) := by
  have howner := h.owner
  cases owner with
  | held p =>
    rw [howner.2]
    cases fate <;> simp [Fate.onLine]
  | resolved o => exact howner.2 _
  | gone => exact howner _

/-- Work that was running comes to its end, and leaves on its line what its owner is to learn. -/
lemma Scene.Sound.endTask {w : W} (h : Scene.Sound line s owner (.running w)) (fate : Fate W)
    (hend : fate.work? = none) : Scene.Sound line (s.endTask line fate.onLine) owner fate := by
  let t : Stage W := { s with tasks := s.tasks.set line none }
  have htask : t.tasks.get line = fate.work? := (Table.get_set_self _ _ _).trans hend.symm
  have hspawned : fate.work?.isSome → line ∈ s.spawned := fun hwork => by simp [hend] at hwork
  have howner := h.owner
  change Scene.Sound line (t.endSilence line fate.onLine).2 owner fate
  cases owner with
  | held p =>
    have hsilent : t.lines.get line = .silent none := howner.2
    rw [endSilence_of_silent hsilent]
    exact ⟨htask, hspawned, howner.1, get_setLine line _ t⟩
  | resolved o => simp [Owns, Fate.upshot] at howner
  | gone =>
    have hquiet : ∀ waiter?, t.lines.get line ≠ .silent waiter? := howner
    rw [endSilence_of_ne_silent hquiet]
    exact ⟨htask, hspawned, howner⟩

variable [Task W]

def Scene.step (c : Scene W) : Occurrence W line → Scene W
  | .poll => ⟨(c.owner.poll c.stage).2, (c.owner.poll c.stage).1⟩
  | .drop => ⟨(c.owner.drop c.stage).2, (c.owner.drop c.stage).1⟩
  | .run ran => { c with stage := c.stage.runTask ran }
  | .turn of => { c with stage := c.stage.turn of }
  | .shutdown of => { c with stage := c.stage.shutdown of }
  | .other o => { c with stage := o.run c.stage }

/-- Watches the work on a line while a scheduler lets some work go on. -/
def Fate.watchRun (line : Line) (r : Stage W × Fate W) (ran : Line) : Stage W × Fate W :=
  (r.1.runTask ran, r.2.run line ran r.1)

/-- What becomes of the work on a line in a step from a stage. -/
def Fate.step (s : Stage W) (f : Fate W) : Occurrence W line → Fate W
  | .run ran => f.run line ran s
  | .turn of =>
    ((s.queue.filter (·.scheduler = of)).foldl (watchRun line)
      ({ s with queue := s.queue.filter (·.scheduler ≠ of) }, f)).2
  | .shutdown of => if line.scheduler = of then f.drop else f
  | .poll | .drop | .other _ => f

/-- One step of the scene, and of the work that is watched. -/
def watchStep (r : Scene W × Fate W) (e : Occurrence W line) : Scene W × Fate W :=
  (r.1.step e, r.2.step r.1.stage e)

/-- Work has just been given to its scheduler, if that is there. -/
def Scene.spawned (line : Line) (w : W) (s : Stage W) : Scene W × Fate W :=
  (⟨(Pending.spawn line w s).2, .held (Pending.spawn line w s).1⟩,
    if s.runs line.scheduler then .running w else .dropped)

/-! ### One step of a scheduler -/

variable (hwork : Task.LeavesAlone W line)

include hwork

lemma Scene.Sound.settleTask {w : W} (h : Scene.Sound line s owner (.running w))
    (p : Progress W Yield) :
    Scene.Sound line (s.settleTask line p) owner (.ofProgress p) := by
  cases p with
  | waiting w' => exact ⟨Table.get_set_self _ _ _, fun _ => h.spawned rfl, h.owner⟩
  | finished o => exact h.endTask (.finished o) rfl
  | broken w' => exact (h.beside (hwork.abandon w')).endTask .dropped rfl

lemma Scene.Sound.runTask (h : Scene.Sound line s owner fate) (ran : Line) :
    Scene.Sound line (s.runTask ran) owner (fate.run line ran s) := by
  by_cases hran : ran = line
  · subst hran
    unfold Stage.runTask
    cases fate with
    | running w =>
      have hadvanced := h.beside (hwork.advance (some ran) w)
      rw [onTask_of_some h.task, Fate.run, if_pos rfl]
      exact hadvanced.settleTask hwork (Task.advance (some ran) w s).1
    | finished o => rw [onTask_of_none h.task]; exact h
    | dropped => rw [onTask_of_none h.task]; exact h
  · have hfate : fate.run line ran s = fate := by
      cases fate <;> simp [Fate.run, hran]
    rw [hfate]
    exact h.beside (beside_runTask hwork hran)

lemma Scene.Sound.dropTask (h : Scene.Sound line s owner fate) (ran : Line) :
    Scene.Sound line (s.dropTask ran) owner (if ran = line then fate.drop else fate) := by
  split
  · next hran =>
    subst hran
    unfold Stage.dropTask
    cases fate with
    | running w =>
      rw [onTask_of_some h.task]
      exact (h.beside (hwork.abandon w)).endTask .dropped rfl
    | finished o => rw [onTask_of_none h.task]; exact h
    | dropped => rw [onTask_of_none h.task]; exact h
  · next hran => exact h.beside (beside_onTask (beside_giveUpTask hwork hran))

omit [Task W] hwork in
lemma endTask_hangUp (hs : ∀ task, s.lines.get line ≠ .silent (some task)) (l : LineState) :
    (s.hangUp line).endTask line l = (s.endTask line l).hangUp line := by
  let t : Stage W := { s with tasks := s.tasks.set line none }
  change ((t.hangUp line).endSilence line l).2 = ((t.endSilence line l).2).hangUp line
  rw [endSilence_of_ne_silent (hangUp_ne_silent line t)]
  by_cases hsilent : t.lines.get line = .silent none
  · rw [endSilence_of_silent hsilent]
    exact (setLine_setLine line l .deaf t).symm
  · have hquiet : ∀ waiter?, t.lines.get line ≠ .silent waiter? := by
      rintro (_ | task)
      · exact hsilent
      · exact hs task
    rw [endSilence_of_ne_silent hquiet]

lemma giveUpTask_hangUp (hs : ∀ task, s.lines.get line ≠ .silent (some task)) (w : W) :
    (s.hangUp line).giveUpTask line w = (s.giveUpTask line w).hangUp line := by
  have habandon := hwork.abandon w
  have hs' : ∀ task, (Task.abandon w s).lines.get line ≠ .silent (some task) := by
    rwa [habandon.get s]
  unfold Stage.giveUpTask Stage.hangUp
  rw [habandon.setLine]
  exact endTask_hangUp hs' .closed

lemma advanceTask_hangUp (hs : ∀ task, s.lines.get line ≠ .silent (some task)) (w : W) :
    (s.hangUp line).advanceTask line w = (s.advanceTask line w).hangUp line := by
  have hadvance := hwork.advance (some line) w
  have hs' : ∀ task, (Task.advance (some line) w s).2.lines.get line ≠ .silent (some task) := by
    rwa [hadvance.get s]
  unfold Stage.advanceTask Stage.hangUp
  rw [hwork.progress, hadvance.setLine]
  cases (Task.advance (some line) w s).1 with
  | waiting w' => rfl
  | finished o => exact endTask_hangUp hs' (.sent o)
  | broken w' => exact giveUpTask_hangUp hwork hs' w'

omit [Task W] hwork in
lemma onTask_hangUp {act : Line → W → Stage W → Stage W}
    (hself : ∀ w, act line w (s.hangUp line) = (act line w s).hangUp line)
    (hother : ∀ ran, ran ≠ line → ∀ w, Beside line (act ran w)) (ran : Line) :
    (s.hangUp line).onTask act ran = (s.onTask act ran).hangUp line := by
  by_cases hran : ran = line
  · subst hran
    have htask : (s.hangUp ran).tasks.get ran = s.tasks.get ran := rfl
    cases h : s.tasks.get ran with
    | none => rw [onTask_of_none h, onTask_of_none (htask.trans h)]
    | some w =>
      rw [onTask_of_some h, onTask_of_some (htask.trans h)]
      exact hself w
  · exact (beside_onTask (hother ran hran)).setLine s .deaf

/-- Whether the owner hangs up before some work goes on or after makes no difference. -/
lemma Scene.Sound.runTask_hangUp (h : Scene.Sound line s owner fate) (ran : Line) :
    (s.hangUp line).runTask ran = (s.runTask ran).hangUp line ∧
      fate.run line ran (s.hangUp line) = fate.run line ran s := by
  refine ⟨onTask_hangUp (advanceTask_hangUp hwork h.unwaited)
    (fun _ hran => beside_advanceTask hwork hran) ran, ?_⟩
  cases fate with
  | running w => rw [Fate.run, Fate.run, Stage.hangUp, hwork.progress]
  | finished o => rfl
  | dropped => rfl

lemma Scene.Sound.dropTask_hangUp (h : Scene.Sound line s owner fate) (ran : Line) :
    (s.hangUp line).dropTask ran = (s.dropTask ran).hangUp line :=
  onTask_hangUp (giveUpTask_hangUp hwork h.unwaited)
    (fun _ hran => beside_giveUpTask hwork hran) ran

/-! ### Turns, and the end of a scheduler -/

lemma Scene.Sound.runTasks (h : Scene.Sound line s owner fate) (queue : List Line) :
    (queue.foldl (Fate.watchRun line) (s, fate)).1 = queue.foldl Stage.runTask s ∧
    Scene.Sound line (queue.foldl Stage.runTask s) owner
      (queue.foldl (Fate.watchRun line) (s, fate)).2 ∧
    queue.foldl (Fate.watchRun line) (s.hangUp line, fate) =
      ((queue.foldl Stage.runTask s).hangUp line,
        (queue.foldl (Fate.watchRun line) (s, fate)).2) := by
  induction queue generalizing s fate with
  | nil => exact ⟨rfl, h, rfl⟩
  | cons ran queue ih =>
    obtain ⟨hstage, hfate⟩ := h.runTask_hangUp hwork ran
    obtain ⟨hwatched, hsound, hquiet⟩ := ih (h.runTask hwork ran)
    refine ⟨hwatched, hsound, ?_⟩
    rw [List.foldl_cons, Fate.watchRun, hstage, hfate]
    exact hquiet

omit [Task W] hwork in
lemma Fate.drop_drop (f : Fate W) : f.drop.drop = f.drop := by cases f <;> rfl

lemma Scene.Sound.dropTasks (h : Scene.Sound line s owner fate) (spawned : List Line) :
    Scene.Sound line (spawned.foldl Stage.dropTask s) owner
      (if line ∈ spawned then fate.drop else fate) ∧
    spawned.foldl Stage.dropTask (s.hangUp line) =
      (spawned.foldl Stage.dropTask s).hangUp line := by
  induction spawned generalizing s fate with
  | nil => exact ⟨by simpa using h, rfl⟩
  | cons ran spawned ih =>
    obtain ⟨hsound, hquiet⟩ := ih (h.dropTask hwork ran)
    refine ⟨?_, by rw [List.foldl_cons, h.dropTask_hangUp hwork ran]; exact hquiet⟩
    have hfate : (if line ∈ spawned then (if ran = line then fate.drop else fate).drop
        else if ran = line then fate.drop else fate) =
        if line ∈ ran :: spawned then fate.drop else fate := by
      by_cases hran : ran = line <;> by_cases hmem : line ∈ spawned <;>
        simp [hran, hmem, Fate.drop_drop, @eq_comm _ line ran]
    rwa [hfate] at hsound

lemma Scene.Sound.turn (h : Scene.Sound line s owner fate) (of : Scheduler) :
    Scene.Sound line (s.turn of) owner (fate.step s (.turn of : Occurrence W line)) ∧
    (s.hangUp line).turn of = (s.turn of).hangUp line ∧
    fate.step (s.hangUp line) (.turn of : Occurrence W line) =
      fate.step s (.turn of : Occurrence W line) := by
  let taken : Stage W := { s with queue := s.queue.filter (·.scheduler ≠ of) }
  have htaken : Scene.Sound line taken owner fate := ⟨h.task, h.spawned, h.owner⟩
  obtain ⟨-, hsound, hquiet⟩ := htaken.runTasks hwork (s.queue.filter (·.scheduler = of))
  have htaken' : Scene.Sound line (taken.hangUp line) .gone fate :=
    ⟨h.task, h.spawned, hangUp_ne_silent line _⟩
  obtain ⟨hstage, -, -⟩ := htaken'.runTasks hwork (s.queue.filter (·.scheduler = of))
  have hturn := congrArg Prod.fst hquiet
  have hfate := congrArg Prod.snd hquiet
  exact ⟨hsound, hstage.symm.trans hturn, hfate⟩

lemma Scene.Sound.shutdown (h : Scene.Sound line s owner fate) (of : Scheduler) :
    Scene.Sound line (s.shutdown of) owner (fate.step s (.shutdown of : Occurrence W line)) ∧
      (s.hangUp line).shutdown of = (s.shutdown of).hangUp line := by
  obtain ⟨hsound, hquiet⟩ :=
    (h.beside (beside_retire of)).dropTasks hwork (s.spawned.filter (·.scheduler = of))
  have hfate : (if line ∈ s.spawned.filter (·.scheduler = of) then fate.drop else fate) =
      if line.scheduler = of then fate.drop else fate := by
    by_cases hof : line.scheduler = of
    · cases fate with
      | running w => simp [hof, h.spawned rfl]
      | finished o => simp [Fate.drop]
      | dropped => simp [Fate.drop]
    · simp [hof]
  rw [hfate] at hsound
  refine ⟨⟨hsound.task, hsound.spawned, hsound.owner⟩, ?_⟩
  have hretired : (s.hangUp line).retire of = (s.retire of).hangUp line :=
    (beside_retire of).setLine s .deaf
  unfold Stage.shutdown
  rw [hretired]
  exact congrArg (fun t : Stage W => { t with queue := t.queue.filter (·.scheduler ≠ of) }) hquiet

/-! ### The owner -/

omit hwork in
lemma poll_receive (line : Line) (s : Stage W) :
    (Pending.receive line : Pending W).poll s =
      match s.lines.get line with
      | .sent o => ⟨.outcome o, .ready none, s.hangUp line⟩
      | .silent _ => ⟨.waiting, Pending.receive line, s.setLine line (.silent none)⟩
      | .closed | .deaf => ⟨.outcome (.error .abandoned), .ready none, s⟩ := by
  unfold Pending.receive
  rw [ServiceBootstrap.Pending.poll]
  cases hline : s.lines.get line <;> simp [Work.advance, Stage.receive, hline]

omit hwork in
lemma Scene.Sound.poll (h : Scene.Sound line s owner fate) :
    Scene.Sound line (owner.poll s).2 (owner.poll s).1 fate ∧
      (owner.poll s).2.hangUp line = s.hangUp line := by
  have howner := h.owner
  cases owner with
  | held p =>
    obtain ⟨rfl, hline⟩ := howner
    rw [Handle.poll_held, poll_receive, hline]
    cases fate with
    | running w =>
      exact ⟨⟨h.task, h.spawned, rfl, get_setLine line _ s⟩, setLine_setLine line _ .deaf s⟩
    | finished o =>
      exact ⟨⟨h.task, h.spawned, rfl, hangUp_ne_silent line s⟩, setLine_setLine line _ .deaf s⟩
    | dropped =>
      refine ⟨⟨h.task, h.spawned, rfl, fun waiter? => ?_⟩, rfl⟩
      simp [hline, Fate.onLine]
  | resolved o => exact ⟨h, rfl⟩
  | gone => exact ⟨h, rfl⟩

omit hwork in
lemma Scene.Sound.drop (h : Scene.Sound line s owner fate) :
    Scene.Sound line (owner.drop s).2 (owner.drop s).1 fate ∧
      (owner.drop s).2.hangUp line = s.hangUp line := by
  have howner := h.owner
  cases owner with
  | held p =>
    obtain ⟨rfl, -⟩ := howner
    exact ⟨⟨h.task, h.spawned, hangUp_ne_silent line s⟩, setLine_setLine line _ .deaf s⟩
  | resolved o => exact ⟨h, rfl⟩
  | gone => exact ⟨h, rfl⟩

/-! ### Any order of steps -/

/-- The same scene if the owner were not there. -/
def alone (line : Line) (r : Scene W × Fate W) : Scene W × Fate W :=
  (⟨r.1.stage.hangUp line, .gone⟩, r.2)

/-- A step keeps what holds; if it is not the owner's, it goes the same way without the owner. -/
lemma Scene.Sound.watchStep {r : Scene W × Fate W}
    (h : Scene.Sound line r.1.stage r.1.owner r.2) (e : Occurrence W line) :
    Scene.Sound line (watchStep r e).1.stage (watchStep r e).1.owner (watchStep r e).2 ∧
    alone line (Session.watchStep r e) =
      if e.isOwners then alone line r else Session.watchStep (alone line r) e := by
  obtain ⟨⟨s, owner⟩, fate⟩ := r
  cases e with
  | poll =>
    obtain ⟨hsound, hquiet⟩ := h.poll
    exact ⟨hsound, congrArg (fun t => ((⟨t, .gone⟩, fate) : Scene W × Fate W)) hquiet⟩
  | drop =>
    obtain ⟨hsound, hquiet⟩ := h.drop
    exact ⟨hsound, congrArg (fun t => ((⟨t, .gone⟩, fate) : Scene W × Fate W)) hquiet⟩
  | run ran =>
    obtain ⟨hstage, hfate⟩ := h.runTask_hangUp hwork ran
    refine ⟨h.runTask hwork ran, ?_⟩
    simp [alone, Session.watchStep, Scene.step, Fate.step, Occurrence.isOwners, hstage, hfate]
  | turn of =>
    obtain ⟨hsound, hstage, hfate⟩ := h.turn hwork of
    refine ⟨hsound, ?_⟩
    simp [alone, Session.watchStep, Scene.step, Occurrence.isOwners, hstage, hfate]
  | shutdown of =>
    obtain ⟨hsound, hstage⟩ := h.shutdown hwork of
    refine ⟨hsound, ?_⟩
    simp [alone, Session.watchStep, Scene.step, Fate.step, Occurrence.isOwners, hstage]
  | other o =>
    refine ⟨h.beside o.beside, ?_⟩
    have hquiet := o.beside.setLine s .deaf
    simp [alone, Session.watchStep, Scene.step, Fate.step, Occurrence.isOwners, Stage.hangUp,
      hquiet]

lemma Scene.Sound.watch {r : Scene W × Fate W}
    (h : Scene.Sound line r.1.stage r.1.owner r.2) (es : List (Occurrence W line)) :
    Scene.Sound line (es.foldl Session.watchStep r).1.stage (es.foldl Session.watchStep r).1.owner
      (es.foldl Session.watchStep r).2 ∧
    alone line (es.foldl Session.watchStep r) =
      (es.filter (!·.isOwners)).foldl Session.watchStep (alone line r) := by
  induction es generalizing r with
  | nil => exact ⟨h, rfl⟩
  | cons e es ih =>
    obtain ⟨hsound, hquiet⟩ := h.watchStep hwork e
    obtain ⟨hsound', hquiet'⟩ := ih hsound
    refine ⟨hsound', hquiet'.trans ?_⟩
    rw [hquiet, List.filter_cons]
    cases e.isOwners <;> rfl

lemma Scene.sound_spawned (w : W) (htask : s.tasks.get line = none) :
    Scene.Sound line (Scene.spawned line w s).1.stage (Scene.spawned line w s).1.owner
      (Scene.spawned line w s).2 := by
  let opened : Stage W := s.setLine line (.silent none)
  have hline : opened.lines.get line = .silent none := get_setLine line _ s
  have hruns : opened.runs line.scheduler = s.runs line.scheduler := by
    cases line.scheduler <;> rfl
  unfold Scene.spawned Pending.spawn Stage.spawn
  rw [hruns]
  split
  · exact ⟨Table.get_set_self _ _ _, fun _ => List.mem_append_right _ (List.mem_singleton_self _),
      rfl, hline⟩
  · have habandon := hwork.abandon w
    have hsilent : (Task.abandon w opened).lines.get line = .silent none :=
      (habandon.get opened).trans hline
    have hclosed : (Task.abandon w opened).closeLine line =
        (Task.abandon w opened).setLine line .closed := endSilence_of_silent hsilent .closed
    rw [hclosed]
    have hnone : (Fate.dropped : Fate W).work?.isSome →
        line ∈ (Task.abandon w opened).spawned := by
      simp [Fate.work?]
    exact ⟨(habandon.task opened).trans htask, hnone, rfl, get_setLine line _ _⟩

/-! ### Work of the owner's own -/

omit hwork

lemma poll_future (w : W) (s : Stage W) :
    (Pending.future w).poll s =
      match Task.advance none w s with
      | (.waiting w', s') => ⟨.waiting, Pending.future w', s'⟩
      | (.finished o, s') => ⟨.outcome o, .ready none, s'⟩
      | (.broken w', s') => ⟨.broken, .ready none, Task.abandon w' s'⟩ := by
  unfold Pending.future
  rw [ServiceBootstrap.Pending.poll]
  simp only [Work.advance]
  rcases Task.advance none w s with ⟨_ | _ | _, s'⟩ <;> rfl

/-- An owner that still holds something holds nothing but work. -/
def HoldsWork : Handle W → Prop
  | .held p => ∃ w, p = Pending.future w
  | .resolved _ | .gone => True

lemma HoldsWork.step {c : Scene W} (h : HoldsWork c.owner) (e : Occurrence W line) :
    HoldsWork (c.step e).owner := by
  obtain ⟨s, owner⟩ := c
  cases e with
  | poll =>
    cases owner with
    | held p =>
      obtain ⟨w, rfl⟩ := h
      change HoldsWork ((Handle.held (Pending.future w)).poll s).1
      rw [Handle.poll_held, poll_future]
      rcases Task.advance none w s with ⟨w' | o | w', s'⟩
      · exact ⟨w', rfl⟩
      · trivial
      · trivial
    | resolved o => trivial
    | gone => trivial
  | drop => cases owner <;> trivial
  | run ran => exact h
  | turn of => exact h
  | shutdown of => exact h
  | other o => exact h

lemma HoldsWork.run {c : Scene W} (h : HoldsWork c.owner) (es : List (Occurrence W line)) :
    HoldsWork (es.foldl Scene.step c).owner := by
  induction es generalizing c with
  | nil => exact h
  | cons e es ih => exact ih (h.step e)

/-- An owner that has given up does nothing any more. -/
lemma run_gone (s : Stage W) (es : List (Occurrence W line)) :
    es.foldl Scene.step ⟨s, .gone⟩ = (es.filter (!·.isOwners)).foldl Scene.step ⟨s, .gone⟩ := by
  induction es generalizing s with
  | nil => rfl
  | cons e es ih =>
    cases e with
    | poll => exact ih s
    | drop => exact ih s
    | run ran => exact ih (s.runTask ran)
    | turn of => exact ih (s.turn of)
    | shutdown of => exact ih (s.shutdown of)
    | other o => exact ih (o.run s)

/-! ### The outcome -/

/-- **Spawned work never loses or invents an outcome.** In any order of steps, a poll of the owner
gives what has become of the work, and what its owner does changes nothing of what becomes of the
work or of the stage, the line between them apart. An owner that waits by advancing the work itself
gives up the work when it gives up, and nothing of it goes on after that. -/
theorem spawned_outcome (hwork : Task.LeavesAlone W line) {s : Stage W}
    (htask : s.tasks.get line = none) (w : W) (es : List (Occurrence W line)) :
    let own := es.foldl Scene.step ⟨s, .held (Pending.future w)⟩
    let (c, fate) := es.foldl watchStep (Scene.spawned line w s)
    c.stage.tasks.get line = fate.work? ∧
    (∀ p, c.owner = .held p → (p.poll c.stage).upshot = fate.upshot) ∧
    (∀ o, c.owner = .resolved o → fate.upshot = .outcome o) ∧
    (∀ es' : List (Occurrence W line), es'.filter (!·.isOwners) = es.filter (!·.isOwners) →
      let (d, fate') := es'.foldl watchStep (Scene.spawned line w s)
      fate' = fate ∧ d.stage.hangUp line = c.stage.hangUp line) ∧
    ∀ p, own.owner = .held p → ∃ w', p = Pending.future w' ∧
      own.step (.drop : Occurrence W line) = ⟨Task.abandon w' own.stage, .gone⟩ ∧
      ∀ more : List (Occurrence W line),
        more.foldl Scene.step ⟨Task.abandon w' own.stage, .gone⟩ =
          (more.filter (!·.isOwners)).foldl Scene.step ⟨Task.abandon w' own.stage, .gone⟩ := by
  intro own
  have hstart := Scene.sound_spawned hwork w htask
  obtain ⟨hsound, hquiet⟩ := hstart.watch hwork es
  refine ⟨hsound.task, fun p hp => ?_, fun o ho => ?_, fun es' hes => ?_, fun p hp => ?_⟩
  · have howner := hsound.owner
    rw [hp] at howner
    obtain ⟨rfl, hstate⟩ := howner
    rw [poll_receive, hstate]
    cases (es.foldl watchStep (Scene.spawned line w s)).2 <;> rfl
  · have howner := hsound.owner
    rw [ho] at howner
    exact howner.1
  · obtain ⟨-, hquiet'⟩ := hstart.watch hwork es'
    rw [hes, ← hquiet] at hquiet'
    have hfate := congrArg Prod.snd hquiet'
    have hstage := congrArg (fun r => r.1.stage) hquiet'
    exact ⟨hfate, hstage⟩
  · have hfuture : HoldsWork (⟨s, .held (Pending.future w)⟩ : Scene W).owner := ⟨w, rfl⟩
    have hholds : HoldsWork own.owner := HoldsWork.run hfuture es
    rw [hp] at hholds
    obtain ⟨w', rfl⟩ := hholds
    refine ⟨w', rfl, ?_, run_gone _⟩
    unfold Scene.step
    rw [hp]
    rfl

/-- Work that has come to its end before the scheduler goes away, and work that has not. -/
theorem spawned_outcome_shutdown :
    let line : Line := .reply 0
    let start := Scene.spawned line (⟨[.pause], .ok (.number 3)⟩ : Script) {}
    let turn : Occurrence Script line := .turn .session
    let shutdown : Occurrence Script line := .shutdown .session
    let late := [turn, turn, shutdown].foldl watchStep start
    let early := [turn, shutdown, turn].foldl watchStep start
    ((Pending.receive line).poll late.1.stage).upshot = .outcome (.ok (.number 3)) ∧
    ((Pending.receive line).poll early.1.stage).upshot = .outcome (.error .abandoned) := by
  intro line start turn shutdown late early
  have hwork : Task.LeavesAlone Script line := Script.leavesAlone nofun
  let w : Script := ⟨[.pause], .ok (.number 3)⟩
  obtain ⟨-, hlate, -⟩ := spawned_outcome hwork (s := {}) rfl w [turn, turn, shutdown]
  obtain ⟨-, hearly, -⟩ := spawned_outcome hwork (s := {}) rfl w [turn, shutdown, turn]
  exact ⟨hlate _ rfl, hearly _ rfl⟩

end ServiceBootstrap.Session
