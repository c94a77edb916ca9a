import ServiceBootstrap.Proofs.Session.Keeps

/-!
The life of one instance, over everything that can happen to it.

The phase is written in three places: by the first request to stop, by whoever gives up the
completion, and by the stop when it comes to its outcome. Whatever the order, it is the completion
and the outcome of the first call that decide it. All that anybody else does keeps the life of the
instance, or gives up its completion; the rest is an invariant that each step keeps.
-/

namespace ServiceBootstrap.Session

variable {W : Type} {key : InstanceKey}

/-! ### The calls -/

/-- The stage on which the control is told. -/
def Stage.asked (key : InstanceKey) (s : Stage W) : Stage W :=
  (s.setLifecycle key ⟨.stopping, .held, false⟩).report (.stopping key.id)

/-- What the first call makes of the control's outcome. -/
def stopAnswer (key : InstanceKey) : Outcome Yield → Outcome Yield
  | .ok y => .ok (.stopped ⟨key.id, y.native?⟩)
  | .error e => .error e

/-- What the first call has in place of the control's own pending outcome. -/
def answered (key : InstanceKey) : Handle W → Handle W
  | .held p => .held (.settle p (Stage.conclude key) id)
  | .resolved o => .resolved (stopAnswer key o)
  | .gone => .gone

/-- The pending outcome of a call that was refused. -/
def Refused (key : InstanceKey) (h : Handle W) : Prop :=
  h = .held (.failed (.alreadyStopped key.id)) ∨
    h = .resolved (.error (.alreadyStopped key.id)) ∨ h = .gone

lemma answered_eq_resolved_iff (key : InstanceKey) (own : Handle W) :
    (∃ o, answered key own = .resolved o) ↔ ∃ o, own = .resolved o := by
  cases own <;> simp [answered]

/-- What holds of the first call between any two steps. -/
structure First (key : InstanceKey) (own : Handle W) (s : Stage W) : Prop where
  within : own.Within (Keeps key)
  life : (s.lifecycle key).Asked
  concluded : (s.lifecycle key).concluded = true ↔ ∃ o, own = .resolved o

lemma requestStop_of_start {s : Stage W} (h : s.lifecycle key = .start)
    (tell : Stage W → Pending W × Stage W) :
    s.requestStop key tell =
      (.settle (tell (s.asked key)).1 (Stage.conclude key) id, (tell (s.asked key)).2) := by
  unfold Stage.requestStop
  rw [h]
  rfl

lemma requestStop_of_asked {s : Stage W} (h : (s.lifecycle key).Asked)
    (tell : Stage W → Pending W × Stage W) :
    s.requestStop key tell =
      (.failed (.alreadyStopped key.id), s.report (.stopRefused key.id)) := by
  unfold Stage.requestStop
  rw [h.request?]

lemma lifecycle_asked (s : Stage W) :
    (s.asked key).lifecycle key = ⟨.stopping, .held, false⟩ := Table.get_set_self _ _ _

lemma conclude_fst (o : Outcome Yield) (s : Stage W) :
    (s.conclude key o).1 = stopAnswer key o := by
  cases o <;> rfl

lemma lifecycle_conclude (o : Outcome Yield) (s : Stage W) :
    (s.conclude key o).2.lifecycle key = (s.lifecycle key).conclude := by
  cases o <;> exact Table.get_set_self _ _ _

lemma First.of_keeps {own own' : Handle W} {s t : Stage W} (h : First key own s)
    (hkeeps : Keeps key s t) (hwithin : own'.Within (Keeps key))
    (hown : (∃ o, own' = .resolved o) ↔ ∃ o, own = .resolved o) : First key own' t := by
  rcases hkeeps with ht | ht
  · exact ⟨hwithin, ht ▸ h.life, by rw [ht, h.concluded, hown]⟩
  · exact ⟨hwithin, ht ▸ h.life.release,
      by rw [ht, Lifecycle.release_concluded, h.concluded, hown]⟩

lemma First.of_conclude {own : Handle W} {s : Stage W} (h : First key own s) (o : Outcome Yield) :
    First key (.resolved o : Handle W) (s.conclude key o).2 where
  within := trivial
  life := by rw [lifecycle_conclude]; exact h.life.conclude
  concluded := by
    rw [lifecycle_conclude]
    exact ⟨fun _ => ⟨o, rfl⟩, fun _ => rfl⟩

/-- What is followed of the life of an instance: the stage, and the pending outcomes of the calls in
their order. Beside them stands what has become of the control's own pending outcome, which is
polled and given up together with that of the first call. -/
structure Life (W : Type) where
  stage : Stage W
  calls : List (Handle W) := []
  own : Handle W := .gone

def Life.touch (f : Handle W → Stage W → Handle W × Stage W) (call : Nat) (l : Life W) : Life W :=
  match l.calls[call]? with
  | none => l
  | some h =>
    { stage := (f h l.stage).2
      calls := l.calls.set call (f h l.stage).1
      own := if call = 0 then (f l.own l.stage).1 else l.own }

/-- The first call has come to its outcome. -/
def Life.Resolved (l : Life W) : Prop := ∃ o, l.calls.head? = some (.resolved o)

lemma Life.resolved_iff {l : Life W} {later : List (Handle W)}
    (hcalls : l.calls = answered key l.own :: later) : l.Resolved ↔ ∃ o, l.own = .resolved o := by
  rw [← answered_eq_resolved_iff key]
  simp [Life.Resolved, hcalls]

/-- What holds of the life of an instance between any two steps. -/
inductive Life.Sound (key : InstanceKey) (l : Life W) : Prop where
  | fresh (calls : l.calls = []) (life : l.stage.lifecycle key = .start)
  | asked (later : List (Handle W)) (calls : l.calls = answered key l.own :: later)
      (first : First key l.own l.stage) (refused : ∀ h ∈ later, Refused key h)

lemma Life.Sound.of_keeps {l : Life W} (h : l.Sound key) {t : Stage W}
    (hkeeps : Keeps key l.stage t) : Life.Sound key { l with stage := t } := by
  rcases h with ⟨hcalls, hlife⟩ | ⟨later, hcalls, hfirst, hrefused⟩
  · exact .fresh hcalls (hkeeps.start hlife)
  · exact .asked later hcalls (hfirst.of_keeps hkeeps hfirst.within Iff.rfl) hrefused

lemma Life.Sound.phase_iff {l : Life W} (h : l.Sound key) :
    (l.stage.phase key = .running ↔ l.calls = []) ∧
    (l.stage.phase key = .stopping ↔
      l.calls ≠ [] ∧ (l.stage.lifecycle key).completion = .held ∧ ¬ l.Resolved) ∧
    (l.stage.phase key = .stopped ↔
      l.calls ≠ [] ∧ ¬ ((l.stage.lifecycle key).completion = .held ∧ ¬ l.Resolved)) := by
  rcases h with ⟨hcalls, hlife⟩ | ⟨later, hcalls, hfirst, -⟩
  · have hphase : l.stage.phase key = .running := congrArg Lifecycle.phase hlife
    simp [hphase, hcalls]
  · have hasked : l.calls ≠ [] := by simp [hcalls]
    have hresolved : (l.stage.lifecycle key).concluded = true ↔ l.Resolved :=
      hfirst.concluded.trans (Life.resolved_iff hcalls).symm
    obtain ⟨hrunning, hstopping, hstopped⟩ := hfirst.life.phase_iff
    rw [hresolved] at hstopping hstopped
    exact ⟨iff_of_false hrunning hasked, hstopping.trans (by simp [hasked]),
      hstopped.trans (by simp [hasked])⟩

/-- Both ways to touch a call keep what holds, if they do so for the first call and for one that was
refused. -/
lemma Life.Sound.touch {l : Life W} (h : l.Sound key)
    {f : Handle W → Stage W → Handle W × Stage W} {call : Nat}
    (hfirst : ∀ own s, First key own s →
      (f (answered key own) s).1 = answered key (f own s).1 ∧
      First key (f own s).1 (f (answered key own) s).2 ∧
      (s.phase key).rank ≤ ((f (answered key own) s).2.phase key).rank)
    (hrefused : ∀ h s, Refused key h → Refused key (f h s).1 ∧ (f h s).2 = s) :
    (l.touch f call).Sound key ∧
      (l.stage.phase key).rank ≤ ((l.touch f call).stage.phase key).rank := by
  unfold Life.touch
  cases hcall : l.calls[call]? with
  | none => exact ⟨h, Nat.le_refl _⟩
  | some handle =>
    rcases h with ⟨hcalls, hlife⟩ | ⟨later, hcalls, hown, hlater⟩
    · simp [hcalls] at hcall
    · cases call with
      | zero =>
        -- the first call, and with it the control's own pending outcome
        obtain rfl : answered key l.own = handle := by simpa [hcalls] using hcall
        obtain ⟨hanswered, hfirst, hrank⟩ := hfirst l.own l.stage hown
        refine ⟨.asked later ?_ hfirst hlater, hrank⟩
        simp [hcalls, hanswered]
      | succ n =>
        have hmem : handle ∈ later := List.mem_of_getElem? (by simpa [hcalls] using hcall)
        obtain ⟨hhandle, hstage⟩ := hrefused handle l.stage (hlater handle hmem)
        refine ⟨.asked (later.set n (f handle l.stage).1) ?_ ?_ ?_, ?_⟩
        · simp [hcalls]
        · simpa [hstage] using hown
        · intro other hother
          rcases List.mem_or_eq_of_mem_set hother with hother | rfl
          · exact hlater other hother
          · exact hhandle
        · simp [hstage]

variable [Task W]

/-! ### What can happen -/

/-- What a control does when it is told to stop. It can put the completion anywhere, ask to stop
once more, and come to its outcome in any way, but giving up completions is all that it and the work
on the stage can do to the life of an instance that has been asked. -/
structure Stopper (W : Type) [Task W] (key : InstanceKey) where
  tell : Stage W → Pending W × Stage W
  keeps : ∀ s, (s.lifecycle key).Asked → Keeps key s (tell s).2
  within : ∀ s, (tell s).1.Within (Keeps key)
  work : Task.Within W (Keeps key)

/-- Something else that happens on the stage. -/
structure Act (W : Type) (key : InstanceKey) where
  run : Stage W → Stage W
  keeps : ∀ s, Keeps key s (run s)

inductive Move (W : Type) (key : InstanceKey) where
  /-- A request to stop, through any clone. -/
  | stop
  /-- The owner of the pending outcome of a call polls it. -/
  | poll (call : Nat)
  /-- The owner of the pending outcome of a call gives it up. -/
  | drop (call : Nat)
  /-- Whoever has the completion gives it up. -/
  | release
  | turn (r : Scheduler)
  | shutdown (r : Scheduler)
  | act (a : Act W key)

def Stopper.step (c : Stopper W key) (l : Life W) : Move W key → Life W
  | .stop =>
    { stage := (l.stage.requestStop key c.tell).2
      calls := l.calls ++ [.held (l.stage.requestStop key c.tell).1]
      own := if l.calls.isEmpty then .held (c.tell (l.stage.asked key)).1 else l.own }
  | .poll call => l.touch Handle.poll call
  | .drop call => l.touch Handle.drop call
  | .release => { l with stage := l.stage.release key }
  | .turn r => { l with stage := l.stage.turn r }
  | .shutdown r => { l with stage := l.stage.shutdown r }
  | .act a => { l with stage := a.run l.stage }

def Stopper.run (c : Stopper W key) (s : Stage W) (moves : List (Move W key)) : Life W :=
  moves.foldl c.step { stage := s }

/-! ### The controls -/

/-- The controls of a session. -/
def Stopper.ofControl (c : Control) (key : InstanceKey) : Stopper Script key where
  tell := c.stop key
  keeps s _ := Keeps.coarse.stop (fun _ _ => .of_lifecycles rfl) Keeps.release c key s
  within s := stop_within c key s
  work := Script.keeps

/-! ### One step -/

lemma poll_answered (p : Pending W) (s : Stage W) :
    (answered key (.held p)).poll s =
      match p.poll s with
      | ⟨.waiting, rest, s⟩ => (answered key (.held rest), s)
      | ⟨.outcome o, _, s⟩ => (answered key (.resolved o), (s.conclude key o).2)
      | ⟨.broken, _, s⟩ => (.gone, s) := by
  unfold answered
  rw [Handle.poll_held, Pending.poll]
  rcases p.poll s with ⟨_ | o | _, rest, s'⟩
  · rfl
  · simp only [conclude_fst]
  · rfl

variable (c : Stopper W key)

include c in
lemma First.poll {own : Handle W} {s : Stage W} (h : First key own s) :
    ((answered key own).poll s).1 = answered key (own.poll s).1 ∧
    First key (own.poll s).1 ((answered key own).poll s).2 ∧
    (s.phase key).rank ≤ (((answered key own).poll s).2.phase key).rank := by
  rcases own with p | o | _
  · obtain ⟨hs, hrest⟩ := Pending.Within.poll (Keeps.coarse.work c.work) Keeps.coarse.refl
      Keeps.coarse.trans h.within s
    rw [poll_answered, Handle.poll_held]
    generalize p.poll s = r at hs hrest ⊢
    rcases r with ⟨_ | o | _, rest, s'⟩
    · exact ⟨rfl, h.of_keeps hs hrest (by simp), hs.rank_le⟩
    · have hfirst : First key (.held p) s' := h.of_keeps hs h.within Iff.rfl
      refine ⟨rfl, hfirst.of_conclude o, ?_⟩
      change _ ≤ ((s'.conclude key o).2.lifecycle key).phase.rank
      rw [lifecycle_conclude]
      exact Phase.rank_le_stopped _
    · exact ⟨rfl, h.of_keeps hs trivial (by simp), hs.rank_le⟩
  · exact ⟨rfl, h, Nat.le_refl _⟩
  · exact ⟨rfl, h, Nat.le_refl _⟩

include c in
lemma First.drop {own : Handle W} {s : Stage W} (h : First key own s) :
    ((answered key own).drop s).1 = answered key (own.drop s).1 ∧
    First key (own.drop s).1 ((answered key own).drop s).2 ∧
    (s.phase key).rank ≤ (((answered key own).drop s).2.phase key).rank := by
  rcases own with p | o | _
  · have hs : Keeps key s (p.abandon s) := Pending.Within.abandon (Keeps.coarse.work c.work)
      Keeps.coarse.refl Keeps.coarse.trans h.within s
    exact ⟨rfl, h.of_keeps hs trivial (by simp), hs.rank_le⟩
  · exact ⟨rfl, h, Nat.le_refl _⟩
  · exact ⟨rfl, h, Nat.le_refl _⟩

lemma Refused.poll {h : Handle W} (hh : Refused key h) (s : Stage W) :
    Refused key (h.poll s).1 ∧ (h.poll s).2 = s := by
  rcases hh with rfl | rfl | rfl
  · exact ⟨.inr (.inl rfl), rfl⟩
  · exact ⟨.inr (.inl rfl), rfl⟩
  · exact ⟨.inr (.inr rfl), rfl⟩

lemma Refused.drop {h : Handle W} (hh : Refused key h) (s : Stage W) :
    Refused key (h.drop s).1 ∧ (h.drop s).2 = s := by
  rcases hh with rfl | rfl | rfl
  · exact ⟨.inr (.inr rfl), rfl⟩
  · exact ⟨.inr (.inl rfl), rfl⟩
  · exact ⟨.inr (.inr rfl), rfl⟩

/-- The first request is the one that the control is told. -/
lemma Life.Sound.first_request {l : Life W} (h : l.Sound key) (hcalls : l.calls = []) :
    c.step l .stop =
      { stage := (c.tell (l.stage.asked key)).2
        calls := [.held (.settle (c.tell (l.stage.asked key)).1 (Stage.conclude key) id)]
        own := .held (c.tell (l.stage.asked key)).1 } := by
  rcases h with ⟨-, hlife⟩ | ⟨later, hlater, -, -⟩
  · simp [Stopper.step, requestStop_of_start hlife, hcalls]
  · simp [hcalls] at hlater

/-- Every later one is refused. -/
lemma Life.Sound.later_request {l : Life W} (h : l.Sound key) (hcalls : l.calls ≠ []) :
    c.step l .stop =
      { l with
        stage := l.stage.report (.stopRefused key.id)
        calls := l.calls ++ [.held (.failed (.alreadyStopped key.id))] } := by
  rcases h with ⟨hnil, -⟩ | ⟨later, hlater, hfirst, -⟩
  · exact absurd hnil hcalls
  · simp [Stopper.step, requestStop_of_asked hfirst.life, hlater]

/-- Every step keeps what holds, and moves the phase on if at all. -/
lemma Life.Sound.step {l : Life W} (h : l.Sound key) (m : Move W key) :
    (c.step l m).Sound key ∧
      (l.stage.phase key).rank ≤ ((c.step l m).stage.phase key).rank := by
  cases m with
  | stop =>
    rcases h with ⟨hcalls, hlife⟩ | ⟨later, hcalls, hfirst, hrefused⟩
    · rw [Life.Sound.first_request c (.fresh hcalls hlife) hcalls]
      have hasked : ((l.stage.asked key).lifecycle key).Asked := by
        simp [lifecycle_asked, Lifecycle.Asked]
      have htold : First key (.held (c.tell (l.stage.asked key)).1) (l.stage.asked key) :=
        ⟨c.within _, hasked, by simp [lifecycle_asked]⟩
      refine ⟨.asked [] rfl (htold.of_keeps (c.keeps _ hasked) (c.within _) Iff.rfl) (by simp), ?_⟩
      unfold Stage.phase
      rw [hlife]
      exact Nat.zero_le _
    · rw [Life.Sound.later_request c (.asked later hcalls hfirst hrefused) (by simp [hcalls])]
      have hreport : Keeps key l.stage (l.stage.report (.stopRefused key.id)) := .of_lifecycles rfl
      refine ⟨.asked (later ++ [.held (.failed (.alreadyStopped key.id))]) ?_ ?_ ?_,
        hreport.rank_le⟩
      · simp [hcalls]
      · exact hfirst.of_keeps hreport hfirst.within Iff.rfl
      · intro handle hmem
        rcases List.mem_append.1 hmem with hmem | hmem
        · exact hrefused handle hmem
        · exact .inl (List.mem_singleton.1 hmem)
  | poll call =>
    exact h.touch (fun own s hown => hown.poll c) fun handle s hhandle => hhandle.poll s
  | drop call =>
    exact h.touch (fun own s hown => hown.drop c) fun handle s hhandle => hhandle.drop s
  | release =>
    have hkeeps : Keeps key l.stage (l.stage.release key) := .release key l.stage
    exact ⟨h.of_keeps hkeeps, hkeeps.rank_le⟩
  | turn r =>
    have hkeeps : Keeps key l.stage (l.stage.turn r) :=
      Keeps.coarse.turn (fun _ => .of_lifecycles rfl) c.work l.stage
    exact ⟨h.of_keeps hkeeps, hkeeps.rank_le⟩
  | shutdown r =>
    have hkeeps : Keeps key l.stage (l.stage.shutdown r) :=
      Keeps.coarse.shutdown (fun _ => .of_lifecycles rfl) c.work (.retire r l.stage)
    exact ⟨h.of_keeps hkeeps, hkeeps.rank_le⟩
  | act a => exact ⟨h.of_keeps (a.keeps l.stage), (a.keeps l.stage).rank_le⟩

lemma Life.Sound.run {l : Life W} (h : l.Sound key) (moves : List (Move W key)) :
    (moves.foldl c.step l).Sound key ∧
      (l.stage.phase key).rank ≤ ((moves.foldl c.step l).stage.phase key).rank := by
  induction moves generalizing l with
  | nil => exact ⟨h, Nat.le_refl _⟩
  | cons m moves ih =>
    obtain ⟨hstep, hrank⟩ := h.step c m
    obtain ⟨hrun, hranks⟩ := ih hstep
    exact ⟨hrun, Nat.le_trans hrank hranks⟩

lemma step_calls_eq_nil_iff (l : Life W) (m : Move W key) :
    (c.step l m).calls = [] ↔ l.calls = [] ∧ m ≠ .stop := by
  have htouch : ∀ f call, (l.touch f call).calls = [] ↔ l.calls = [] := by
    intro f call
    unfold Life.touch
    split <;> simp
  cases m <;> simp [Stopper.step, htouch]

/-- There are calls from the first request on. -/
lemma run_calls_eq_nil_iff (l : Life W) (moves : List (Move W key)) :
    (moves.foldl c.step l).calls = [] ↔ l.calls = [] ∧ .stop ∉ moves := by
  induction moves generalizing l with
  | nil => simp
  | cons m moves ih =>
    rw [List.foldl_cons, ih, step_calls_eq_nil_iff, List.mem_cons, not_or, and_assoc,
      ne_comm (a := m)]

/-- Only a request to stop has to do with the control. -/
lemma step_eq_of_ne_stop (c' : Stopper W key) (l : Life W) {m : Move W key} (hm : m ≠ .stop) :
    c'.step l m = c.step l m := by
  cases m with
  | stop => exact absurd rfl hm
  | poll call => rfl
  | drop call => rfl
  | release => rfl
  | turn r => rfl
  | shutdown r => rfl
  | act a => rfl

/-- After the first request it does not matter any more what a control does when it is told. -/
lemma Life.Sound.run_eq_of_asked (c' : Stopper W key) {l : Life W} (h : l.Sound key)
    (hcalls : l.calls ≠ []) (moves : List (Move W key)) :
    moves.foldl c'.step l = moves.foldl c.step l := by
  induction moves generalizing l with
  | nil => rfl
  | cons m moves ih =>
    have hstep : c'.step l m = c.step l m := by
      by_cases hm : m = .stop
      · rw [hm, h.later_request c' hcalls, h.later_request c hcalls]
      · exact step_eq_of_ne_stop c c' l hm
    have hnext : (c.step l m).calls ≠ [] := fun hnil =>
      hcalls ((step_calls_eq_nil_iff c l m).1 hnil).1
    rw [List.foldl_cons, List.foldl_cons, hstep]
    exact ih (h.step c m).1 hnext

/-- A control that does the same when it is told for the first time has the same run. -/
lemma Life.Sound.run_eq (c' : Stopper W key) {l : Life W} (h : l.Sound key)
    (hcalls : l.calls = []) (moves : List (Move W key))
    (htell : ∀ before after, moves = before ++ .stop :: after → .stop ∉ before →
      c'.tell ((before.foldl c.step l).stage.asked key) =
        c.tell ((before.foldl c.step l).stage.asked key)) :
    moves.foldl c'.step l = moves.foldl c.step l := by
  induction moves generalizing l with
  | nil => rfl
  | cons m moves ih =>
    by_cases hm : m = .stop
    · subst hm
      have hfirst := htell [] moves rfl (by simp)
      rw [List.foldl_nil] at hfirst
      have hstep : c'.step l .stop = c.step l .stop := by
        rw [h.first_request c' hcalls, h.first_request c hcalls, hfirst]
      have hnext : (c.step l .stop).calls ≠ [] := fun hnil =>
        ((step_calls_eq_nil_iff c l .stop).1 hnil).2 rfl
      rw [List.foldl_cons, List.foldl_cons, hstep]
      exact (h.step c .stop).1.run_eq_of_asked c c' hnext moves
    · rw [List.foldl_cons, List.foldl_cons, step_eq_of_ne_stop c c' l hm]
      refine ih (h.step c m).1 ((step_calls_eq_nil_iff c l m).2 ⟨hcalls, hm⟩) ?_
      intro before after hmoves hbefore
      refine htell (m :: before) after (by rw [hmoves]; rfl) ?_
      simp [hbefore, Ne.symm hm]

/-! ### The whole life -/

/-- **The life of an instance.** Whatever happens in whatever order, the phase only moves on, and is
told by the requests so far, the completion and the outcome of the first call. The first request is
the one that the control is told, and its pending outcome has the control's own; every later one is
refused, and what the control would do if it were told again plays no part. -/
theorem life_of_instance {s : Stage W} (hs : s.lifecycle key = .start)
    (moves : List (Move W key)) :
    let l := c.run s moves
    let held := (l.stage.lifecycle key).completion = .held
    (l.stage.phase key = .running ↔ .stop ∉ moves) ∧
    (l.stage.phase key = .stopping ↔ .stop ∈ moves ∧ held ∧ ¬ l.Resolved) ∧
    (l.stage.phase key = .stopped ↔ .stop ∈ moves ∧ ¬ (held ∧ ¬ l.Resolved)) ∧
    (∀ more, (l.stage.phase key).rank ≤ ((c.run s (moves ++ more)).stage.phase key).rank) ∧
    (.stop ∉ moves →
      let (p, told) := c.tell (l.stage.asked key)
      c.step l .stop = ⟨told, [.held (.settle p (Stage.conclude key) id)], .held p⟩) ∧
    (.stop ∈ moves →
      c.step l .stop =
        { l with
          stage := l.stage.report (.stopRefused key.id)
          calls := l.calls ++ [.held (.failed (.alreadyStopped key.id))] } ∧
      l.calls.head? = some (answered key l.own) ∧ ∀ h ∈ l.calls.tail, Refused key h) ∧
    ∀ c' : Stopper W key,
      (∀ before after, moves = before ++ .stop :: after → .stop ∉ before →
        c'.tell ((c.run s before).stage.asked key) = c.tell ((c.run s before).stage.asked key)) →
      c'.run s moves = l := by
  intro l held
  have hstart : Life.Sound key ({ stage := s } : Life W) := .fresh rfl hs
  have hsound : l.Sound key := (hstart.run c moves).1
  have hnil : l.calls = [] ↔ .stop ∉ moves :=
    (run_calls_eq_nil_iff c { stage := s } moves).trans (by simp)
  have hasked : l.calls ≠ [] ↔ .stop ∈ moves := (not_congr hnil).trans Classical.not_not
  obtain ⟨hrunning, hstopping, hstopped⟩ := hsound.phase_iff
  rw [hasked] at hstopping hstopped
  refine ⟨hrunning.trans hnil, hstopping, hstopped, fun more => ?_,
    fun hstop => hsound.first_request c (hnil.2 hstop), fun hstop => ?_,
    fun c' htell => hstart.run_eq c c' rfl moves htell⟩
  · unfold Stopper.run
    rw [List.foldl_append]
    exact (hsound.run c more).2
  · refine ⟨hsound.later_request c (hasked.2 hstop), ?_⟩
    rcases hsound with ⟨hcalls, -⟩ | ⟨later, hcalls, -, hrefused⟩
    · exact absurd hcalls (hasked.2 hstop)
    · rw [hcalls]
      exact ⟨rfl, hrefused⟩

/-- A control that leaves the completion to work of the scheduler: the work gives it up in its first
turn, and the instance is stopped though nobody has polled the call. -/
theorem life_of_instance_spawned :
    let key : InstanceKey := ⟨0, .ofNat 7⟩
    let c := Stopper.ofControl ⟨"a", .spawned, .ok none⟩ key
    ({} : Stage Script).lifecycle key = .start ∧
    (c.run {} [.poll 0, .stop]).stage.phase key = .stopping ∧
    (c.run {} [.poll 0, .stop, .stop, .turn .session]).stage.phase key = .stopped := by
  intro key c
  have hstart : ({} : Stage Script).lifecycle key = .start := rfl
  obtain ⟨-, hstopping, -⟩ := life_of_instance c hstart [.poll 0, .stop]
  obtain ⟨-, -, hstopped, -⟩ := life_of_instance c hstart [.poll 0, .stop, .stop, .turn .session]
  refine ⟨hstart, hstopping.2 ⟨by simp, rfl, ?_⟩, hstopped.2 ⟨by simp, fun h => ?_⟩⟩
  · rintro ⟨o, ho⟩
    cases ho
  · cases h.1

end ServiceBootstrap.Session
