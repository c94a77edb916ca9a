import ServiceBootstrap.Proofs.Session.Resident

/-!
Instances beside each other on one stage.

Instances whose shares of the stage have nothing in common can be stopped, waited for and released
in any order, while the schedulers take turns for all of them. Two runs are followed for each of
them: the whole one, and the one in which nothing is done to the others. The stage is the same in
the share of the instance after each step, since a step of another instance leaves the share alone
and a step of its own does not see the rest; so everything that is learnt of the instance is the
same.
-/

namespace ServiceBootstrap.Session

variable {W : Type}

/-! ### What is done to an instance -/

/-- What has become of the pending outcome of a call, or what was told. -/
inductive Result (W : Type) where
  | nothing
  /-- There is none if there was no such call. -/
  | call (h? : Option (Handle W))
  | told (answer? : Option Bool)
  | reading (id : InstanceId) (phase : Phase) (configuration : Configuration)
      (native? : Option Value)

/-- Something that the provider does for the stop of an instance, in the share of the instance. -/
structure Share.Act (a : Share W) where
  run : Stage W → Option Bool × Stage W
  own : a.Local (fun _ => True) run

namespace Share.Act

variable {a : Share W} {name : String}

/-- The completion that is kept under a name is given up. -/
def complete (own : a.names name) : a.Act where
  run s := s.orStay ((s.complete name).map fun t => (true, t))
  own := local_complete own true

/-- The outcome is sent in place of the control; whether anybody still waits is told. -/
def sendNative (own : a.names name) (o : Outcome (Option Value)) : a.Act where
  run s := s.orStay (s.sendNative name o)
  own := local_sendNative own o

/-- The sender of the outcome is given up. -/
def abandonNative (own : a.names name) : a.Act where
  run s := s.orStay ((s.abandonNative name).map fun t => (true, t))
  own := local_abandonNative own true

end Share.Act

variable [Task W]

inductive Operation (r : Resident W) where
  /-- A request to stop, through any clone. -/
  | stop
  /-- The owner of the pending outcome of a call polls it. -/
  | poll (call : Nat)
  /-- The owner of the pending outcome of a call gives it up. -/
  | drop (call : Nat)
  /-- Work on a line of the instance goes on. -/
  | work (line : Line) (own : r.lines line)
  /-- Whoever has the completion gives it up. -/
  | release
  | act (a : r.toShare.Act)
  | read

namespace Resident

def reading (r : Resident W) (s : Stage W) : Result W :=
  .reading r.key.id (s.phase r.key) r.configuration r.native?

/-- Does something with the pending outcome of a call, if there is such a call. -/
def touch (f : Handle W → Stage W → Handle W × Stage W) (call : Nat) (calls : List (Handle W))
    (s : Stage W) : (List (Handle W) × Result W) × Stage W :=
  match calls[call]? with
  | none => ((calls, .call none), s)
  | some h => ((calls.set call (f h s).1, .call (some (f h s).1)), (f h s).2)

/-- Does something to an instance whose stop was called for some times. -/
def perform (r : Resident W) (calls : List (Handle W)) (o : Operation r) (s : Stage W) :
    (List (Handle W) × Result W) × Stage W :=
  match o with
  | .stop =>
    let (p, s) := s.requestStop r.key r.tell
    ((calls ++ [.held p], .call (some (.held p))), s)
  | .poll call => touch Handle.poll call calls s
  | .drop call => touch Handle.drop call calls s
  | .work line _ => ((calls, .nothing), s.runTask line)
  | .release => ((calls, .nothing), s.release r.key)
  | .act a => ((calls, .told (a.run s).1), (a.run s).2)
  | .read => ((calls, r.reading s), s)

variable {r : Resident W} {calls : List (Handle W)}

lemma reading_of_agree {told : Prop} {s t : Stage W} (h : Agree (r.part told) s t) :
    r.reading t = r.reading s := by
  have hphase : t.phase r.key = s.phase r.key := congrArg Lifecycle.phase (h.life r.key rfl)
  unfold reading
  rw [hphase]

lemma local_touch (hcalls : ∀ h ∈ calls, r.Covers h)
    {f : Handle W → Stage W → Handle W × Stage W}
    (hf : ∀ h, r.Covers h → r.Local r.Covers (f h)) (call : Nat) :
    r.Local (fun x => ∀ h ∈ x.1, r.Covers h) (touch f call calls) := by
  unfold touch
  cases hcall : calls[call]? with
  | none => exact .pure hcalls
  | some h =>
    have hh : r.Covers h := hcalls h (List.mem_of_getElem? hcall)
    refine (hf h hh).map (v := fun h' => (calls.set call h', Result.call (some h')))
      fun h' hh' other hother => ?_
    rcases List.mem_or_eq_of_mem_set hother with hother | rfl
    · exact hcalls other hother
    · exact hh'

/-- All that is done to an instance is done in its share. -/
lemma local_perform (hcalls : ∀ h ∈ calls, r.Covers h) (o : Operation r) :
    r.Local (fun x => ∀ h ∈ x.1, r.Covers h) (r.perform calls o) := by
  cases o with
  | stop =>
    refine (Share.local_requestStop r.tells).map
      (v := fun p => (calls ++ [.held p], Result.call (some (.held p)))) ?_
    intro p hp h hmem
    rcases List.mem_append.1 hmem with hmem | hmem
    · exact hcalls h hmem
    · rw [List.mem_singleton.1 hmem]
      exact hp
  | poll call => exact local_touch hcalls (fun _ => Share.local_poll r.employs) call
  | drop call => exact local_touch hcalls (fun _ => Share.local_drop r.employs) call
  | work line own => exact (Share.acts_runTask r.employs own).gives hcalls
  | release => exact Share.acts_release.gives hcalls
  | act a => exact a.own.map (v := fun answer? => (calls, Result.told answer?)) fun _ _ => hcalls
  | read =>
    refine Share.local_lifecycle.map
      (v := fun l => (calls, Result.reading r.key.id l.phase r.configuration r.native?)) ?_
    exact fun _ _ => hcalls

end Resident

/-! ### Nothing in common -/

/-- Two shares have nothing in common. -/
structure Share.Apart (a b : Share W) : Prop where
  key : a.key ≠ b.key
  lines : ∀ line, a.lines line → ¬ b.lines line
  names : ∀ name, a.names name → ¬ b.names name

omit [Task W] in
lemma Share.Apart.within {a b : Share W} (h : a.Apart b) {told : Prop}
    (hid : told → a.key.id ≠ b.key.id) : (a.part told).Within b.rest where
  keys := by
    rintro key rfl
    exact h.key
  lines {line} hline := by simpa [Share.rest] using h.lines line hline
  names {name} hname := h.names name hname
  ids := by
    rintro id ⟨htold, rfl⟩
    exact hid htold

variable {ι : Type} {r : ι → Resident W} {i : ι} {s t : Stage W} {told : Prop}

omit [Task W] in
lemma Share.Apart.symm {a b : Share W} (h : a.Apart b) : b.Apart a where
  key := h.key.symm
  lines line hb ha := h.lines line ha hb
  names name hb ha := h.names name ha hb

/-- The controls of a session share nothing, unless two manual ones have the same name. -/
lemma apart_ofInstance {i j : Instance} (hkey : i.key ≠ j.key)
    (hname : i.control.kind = .manual → j.control.kind = .manual →
      i.control.name ≠ j.control.name) : i.share.Apart j.share where
  key := hkey
  lines line hi hj := by
    simp only [Instance.share, decide_eq_true_eq] at hi hj
    rcases hi with rfl | rfl
    · have hnative : Line.native i.key = .native j.key := by simpa using hj
      exact hkey (Line.native.inj hnative)
    · have hreport : Line.report i.key = .report j.key := by simpa using hj
      exact hkey (Line.report.inj hreport)
  names name := by
    rintro ⟨hi, rfl⟩ ⟨hj, heq⟩
    exact hname hi hj heq

/-- Every share is as it should be, and all unfinished work is on the lines of somebody. -/
structure Peopled (r : ι → Resident W) (s : Stage W) : Prop where
  shares : ∀ i, (r i).Sound s
  tasks : ∀ line, (∀ i, ¬ (r i).lines line) → s.tasks.get line = none

lemma peopled_new : Peopled r {} where
  shares _ := ⟨nofun, nofun, nofun, nofun⟩
  tasks _ _ := rfl

lemma Peopled.of_eq (h : Peopled r s) (hlines : t.lines = s.lines) (htasks : t.tasks = s.tasks)
    (hcompletions : t.completions = s.completions) (hnatives : t.natives = s.natives) :
    Peopled r t where
  shares i := by
    obtain ⟨hwaiter, hwork, hcompletion, hnative⟩ := h.shares i
    constructor
    · rwa [hlines]
    · rwa [htasks]
    · rwa [hcompletions]
    · rwa [hnatives]
  tasks := by
    rw [htasks]
    exact h.tasks

omit [Task W] in
lemma Share.in_part (a : Share W) (told : Prop) : a.In (a.part told) where
  keys h := h
  lines h := h
  names h := h
  ids h := h.1.elim

section

variable (apart : ∀ i j, j ≠ i → (r i).Apart (r j).toShare)
variable {X : Type} {Q : X → Prop} {f : Stage W → X × Stage W} {j : ι}

include apart

/-- What is done in the share of one instance leaves that of another alone. -/
lemma Peopled.agree_other (h : Peopled r s) (hj : j ≠ i) (hf : (r j).Local Q f)
    (hid : told → (r i).key.id ≠ (r j).key.id) : Agree ((r i).part told) s (f s).2 :=
  (hf.frame (h.shares j)).mono ((apart i j hj).within hid)

lemma Peopled.act (h : Peopled r s) (hf : (r j).Local Q f) : Peopled r (f s).2 where
  shares i := by
    by_cases hj : j = i
    · subst hj
      exact hf.sound (h.shares j)
    · have hagree : Agree ((r i).part False) s (f s).2 :=
        h.agree_other apart hj hf False.elim
      exact (h.shares i).of_agree ((r i).in_part False) hagree
  tasks line hline := by
    have hrest : (r j).rest.lines line := by simpa [Share.rest] using hline j
    rw [(hf.frame (h.shares j)).task line hrest]
    exact h.tasks line hline

/-! ### The scheduler -/

/-- Something that is done with the work on some line, if there is any. -/
structure Sweeps (r : ι → Resident W) (f : Stage W → Line → Stage W) : Prop where
  own : ∀ i line, (r i).lines line → (r i).Acts fun s => f s line
  idle : ∀ s line, s.tasks.get line = none → f s line = s

omit apart in
lemma sweeps_runTask : Sweeps r Stage.runTask where
  own i _ hline := Share.acts_runTask (r i).employs hline
  idle s line hnone := by
    unfold Stage.runTask Stage.onTask
    rw [hnone]

omit apart in
lemma sweeps_dropTask : Sweeps r Stage.dropTask where
  own i _ hline := Share.acts_dropTask (r i).employs hline
  idle s line hnone := by
    unfold Stage.dropTask Stage.onTask
    rw [hnone]

variable {f : Stage W → Line → Stage W} (hf : Sweeps r f)

include hf

lemma Peopled.line (h : Peopled r s) (line : Line) : Peopled r (f s line) := by
  by_cases hsome : ∃ j, (r j).lines line
  · obtain ⟨j, hline⟩ := hsome
    exact h.act apart (hf.own j line hline)
  · rw [hf.idle s line (h.tasks line fun j hj => hsome ⟨j, hj⟩)]
    exact h

lemma Peopled.sweep (h : Peopled r s) (lines : List Line) : Peopled r (lines.foldl f s) := by
  induction lines generalizing s with
  | nil => exact h
  | cons line lines ih => exact ih (h.line apart hf line)

variable (hid : told → ∀ j, j ≠ i → (r i).key.id ≠ (r j).key.id)

include hid

lemma Peopled.agree_line (h : Peopled r s) {line : Line} (hline : ¬ (r i).lines line) :
    Agree ((r i).part told) s (f s line) := by
  by_cases hsome : ∃ j, (r j).lines line
  · obtain ⟨j, hother⟩ := hsome
    have hj : j ≠ i := by
      rintro rfl
      exact hline hother
    exact h.agree_other apart hj (hf.own j line hother) fun ht => hid ht j hj
  · rw [hf.idle s line (h.tasks line fun j hj => hsome ⟨j, hj⟩)]
    exact .refl _ s

/-- What is done with the work on some lines is done to an instance as if there were only those
lines that it owns. -/
lemma Peopled.agree_filter (hs : Peopled r s) (ht : Peopled r t)
    (hst : Agree ((r i).part told) s t) (lines : List Line) :
    Agree ((r i).part told) (lines.foldl f s) ((lines.filter (r i).lines).foldl f t) := by
  induction lines generalizing s t with
  | nil => exact hst
  | cons line lines ih =>
    by_cases hown : (r i).lines line
    · have hline := (hf.own i line hown).same (hs.shares i) ((r i).in_part told) hst
      rw [List.filter_cons_of_pos hown]
      exact ih (hs.line apart hf line) (ht.line apart hf line) hline.2
    · have hline := hs.agree_line apart hf hid hown
      rw [List.filter_cons_of_neg hown]
      exact ih (hs.line apart hf line) ht (hline.symm.trans hst)

lemma Peopled.agree_sweep (hs : Peopled r s) (ht : Peopled r t)
    (hst : Agree ((r i).part told) s t) {lines lines' : List Line}
    (hlines : lines'.filter (r i).lines = lines.filter (r i).lines) :
    Agree ((r i).part told) (lines.foldl f s) (lines'.foldl f t) := by
  have hleft := hs.agree_filter apart hf hid ht hst lines
  have hright := ht.agree_filter apart hf hid ht (.refl _ t) lines'
  rw [hlines] at hright
  exact hleft.trans hright.symm

omit hf hid

lemma Peopled.turn (h : Peopled r s) (of : Scheduler) : Peopled r (s.turn of) := by
  have htaken : Peopled r { s with queue := s.queue.filter (·.scheduler ≠ of) } :=
    h.of_eq rfl rfl rfl rfl
  exact htaken.sweep apart sweeps_runTask _

omit apart in
lemma Peopled.retire (h : Peopled r s) (of : Scheduler) : Peopled r (s.retire of) := by
  cases of <;> exact h.of_eq rfl rfl rfl rfl

lemma Peopled.shutdown (h : Peopled r s) (of : Scheduler) : Peopled r (s.shutdown of) :=
  ((h.retire of).sweep apart sweeps_dropTask _).of_eq rfl rfl rfl rfl

include hid

lemma Peopled.agree_turn (hs : Peopled r s) (ht : Peopled r t)
    (hst : Agree ((r i).part told) s t) (of : Scheduler) :
    Agree ((r i).part told) (s.turn of) (t.turn of) := by
  have hs' : Peopled r { s with queue := s.queue.filter (·.scheduler ≠ of) } :=
    hs.of_eq rfl rfl rfl rfl
  have ht' : Peopled r { t with queue := t.queue.filter (·.scheduler ≠ of) } :=
    ht.of_eq rfl rfl rfl rfl
  have htaken : Agree ((r i).part told) { s with queue := s.queue.filter (·.scheduler ≠ of) }
      { t with queue := t.queue.filter (·.scheduler ≠ of) } :=
    { hst with queue := filter_filter_eq hst.queue _ }
  exact hs'.agree_sweep apart sweeps_runTask hid ht' htaken (filter_filter_eq hst.queue _)

lemma Peopled.agree_shutdown (hs : Peopled r s) (ht : Peopled r t)
    (hst : Agree ((r i).part told) s t) (of : Scheduler) :
    Agree ((r i).part told) (s.shutdown of) (t.shutdown of) := by
  have hlines := filter_filter_eq hst.spawned (·.scheduler = of)
  have hdropped := (hs.retire of).agree_sweep apart sweeps_dropTask hid (ht.retire of)
    (hst.retire of) hlines
  exact { hdropped with queue := filter_filter_eq hdropped.queue _ }

end

/-! ### All that happens -/

/-- A stage, the pending outcomes of the calls of each instance in their order, and what each of the
operations on it has given. -/
structure Play (ι W : Type) where
  stage : Stage W
  calls : Table ι (List (Handle W)) := .const []
  results : Table ι (List (Result W)) := .const []

namespace Play

inductive Move (r : ι → Resident W) where
  | on (i : ι) (o : Operation (r i))
  | turn (of : Scheduler)
  | shutdown (of : Scheduler)

variable [DecidableEq ι]

/-- Whether a move is one on an instance, or one of a scheduler. -/
def Move.isFor (i : ι) : Move r → Bool
  | on j _ => j = i
  | turn _ | shutdown _ => true

def step (p : Play ι W) : Move r → Play ι W
  | .on i o =>
    let ((calls, result), stage) := (r i).perform (p.calls.get i) o p.stage
    { stage
      calls := p.calls.set i calls
      results := p.results.set i (p.results.get i ++ [result]) }
  | .turn of => { p with stage := p.stage.turn of }
  | .shutdown of => { p with stage := p.stage.shutdown of }

def run (r : ι → Resident W) (s : Stage W) (moves : List (Move r)) : Play ι W :=
  moves.foldl step { stage := s }

lemma step_on (p : Play ι W) (o : Operation (r i)) :
    p.step (.on i o) =
      { stage := ((r i).perform (p.calls.get i) o p.stage).2
        calls := p.calls.set i ((r i).perform (p.calls.get i) o p.stage).1.1
        results := p.results.set i
          (p.results.get i ++ [((r i).perform (p.calls.get i) o p.stage).1.2]) } := rfl

/-- What holds between any two moves. -/
structure Sound (r : ι → Resident W) (p : Play ι W) : Prop where
  stage : Peopled r p.stage
  calls : ∀ i, ∀ h ∈ p.calls.get i, (r i).Covers h

/-- Everything about one instance is the same. -/
structure Same (i : ι) (part : Part) (p q : Play ι W) : Prop where
  stage : Agree part p.stage q.stage
  calls : q.calls.get i = p.calls.get i
  results : q.results.get i = p.results.get i

/-! ### One move -/

section

variable (apart : ∀ i j, j ≠ i → (r i).Apart (r j).toShare) {p q : Play ι W}

include apart

lemma Sound.step (h : p.Sound r) (m : Move r) : (p.step m).Sound r := by
  cases m with
  | on j o =>
    have hlocal := Resident.local_perform (h.calls j) o
    refine ⟨h.stage.act apart hlocal, fun i handle hmem => ?_⟩
    change handle ∈ Table.get (p.calls.set j _) i at hmem
    rw [Table.get_set] at hmem
    split at hmem
    · next hi =>
      subst hi
      exact hlocal.gives (h.stage.shares i) handle hmem
    · exact h.calls i handle hmem
  | turn of => exact ⟨h.stage.turn apart of, h.calls⟩
  | shutdown of => exact ⟨h.stage.shutdown apart of, h.calls⟩

/-- A move on another instance changes nothing. -/
lemma Same.step_other (hid : told → ∀ j, j ≠ i → (r i).key.id ≠ (r j).key.id) (hp : p.Sound r)
    (hpq : p.Same i ((r i).part told) q) {m : Move r} (hm : m.isFor i = false) :
    (p.step m).Same i ((r i).part told) q := by
  cases m with
  | on j o =>
    have hj : j ≠ i := by simpa [Move.isFor] using hm
    have hlocal := Resident.local_perform (hp.calls j) o
    have hagree := hp.stage.agree_other apart hj hlocal fun ht => hid ht j hj
    exact ⟨hagree.symm.trans hpq.stage, hpq.calls.trans (Table.get_set_of_ne _ hj.symm _).symm,
      hpq.results.trans (Table.get_set_of_ne _ hj.symm _).symm⟩
  | turn of => simp [Move.isFor] at hm
  | shutdown of => simp [Move.isFor] at hm

/-- A move that is made in both runs. -/
lemma Same.step_both (hid : told → ∀ j, j ≠ i → (r i).key.id ≠ (r j).key.id) (hp : p.Sound r)
    (hq : q.Sound r) (hpq : p.Same i ((r i).part told) q) {m : Move r} (hm : m.isFor i) :
    (p.step m).Same i ((r i).part told) (q.step m) := by
  cases m with
  | on j o =>
    obtain rfl : j = i := by simpa [Move.isFor] using hm
    have hlocal := Resident.local_perform (hp.calls j) o
    obtain ⟨heq, hagree⟩ := hlocal.same (hp.stage.shares j) ((r j).in_part told) hpq.stage
    rw [step_on, step_on, hpq.calls]
    refine ⟨hagree, ?_, ?_⟩
    · rw [Table.get_set_self, Table.get_set_self, heq]
    · rw [Table.get_set_self, Table.get_set_self, heq, hpq.results]
  | turn of =>
    exact ⟨hp.stage.agree_turn apart hid hq.stage hpq.stage of, hpq.calls, hpq.results⟩
  | shutdown of =>
    exact ⟨hp.stage.agree_shutdown apart hid hq.stage hpq.stage of, hpq.calls, hpq.results⟩

lemma Sound.run (h : p.Sound r) (moves : List (Move r)) : (moves.foldl Play.step p).Sound r := by
  induction moves generalizing p with
  | nil => exact h
  | cons m moves ih => exact ih (h.step apart m)

/-- The whole run, and the one in which nothing is done to other instances. -/
lemma Same.run (hid : told → ∀ j, j ≠ i → (r i).key.id ≠ (r j).key.id) (hp : p.Sound r)
    (hq : q.Sound r) (hpq : p.Same i ((r i).part told) q) (moves : List (Move r)) :
    (moves.foldl Play.step p).Same i ((r i).part told)
      ((moves.filter (·.isFor i)).foldl Play.step q) := by
  induction moves generalizing p q with
  | nil => exact hpq
  | cons m moves ih =>
    cases hm : m.isFor i with
    | true =>
      rw [List.filter_cons_of_pos hm]
      exact ih (hp.step apart m) (hq.step apart m) (hpq.step_both apart hid hp hq hm)
    | false =>
      rw [List.filter_cons_of_neg (by simp [hm])]
      exact ih (hp.step apart m) hq (hpq.step_other apart hid hp hm)

end

omit [DecidableEq ι] in
lemma sound_start (hs : Peopled r s) : Sound r ({ stage := s } : Play ι W) where
  stage := hs
  calls _ _ hmem := absurd hmem List.not_mem_nil

/-- **Instances are independent.** Whatever is done in whatever order to instances that have nothing
in common, everything done to one of them gives what it gives in the run in which nothing is done to
the others, and so do its calls and its phase, and the events that carry its identifier if nobody
else has it. Nothing that is done to another changes its phase, its configuration or what has become
of its calls. -/
theorem instances_independent (apart : ∀ i j, j ≠ i → (r i).Apart (r j).toShare)
    (hs : Peopled r s) (i : ι) (moves : List (Move r)) :
    let whole := run r s moves
    let own := run r s (moves.filter (·.isFor i))
    whole.results.get i = own.results.get i ∧
    whole.calls.get i = own.calls.get i ∧
    (r i).reading whole.stage = (r i).reading own.stage ∧
    ((∀ j, j ≠ i → (r i).key.id ≠ (r j).key.id) →
      eventsOf (r i).key.id whole.stage.log = eventsOf (r i).key.id own.stage.log) ∧
    ∀ j, j ≠ i → ∀ o : Operation (r j),
      let after := whole.step (.on j o)
      (r i).reading after.stage = (r i).reading whole.stage ∧
      after.calls.get i = whole.calls.get i := by
  intro whole own
  have hstart : Sound r ({ stage := s } : Play ι W) := sound_start hs
  have hwhole : whole.Sound r := hstart.run apart moves
  have hsame : ∀ {told : Prop}, (told → ∀ j, j ≠ i → (r i).key.id ≠ (r j).key.id) →
      whole.Same i ((r i).part told) own := fun hid =>
    Same.run apart hid hstart hstart ⟨.refl _ s, rfl, rfl⟩ moves
  have hquiet : whole.Same i ((r i).part False) own := hsame False.elim
  refine ⟨hquiet.results.symm, hquiet.calls.symm,
    (Resident.reading_of_agree hquiet.stage).symm, fun hid => ?_, fun j hj o => ?_⟩
  · exact ((hsame fun _ => hid).stage.events _ ⟨hid, rfl⟩).symm
  · have hlocal := Resident.local_perform (hwhole.calls j) o
    have hagree : Agree ((r i).part False) whole.stage _ :=
      hwhole.stage.agree_other apart hj hlocal False.elim
    exact ⟨Resident.reading_of_agree hagree, Table.get_set_of_ne _ hj.symm _⟩

/-- Work of the scheduler stops one instance while another waits for its manual control. -/
theorem instances_independent_two :
    let first : Instance :=
      ⟨⟨0, .ofNat 7⟩, Builder.new.build, none, ⟨"a", .spawned, .ok none⟩⟩
    let second : Instance :=
      ⟨⟨1, .ofNat 8⟩, Builder.new.build, none, ⟨"b", .manual, .ok none⟩⟩
    let r : Bool → Resident Script := fun i => .ofInstance (if i then second else first)
    let own : List (Move r) :=
      [.on false .stop, .turn .session, .on false (.poll 0), .on false .read]
    let moves : List (Move r) :=
      [.on true .stop, .on false .stop, .on true (.poll 0), .turn .session,
        .on true (.act (.complete ⟨rfl, rfl⟩)), .on false (.poll 0), .on true .stop,
        .on false .read]
    (run r {} moves).results.get false = (run r {} own).results.get false ∧
    (run r {} moves).stage.phase first.key = .stopped := by
  intro first second r own moves
  have hkeys : first.share.Apart second.share := apart_ofInstance (by decide) nofun
  have apart : ∀ i j, j ≠ i → (r i).Apart (r j).toShare := by
    rintro (_ | _) (_ | _) hne
    · exact absurd rfl hne
    · exact hkeys
    · exact hkeys.symm
    · exact absurd rfl hne
  obtain ⟨hresults, -, hreading, -⟩ := instances_independent apart peopled_new false moves
  have hown : moves.filter (·.isFor false) = own := rfl
  rw [hown] at hresults hreading
  have hphase : (run r {} own).stage.phase first.key = .stopped := rfl
  exact ⟨hresults, (Result.reading.inj hreading).2.1.trans hphase⟩

end Play

end ServiceBootstrap.Session
