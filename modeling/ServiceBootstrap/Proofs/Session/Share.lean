import ServiceBootstrap.Proofs.Session.Coarse
import ServiceBootstrap.Session.Stop

/-!
What an instance has of a stage, and what is done in that share alone.

The share of an instance is its own life, some lines with the work on them, and what is kept under
some names. Something is done in a share if it changes nothing outside, and comes to the same
whatever is outside: on two stages that are the same in any part that has the share, it gives the
same and leaves them the same in that part. This is kept by doing one thing after another, so it is
shown once for each operation on the stage, and holds of all that is made of them.
-/

namespace ServiceBootstrap

namespace Table

variable {K V : Type} [DecidableEq K] {t u : Table K V} {k other : K} {v : V}

lemma get_set_congr (h : u.get other = t.get other) :
    (u.set k v).get other = (t.set k v).get other := by
  rw [get_set, get_set, h]

lemma get_set_of {P : V → Prop} (hv : P v) (h : P (t.get other)) : P ((t.set k v).get other) := by
  rw [get_set]
  split
  · exact hv
  · exact h

end Table

namespace Session

variable {W : Type}

/-! ### Parts of a stage -/

/-- The events in a log that carry an identifier. -/
def eventsOf (id : InstanceId) (log : List Entry) : List Event :=
  log.filterMap fun
    | .event e => if e.instance? = some id then some e else none
    | .note _ => none

lemma eventsOf_append (id : InstanceId) (log more : List Entry) :
    eventsOf id (log ++ more) = eventsOf id log ++ eventsOf id more :=
  List.filterMap_append

lemma eventsOf_event_of_ne {id : InstanceId} {e : Event} (h : e.instance? ≠ some id) :
    eventsOf id [.event e] = [] := by
  simp [eventsOf, h]

/-- A part of a stage, told by what is in it. -/
structure Part where
  keys : InstanceKey → Prop
  lines : Line → Bool
  names : String → Prop
  ids : InstanceId → Prop

/-- Everything in one part is in the other. -/
structure Part.Within (p q : Part) : Prop where
  keys : ∀ {key}, p.keys key → q.keys key
  lines : ∀ {line}, p.lines line → q.lines line
  names : ∀ {name}, p.names name → q.names name
  ids : ∀ {id}, p.ids id → q.ids id

/-- Two stages are the same in a part. -/
structure Agree (p : Part) (s t : Stage W) : Prop where
  life : ∀ key, p.keys key → t.lifecycle key = s.lifecycle key
  line : ∀ line, p.lines line → t.lines.get line = s.lines.get line
  task : ∀ line, p.lines line → t.tasks.get line = s.tasks.get line
  completion : ∀ name, p.names name → t.completions.get name = s.completions.get name
  native : ∀ name, p.names name → t.natives.get name = s.natives.get name
  events : ∀ id, p.ids id → eventsOf id t.log = eventsOf id s.log
  queue : t.queue.filter p.lines = s.queue.filter p.lines
  spawned : t.spawned.filter p.lines = s.spawned.filter p.lines
  alive : t.alive = s.alive
  provider : t.provider.alive = s.provider.alive

variable {p q : Part} {s t u : Stage W}

lemma Agree.refl (p : Part) (s : Stage W) : Agree p s s :=
  ⟨fun _ _ => rfl, fun _ _ => rfl, fun _ _ => rfl, fun _ _ => rfl, fun _ _ => rfl, fun _ _ => rfl,
    rfl, rfl, rfl, rfl⟩

lemma Agree.symm (h : Agree p s t) : Agree p t s where
  life key hkey := (h.life key hkey).symm
  line line hline := (h.line line hline).symm
  task line hline := (h.task line hline).symm
  completion name hname := (h.completion name hname).symm
  native name hname := (h.native name hname).symm
  events id hid := (h.events id hid).symm
  queue := h.queue.symm
  spawned := h.spawned.symm
  alive := h.alive.symm
  provider := h.provider.symm

lemma Agree.trans (hst : Agree p s t) (htu : Agree p t u) : Agree p s u where
  life key hkey := (htu.life key hkey).trans (hst.life key hkey)
  line line hline := (htu.line line hline).trans (hst.line line hline)
  task line hline := (htu.task line hline).trans (hst.task line hline)
  completion name hname := (htu.completion name hname).trans (hst.completion name hname)
  native name hname := (htu.native name hname).trans (hst.native name hname)
  events id hid := (htu.events id hid).trans (hst.events id hid)
  queue := htu.queue.trans hst.queue
  spawned := htu.spawned.trans hst.spawned
  alive := htu.alive.trans hst.alive
  provider := htu.provider.trans hst.provider

lemma filter_of_within (h : p.Within q) {l m : List Line}
    (heq : m.filter q.lines = l.filter q.lines) : m.filter p.lines = l.filter p.lines := by
  have hboth : ∀ l : List Line, l.filter p.lines = (l.filter q.lines).filter p.lines := by
    intro l
    rw [List.filter_filter]
    refine List.filter_congr fun line _ => ?_
    cases hline : p.lines line with
    | false => rfl
    | true => simp [h.lines hline]
  rw [hboth l, hboth m, heq]

lemma filter_filter_eq {l m : List Line} {f : Line → Bool} (h : m.filter f = l.filter f)
    (g : Line → Bool) : (m.filter g).filter f = (l.filter g).filter f := by
  have hswap : ∀ l : List Line, (l.filter g).filter f = (l.filter f).filter g := by
    intro l
    rw [List.filter_filter, List.filter_filter]
    exact List.filter_congr fun line _ => Bool.and_comm ..
  rw [hswap l, hswap m, h]

lemma Agree.mono (hpq : p.Within q) (h : Agree q s t) : Agree p s t where
  life key hkey := h.life key (hpq.keys hkey)
  line line hline := h.line line (hpq.lines hline)
  task line hline := h.task line (hpq.lines hline)
  completion name hname := h.completion name (hpq.names hname)
  native name hname := h.native name (hpq.names hname)
  events id hid := h.events id (hpq.ids hid)
  queue := filter_of_within hpq h.queue
  spawned := filter_of_within hpq h.spawned
  alive := h.alive
  provider := h.provider

lemma Agree.runs (h : Agree p s t) (r : Scheduler) : t.runs r = s.runs r := by
  cases r with
  | session => exact h.alive
  | provider => exact h.provider

lemma Agree.retire (h : Agree p s t) (r : Scheduler) : Agree p (s.retire r) (t.retire r) := by
  cases r with
  | session => exact { h with alive := rfl }
  | provider => exact { h with provider := rfl }

/-- What comes of something that is done if what it takes is there. -/
def Stage.orStay {X : Type} (s : Stage W) : Option (X × Stage W) → Option X × Stage W
  | some (x, t) => (some x, t)
  | none => (none, s)

lemma orStay_snd {X : Type} (x : X) (s : Stage W) (t? : Option (Stage W)) :
    (s.orStay (t?.map fun t => (x, t))).2 = t?.getD s := by
  cases t? <;> rfl

/-! ### Shares -/

/-- What an instance has of a stage. -/
structure Share (W : Type) where
  key : InstanceKey
  lines : Line → Bool
  native : lines (.native key)
  /-- The names under which its completion and the sender of its outcome can be kept. -/
  names : String → Prop
  /-- The work that can be on its lines. -/
  works : W → Prop

namespace Share

/-- The share as a part of the stage, with the events of the instance or without them. -/
def part (a : Share W) (told : Prop) : Part where
  keys key := key = a.key
  lines := a.lines
  names := a.names
  ids id := told ∧ id = a.key.id

/-- All that is outside. -/
def rest (a : Share W) : Part where
  keys key := key ≠ a.key
  lines line := !a.lines line
  names name := ¬ a.names name
  ids id := id ≠ a.key.id

/-- A part has all of the share, but perhaps the events. -/
def In (a : Share W) (p : Part) : Prop := (a.part False).Within p

/-- What is in a share belongs there, and wakes or gives up nothing outside. -/
structure Sound (a : Share W) (s : Stage W) : Prop where
  waiter : ∀ line task, a.lines line → s.lines.get line = .silent (some task) → a.lines task
  work : ∀ line w, a.lines line → s.tasks.get line = some w → a.works w
  completion : ∀ name key, a.names name → s.completions.get name = some key → key = a.key
  native : ∀ name key, a.names name → s.natives.get name = some key → key = a.key

variable {a : Share W}

lemma Sound.of_agree (h : a.Sound s) (hp : a.In p) (hst : Agree p s t) : a.Sound t where
  waiter line task hline := by
    rw [hst.line line (hp.lines hline)]
    exact h.waiter line task hline
  work line w hline := by
    rw [hst.task line (hp.lines hline)]
    exact h.work line w hline
  completion name key hname := by
    rw [hst.completion name (hp.names hname)]
    exact h.completion name key hname
  native name key hname := by
    rw [hst.native name (hp.names hname)]
    exact h.native name key hname

/-- Something that is done in a share, and what holds of all it can give. -/
structure Local (a : Share W) {X : Type} (Q : X → Prop) (f : Stage W → X × Stage W) : Prop where
  gives : ∀ {s}, a.Sound s → Q (f s).1
  sound : ∀ {s}, a.Sound s → a.Sound (f s).2
  /-- Nothing changes outside. -/
  frame : ∀ {s}, a.Sound s → Agree a.rest s (f s).2
  /-- What is outside plays no part. -/
  same : ∀ {s t p}, a.Sound s → a.In p → Agree p s t →
    (f t).1 = (f s).1 ∧ Agree p (f s).2 (f t).2

/-- Something that is done in a share, and gives nothing. -/
def Acts (a : Share W) (f : Stage W → Stage W) : Prop :=
  a.Local (fun _ : Unit => True) fun s => ((), f s)

variable {X Y : Type} {Q : X → Prop} {R : Y → Prop}

lemma Local.pure {x : X} (h : Q x) : a.Local Q fun s => (x, s) where
  gives _ := h
  sound h := h
  frame _ := .refl _ _
  same _ _ h := ⟨rfl, h⟩

lemma Local.bind {f : Stage W → X × Stage W} {g : X → Stage W → Y × Stage W} (hf : a.Local Q f)
    (hg : ∀ x, Q x → a.Local R (g x)) : a.Local R fun s => g (f s).1 (f s).2 where
  gives hs := (hg _ (hf.gives hs)).gives (hf.sound hs)
  sound hs := (hg _ (hf.gives hs)).sound (hf.sound hs)
  frame hs := (hf.frame hs).trans ((hg _ (hf.gives hs)).frame (hf.sound hs))
  same hs hp hst := by
    obtain ⟨heq, hagree⟩ := hf.same hs hp hst
    rw [heq]
    exact (hg _ (hf.gives hs)).same (hf.sound hs) hp hagree

lemma Local.acts {f : Stage W → X × Stage W} (hf : a.Local Q f) : a.Acts fun s => (f s).2 :=
  hf.bind fun _ _ => .pure trivial

lemma Acts.of {f : Stage W → Stage W} (sound : ∀ {s}, a.Sound s → a.Sound (f s))
    (frame : ∀ {s}, a.Sound s → Agree a.rest s (f s))
    (same : ∀ {s t p}, a.In p → Agree p s t → Agree p (f s) (f t)) : a.Acts f where
  gives _ := trivial
  sound := sound
  frame := frame
  same _ hp hst := ⟨rfl, same hp hst⟩

lemma Acts.id : a.Acts fun s => s := Local.pure trivial

lemma Acts.comp {f g : Stage W → Stage W} (hf : a.Acts f) (hg : a.Acts g) :
    a.Acts fun s => g (f s) := hf.bind fun _ _ => hg

lemma Acts.gives {f : Stage W → Stage W} {x : X} (hf : a.Acts f) (hx : Q x) :
    a.Local Q fun s => (x, f s) := hf.bind fun _ _ => .pure hx

/-- Something is done, and then something that gives a result. -/
lemma Acts.before {f : Stage W → Stage W} {g : Stage W → X × Stage W} (hf : a.Acts f)
    (hg : a.Local Q g) : a.Local Q fun s => g (f s) := hf.bind fun _ _ => hg

lemma Local.map {f : Stage W → X × Stage W} {v : X → Y} (hf : a.Local Q f)
    (hv : ∀ x, Q x → R (v x)) : a.Local R fun s => (v (f s).1, (f s).2) :=
  hf.bind fun x hx => .pure (hv x hx)

/-- Something is done that depends on a result. -/
lemma Local.andThen {f : Stage W → X × Stage W} {g : X → Stage W → Stage W} (hf : a.Local Q f)
    (hg : ∀ x, Q x → a.Acts (g x)) : a.Acts fun s => g (f s).1 (f s).2 := hf.bind hg

/-- Something is looked at. -/
lemma Local.look {v : Stage W → X} (gives : ∀ {s}, a.Sound s → Q (v s))
    (same : ∀ {s t p}, a.In p → Agree p s t → v t = v s) : a.Local Q fun s => (v s, s) where
  gives := gives
  sound h := h
  frame _ := .refl _ _
  same _ hp hst := ⟨same hp hst, hst⟩

/-- Something is done, and goes on in a way that is found case by case from what it gave. -/
lemma Local.cases {f : Stage W → X × Stage W} {k : Stage W → Y × Stage W} (hf : a.Local Q f)
    (h : ∀ x, Q x → ∃ g, a.Local R g ∧ ∀ s, (f s).1 = x → k s = g (f s).2) : a.Local R k where
  gives {s} hs := by
    obtain ⟨g, hg, heq⟩ := h _ (hf.gives hs)
    rw [heq s rfl]
    exact hg.gives (hf.sound hs)
  sound {s} hs := by
    obtain ⟨g, hg, heq⟩ := h _ (hf.gives hs)
    rw [heq s rfl]
    exact hg.sound (hf.sound hs)
  frame {s} hs := by
    obtain ⟨g, hg, heq⟩ := h _ (hf.gives hs)
    rw [heq s rfl]
    exact (hf.frame hs).trans (hg.frame (hf.sound hs))
  same {s t p} hs hp hst := by
    obtain ⟨hsame, hagree⟩ := hf.same hs hp hst
    obtain ⟨g, hg, heq⟩ := h _ (hf.gives hs)
    rw [heq s rfl, heq t hsame]
    exact hg.same (hf.sound hs) hp hagree

/-- Something is done in a way that is found from what is looked at. -/
lemma Local.split {v : Stage W → X} {k : Stage W → Y × Stage W}
    (hv : a.Local Q fun s => (v s, s))
    (h : ∀ x, Q x → ∃ g, a.Local R g ∧ ∀ s, v s = x → k s = g s) : a.Local R k :=
  hv.cases h

lemma Local.splitActs {v : Stage W → X} {k : Stage W → Stage W}
    (hv : a.Local Q fun s => (v s, s))
    (h : ∀ x, Q x → ∃ g, a.Acts g ∧ ∀ s, v s = x → k s = g s) : a.Acts k :=
  hv.split fun x hx => by
    obtain ⟨g, hg, heq⟩ := h x hx
    exact ⟨_, hg, fun s hs => congrArg (Prod.mk ()) (heq s hs)⟩

/-! ### The log -/

lemma acts_say (n : Note) : a.Acts (Stage.say n) := by
  have hevents : ∀ id (s : Stage W), eventsOf id (s.say n).log = eventsOf id s.log := fun id s =>
    (eventsOf_append id s.log [.note n]).trans (List.append_nil _)
  refine .of (fun h => ⟨h.waiter, h.work, h.completion, h.native⟩) (fun {s} _ => ?_)
    fun {s t p} _ h => ?_
  · exact { Agree.refl a.rest s with events := fun id _ => hevents id s }
  · exact { h with events := fun id hid => by rw [hevents, hevents, h.events id hid] }

lemma acts_report {e : Event} (he : e.instance? = some a.key.id) : a.Acts (Stage.report e) := by
  have hevents : ∀ id (s : Stage W), eventsOf id (s.report e).log =
      eventsOf id s.log ++ eventsOf id [.event e] := fun id s => eventsOf_append id s.log _
  refine .of (fun h => ⟨h.waiter, h.work, h.completion, h.native⟩) (fun {s} _ => ?_)
    fun {s t p} _ h => ?_
  · refine { Agree.refl a.rest s with events := fun id hid => ?_ }
    have hne : e.instance? ≠ some id := fun h => hid (Option.some.inj (h.symm.trans he))
    rw [hevents, eventsOf_event_of_ne hne, List.append_nil]
  · exact { h with events := fun id hid => by rw [hevents, hevents, h.events id hid] }

/-! ### The life -/

lemma acts_setLifecycle (l : Lifecycle) : a.Acts (Stage.setLifecycle a.key l) :=
  .of (fun h => ⟨h.waiter, h.work, h.completion, h.native⟩)
    (fun {s} _ => { Agree.refl a.rest s with
      life := fun _ hkey => Table.get_set_of_ne _ hkey _ })
    fun _ h => { h with life := fun key hkey => Table.get_set_congr (h.life key hkey) }

lemma local_lifecycle : a.Local (fun _ => True) fun s => (s.lifecycle a.key, s) :=
  .look (fun _ => trivial) fun hp hst => hst.life a.key (hp.keys rfl)

lemma acts_release : a.Acts (Stage.release a.key) := by
  refine local_lifecycle.splitActs fun l _ => ?_
  cases hstops : l.stopsOnRelease with
  | true =>
    have hreport : a.Acts (Stage.report (.released a.key.id)) := acts_report rfl
    refine ⟨_, hreport.comp (acts_setLifecycle l.release), fun s hs => ?_⟩
    simp only [Stage.release, hs, hstops]
    rfl
  | false =>
    refine ⟨_, acts_setLifecycle l.release, fun s hs => ?_⟩
    simp only [Stage.release, hs, hstops]
    rfl

/-! ### The lines -/

variable {line : Line}

lemma ne_of_rest {other : Line} (hline : a.lines line) (hother : a.rest.lines other) :
    other ≠ line := by
  rintro rfl
  simp [rest, hline] at hother

lemma acts_setLine (hline : a.lines line) {l : LineState}
    (hl : ∀ task, l = .silent (some task) → a.lines task) : a.Acts (Stage.setLine line l) :=
  .of (fun h => { h with
      waiter := fun other task hother =>
        Table.get_set_of (P := (· = LineState.silent (some task) → a.lines task)) (hl task)
          (h.waiter other task hother) })
    (fun {s} _ => { Agree.refl a.rest s with
      line := fun _ hother => Table.get_set_of_ne _ (ne_of_rest hline hother) _ })
    fun _ h => { h with line := fun other hother => Table.get_set_congr (h.line other hother) }

lemma acts_hangUp (hline : a.lines line) : a.Acts (Stage.hangUp line) :=
  acts_setLine hline nofun

lemma filter_append_eq {l m : List Line} {f : Line → Bool} (h : m.filter f = l.filter f)
    (more : List Line) : (m ++ more).filter f = (l ++ more).filter f := by
  rw [List.filter_append, List.filter_append, h]

lemma filter_rest (hline : a.lines line) (l : List Line) :
    (l ++ [line]).filter a.rest.lines = l.filter a.rest.lines := by
  simp [rest, hline]

lemma acts_wake {task? : Option Line} (htask : ∀ task, task? = some task → a.lines task) :
    a.Acts (Stage.wake task?) := by
  cases task? with
  | none => exact .id
  | some task =>
    refine .of (fun h => ⟨h.waiter, h.work, h.completion, h.native⟩) (fun {s} _ => ?_)
      fun {s t p} _ h => ?_
    · exact { Agree.refl a.rest s with queue := filter_rest (htask task rfl) s.queue }
    · exact { h with queue := filter_append_eq h.queue [task] }

/-- What is on a line of the share. -/
lemma local_line (hline : a.lines line) :
    a.Local (fun l => ∀ task, l = .silent (some task) → a.lines task)
      fun s => (s.lines.get line, s) :=
  .look (fun h task => h.waiter line task hline) fun hp h => h.line line (hp.lines hline)

lemma local_endSilence (hline : a.lines line) {l : LineState}
    (hl : ∀ task, l = .silent (some task) → a.lines task) :
    a.Local (fun _ => True) (Stage.endSilence line l) := by
  have hquiet : a.Local (fun _ => True) fun s : Stage W => (false, s) := .pure trivial
  refine (local_line hline).split fun state hstate => ?_
  cases state with
  | silent waiter? =>
    have hwaiter : ∀ task, waiter? = some task → a.lines task := fun task h =>
      hstate task (congrArg LineState.silent h)
    have hsend : a.Local (fun _ => True) fun s : Stage W =>
        (true, (s.setLine line l).wake waiter?) :=
      ((acts_setLine hline hl).comp (acts_wake hwaiter)).gives trivial
    exact ⟨_, hsend, fun s hs => by rw [Stage.endSilence, hs]⟩
  | sent o => exact ⟨_, hquiet, fun s hs => by rw [Stage.endSilence, hs]⟩
  | closed => exact ⟨_, hquiet, fun s hs => by rw [Stage.endSilence, hs]⟩
  | deaf => exact ⟨_, hquiet, fun s hs => by rw [Stage.endSilence, hs]⟩

lemma acts_closeLine (hline : a.lines line) : a.Acts (Stage.closeLine line) :=
  (local_endSilence hline (l := .closed) nofun).acts

lemma local_receive (hline : a.lines line) {task? : Option Line}
    (htask : ∀ task, task? = some task → a.lines task) :
    a.Local (fun _ => True) (Stage.receive task? line) := by
  have habandoned : a.Local (fun _ => True) fun s : Stage W =>
      (some (.error .abandoned : Outcome Yield), s) := .pure trivial
  refine (local_line hline).split fun state _ => ?_
  cases state with
  | silent waiter? =>
    have hsilent : ∀ task, LineState.silent task? = .silent (some task) → a.lines task :=
      fun task h => htask task (LineState.silent.inj h)
    have hwait : a.Local (fun _ => True) fun s : Stage W =>
        ((none : Option (Outcome Yield)), s.setLine line (.silent task?)) :=
      (acts_setLine hline hsilent).gives trivial
    exact ⟨_, hwait, fun s hs => by rw [Stage.receive, hs]⟩
  | sent o =>
    have htake : a.Local (fun _ => True) fun s : Stage W => (some o, s.hangUp line) :=
      (acts_hangUp hline).gives trivial
    exact ⟨_, htake, fun s hs => by rw [Stage.receive, hs]⟩
  | closed => exact ⟨_, habandoned, fun s hs => by rw [Stage.receive, hs]⟩
  | deaf => exact ⟨_, habandoned, fun s hs => by rw [Stage.receive, hs]⟩

/-! ### What is kept for a control -/

variable {name : String}

lemma ne_of_rest_name {other : String} (hname : a.names name) (hother : a.rest.names other) :
    other ≠ name := by
  rintro rfl
  exact hother hname

lemma acts_setCompletion (hname : a.names name) {key? : Option InstanceKey}
    (hkey : ∀ key, key? = some key → key = a.key) :
    a.Acts fun s => { s with completions := s.completions.set name key? } :=
  .of (fun h => { h with
      completion := fun other key hother =>
        Table.get_set_of (P := (· = some key → key = a.key)) (hkey key)
          (h.completion other key hother) })
    (fun {s} _ => { Agree.refl a.rest s with
      completion := fun _ hother => Table.get_set_of_ne _ (ne_of_rest_name hname hother) _ })
    fun _ h => { h with
      completion := fun other hother => Table.get_set_congr (h.completion other hother) }

lemma acts_setNative (hname : a.names name) {key? : Option InstanceKey}
    (hkey : ∀ key, key? = some key → key = a.key) :
    a.Acts fun s => { s with natives := s.natives.set name key? } :=
  .of (fun h => { h with
      native := fun other key hother =>
        Table.get_set_of (P := (· = some key → key = a.key)) (hkey key)
          (h.native other key hother) })
    (fun {s} _ => { Agree.refl a.rest s with
      native := fun _ hother => Table.get_set_of_ne _ (ne_of_rest_name hname hother) _ })
    fun _ h => { h with native := fun other hother => Table.get_set_congr (h.native other hother) }

lemma local_completion (hname : a.names name) :
    a.Local (fun key? => ∀ key, key? = some key → key = a.key)
      fun s => (s.completions.get name, s) :=
  .look (fun h key => h.completion name key hname) fun hp h => h.completion name (hp.names hname)

lemma local_native (hname : a.names name) :
    a.Local (fun key? => ∀ key, key? = some key → key = a.key) fun s => (s.natives.get name, s) :=
  .look (fun h key => h.native name key hname) fun hp h => h.native name (hp.names hname)

/-- Something is done with what is kept for the control, if it is there. -/
lemma local_ofKept {get : Stage W → Option InstanceKey}
    (hget : a.Local (fun key? => ∀ key, key? = some key → key = a.key) fun s => (get s, s))
    {f : InstanceKey → Stage W → X × Stage W} (hf : a.Local (fun _ => True) (f a.key)) :
    a.Local (fun _ => True) fun s => s.orStay ((get s).map fun key => f key s) := by
  refine hget.split fun key? hkey => ?_
  cases key? with
  | none =>
    have hnone : a.Local (fun _ => True) fun s : Stage W => ((none : Option X), s) := .pure trivial
    exact ⟨_, hnone, fun s hs => by rw [hs]; rfl⟩
  | some key =>
    obtain rfl := hkey key rfl
    have hsome : a.Local (fun _ => True) fun s => (some (f a.key s).1, (f a.key s).2) :=
      hf.map fun _ _ => trivial
    exact ⟨_, hsome, fun s hs => by rw [hs]; rfl⟩

lemma local_complete (hname : a.names name) (x : X) :
    a.Local (fun _ => True) fun s => s.orStay ((s.complete name).map fun t => (x, t)) := by
  have htake : a.Acts fun s =>
      { s with completions := s.completions.set name none }.release a.key :=
    (acts_setCompletion hname (by simp)).comp acts_release
  have hkept : a.Local (fun _ => True) fun s => s.orStay ((s.completions.get name).map fun key =>
      (x, { s with completions := s.completions.set name none }.release key)) :=
    local_ofKept (local_completion hname) (htake.gives trivial)
  unfold Stage.complete
  simp only [Option.map_map]
  exact hkept

lemma local_sendNative (hname : a.names name) (o : Outcome (Option Value)) :
    a.Local (fun _ => True) fun s => s.orStay (s.sendNative name o) :=
  local_ofKept (local_native hname) <|
    (acts_setNative hname (by simp)).before (local_endSilence a.native (by simp))

lemma local_abandonNative (hname : a.names name) (x : X) :
    a.Local (fun _ => True) fun s => s.orStay ((s.abandonNative name).map fun t => (x, t)) := by
  have htake : a.Acts fun s =>
      { s with natives := s.natives.set name none }.closeLine (.native a.key) :=
    (acts_setNative hname (by simp)).comp (acts_closeLine a.native)
  have hkept : a.Local (fun _ => True) fun s => s.orStay ((s.natives.get name).map fun key =>
      (x, { s with natives := s.natives.set name none }.closeLine (.native key))) :=
    local_ofKept (local_native hname) (htake.gives trivial)
  unfold Stage.abandonNative
  simp only [Option.map_map]
  exact hkept

lemma acts_keep (hname : a.names name) : a.Acts (Stage.keep name a.key) := by
  have hcomplete : a.Acts fun s => (s.complete name).getD s := by
    have hacts := (local_complete hname ()).acts
    simpa only [orStay_snd] using hacts
  have habandon : a.Acts fun s => (s.abandonNative name).getD s := by
    have hacts := (local_abandonNative hname ()).acts
    simpa only [orStay_snd] using hacts
  have hkey : ∀ key, some a.key = some key → key = a.key := fun key h => (Option.some.inj h).symm
  exact (hcomplete.comp habandon).comp
    ((acts_setCompletion hname hkey).comp (acts_setNative hname hkey))

end Share

end Session

end ServiceBootstrap
