import Mathlib.Data.List.Induction
import ServiceBootstrap.Proofs.Session.Chronicle

/-!
What the log says of each of any number of instances on one stage.

The calls of the stop of each instance are in the hands of their owners, who alone ask for a stop,
and the scheduler works for all of them. What is done to one instance, or beside the calls, can at
most give up the completions of others. So each instance has a log of its own, and it says of every
run what it would say if the instance were the only one.
-/

namespace ServiceBootstrap.Session

variable {W : Type} [Task W] {ι : Type} {keys : ι → InstanceKey}

/-- What the control of an instance does when it is told to stop, among instances on one stage. It
can put the completion anywhere and come to its outcome in any way, and giving completions up is all
that is reported of it and of the work on the stage. -/
structure Member (W : Type) [Task W] (keys : ι → InstanceKey) where
  tell : Stage W → Pending W × Stage W
  records : ∀ i s, Records (keys i) s (tell s).2
  within : ∀ i s, (tell s).1.Within (Records (keys i))
  work : ∀ i, Task.Within W (Records (keys i))

def Member.stopper (m : Member W keys) (i : ι) : Stopper W (keys i) where
  tell := m.tell
  keeps s _ := (m.records i s).keeps
  within s := (m.within i s).mono Records.keeps
  work := (m.work i).mono Records.keeps

/-- The controls of a session. -/
def Member.ofControl (c : Control) (key : InstanceKey) (keys : ι → InstanceKey) :
    Member Script keys where
  tell := c.stop key
  records _ s := Records.coarse.stop Records.say Records.release c key s
  within _ s := stop_within c key s
  work _ := Script.records

/-- Something else that happens on the stage. -/
structure Deed (W : Type) (keys : ι → InstanceKey) where
  run : Stage W → Stage W
  records : ∀ i s, Records (keys i) s (run s)

/-- Instances on one stage, with the calls of the stop of each of them. -/
structure Company (ι W : Type) where
  stage : Stage W
  calls : Table ι (List (Handle W)) := .const []
  own : Table ι (Handle W) := .const .gone

namespace Company

inductive Move (W : Type) (keys : ι → InstanceKey) where
  /-- A request to stop an instance, through any clone. -/
  | stop (i : ι)
  /-- The owner of the pending outcome of a call polls it. -/
  | poll (i : ι) (call : Nat)
  /-- The owner of the pending outcome of a call gives it up. -/
  | drop (i : ι) (call : Nat)
  /-- Whoever has a completion gives it up. -/
  | release (key : InstanceKey)
  | turn (r : Scheduler)
  | shutdown (r : Scheduler)
  | act (d : Deed W keys)

variable [DecidableEq ι]

def life (c : Company ι W) (i : ι) : Life W := ⟨c.stage, c.calls.get i, c.own.get i⟩

def put (c : Company ι W) (i : ι) (l : Life W) : Company ι W :=
  ⟨l.stage, c.calls.set i l.calls, c.own.set i l.own⟩

def step (members : ι → Member W keys) (c : Company ι W) : Move W keys → Company ι W
  | .stop i => c.put i (((members i).stopper i).step (c.life i) .stop)
  | .poll i call => c.put i ((c.life i).touch Handle.poll call)
  | .drop i call => c.put i ((c.life i).touch Handle.drop call)
  | .release key => { c with stage := c.stage.release key }
  | .turn r => { c with stage := c.stage.turn r }
  | .shutdown r => { c with stage := c.stage.shutdown r }
  | .act d => { c with stage := d.run c.stage }

def run (members : ι → Member W keys) (s : Stage W) (moves : List (Move W keys)) : Company ι W :=
  moves.foldl (step members) { stage := s }

/-- Whether a move is a request to stop an instance. -/
def Move.asks (i : ι) : Move W keys → Bool
  | .stop j => j = i
  | _ => false

omit [Task W] in
lemma life_put_self (c : Company ι W) (i : ι) (l : Life W) : (c.put i l).life i = l := by
  simp [life, put]

omit [Task W] in
lemma life_put_of_ne (c : Company ι W) {i j : ι} (h : j ≠ i) (l : Life W) :
    (c.put i l).life j = { c.life j with stage := l.stage } := by
  simp [life, put, Table.get_set_of_ne _ h]

/-- What the log says of all instances between any two steps. -/
structure Chronicled (keys : ι → InstanceKey) (asked : ι → Nat) (released : ι → Prop)
    (c : Company ι W) : Prop where
  each : ∀ i, Chronicle (keys i) (asked i) (released i) (c.life i)
  own : ∀ i j, (c.own.get i).Within (Records (keys j))

variable (members : ι → Member W keys) {c : Company ι W} {asked : ι → Nat} {released : ι → Prop}

omit [Task W] in
/-- What is done to one instance is a step of that instance, and only gives completions up for the
others. -/
lemma Chronicled.put (h : Chronicled keys asked released c) {i : ι} {l : Life W} {n : Nat}
    (hl : Chronicle (keys i) (asked i + n) (released i ∨ GivesUp (keys i) (c.life i) l.stage) l)
    (hothers : ∀ j, j ≠ i → Records (keys j) c.stage l.stage)
    (hown : ∀ j, l.own.Within (Records (keys j))) :
    Chronicled keys (fun j => asked j + if j = i then n else 0)
      (fun j => released j ∨ GivesUp (keys j) (c.life j) (c.put i l).stage) (c.put i l) where
  each j := by
    by_cases hj : j = i
    · subst hj
      rw [life_put_self, if_pos rfl]
      exact hl
    · rw [life_put_of_ne c hj, if_neg hj]
      exact (h.each j).of_records (hothers j hj)
  own j k := by
    by_cases hj : j = i
    · subst hj
      simpa [Company.put] using hown k
    · simpa [Company.put, Table.get_set_of_ne _ hj] using h.own j k

omit [Task W] [DecidableEq ι] in
/-- What is done beside the calls only gives completions up. -/
lemma Chronicled.beside (h : Chronicled keys asked released c) {t : Stage W}
    (hrecords : ∀ i, Records (keys i) c.stage t) :
    Chronicled keys asked (fun i => released i ∨ GivesUp (keys i) (c.life i) t)
      { c with stage := t } where
  each i := (h.each i).of_records (hrecords i)
  own := h.own

section

variable (hids : ∀ i j, (keys i).id = (keys j).id → i = j)

include hids

/-- A request to stop one of them. -/
lemma Chronicled.stop (h : Chronicled keys asked released c) (i : ι) :
    let d := c.put i (((members i).stopper i).step (c.life i) .stop)
    Chronicled keys (fun j => asked j + if j = i then 1 else 0)
      (fun j => released j ∨ GivesUp (keys j) (c.life j) d.stage) d := by
  have htell : ∀ j s, Records (keys j) s ((members i).tell s).2 := (members i).records
  refine h.put ((h.each i).stop ((members i).stopper i) (htell i)) (fun j hj => ?_) fun j => ?_
  · exact .requestStop (fun hid => hj (hids i j hid).symm) (htell j) c.stage
  · change (if (c.calls.get i).isEmpty then .held _ else c.own.get i : Handle W).Within _
    split
    · exact (members i).within j _
    · exact h.own i j

omit [Task W] in
/-- A call of one of them is touched. -/
lemma Chronicled.touch (h : Chronicled keys asked released c) {i : ι}
    {f : Handle W → Stage W → Handle W × Stage W} (hf : Touches (keys i) f) {call : Nat}
    (hsound : ((c.life i).touch f call).Sound (keys i))
    (hwithin : ∀ j, Records (keys j) c.stage (f (c.own.get i) c.stage).2 ∧
      (f (c.own.get i) c.stage).1.Within (Records (keys j))) :
    let d := c.put i ((c.life i).touch f call)
    Chronicled keys asked (fun j => released j ∨ GivesUp (keys j) (c.life j) d.stage) d := by
  have htouched := (h.each i).touch hf hsound (hwithin i).1
  have hkept := h.put (n := 0) htouched (fun j hj => ?_) fun j => ?_
  · simpa using hkept
  · rcases (h.each i).sound.touch_cases hf call with ⟨hstage, -⟩ | ⟨hstage, -⟩ |
      ⟨-, -, o, hstage, -⟩
    · rw [hstage]
      exact Records.coarse.refl _
    · rw [hstage]
      exact (hwithin j).1
    · have hid : (keys i).id ≠ (keys j).id := fun hid => hj (hids i j hid).symm
      rw [hstage]
      exact Records.coarse.trans (hwithin j).1 (.conclude hid o _)
  · unfold Life.touch
    split
    · exact h.own i j
    · change (if call = 0 then _ else c.own.get i : Handle W).Within _
      split
      · exact (hwithin j).2
      · exact h.own i j

/-- Every step says of each instance what it does to it. -/
lemma Chronicled.step (h : Chronicled keys asked released c) (m : Move W keys) :
    Chronicled keys (fun i => asked i + if m.asks i then 1 else 0)
      (fun i => released i ∨ GivesUp (keys i) (c.life i) (c.step members m).stage)
      (c.step members m) := by
  cases m with
  | stop i => simpa [Move.asks, Company.step, eq_comm] using h.stop members hids i
  | poll i call =>
    have hsound := ((h.each i).sound.step ((members i).stopper i) (.poll call)).1
    refine h.touch hids touches_poll hsound fun j => ?_
    exact Handle.Within.poll (Records.coarse.work ((members i).work j)) Records.coarse.refl
      Records.coarse.trans (h.own i j) c.stage
  | drop i call =>
    have hsound := ((h.each i).sound.step ((members i).stopper i) (.drop call)).1
    refine h.touch hids touches_drop hsound fun j => ?_
    exact Handle.Within.drop (Records.coarse.work ((members i).work j)) Records.coarse.refl
      Records.coarse.trans (h.own i j) c.stage
  | release key => exact h.beside fun i => .release key c.stage
  | turn r =>
    refine h.beside fun i => ?_
    exact Records.coarse.turn (fun _ => .of_events rfl rfl) ((members i).work i) c.stage
  | shutdown r =>
    refine h.beside fun i => ?_
    exact Records.coarse.shutdown (fun _ => .of_events rfl rfl) ((members i).work i)
      (.retire r c.stage)
  | act d => exact h.beside fun i => d.records i c.stage

end

/-! ### The whole log -/

/-- The completion of an instance was given up in the course of some moves, at a time at which its
first call had not come to its outcome. -/
def Released (members : ι → Member W keys) (s : Stage W) (moves : List (Move W keys)) (i : ι) :
    Prop :=
  ∃ before m after, moves = before ++ m :: after ∧
    GivesUp (keys i) ((run members s before).life i) (run members s (before ++ [m])).stage

lemma released_snoc (s : Stage W) (moves : List (Move W keys)) (m : Move W keys) (i : ι) :
    Released members s (moves ++ [m]) i ↔
      Released members s moves i ∨
        GivesUp (keys i) ((run members s moves).life i) (run members s (moves ++ [m])).stage := by
  constructor
  · rintro ⟨before, m', after, hmoves, hgives⟩
    rcases List.eq_nil_or_concat after with rfl | ⟨after', last, rfl⟩
    · obtain ⟨rfl, hm⟩ := List.append_inj' hmoves rfl
      obtain rfl : m = m' := (List.cons.inj hm).1
      exact .inr hgives
    · rw [List.concat_eq_append, ← List.cons_append, ← List.append_assoc] at hmoves
      obtain ⟨rfl, -⟩ := List.append_inj' hmoves rfl
      exact .inl ⟨before, m', after', rfl, hgives⟩
  · rintro (⟨before, m', after, rfl, hgives⟩ | hgives)
    · exact ⟨before, m', after ++ [m], by simp, hgives⟩
    · exact ⟨moves, m, [], rfl, hgives⟩

lemma chronicled_run (hids : ∀ i j, (keys i).id = (keys j).id → i = j) {s : Stage W}
    (hs : ∀ i other, other.id = (keys i).id → s.lifecycle other = .start)
    (hlog : ∀ i, eventsOf (keys i).id s.log = []) (moves : List (Move W keys)) :
    Chronicled keys (fun i => moves.countP (Move.asks i)) (Released members s moves)
      (run members s moves) := by
  induction moves using List.reverseRecOn with
  | nil =>
    have hnone : ∀ i, ¬ Released members s [] i := by
      rintro i ⟨before, m, after, hmoves, -⟩
      simp at hmoves
    refine ⟨fun i => ⟨.fresh rfl (hs i _ rfl), fun other _ hid => hs i other hid, rfl, fun h => ?_,
      fun _ => hlog i, fun hcalls => absurd rfl hcalls⟩, fun i j => trivial⟩
    exact absurd h (hnone i)
  | append_singleton moves m ih =>
    have hstep := ih.step members hids m
    have hrun : run members s (moves ++ [m]) = (run members s moves).step members m := by
      simp [run]
    refine ⟨fun i => ?_, ?_⟩
    · have hasked : (moves ++ [m]).countP (Move.asks i) =
          moves.countP (Move.asks i) + if m.asks i then 1 else 0 := by
        rw [List.countP_append, List.countP_singleton]
      rw [hasked, released_snoc, hrun]
      exact hstep.each i
    · rw [hrun]
      exact hstep.own

/-- **The log of every instance.** Of instances with identifiers of their own, none of which has
been asked to stop before, the log says nothing until the first request to stop; then that the
instance is stopping; and then, among one refusal for each later request, that the provider released
the instance, if and only if the completion was given up while the first call had not come to its
outcome, and after that how the stop ended, if and only if it did. -/
theorem log_of_instances (hids : ∀ i j, (keys i).id = (keys j).id → i = j)
    (members : ι → Member W keys) {s : Stage W}
    (hs : ∀ i other, other.id = (keys i).id → s.lifecycle other = .start)
    (hlog : ∀ i, eventsOf (keys i).id s.log = []) (moves : List (Move W keys)) (i : ι) :
    let c := run members s moves
    let id := (keys i).id
    let events := eventsOf id c.stage.log
    let asked := moves.countP (Move.asks i)
    (c.calls.get i).length = asked ∧
    (asked = 0 → events = []) ∧
    (asked ≠ 0 → ∃ rest release,
      events = .stopping id :: rest ∧
      rest.filter Event.isRefusal = List.replicate (asked - 1) (.stopRefused id) ∧
      rest.filter (fun e => !e.isRefusal) = release ++ finalEvents id (c.calls.get i).head? ∧
      ((Released members s moves i ∧ release = [.released id]) ∨
        (¬ Released members s moves i ∧ release = []))) := by
  intro c id events asked
  have h : Chronicle (keys i) asked (Released members s moves i) (c.life i) :=
    (chronicled_run members hids hs hlog moves).each i
  have hcalls : c.calls.get i = [] ↔ asked = 0 := by
    rw [← List.length_eq_zero_iff]
    exact iff_of_eq (congrArg (· = 0) h.count)
  exact ⟨h.count, fun hasked => h.silent (hcalls.2 hasked),
    fun hasked => h.written (hasked ∘ hcalls.1)⟩

/-- Two instances. The one is asked twice, and has its completion in the work that its owner waits
for; the other gives its completion up when it is told, and is never waited for. -/
theorem log_of_instances_two :
    let keys : Bool → InstanceKey := fun b => ⟨b.toNat, .ofNat b.toNat⟩
    let members : Bool → Member Script keys := fun b =>
      .ofControl ⟨"a", if b then .lazy else .immediate, .ok none⟩ (keys b) keys
    let c := run members {} [.stop true, .stop false, .stop true, .poll true 0]
    (∀ i j, (keys i).id = (keys j).id → i = j) ∧
    (∀ i other, other.id = (keys i).id → ({} : Stage Script).lifecycle other = .start) ∧
    (∀ i, eventsOf (keys i).id ({} : Stage Script).log = []) ∧
    (∃ rest, eventsOf (keys true).id c.stage.log = .stopping (keys true).id :: rest ∧
      rest.filter Event.isRefusal = [.stopRefused (keys true).id] ∧
      rest.filter (fun e => !e.isRefusal) = [.released (keys true).id, .stopped (keys true).id]) ∧
    ∃ rest, eventsOf (keys false).id c.stage.log = .stopping (keys false).id :: rest ∧
      rest.filter Event.isRefusal = [] ∧
      rest.filter (fun e => !e.isRefusal) = [.released (keys false).id] := by
  intro keys members c
  have hids : ∀ i j, (keys i).id = (keys j).id → i = j := by decide
  have hs : ∀ i other, other.id = (keys i).id → ({} : Stage Script).lifecycle other = .start :=
    fun _ _ _ => rfl
  have hlog : ∀ i, eventsOf (keys i).id ({} : Stage Script).log = [] := fun _ => rfl
  have hall := log_of_instances hids members hs hlog
    [.stop true, .stop false, .stop true, .poll true 0]
  have hreleased : ∀ i, Released members {}
      [.stop true, .stop false, .stop true, .poll true 0] i := by
    intro i
    cases i with
    | true =>
      refine ⟨[.stop true, .stop false, .stop true], .poll true 0, [], rfl, by decide, by decide,
        ?_⟩
      rintro ⟨o, ho⟩
      cases ho
    | false =>
      refine ⟨[.stop true], .stop false, [.stop true, .poll true 0], rfl, by decide, by decide, ?_⟩
      rintro ⟨o, ho⟩
      cases ho
  have hfinal : finalEvents (keys true).id (c.calls.get true).head? =
      [.stopped (keys true).id] := by
    simp only [c, run, List.foldl_cons, step, life, put]
    rfl
  refine ⟨hids, hs, hlog, ?_, ?_⟩
  · obtain ⟨-, -, hasked⟩ := hall true
    obtain ⟨rest, release, hevents, hrefused, hrest, hrelease⟩ := hasked (by decide)
    obtain ⟨-, rfl⟩ := hrelease.resolve_right fun hnot => hnot.1 (hreleased true)
    exact ⟨rest, hevents, hrefused, hrest.trans (congrArg _ hfinal)⟩
  · obtain ⟨-, -, hasked⟩ := hall false
    obtain ⟨rest, release, hevents, hrefused, hrest, hrelease⟩ := hasked (by decide)
    obtain ⟨-, rfl⟩ := hrelease.resolve_right fun hnot => hnot.1 (hreleased false)
    exact ⟨rest, hevents, hrefused, hrest⟩

end Company

end ServiceBootstrap.Session
