import ServiceBootstrap.Proofs.Session.Life
import ServiceBootstrap.Proofs.Session.Records

/-!
What the log says of one instance.

The requests to stop, the outcome of the first of them and the giving up of the completion are all
that is reported of an instance. An invariant ties what was reported to the number of requests so
far, to what has become of the first call, and to whether the completion was given up before that.
-/

namespace ServiceBootstrap

/-- Whether an event tells that a request to stop came too late. -/
def Event.isRefusal : Event → Bool
  | stopRefused _ => true
  | _ => false

namespace Session

variable {W : Type} {key : InstanceKey}

/-- What is reported when the first call comes to its outcome. -/
def finalEvents (id : InstanceId) : Option (Handle W) → List Event
  | some (.resolved (.ok _)) => [.stopped id]
  | some (.resolved (.error e)) => [.stoppedWithFailure id e]
  | _ => []

/-- All that was reported of an instance since it was first asked to stop: this, the requests that
were refused, and among them that the provider released it, if it did, before how the stop ended. -/
def Written (id : InstanceId) (refused : Nat) (released : Prop) (final events : List Event) :
    Prop :=
  ∃ rest release, events = .stopping id :: rest ∧
    rest.filter Event.isRefusal = List.replicate refused (.stopRefused id) ∧
    rest.filter (fun e => !e.isRefusal) = release ++ final ∧
    ((released ∧ release = [.released id]) ∨ (¬ released ∧ release = []))

variable {id : InstanceId} {refused : Nat} {released : Prop} {final events : List Event}

lemma written_stopping (id : InstanceId) : Written id 0 False [] [.stopping id] :=
  ⟨[], [], rfl, rfl, rfl, .inr ⟨not_false, rfl⟩⟩

lemma Written.refuse (h : Written id refused released final events) :
    Written id (refused + 1) released final (events ++ [.stopRefused id]) := by
  obtain ⟨rest, release, rfl, hrefused, hrest, hrelease⟩ := h
  refine ⟨rest ++ [.stopRefused id], release, rfl, ?_, ?_, hrelease⟩
  · rw [List.filter_append, hrefused, List.replicate_succ']
    rfl
  · rw [List.filter_append, hrest]
    exact List.append_nil _

lemma Written.release (h : Written id refused released [] events) (hnot : ¬ released) :
    Written id refused True [] (events ++ [.released id]) := by
  obtain ⟨rest, release, rfl, hrefused, hrest, hrelease⟩ := h
  obtain rfl : release = [] := by simpa [hnot] using hrelease
  refine ⟨rest ++ [.released id], [.released id], rfl, ?_, ?_, .inl ⟨trivial, rfl⟩⟩
  · rw [List.filter_append, hrefused]
    exact List.append_nil _
  · rw [List.filter_append, hrest]
    rfl

lemma Written.conclude (h : Written id refused released [] events) (o : Outcome Yield) :
    Written id refused released (finalEvents id (some (.resolved o : Handle W)))
      (events ++ finalEvents id (some (.resolved o : Handle W))) := by
  obtain ⟨rest, release, rfl, hrefused, hrest, hrelease⟩ := h
  refine ⟨rest ++ _, release, rfl, ?_, ?_, hrelease⟩
  · rw [List.filter_append, hrefused]
    cases o <;> exact List.append_nil _
  · rw [List.filter_append, hrest, List.append_nil]
    cases o <;> rfl

/-! ### Between two steps -/

/-- The completion is given up between two moments, at the first of which the first call had not
come to its outcome. -/
def GivesUp (key : InstanceKey) (l : Life W) (t : Stage W) : Prop :=
  (l.stage.lifecycle key).completion ≠ .dropped ∧ (t.lifecycle key).completion = .dropped ∧
    ¬ l.Resolved

/-- What the log says of an instance between any two steps. -/
structure Chronicle (key : InstanceKey) (asked : Nat) (released : Prop) (l : Life W) : Prop where
  sound : l.Sound key
  alone : Alone key l.stage
  count : l.calls.length = asked
  gone : released → (l.stage.lifecycle key).completion = .dropped
  silent : l.calls = [] → eventsOf key.id l.stage.log = []
  written : l.calls ≠ [] → Written key.id (asked - 1) released
    (finalEvents key.id l.calls.head?) (eventsOf key.id l.stage.log)

lemma finalEvents_of_not_resolved {l : Life W} (h : ¬ l.Resolved) (id : InstanceId) :
    finalEvents id l.calls.head? = [] := by
  unfold finalEvents
  split
  · next heq => exact absurd ⟨_, heq⟩ h
  · next heq => exact absurd ⟨_, heq⟩ h
  · rfl

/-- Giving the completion up either is what stops the instance, and is reported, or is not. -/
lemma Records.events_cases {s t : Stage W} (h : Records key s t) (hs : Alone key s) :
    (eventsOf key.id t.log = eventsOf key.id s.log ∧
      ¬ ((s.lifecycle key).stopsOnRelease ∧ (t.lifecycle key).completion = .dropped)) ∨
    (eventsOf key.id t.log = eventsOf key.id s.log ++ [.released key.id] ∧
      (s.lifecycle key).stopsOnRelease ∧ (t.lifecycle key).completion = .dropped) := by
  rcases h with ⟨hlife, hlog⟩ | ⟨hlife, hlog⟩
  · refine .inl ⟨(hlog hs).2, ?_⟩
    rintro ⟨hstops, hdropped⟩
    rw [hlife] at hdropped
    simp [Lifecycle.stopsOnRelease, hdropped] at hstops
  · have hevents := (hlog hs).2
    unfold releaseEvents at hevents
    split at hevents
    · next hstops =>
      have hheld : (s.lifecycle key).completion = .held := by
        simp only [Lifecycle.stopsOnRelease, Bool.and_eq_true, decide_eq_true_eq] at hstops
        exact hstops.1
      refine .inr ⟨hevents, hstops, ?_⟩
      rw [hlife, Lifecycle.release, if_pos hheld]
    · next hstays => exact .inl ⟨by simpa using hevents, fun h => hstays h.1⟩

/-- Once asked, it is the completion and the outcome of the first call that tell whether giving the
completion up stops the instance. -/
lemma givesUp_iff {l : Life W} {later : List (Handle W)}
    (hcalls : l.calls = answered key l.own :: later) (hfirst : First key l.own l.stage)
    (t : Stage W) :
    GivesUp key l t ↔
      (l.stage.lifecycle key).stopsOnRelease ∧ (t.lifecycle key).completion = .dropped := by
  have hresolved : (l.stage.lifecycle key).concluded = true ↔ l.Resolved :=
    hfirst.concluded.trans (Life.resolved_iff hcalls).symm
  have hstopped := hfirst.life.phase_iff.2.2
  have hissued := hfirst.life.1
  unfold GivesUp Lifecycle.stopsOnRelease
  rw [← hresolved]
  cases hcompletion : (l.stage.lifecycle key).completion with
  | unissued => exact absurd hcompletion hissued
  | held =>
    simp only [hcompletion, true_and] at hstopped
    simp [hstopped, and_comm]
  | dropped => simp

namespace Chronicle

variable {l l' : Life W} {asked : Nat}

lemma congr {released' : Prop} (h : Chronicle key asked released l)
    (hiff : released ↔ released') : Chronicle key asked released' l := propext hiff ▸ h

lemma not_released (h : Chronicle key asked released l)
    (hnot : (l.stage.lifecycle key).completion ≠ .dropped) : ¬ released :=
  fun hreleased => hnot (h.gone hreleased)

/-- Anything that is done but by the callers of the stop. -/
lemma of_records (h : Chronicle key asked released l) {t : Stage W}
    (hrecords : Records key l.stage t) :
    Chronicle key asked (released ∨ GivesUp key l t) { l with stage := t } := by
  have halone : Alone key t := by
    rcases hrecords with ⟨-, hlog⟩ | ⟨-, hlog⟩ <;> exact (hlog h.alone).1
  have hsound := h.sound.of_keeps hrecords.keeps
  rcases h.sound with ⟨hcalls, hlife⟩ | ⟨later, hcalls, hfirst, -⟩
  · -- nothing can be given up yet
    have ht : (t.lifecycle key).completion = .unissued := by
      rcases hrecords.keeps with ht | ht <;> rw [ht, hlife] <;> rfl
    have hnot : ¬ (released ∨ GivesUp key l t) := by
      rintro (hreleased | ⟨-, hdropped, -⟩)
      · exact h.not_released (by simp [hlife, Lifecycle.start]) hreleased
      · simp [ht] at hdropped
    refine ⟨hsound, halone, h.count, fun hr => absurd hr hnot, fun _ => ?_, absurd hcalls⟩
    rcases hrecords.events_cases h.alone with ⟨hevents, -⟩ | ⟨-, hstops, -⟩
    · exact hevents.trans (h.silent hcalls)
    · simp [hlife, Lifecycle.start, Lifecycle.stopsOnRelease] at hstops
  · have hasked : l.calls ≠ [] := by simp [hcalls]
    have hwritten := h.written hasked
    have hgone : released → (t.lifecycle key).completion = .dropped := by
      intro hreleased
      rcases hrecords.keeps with ht | ht
      · rw [ht, h.gone hreleased]
      · rw [ht, Lifecycle.release, if_neg (by simp [h.gone hreleased]), h.gone hreleased]
    refine ⟨hsound, halone, h.count, fun hr => hr.elim hgone fun hg => hg.2.1,
      fun hnil => absurd hnil hasked, fun _ => ?_⟩
    have hevents := hrecords.events_cases h.alone
    rw [← givesUp_iff hcalls hfirst t] at hevents
    rcases hevents with ⟨hevents, hnot⟩ | ⟨hevents, hgives⟩
    · rw [show (released ∨ GivesUp key l t) ↔ released from or_iff_left hnot, hevents]
      exact hwritten
    · have hnot : ¬ released := h.not_released hgives.1
      have hopen := finalEvents_of_not_resolved hgives.2.2 key.id
      rw [hopen] at hwritten ⊢
      rw [show (released ∨ GivesUp key l t) ↔ True from iff_true_intro (.inr hgives), hevents]
      exact hwritten.release hnot

lemma same (h : Chronicle key asked released l) :
    Chronicle key asked (released ∨ GivesUp key l l.stage) l :=
  h.of_records (Records.coarse.refl l.stage)

/-- Nothing is reported of what becomes of a pending outcome short of the outcome. -/
lemma of_calls (h : Chronicle key asked released l) (hsound : l'.Sound key)
    (hstage : l'.stage = l.stage) (hcount : l'.calls.length = l.calls.length)
    (hfinal : finalEvents key.id l'.calls.head? = finalEvents key.id l.calls.head?) :
    Chronicle key asked released l' := by
  have hnil : l'.calls = [] ↔ l.calls = [] := by
    rw [← List.length_eq_zero_iff, ← List.length_eq_zero_iff, hcount]
  refine ⟨hsound, hstage ▸ h.alone, hcount.trans h.count, hstage ▸ h.gone, fun hcalls => ?_,
    fun hcalls => ?_⟩
  · rw [hstage]
    exact h.silent (hnil.1 hcalls)
  · rw [hstage, hfinal]
    exact h.written (hcalls ∘ hnil.2)

/-- The first call comes to its outcome. -/
lemma conclude (h : Chronicle key asked released l) (hopen : ¬ l.Resolved) (o : Outcome Yield)
    (hcalls : l.calls ≠ []) (hsound : l'.Sound key) (hstage : l'.stage = (l.stage.conclude key o).2)
    (hcount : l'.calls.length = l.calls.length)
    (hfirst : l'.calls.head? = some (.resolved (stopAnswer key o))) :
    Chronicle key asked released l' := by
  have hcompletion : ((l.stage.conclude key o).2.lifecycle key).completion =
      (l.stage.lifecycle key).completion := by
    rw [lifecycle_conclude]
    rfl
  have hevents : eventsOf key.id (l.stage.conclude key o).2.log =
      eventsOf key.id l.stage.log ++ finalEvents key.id l'.calls.head? := by
    rw [hfirst]
    cases o with
    | error e => exact eventsOf_report (e := .stoppedWithFailure key.id e) rfl _
    | ok y => exact eventsOf_report (e := .stopped key.id) rfl _
  have hwritten := h.written hcalls
  rw [finalEvents_of_not_resolved hopen] at hwritten
  refine ⟨hsound, ?_, hcount.trans h.count, ?_, fun hnil => ?_, fun _ => ?_⟩
  · intro other hother hid
    rw [hstage]
    refine Eq.trans ?_ (h.alone other hother hid)
    cases o <;> exact Table.get_set_of_ne _ hother _
  · rw [hstage, hcompletion]
    exact h.gone
  · simp [hnil] at hfirst
  · rw [hstage, hevents, hfirst]
    exact hwritten.conclude _

/-- The first request to stop, before the control is told. -/
lemma ask (h : Chronicle key asked released l) (hcalls : l.calls = []) {own : Handle W}
    (hfirst : First key own (l.stage.asked key)) (hown : ∀ o, own ≠ .resolved o) :
    Chronicle key 1 False
      { stage := l.stage.asked key, calls := [answered key own], own := own } := by
  refine ⟨.asked [] rfl hfirst (by simp), fun other hother hid => ?_, rfl, False.elim,
    fun hnil => absurd hnil (by simp), fun _ => ?_⟩
  · exact (Table.get_set_of_ne _ hother _).trans (h.alone other hother hid)
  · have hevents : eventsOf key.id (l.stage.asked key).log = [.stopping key.id] := by
      refine (eventsOf_report (e := .stopping key.id) rfl _).trans ?_
      exact congrArg (· ++ [.stopping key.id]) (h.silent hcalls)
    have hfinal : finalEvents key.id (some (answered key own)) = [] := by
      cases own with
      | held p => rfl
      | resolved o => exact absurd rfl (hown o)
      | gone => rfl
    rw [List.head?_cons, hfinal, hevents]
    exact written_stopping key.id

lemma life_of_fresh (h : Chronicle key asked released l) (hcalls : l.calls = []) :
    l.stage.lifecycle key = .start := by
  rcases h.sound with ⟨-, hlife⟩ | ⟨later, hlater, -, -⟩
  · exact hlife
  · simp [hcalls] at hlater

variable [Task W] (c : Stopper W key)

/-- A request to stop. -/
lemma stop (h : Chronicle key asked released l) (htell : ∀ s, Records key s (c.tell s).2) :
    Chronicle key (asked + 1) (released ∨ GivesUp key l (c.step l .stop).stage)
      (c.step l .stop) := by
  by_cases hcalls : l.calls = []
  · obtain rfl : 0 = asked := by rw [← h.count, hcalls]; rfl
    have hlife : l.stage.lifecycle key = .start := h.life_of_fresh hcalls
    have hnot : ¬ released := h.not_released (by simp [hlife, Lifecycle.start])
    have hfirst : First key (.held (c.tell (l.stage.asked key)).1) (l.stage.asked key) :=
      ⟨c.within _, by simp [lifecycle_asked, Lifecycle.Asked], by simp [lifecycle_asked]⟩
    rw [h.sound.first_request c hcalls]
    refine ((h.ask hcalls hfirst (by simp)).of_records (htell (l.stage.asked key))).congr ?_
    -- the request has issued the completion, and nothing was given up before
    simp [GivesUp, Life.Resolved, answered, lifecycle_asked, hcalls, hlife, hnot, Lifecycle.start]
  · have hsound := (h.sound.step c .stop).1
    rw [h.sound.later_request c hcalls] at hsound ⊢
    obtain ⟨first, later, hlater⟩ := List.exists_cons_of_ne_nil hcalls
    have hkept : Chronicle key asked (released ∨ GivesUp key l l.stage) l := h.same
    have hasked : asked + 1 - 1 = asked - 1 + 1 := by
      have hcount := h.count
      rw [hlater, List.length_cons] at hcount
      omega
    refine ⟨hsound, h.alone, by simp [h.count], hkept.gone, fun hnil => ?_, fun _ => ?_⟩
    · simp at hnil
    · have hhead : ∀ refused : Handle W, (l.calls ++ [refused]).head? = l.calls.head? := by
        intro refused
        rw [hlater]
        rfl
      rw [hasked, eventsOf_report rfl, hhead]
      exact (hkept.written hcalls).refuse

end Chronicle

/-! ### A call is touched -/

lemma length_touch (f : Handle W → Stage W → Handle W × Stage W) (call : Nat) (l : Life W) :
    (l.touch f call).calls.length = l.calls.length := by
  unfold Life.touch
  split
  · rfl
  · exact List.length_set

/-- A way to touch a call does nothing for one that was refused. The first call it touches as it
touches the control's own pending outcome, which may then be the outcome of the call. -/
structure Touches (key : InstanceKey) (f : Handle W → Stage W → Handle W × Stage W) : Prop where
  refused : ∀ h s, Refused key h → (f h s).2 = s
  first : ∀ own s,
    ((f (answered key own) s).2 = (f own s).2 ∧
      finalEvents key.id (some (f (answered key own) s).1) =
        finalEvents key.id (some (answered key own))) ∨
    ((∀ o, own ≠ .resolved o) ∧
      ∃ o, f (answered key own) s =
        (.resolved (stopAnswer key o), ((f own s).2.conclude key o).2))

/-- What touching a call does to the stage. -/
lemma Life.Sound.touch_cases {l : Life W} (h : l.Sound key)
    {f : Handle W → Stage W → Handle W × Stage W} (hf : Touches key f) (call : Nat) :
    ((l.touch f call).stage = l.stage ∧ (l.touch f call).calls.head? = l.calls.head?) ∨
    ((l.touch f call).stage = (f l.own l.stage).2 ∧
      finalEvents key.id (l.touch f call).calls.head? = finalEvents key.id l.calls.head?) ∨
    (¬ l.Resolved ∧ l.calls ≠ [] ∧
      ∃ o, (l.touch f call).stage = ((f l.own l.stage).2.conclude key o).2 ∧
        (l.touch f call).calls.head? = some (.resolved (stopAnswer key o))) := by
  unfold Life.touch
  cases hcall : l.calls[call]? with
  | none => exact .inl ⟨rfl, rfl⟩
  | some handle =>
    rcases h with ⟨hcalls, -⟩ | ⟨later, hcalls, hfirst, hrefused⟩
    · simp [hcalls] at hcall
    · cases call with
      | zero =>
        obtain rfl : answered key l.own = handle := by simpa [hcalls] using hcall
        have hhead : ∀ h' : Handle W, (l.calls.set 0 h').head? = some h' := by
          intro h'
          rw [hcalls]
          rfl
        rcases hf.first l.own l.stage with ⟨hstage, hfinal⟩ | ⟨hopen, o, ho⟩
        · refine .inr (.inl ⟨hstage, ?_⟩)
          rw [hhead, hfinal, hcalls, List.head?_cons]
        · refine .inr (.inr ⟨?_, by simp [hcalls], o, congrArg (·.2) ho,
            (hhead _).trans (congrArg (fun r => some r.1) ho)⟩)
          rw [Life.resolved_iff hcalls]
          rintro ⟨o', ho'⟩
          exact hopen o' ho'
      | succ n =>
        have hmem : handle ∈ later := List.mem_of_getElem? (by simpa [hcalls] using hcall)
        refine .inl ⟨hf.refused handle l.stage (hrefused handle hmem), ?_⟩
        rw [hcalls]
        rfl

lemma Chronicle.touch {l : Life W} {asked : Nat} (h : Chronicle key asked released l)
    {f : Handle W → Stage W → Handle W × Stage W} (hf : Touches key f) {call : Nat}
    (hsound : (l.touch f call).Sound key) (hrecords : Records key l.stage (f l.own l.stage).2) :
    Chronicle key asked (released ∨ GivesUp key l (l.touch f call).stage) (l.touch f call) := by
  have hcount := length_touch f call l
  rcases h.sound.touch_cases hf call with ⟨hstage, hhead⟩ | ⟨hstage, hfinal⟩ |
    ⟨hopen, hcalls, o, hstage, hhead⟩
  · rw [hstage]
    exact h.same.of_calls hsound hstage hcount (by rw [hhead])
  · rw [hstage]
    exact (h.of_records hrecords).of_calls hsound hstage hcount hfinal
  · -- the outcome of the stop comes after all that the control did
    have hsame : ∀ t : Stage W, GivesUp key l (t.conclude key o).2 ↔ GivesUp key l t := by
      intro t
      unfold GivesUp
      rw [lifecycle_conclude]
      exact Iff.rfl
    rw [hstage, hsame]
    exact (h.of_records hrecords).conclude hopen o hcalls hsound hstage hcount hhead

section

variable [Task W]

lemma touches_poll : Touches (W := W) key Handle.poll where
  refused h s hh := (hh.poll s).2
  first own s := by
    cases own with
    | held p =>
      rw [poll_answered, Handle.poll_held]
      rcases p.poll s with ⟨_ | o | _, rest, s'⟩
      · exact .inl ⟨rfl, rfl⟩
      · exact .inr ⟨by simp, o, rfl⟩
      · exact .inl ⟨rfl, rfl⟩
    | resolved o => exact .inl ⟨rfl, rfl⟩
    | gone => exact .inl ⟨rfl, rfl⟩

lemma touches_drop : Touches (W := W) key Handle.drop where
  refused h s hh := (hh.drop s).2
  first own s := by
    cases own with
    | held p => exact .inl ⟨rfl, rfl⟩
    | resolved o => exact .inl ⟨rfl, rfl⟩
    | gone => exact .inl ⟨rfl, rfl⟩

end

end Session

end ServiceBootstrap
