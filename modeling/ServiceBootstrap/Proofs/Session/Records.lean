import ServiceBootstrap.Proofs.Session.Keeps
import ServiceBootstrap.Proofs.Session.Share

/-!
What the log says of an instance while nobody calls its stop: when its completion was given up, if
this was what stopped it, and nothing else.

Events carry the identifier of an instance only. So this needs that no other instance of the same
identifier was ever asked to stop, which nobody but the callers of its stop can change either.
-/

namespace ServiceBootstrap

lemma Lifecycle.stopsOnRelease_release (l : Lifecycle) : l.release.stopsOnRelease = false := by
  unfold release
  split
  · rfl
  · next h => simp [stopsOnRelease, h]

namespace Pending

variable {σ W V : Type} {R R' : σ → σ → Prop}

lemma Within.mono (hR : ∀ {s t}, R s t → R' s t) {p : Pending σ W V} (h : p.Within R) :
    p.Within R' := by
  induction p with
  | ready slot => trivial
  | work w => trivial
  | settle below finish discard ih =>
    exact ⟨ih h.1, fun o s => hR (h.2.1 o s), fun s => hR (h.2.2 s)⟩
  | chain below next effect discard ih ihnext =>
    exact ⟨ih h.1, fun v s => ihnext v s (h.2.1 v s), fun v s => hR (h.2.2.1 v s),
      fun s => hR (h.2.2.2 s)⟩

end Pending

namespace Session

variable {W : Type} {key : InstanceKey}

lemma Task.Within.mono [Task W] {R R' : Stage W → Stage W → Prop}
    (hR : ∀ {s t}, R s t → R' s t) (h : Task.Within W R) : Task.Within W R' where
  advance task? w s := hR (h.advance task? w s)
  abandon w s := hR (h.abandon w s)

/-- Nobody else who carries the identifier of an instance was asked to stop. -/
def Alone (key : InstanceKey) (s : Stage W) : Prop :=
  ∀ other, other ≠ key → other.id = key.id → s.lifecycle other = .start

/-- What is reported when the completion of an instance is given up. -/
def releaseEvents (key : InstanceKey) (l : Lifecycle) : List Event :=
  if l.stopsOnRelease then [.released key.id] else []

/-- The life of an instance is as it was, and nothing was reported; or its completion was given up,
and nothing else was reported. -/
def Records (key : InstanceKey) (s t : Stage W) : Prop :=
  (t.lifecycle key = s.lifecycle key ∧ (Alone key s → Alone key t ∧
    eventsOf key.id t.log = eventsOf key.id s.log)) ∨
  (t.lifecycle key = (s.lifecycle key).release ∧ (Alone key s → Alone key t ∧
    eventsOf key.id t.log =
      eventsOf key.id s.log ++ releaseEvents key (s.lifecycle key)))

lemma Records.of_events {s t : Stage W} (hlife : t.lifecycles = s.lifecycles)
    (hevents : eventsOf key.id t.log = eventsOf key.id s.log) : Records key s t :=
  .inl ⟨congrArg (·.get key) hlife, fun h =>
    ⟨fun other hother hid => (congrArg (·.get other) hlife).trans (h other hother hid), hevents⟩⟩

lemma Records.retire (r : Scheduler) (s : Stage W) : Records key s (s.retire r) := by
  cases r <;> exact .of_events rfl rfl

lemma Records.coarse : Coarse (Records (W := W) key) where
  same hlife hlog _ _ := .of_events hlife (by rw [hlog])
  trans {s t u} hst htu := by
    rcases hst with ⟨hlife, hlog⟩ | ⟨hlife, hlog⟩ <;>
      rcases htu with ⟨hlife', hlog'⟩ | ⟨hlife', hlog'⟩
    · refine .inl ⟨hlife'.trans hlife, fun hs => ?_⟩
      obtain ⟨ht, hevents⟩ := hlog hs
      obtain ⟨hu, hevents'⟩ := hlog' ht
      exact ⟨hu, hevents'.trans hevents⟩
    · refine .inr ⟨hlife'.trans (by rw [hlife]), fun hs => ?_⟩
      obtain ⟨ht, hevents⟩ := hlog hs
      obtain ⟨hu, hevents'⟩ := hlog' ht
      exact ⟨hu, by rw [hevents', hevents, hlife]⟩
    · refine .inr ⟨hlife'.trans hlife, fun hs => ?_⟩
      obtain ⟨ht, hevents⟩ := hlog hs
      obtain ⟨hu, hevents'⟩ := hlog' ht
      exact ⟨hu, hevents'.trans hevents⟩
    · -- what was given up is given up only once
      refine .inr ⟨by rw [hlife', hlife, Lifecycle.release_release], fun hs => ?_⟩
      obtain ⟨ht, hevents⟩ := hlog hs
      obtain ⟨hu, hevents'⟩ := hlog' ht
      have hnothing : releaseEvents key (s.lifecycle key).release = [] := by
        simp [releaseEvents, Lifecycle.stopsOnRelease_release]
      exact ⟨hu, by rw [hevents', hevents, hlife, hnothing, List.append_nil]⟩

lemma Records.keeps {s t : Stage W} (h : Records key s t) : Keeps key s t :=
  h.imp And.left And.left

lemma Records.say (n : Note) (s : Stage W) : Records key s (s.say n) :=
  .of_events rfl ((eventsOf_append _ _ _).trans (List.append_nil _))

lemma eventsOf_report {id : InstanceId} {e : Event} (h : e.instance? = some id) (s : Stage W) :
    eventsOf id (s.report e).log = eventsOf id s.log ++ [e] := by
  refine (eventsOf_append _ _ _).trans ?_
  simp [eventsOf, h]

lemma Records.report {e : Event} (h : e.instance? ≠ some key.id) (s : Stage W) :
    Records key s (s.report e) := by
  refine .of_events rfl ((eventsOf_append _ _ _).trans ?_)
  rw [eventsOf_event_of_ne h, List.append_nil]

lemma log_release (key : InstanceKey) (s : Stage W) :
    (s.release key).log = s.log ++ (releaseEvents key (s.lifecycle key)).map .event := by
  simp only [Stage.release, releaseEvents]
  split <;> simp

lemma eventsOf_releaseEvents (key : InstanceKey) (l : Lifecycle) :
    eventsOf key.id ((releaseEvents key l).map .event) = releaseEvents key l := by
  unfold releaseEvents
  split <;> simp [eventsOf, Event.instance?]

lemma eventsOf_releaseEvents_of_ne {other : InstanceKey} (h : other.id ≠ key.id) (l : Lifecycle) :
    eventsOf key.id ((releaseEvents other l).map .event) = [] := by
  unfold releaseEvents
  split <;> simp [eventsOf, Event.instance?, h]

lemma Records.release (other : InstanceKey) (s : Stage W) : Records key s (s.release other) := by
  have hothers : Alone key s → Alone key (s.release other) := by
    intro hs third hthird hid
    by_cases h : third = other
    · subst h
      exact (Table.get_set_self _ _ _).trans (by rw [hs third hthird hid]; rfl)
    · exact (Table.get_set_of_ne _ h _).trans (hs third hthird hid)
  by_cases h : key = other
  · subst h
    refine .inr ⟨Table.get_set_self _ _ _, fun hs => ⟨hothers hs, ?_⟩⟩
    rw [log_release, eventsOf_append, eventsOf_releaseEvents]
  · refine .inl ⟨Table.get_set_of_ne _ h _, fun hs => ⟨hothers hs, ?_⟩⟩
    -- the other has another identifier, or else has never been asked
    rw [log_release, eventsOf_append]
    by_cases hid : other.id = key.id
    · rw [hs other (Ne.symm h) hid]
      exact List.append_nil _
    · rw [eventsOf_releaseEvents_of_ne hid, List.append_nil]

section

variable {other : InstanceKey} (h : other.id ≠ key.id)

include h

/-- The life of an instance with another identifier is another's. -/
lemma Records.setLifecycle (l : Lifecycle) (s : Stage W) :
    Records key s (s.setLifecycle other l) := by
  have hne : ∀ third : InstanceKey, third.id = key.id → third ≠ other := by
    rintro third hid rfl
    exact h hid
  refine .inl ⟨Table.get_set_of_ne _ (hne key rfl) _, fun hs => ⟨?_, rfl⟩⟩
  intro third hthird hid
  exact (Table.get_set_of_ne _ (hne third hid) _).trans (hs third hthird hid)

lemma Records.conclude (o : Outcome Yield) (s : Stage W) :
    Records key s (s.conclude other o).2 := by
  have hlife := Records.setLifecycle h (s.lifecycle other).conclude s
  have hevent : some other.id ≠ some key.id := fun hid => h (Option.some.inj hid)
  cases o with
  | error e =>
    exact Records.coarse.trans hlife (.report (e := .stoppedWithFailure other.id e) hevent _)
  | ok y => exact Records.coarse.trans hlife (.report (e := .stopped other.id) hevent _)

lemma Records.requestStop {tell : Stage W → Pending W × Stage W}
    (htell : ∀ s, Records key s (tell s).2) (s : Stage W) :
    Records key s (s.requestStop other tell).2 := by
  have hevent : some other.id ≠ some key.id := fun hid => h (Option.some.inj hid)
  unfold Stage.requestStop
  split
  · exact .report (e := .stopRefused other.id) hevent s
  · next l _ =>
    have hlife := Records.setLifecycle h l s
    have hasked := Records.coarse.trans hlife (.report (e := .stopping other.id) hevent _)
    exact Records.coarse.trans hasked (htell _)

end

lemma Script.records : Task.Within Script (Records key) :=
  Script.within Records.coarse Records.say Records.release

end Session

end ServiceBootstrap
