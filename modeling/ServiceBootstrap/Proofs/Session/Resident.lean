import ServiceBootstrap.Proofs.Session.Share
import ServiceBootstrap.Proofs.Session.Spawned

/-!
Instances that keep to their share of a stage.

If all work on the lines of a share is done in the share, so are the steps of the scheduler on these
lines, every poll of a pending outcome that waits for such lines and work only, and every request to
stop whose control keeps to the share. The controls of a session do.
-/

namespace ServiceBootstrap

/-- What is left of work that was advanced. -/
def Progress.Leaves {W V : Type} (P : W → Prop) : Progress W V → Prop
  | waiting w | broken w => P w
  | finished _ => True

namespace Session

variable {W : Type} {a : Share W} {line : Line}

/-- How a poll ends and what is left, and the stage. -/
def polled [Task W] (p : Pending W) (s : Stage W) :
    (ServiceBootstrap.Pending.Upshot Yield × Pending W) × Stage W :=
  (((p.poll s).upshot, (p.poll s).rest), (p.poll s).surroundings)

lemma polled_future [Task W] (w : W) (s : Stage W) :
    polled (Pending.future w) s =
      let s' := (Task.advance none w s).2
      match (Task.advance none w s).1 with
      | .waiting w' => ((.waiting, .future w'), s')
      | .finished o => ((.outcome o, .ready none), s')
      | .broken w' => ((.broken, .ready none), Task.abandon w' s') := by
  unfold polled
  rw [poll_future]
  rcases Task.advance none w s with ⟨_ | _ | _, s'⟩ <;> rfl

lemma polled_settle [Task W] (below : Pending W)
    (finish : Outcome Yield → Stage W → Outcome Yield × Stage W) (discard : Stage W → Stage W)
    (s : Stage W) :
    polled (.settle below finish discard) s =
      let s' := (polled below s).2
      match (polled below s).1 with
      | (.waiting, rest) => ((.waiting, .settle rest finish discard), s')
      | (.outcome o, _) => ((.outcome (finish o s').1, .ready none), (finish o s').2)
      | (.broken, _) => ((.broken, .ready none), discard s') := by
  unfold polled
  rw [ServiceBootstrap.Pending.poll]
  rcases below.poll s with ⟨_ | o | _, rest, s'⟩ <;> rfl

lemma polled_chain [Task W] (below : Pending W) (next : Yield → Stage W → Pending W)
    (effect : Yield → Stage W → Stage W) (discard : Stage W → Stage W) (s : Stage W) :
    polled (.chain below next effect discard) s =
      let s' := (polled below s).2
      match (polled below s).1 with
      | (.waiting, rest) => ((.waiting, .chain rest next effect discard), s')
      | (.outcome (.ok v), _) => polled (next v s') (effect v s')
      | (.outcome (.error e), _) => ((.outcome (.error e), .ready none), discard s')
      | (.broken, _) => ((.broken, .ready none), discard s') := by
  unfold polled
  rw [ServiceBootstrap.Pending.poll]
  rcases below.poll s with ⟨_ | (e | v) | _, rest, s'⟩ <;> rfl

lemma handle_poll [Task W] (p : Pending W) (s : Stage W) :
    (Handle.held p : Handle W).poll s =
      match (polled p s).1 with
      | (.waiting, rest) => (.held rest, (polled p s).2)
      | (.outcome o, _) => (.resolved o, (polled p s).2)
      | (.broken, _) => (.gone, (polled p s).2) := by
  unfold polled
  rw [Handle.poll_held]
  rcases p.poll s with ⟨_ | o | _, rest, s'⟩ <;> rfl

namespace Share

/-! ### Pending outcomes -/

/-- A pending outcome waits for nothing outside the share, and its layers keep to it. -/
def Holds (a : Share W) : Pending W → Prop
  | .ready _ => True
  | .work (.line line) => a.lines line
  | .work (.work w) => a.works w
  | .settle below finish discard =>
    Holds a below ∧ (∀ o, a.Local (fun _ => True) (finish o)) ∧ a.Acts discard
  | .chain below next effect discard =>
    Holds a below ∧ (∀ v s, a.Sound s → Holds a (next v s)) ∧
      (∀ v, a.Local (fun _ => True) fun s => (next v s, effect v s)) ∧ a.Acts discard

/-! ### Stopping -/

lemma local_conclude (o : Outcome Yield) : a.Local (fun _ => True) (Stage.conclude a.key o) := by
  have hconcluded : a.Acts fun s : Stage W => s.setLifecycle a.key (s.lifecycle a.key).conclude :=
    local_lifecycle.andThen fun l _ => acts_setLifecycle l.conclude
  cases o with
  | ok y => exact (hconcluded.comp (acts_report (e := .stopped a.key.id) rfl)).gives trivial
  | error e =>
    exact (hconcluded.comp (acts_report (e := .stoppedWithFailure a.key.id e) rfl)).gives trivial

lemma local_requestStop {tell : Stage W → Pending W × Stage W} (htell : a.Local a.Holds tell) :
    a.Local a.Holds (Stage.requestStop a.key tell) := by
  refine local_lifecycle.split fun l _ => ?_
  cases hrequest : l.request? with
  | none =>
    have hrefused : a.Local a.Holds fun s : Stage W =>
        (.failed (.alreadyStopped a.key.id), s.report (.stopRefused a.key.id)) :=
      (acts_report rfl).gives trivial
    exact ⟨_, hrefused, fun s hs => by rw [Stage.requestStop, hs, hrequest]⟩
  | some asked =>
    have hasked : a.Acts fun s : Stage W =>
        (s.setLifecycle a.key asked).report (.stopping a.key.id) :=
      (acts_setLifecycle asked).comp (acts_report rfl)
    have hwaits : ∀ p, a.Holds p → a.Holds (.settle p (Stage.conclude a.key) id) := fun p hp =>
      ⟨hp, local_conclude, .id⟩
    exact ⟨_, (hasked.before htell).map hwaits, fun s hs => by rw [Stage.requestStop, hs, hrequest]⟩

/-! ### The scheduler -/

lemma acts_setTask (hline : a.lines line) {task? : Option W}
    (htask : ∀ w, task? = some w → a.works w) :
    a.Acts fun s => { s with tasks := s.tasks.set line task? } :=
  .of (fun h => { h with
      work := fun other w hother =>
        Table.get_set_of (P := (· = some w → a.works w)) (htask w) (h.work other w hother) })
    (fun {s} _ => { Agree.refl a.rest s with
      task := fun _ hother => Table.get_set_of_ne _ (ne_of_rest hline hother) _ })
    fun _ h => { h with task := fun other hother => Table.get_set_congr (h.task other hother) }

lemma acts_record (hline : a.lines line) :
    a.Acts fun s => { s with spawned := s.spawned ++ [line] } := by
  refine .of (fun h => ⟨h.waiter, h.work, h.completion, h.native⟩) (fun {s} _ => ?_)
    fun {s t p} _ h => ?_
  · exact { Agree.refl a.rest s with spawned := filter_rest hline s.spawned }
  · exact { h with spawned := filter_append_eq h.spawned [line] }

lemma acts_endTask (hline : a.lines line) {l : LineState}
    (hl : ∀ task, l = .silent (some task) → a.lines task) : a.Acts (Stage.endTask line l) :=
  (acts_setTask hline (by simp)).comp (local_endSilence hline hl).acts

variable [Task W]

/-- All work that can be on the lines of a share is done in the share. -/
structure Employs (a : Share W) : Prop where
  advance : ∀ {task? : Option Line} {w : W}, (∀ task, task? = some task → a.lines task) →
    a.works w → a.Local (Progress.Leaves a.works) (Task.advance task? w)
  abandon : ∀ {w : W}, a.works w → a.Acts (Task.abandon w)

variable (hwork : a.Employs)

include hwork

lemma acts_giveUpTask (hline : a.lines line) {w : W} (hw : a.works w) :
    a.Acts (Stage.giveUpTask line w) :=
  (hwork.abandon hw).comp (acts_endTask hline nofun)

lemma acts_settleTask (hline : a.lines line) {p : Progress W Yield} (hp : p.Leaves a.works) :
    a.Acts (Stage.settleTask line p) := by
  cases p with
  | waiting w => exact acts_setTask hline fun w' h => Option.some.inj h ▸ hp
  | finished o => exact acts_endTask hline (by simp)
  | broken w => exact acts_giveUpTask hwork hline hp

lemma acts_advanceTask (hline : a.lines line) {w : W} (hw : a.works w) :
    a.Acts (Stage.advanceTask line w) :=
  (hwork.advance (fun _ h => Option.some.inj h ▸ hline) hw).andThen fun _ hp =>
    acts_settleTask hwork hline hp

omit [Task W] hwork in
lemma acts_onTask (hline : a.lines line) {act : Line → W → Stage W → Stage W}
    (hact : ∀ w, a.works w → a.Acts (act line w)) : a.Acts fun s => s.onTask act line := by
  have hlook : a.Local (fun task? => ∀ w, task? = some w → a.works w)
      fun s => (s.tasks.get line, s) :=
    .look (fun h w => h.work line w hline) fun hp h => h.task line (hp.lines hline)
  refine hlook.splitActs fun task? htask => ?_
  cases task? with
  | none => exact ⟨_, .id, fun s hs => by rw [Stage.onTask, hs]⟩
  | some w => exact ⟨_, hact w (htask w rfl), fun s hs => by rw [Stage.onTask, hs]⟩

lemma acts_runTask (hline : a.lines line) : a.Acts fun s => s.runTask line :=
  acts_onTask hline fun _ hw => acts_advanceTask hwork hline hw

lemma acts_dropTask (hline : a.lines line) : a.Acts fun s => s.dropTask line :=
  acts_onTask hline fun _ hw => acts_giveUpTask hwork hline hw

lemma local_spawn (hline : a.lines line) {w : W} (hw : a.works w) :
    a.Local a.Holds (Pending.spawn line w) := by
  suffices hspawn : a.Acts (Stage.spawn line w) from
    ((acts_setLine hline (by simp)).comp hspawn).gives hline
  have hlook : a.Local (fun _ => True) fun s => (s.runs line.scheduler, s) :=
    .look (fun _ => trivial) fun _ h => h.runs line.scheduler
  refine hlook.splitActs fun alive _ => ?_
  cases alive with
  | true =>
    have htask : a.Acts fun s => { s with tasks := s.tasks.set line (some w) } :=
      acts_setTask hline fun w' h => Option.some.inj h ▸ hw
    have hwoken : a.Acts (Stage.wake (some line)) := acts_wake fun _ h => Option.some.inj h ▸ hline
    exact ⟨_, (htask.comp (acts_record hline)).comp hwoken, fun s hs => if_pos hs⟩
  | false =>
    have hlate := (hwork.abandon hw).comp (acts_closeLine hline)
    exact ⟨_, hlate, fun s hs => if_neg (Bool.not_eq_true _ ▸ hs)⟩

/-! ### Polls -/

omit [Task W] hwork in
lemma local_ended (o : Outcome Yield) :
    a.Local (fun r : ServiceBootstrap.Pending.Upshot Yield × Pending W => a.Holds r.2)
      fun s => ((.outcome o, .ready none), s) := .pure trivial

omit hwork in
lemma local_polled_line (hline : a.lines line) :
    a.Local (fun r => a.Holds r.2) (polled (Pending.receive line : Pending W)) := by
  refine (local_line hline).split fun state _ => ?_
  cases state with
  | silent waiter? =>
    refine ⟨fun s => ((.waiting, .receive line), s.setLine line (.silent none)), ?_, fun s hs => ?_⟩
    · exact (acts_setLine hline (by simp)).gives hline
    · rw [polled, poll_receive, hs]
  | sent o =>
    refine ⟨fun s => ((.outcome o, .ready none), s.hangUp line), ?_, fun s hs => ?_⟩
    · exact (acts_hangUp hline).gives trivial
    · rw [polled, poll_receive, hs]
  | closed =>
    exact ⟨_, local_ended (.error .abandoned), fun s hs => by rw [polled, poll_receive, hs]⟩
  | deaf =>
    exact ⟨_, local_ended (.error .abandoned), fun s hs => by rw [polled, poll_receive, hs]⟩

lemma local_polled_work {w : W} (hw : a.works w) :
    a.Local (fun r => a.Holds r.2) (polled (Pending.future w)) := by
  have hadvance : a.Local (Progress.Leaves a.works) (Task.advance none w) :=
    hwork.advance (by simp) hw
  refine hadvance.cases fun progress hprogress => ?_
  cases progress with
  | waiting w' =>
    refine ⟨fun s => ((.waiting, .future w'), s), .pure hprogress, fun s hs => ?_⟩
    rw [polled_future, hs]
  | finished o => exact ⟨_, local_ended o, fun s hs => by rw [polled_future, hs]⟩
  | broken w' =>
    refine ⟨fun s => ((.broken, .ready none), Task.abandon w' s), ?_, fun s hs => ?_⟩
    · exact (hwork.abandon hprogress).gives trivial
    · rw [polled_future, hs]

lemma local_polled {p : Pending W} (hp : a.Holds p) :
    a.Local (fun r => a.Holds r.2) (polled p) := by
  induction p with
  | ready slot =>
    cases slot with
    | none => exact local_ended (.error .abandoned)
    | some o => exact local_ended o
  | work w =>
    cases w with
    | line line => exact local_polled_line hp
    | work w => exact local_polled_work hwork hp
  | settle below finish discard ih =>
    obtain ⟨hbelow, hfinish, hdiscard⟩ := hp
    refine (ih hbelow).cases fun r hrest => ?_
    obtain ⟨_ | o | _, rest⟩ := r
    · refine ⟨fun s => ((.waiting, .settle rest finish discard), s), ?_, fun s hs => ?_⟩
      · exact .pure ⟨hrest, hfinish, hdiscard⟩
      · rw [polled_settle, hs]
    · refine ⟨_, (hfinish o).bind fun o' _ => local_ended o', fun s hs => ?_⟩
      rw [polled_settle, hs]
    · refine ⟨fun s => ((.broken, .ready none), discard s), ?_, fun s hs => ?_⟩
      · exact hdiscard.gives trivial
      · rw [polled_settle, hs]
  | chain below next effect discard ih ihnext =>
    obtain ⟨hbelow, hnext, heffect, hdiscard⟩ := hp
    refine (ih hbelow).cases fun r hrest => ?_
    obtain ⟨_ | (e | v) | _, rest⟩ := r
    · refine ⟨fun s => ((.waiting, .chain rest next effect discard), s), ?_, fun s hs => ?_⟩
      · exact .pure ⟨hrest, hnext, heffect, hdiscard⟩
      · rw [polled_chain, hs]
    · refine ⟨fun s => ((.outcome (.error e), .ready none), discard s), ?_, fun s hs => ?_⟩
      · exact hdiscard.gives trivial
      · rw [polled_chain, hs]
    · -- the same poll goes on with what the continuation gave
      have hgiven : a.Local (fun q => ∃ s, a.Sound s ∧ q = next v s)
          fun s => (next v s, effect v s) :=
        { heffect v with gives := fun {s} hs => ⟨s, hs, rfl⟩ }
      refine ⟨fun s => polled (next v s) (effect v s), ?_, fun s hs => ?_⟩
      · refine hgiven.bind fun q hq => ?_
        obtain ⟨s, hs, rfl⟩ := hq
        exact ihnext v s (hnext v s hs)
      · rw [polled_chain, hs]
    · refine ⟨fun s => ((.broken, .ready none), discard s), ?_, fun s hs => ?_⟩
      · exact hdiscard.gives trivial
      · rw [polled_chain, hs]

lemma acts_abandon {p : Pending W} (hp : a.Holds p) : a.Acts p.abandon := by
  induction p with
  | ready slot => exact .id
  | work w =>
    cases w with
    | line line => exact acts_hangUp hp
    | work w => exact hwork.abandon hp
  | settle below finish discard ih => exact (ih hp.1).comp hp.2.2
  | chain below next effect discard ih => exact (ih hp.1).comp hp.2.2.2

/-- An owner keeps to the share. -/
def Covers (a : Share W) : Handle W → Prop
  | .held p => a.Holds p
  | .resolved _ | .gone => True

lemma local_poll {h : Handle W} (hh : a.Covers h) : a.Local a.Covers h.poll := by
  cases h with
  | held p =>
    refine (local_polled hwork hh).cases fun r hrest => ?_
    obtain ⟨_ | o | _, rest⟩ := r
    · exact ⟨fun s => (.held rest, s), .pure hrest, fun s hs => by rw [handle_poll, hs]⟩
    · exact ⟨fun s => (.resolved o, s), .pure trivial, fun s hs => by rw [handle_poll, hs]⟩
    · exact ⟨fun s => (.gone, s), .pure trivial, fun s hs => by rw [handle_poll, hs]⟩
  | resolved o => exact .pure trivial
  | gone => exact .pure trivial

lemma local_drop {h : Handle W} (hh : a.Covers h) : a.Local a.Covers h.drop := by
  cases h with
  | held p => exact (acts_abandon hwork hh).gives trivial
  | resolved o => exact .pure trivial
  | gone => exact .pure trivial

end Share

/-- An instance, and a control of any kind that keeps to the share of the instance. -/
structure Resident (W : Type) [Task W] extends Share W where
  configuration : Configuration
  native? : Option Value
  tell : Stage W → Pending W × Stage W
  employs : toShare.Employs
  tells : toShare.Local toShare.Holds tell

/-! ### The controls of a session -/

/-- A step of work is about an instance and some lines only. What comes of a listener that is opened
depends on all others. -/
def Cue.In (key : InstanceKey) (lines : Line → Bool) : Cue → Prop
  | receive work => lines (.hand work)
  | release other => other = key
  | note _ | pause | panic | close _ => True
  | openListener .. => False

lemma advance_receive (task? : Option Line) (work : Nat) (cues : List Cue) (o : Outcome Yield)
    (s : Stage Script) :
    advance task? (.receive work :: cues) o s =
      let s' := (s.receive task? (.hand work)).2
      match (s.receive task? (.hand work)).1 with
      | some received => advance task? cues received s'
      | none => (.waiting ⟨.receive work :: cues, o⟩, s') := by
  rw [Session.advance]
  rcases s.receive task? (.hand work) with ⟨_ | received, s'⟩ <;> rfl

namespace Share

variable {a : Share Script}

/-- Nobody but its own instance looks for a listener. -/
lemma acts_close (address : SocketAddress) :
    a.Acts fun s => { s with provider := s.provider.close address } :=
  .of (fun h => ⟨h.waiter, h.work, h.completion, h.native⟩)
    (fun {s} _ => { Agree.refl a.rest s with }) fun _ h => { h with }

lemma local_advance (hworks : ∀ w, a.works w ↔ ∀ cue ∈ w.cues, cue.In a.key a.lines)
    {task? : Option Line} (htask : ∀ task, task? = some task → a.lines task) {cues : List Cue}
    (hcues : ∀ cue ∈ cues, cue.In a.key a.lines) (o : Outcome Yield) :
    a.Local (Progress.Leaves a.works) (Session.advance task? cues o) := by
  induction cues generalizing o with
  | nil => exact .pure trivial
  | cons cue cues ih =>
    obtain ⟨hcue, hlater⟩ := List.forall_mem_cons.1 hcues
    have hrest : a.works ⟨cues, o⟩ := (hworks _).2 hlater
    cases cue with
    | note n => exact (acts_say n).before (ih hlater o)
    | release key =>
      obtain rfl : key = a.key := hcue
      exact acts_release.before (ih hlater o)
    | pause => exact (acts_wake htask).gives hrest
    | panic => exact .pure hrest
    | openListener key c => exact absurd hcue id
    | close address => exact (acts_close address).before (ih hlater o)
    | receive work =>
      refine (local_receive hcue htask).cases fun received? _ => ?_
      cases received? with
      | none =>
        have hwaits : a.works ⟨.receive work :: cues, o⟩ := (hworks _).2 hcues
        refine ⟨fun s => (.waiting ⟨.receive work :: cues, o⟩, s), .pure hwaits, fun s hs => ?_⟩
        rw [advance_receive, hs]
      | some received =>
        refine ⟨Session.advance task? cues received, ih hlater received, fun s hs => ?_⟩
        rw [advance_receive, hs]

lemma acts_cueAbandon {cue : Cue} (hcue : cue.In a.key a.lines) : a.Acts cue.abandon := by
  cases cue with
  | note n => exact .id
  | release key =>
    obtain rfl : key = a.key := hcue
    exact acts_release
  | pause => exact .id
  | panic => exact .id
  | openListener key c => exact .id
  | close address => exact .id
  | receive work => exact acts_hangUp hcue

/-- Scripts are done in a share if each of their steps is. -/
lemma employs_scripts (hworks : ∀ w, a.works w ↔ ∀ cue ∈ w.cues, cue.In a.key a.lines) :
    a.Employs where
  advance {task? w} htask hw := local_advance hworks htask ((hworks w).1 hw) w.outcome
  abandon {w} hw := by
    obtain ⟨cues, o⟩ := w
    have hcues : ∀ cue ∈ cues, cue.In a.key a.lines := (hworks _).1 hw
    clear hw
    induction cues with
    | nil => exact .id
    | cons cue cues ih =>
      obtain ⟨hcue, hlater⟩ := List.forall_mem_cons.1 hcues
      exact (acts_cueAbandon hcue).comp (ih hlater)

end Share

end Session

open Session

/-- What an instance has of a session: the lines on which its control or the network provider
answers, and for a manual control what is kept under its name. -/
def Instance.share (i : Instance) : Share Script where
  key := i.key
  lines line := line = .native i.key ∨ line = .report i.key
  native := by simp
  names name := i.control.kind = .manual ∧ name = i.control.name
  works w := ∀ cue ∈ w.cues, cue.In i.key fun line => line = .native i.key ∨ line = .report i.key

namespace Session

lemma employs_share (i : Instance) : i.share.Employs := Share.employs_scripts fun _ => Iff.rfl

/-- Every control of a session keeps to the share of its instance. -/
lemma local_control (i : Instance) :
    i.share.Local i.share.Holds (i.control.stop i.key) := by
  have hline : i.share.lines (.native i.key) := i.share.native
  have hreport : i.share.lines (.report i.key) := by simp [Instance.share]
  have hsay : i.share.Acts (Stage.say (.controlStop i.control.name)) := Share.acts_say _
  have hrelease : i.share.Acts (Stage.release i.key) := Share.acts_release (a := i.share)
  have hmanual : i.control.kind = .manual → i.share.Acts (Stage.keep i.control.name i.key) :=
    fun hkind => Share.acts_keep (a := i.share) ⟨hkind, rfl⟩
  unfold Control.stop
  cases hkind : i.control.kind with
  | immediate => exact (hsay.comp hrelease).gives trivial
  | lazy => exact hsay.gives (by simp [Share.Holds, Pending.future, Instance.share, Cue.In])
  | spawned =>
    have hwork : i.share.works
        ⟨[.release i.key, .note .controlWork], i.control.outcome.map .native⟩ := by
      simp [Instance.share, Cue.In]
    exact hsay.before (Share.local_spawn (employs_share i) hline hwork)
  | manual => exact (hsay.comp (hmanual hkind)).gives hline
  | listener address =>
    have hwork : i.share.works
        ⟨[.close address, .release i.key], i.control.outcome.map .native⟩ := by
      simp [Instance.share, Cue.In]
    exact Share.local_spawn (employs_share i) hreport hwork

/-- The instances of a session with the controls of a session. -/
def Resident.ofInstance (i : Instance) : Resident Script where
  toShare := i.share
  configuration := i.configuration
  native? := i.native?
  tell := i.control.stop i.key
  employs := employs_share i
  tells := local_control i

end Session

end ServiceBootstrap
