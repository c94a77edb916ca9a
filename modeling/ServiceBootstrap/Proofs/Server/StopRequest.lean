import ServiceBootstrap.Proofs.Server.Ledger

/-!
Requests to stop, and servers that nobody holds any more.

Letting go of the last holder closes the channel of the loop, and this can happen right behind a
request. The loop sees the request first. So it takes itself for deserted only if there was no
request, and then there is nobody left who could still make one.
-/

namespace ServiceBootstrap.Server

namespace Acceptor

variable {a : Acceptor} {signal : Signal}

/-- A loop leaves only on a request that it sees. -/
lemma not_hasLeft_step (hleft : ¬ a.HasLeft) (hsignal : signal.raised = false) (s : Step) :
    ¬ (a.step signal s).HasLeft := by
  cases s with
  | observe =>
    simp only [Acceptor.step, Signal.observe?, hsignal, Bool.false_eq_true, if_false]
    split_ifs <;> exact hleft
  | accept =>
    simp only [Acceptor.step]
    split_ifs <;> exact hleft
  | acceptFails =>
    simp only [Acceptor.step]
    split_ifs
    · rintro (hstand | hstand) <;> cases hstand
    · exact hleft
  | resume =>
    simp only [Acceptor.step]
    split_ifs
    · exact not_hasLeft_of_selecting rfl
    · exact hleft
  | finish place => exact hleft
  | reap place =>
    simp only [Acceptor.step]
    split_ifs <;> exact hleft
  | cutOff =>
    simp only [Acceptor.step]
    split_ifs with hleaving
    · exact absurd (.inl hleaving) hleft
    · exact hleft

/-- A loop becomes deserted only where its channel is closed without a request. -/
lemma detached_step (s : Step) (h : (a.step signal s).detached = true) :
    a.detached = true ∨ signal.raised = false ∧ signal.closed = true := by
  cases s with
  | observe =>
    simp only [Acceptor.step, Signal.observe?] at h
    cases hraised : signal.raised <;> cases hclosed : signal.closed <;>
      simp only [hraised, hclosed, if_true, if_false, Bool.false_eq_true] at h <;>
      split_ifs at h <;> simp_all [leave]
  | accept | acceptFails | resume | reap place | cutOff =>
    simp only [Acceptor.step] at h
    split_ifs at h <;> exact .inl h
  | finish place => exact .inl h

/-- A loop that sees a request leaves, and drops its listener in the same breath. -/
lemma observe_request (hstand : a.stand = .selecting) (hdetached : a.detached = false)
    (hsignal : signal.raised = true) : a.step signal .observe = a.leave := by
  simp [Acceptor.step, Signal.observe?, hstand, hdetached, hsignal]

end Acceptor

namespace Running

/-- Somebody who holds the server asks it to stop in the course of some steps. -/
def AskedIn (r : Running) : List Step → Prop
  | [] => False
  | s :: steps => s = .stop ∧ 0 < r.holders ∨ (r.step s).AskedIn steps

/-- How far a stop has come, with everything that goes with it. -/
inductive Stage (r : Running) : Prop where
  | unasked (lifecycle : r.lifecycle = .start) (signal : r.signal.raised = false)
      (work : r.work = .none) (request : r.request = .none) (stand : ¬ r.acceptor.HasLeft)
  /-- The work waits for the loop. -/
  | waiting (lifecycle : r.lifecycle = ⟨.stopping, .held, false⟩)
      (signal : r.signal.raised = true) (detached : r.acceptor.detached = false)
      (work : r.work = .waiting) (request : r.request = .pending ∨ r.request = .dropped)
  | done (report : ShutdownReport) (phase : r.lifecycle.phase = .stopped)
      (detached : r.acceptor.detached = false) (work : r.work = .done report)
      (stand : r.acceptor.stand = .ended) (served : report.served = r.acceptor.served)
      (aborted : report.aborted = r.acceptor.aborted)
      (request : r.request = .pending ∨ r.request = .dropped ∨ r.request = .resolved report)

/-- Writes down what a step of the server does to the connections. -/
def note (r : Running) (l : Ledger) : Step → Ledger
  | .acceptor s => l.note r.acceptor s
  | .copy | .drop | .stop | .work _ | .poll | .dropRequest => l

/-- The ledger of a server behind some more steps. -/
def ledger (r : Running) (l : Ledger) : List Step → Ledger
  | [] => l
  | s :: steps => (r.step s).ledger (r.note l s) steps

lemma ledger_append (r : Running) (l : Ledger) (steps more : List Step) :
    r.ledger l (steps ++ more) = (r.run steps).ledger (r.ledger l steps) more := by
  induction steps generalizing r l with
  | nil => rfl
  | cons s steps ih => exact ih (r.step s) (r.note l s)

/-- What holds of a server between any two steps. -/
structure Sound (r : Running) (l : Ledger) : Prop where
  accounted : r.acceptor.Accounted l
  stage : r.Stage
  /-- The channel is closed exactly when nobody holds the server. -/
  closed : r.signal.closed = true ↔ r.holders = 0
  detached : r.acceptor.detached = true → r.holders = 0

lemma sound_start (handle : ServerHandle) : ({ handle } : Running).Sound {} where
  accounted := Acceptor.accounted_new
  stage := .unasked rfl rfl rfl rfl (Acceptor.not_hasLeft_of_selecting rfl)
  closed := by simp
  detached := nofun

variable {r : Running} {l : Ledger}

/-! ### One step -/

/-- The stage is told by the loop, the life, the request and the work alone. -/
lemma Stage.congr {r' : Running} (h : r.Stage) (hacceptor : r'.acceptor = r.acceptor)
    (hsignal : r'.signal.raised = r.signal.raised) (hlifecycle : r'.lifecycle = r.lifecycle)
    (hwork : r'.work = r.work) (hrequest : r'.request = r.request) : r'.Stage := by
  cases h with
  | unasked lifecycle signal work request stand =>
    exact .unasked (hlifecycle.trans lifecycle) (hsignal.trans signal) (hwork.trans work)
      (hrequest.trans request) (hacceptor ▸ stand)
  | waiting lifecycle signal detached work request =>
    exact .waiting (hlifecycle.trans lifecycle) (hsignal.trans signal) (hacceptor ▸ detached)
      (hwork.trans work) (hrequest ▸ request)
  | done report phase detached work stand served aborted request =>
    exact .done report (hlifecycle ▸ phase) (hacceptor ▸ detached) (hwork.trans work)
      (hacceptor ▸ stand) (hacceptor ▸ served) (hacceptor ▸ aborted) (hrequest ▸ request)

lemma Stage.acceptor (h : r.Stage) (haccounted : r.acceptor.Accounted l) (s : Acceptor.Step) :
    (r.step (.acceptor s)).Stage := by
  have hdetached : r.signal.raised = true → r.acceptor.detached = false →
      (r.acceptor.step r.signal s).detached = false := by
    intro hraised hdetached
    by_contra hnot
    rcases Acceptor.detached_step s (eq_true_of_ne_false hnot) with htrue | ⟨hfalse, -⟩
    · rw [hdetached] at htrue
      cases htrue
    · rw [hraised] at hfalse
      cases hfalse
  cases h with
  | unasked lifecycle signal work request stand =>
    exact .unasked lifecycle signal work request (Acceptor.not_hasLeft_step stand signal s)
  | waiting lifecycle signal detached work request =>
    exact .waiting lifecycle signal (hdetached signal detached) work request
  | done report phase detached work stand served aborted request =>
    have hsame : r.acceptor.step r.signal s = r.acceptor :=
      Acceptor.step_of_ended stand (haccounted.at_end stand).1 s
    have h : r.Stage := .done report phase detached work stand served aborted request
    exact h.congr hsame rfl rfl rfl rfl

lemma Stage.stop (h : r.Stage) (hdetached : r.acceptor.detached = true → r.holders = 0) :
    (r.step .stop).Stage := by
  simp only [Running.step]
  split_ifs with hheld
  · have hdetached' : r.acceptor.detached = false := by
      by_contra hnot
      exact absurd (hdetached (eq_true_of_ne_false hnot)) (by omega)
    cases h with
    | unasked lifecycle signal work request stand =>
      rw [lifecycle]
      exact .waiting rfl rfl hdetached' rfl (.inl rfl)
    | waiting lifecycle signal detached work request =>
      rw [lifecycle]
      exact .waiting lifecycle signal detached work request
    | done report phase detached work stand served aborted request =>
      have hnone : r.lifecycle.request? = none := by simp [Lifecycle.request?, phase]
      rw [hnone]
      exact .done report phase detached work stand served aborted request
  · exact h

lemma Stage.work (h : r.Stage) (now : Nat) : (r.step (.work now)).Stage := by
  simp only [Running.step]
  split_ifs with hready
  · obtain ⟨hwork, hended⟩ := hready
    cases h with
    | unasked lifecycle signal work => rw [work] at hwork; cases hwork
    | waiting lifecycle signal detached work request =>
      rw [lifecycle]
      exact .done (r.report now) rfl detached rfl hended rfl rfl (request.imp id .inl)
    | done report phase detached work => rw [work] at hwork; cases hwork
  · exact h

lemma Stage.poll (h : r.Stage) : (r.step .poll).Stage := by
  cases h with
  | unasked lifecycle signal work request stand =>
    simp only [Running.step, request]
    exact .unasked lifecycle signal work request stand
  | waiting lifecycle signal detached work request =>
    rcases request with request | request <;> simp only [Running.step, request, work]
    · exact .waiting lifecycle signal detached work (.inl request)
    · exact .waiting lifecycle signal detached work (.inr request)
  | done report phase detached work stand served aborted request =>
    rcases request with request | request | request <;> simp only [Running.step, request, work]
    · exact .done report rfl detached rfl stand served aborted (.inr (.inr rfl))
    · exact .done report phase detached work stand served aborted (.inr (.inl request))
    · exact .done report phase detached work stand served aborted (.inr (.inr request))

lemma Stage.dropRequest (h : r.Stage) : (r.step .dropRequest).Stage := by
  simp only [Running.step]
  split_ifs with hpending
  · cases h with
    | unasked lifecycle signal work request => rw [request] at hpending; cases hpending
    | waiting lifecycle signal detached work request =>
      exact .waiting lifecycle signal detached work (.inr rfl)
    | done report phase detached work stand served aborted request =>
      exact .done report phase detached work stand served aborted (.inr (.inl rfl))
  · exact h

lemma Sound.step (h : r.Sound l) (s : Step) : (r.step s).Sound (r.note l s) := by
  obtain ⟨haccounted, hstage, hclosed, hdetached⟩ := id h
  cases s with
  | acceptor s =>
    refine ⟨haccounted.step s, hstage.acceptor haccounted s, hclosed, fun hnow => ?_⟩
    rcases Acceptor.detached_step s hnow with hbefore | ⟨-, hchannel⟩
    · exact hdetached hbefore
    · exact hclosed.1 hchannel
  | copy =>
    simp only [Running.step, Running.note]
    split_ifs with hheld
    · have hopen : r.signal.closed ≠ true := fun hchannel => by
        have := hclosed.1 hchannel
        omega
      have hattended : r.acceptor.detached ≠ true := fun hdeserted => by
        have := hdetached hdeserted
        omega
      exact ⟨haccounted, hstage.congr rfl rfl rfl rfl rfl,
        iff_of_false hopen (Nat.succ_ne_zero _), fun hdeserted => absurd hdeserted hattended⟩
    · exact h
  | drop =>
    simp only [Running.step, Running.note]
    refine ⟨haccounted, hstage.congr rfl ?_ rfl rfl rfl, ?_, fun hdeserted => ?_⟩
    · dsimp only
      split_ifs <;> rfl
    · dsimp only
      split_ifs with hlast
      · exact iff_of_true rfl (by omega)
      · rw [hclosed]
        omega
    · have := hdetached hdeserted
      dsimp only
      omega
  | stop =>
    have hstage' := hstage.stop hdetached
    refine ⟨?_, hstage', ?_, ?_⟩ <;> simp only [Running.step, Running.note] <;>
      split_ifs <;> (try split) <;> assumption
  | work now =>
    have hstage' := hstage.work now
    refine ⟨?_, hstage', ?_, ?_⟩ <;> simp only [Running.step, Running.note] <;>
      split_ifs <;> assumption
  | poll =>
    have hstage' := hstage.poll
    refine ⟨?_, hstage', ?_, ?_⟩ <;> simp only [Running.step, Running.note] <;>
      split <;> assumption
  | dropRequest =>
    have hstage' := hstage.dropRequest
    refine ⟨?_, hstage', ?_, ?_⟩ <;> simp only [Running.step, Running.note] <;>
      split_ifs <;> assumption

lemma Sound.run (h : r.Sound l) (steps : List Step) :
    (r.run steps).Sound (r.ledger l steps) := by
  induction steps generalizing r l with
  | nil => exact h
  | cons s steps ih => exact ih (h.step s)

/-! ### The counts -/

lemma served_step_le (r : Running) (s : Step) :
    (r.step s).acceptor.served ≤ r.acceptor.served + 1 := by
  cases s with
  | acceptor s => exact Acceptor.served_step_le s
  | copy | stop | work | poll | dropRequest =>
    simp only [Running.step]
    split <;> (try split) <;> exact Nat.le_succ _
  | drop => exact Nat.le_succ _

lemma served_run_le (r : Running) (steps : List Step) :
    (r.run steps).acceptor.served ≤ r.acceptor.served + steps.length := by
  induction steps generalizing r with
  | nil => exact Nat.le_refl _
  | cons s steps ih =>
    have hstep := served_step_le r s
    have hrest : (r.run (s :: steps)).acceptor.served ≤
        (r.step s).acceptor.served + steps.length := ih (r.step s)
    rw [List.length_cons]
    omega

/-! ### Who asked -/

/-- A server runs on until somebody who holds it asks it to stop. -/
lemma Stage.phase_step (h : r.Stage) (s : Step) :
    (r.step s).lifecycle.phase = .running ↔
      r.lifecycle.phase = .running ∧ ¬ (s = .stop ∧ 0 < r.holders) := by
  cases s with
  | acceptor | copy | drop | dropRequest =>
    simp only [Running.step]
    try split_ifs
    all_goals simp
  | stop =>
    simp only [Running.step, true_and]
    split_ifs with hheld
    · unfold Lifecycle.request?
      split_ifs with hrunning <;> simp [hheld, hrunning]
    · simp [hheld]
  | work now =>
    simp only [Running.step, reduceCtorEq, false_and, not_false_eq_true, and_true]
    split_ifs with hready
    · cases h with
      | unasked lifecycle signal work => simp [work] at hready
      | waiting lifecycle => simp [lifecycle, Lifecycle.release]
      | done report phase detached work => simp [work] at hready
    · rfl
  | poll =>
    simp only [Running.step, reduceCtorEq, false_and, not_false_eq_true, and_true]
    cases h with
    | unasked lifecycle signal work => simp [work]
    | waiting lifecycle signal detached work => simp [work]
    | done report phase detached work =>
      split <;> simp [phase, Lifecycle.conclude]

lemma Sound.phase_run (h : r.Sound l) (steps : List Step) :
    (r.run steps).lifecycle.phase = .running ↔
      r.lifecycle.phase = .running ∧ ¬ r.AskedIn steps := by
  induction steps generalizing r l with
  | nil => simp [Running.run, AskedIn]
  | cons s steps ih =>
    have hrun : r.run (s :: steps) = (r.step s).run steps := rfl
    rw [hrun, ih (h.step s), h.stage.phase_step s, AskedIn, not_or, and_assoc]

/-! ### The loop -/

lemma step_hasLeft (h : r.acceptor.HasLeft) (s : Step) :
    (r.step s).acceptor.HasLeft ∧ (r.note l s).accepted = l.accepted ∧
      (r.note l s).reaped = l.reaped := by
  cases s with
  | acceptor s => exact h.step s
  | copy | stop | work | poll | dropRequest =>
    simp only [Running.step, Running.note, and_true]
    split <;> (try split) <;> exact h
  | drop => exact ⟨h, rfl, rfl⟩

/-- A loop that has left does not come back, and accepts and reaps nothing from then on. -/
lemma run_hasLeft (h : r.acceptor.HasLeft) (l : Ledger) (steps : List Step) :
    (r.run steps).acceptor.HasLeft ∧ (r.ledger l steps).accepted = l.accepted ∧
      (r.ledger l steps).reaped = l.reaped := by
  induction steps generalizing r l with
  | nil => exact ⟨h, rfl, rfl⟩
  | cons s steps ih =>
    obtain ⟨hleft, haccepted, hreaped⟩ := step_hasLeft (l := l) h s
    obtain ⟨hleft', haccepted', hreaped'⟩ := ih hleft (r.note l s)
    exact ⟨hleft', haccepted'.trans haccepted, hreaped'.trans hreaped⟩

/-- A request that the loop has not followed yet is there for it to see. -/
lemma Sound.of_asked (h : r.Sound l) (hasked : r.lifecycle.phase ≠ .running) :
    r.acceptor.detached = false ∧ (¬ r.acceptor.HasLeft → r.signal.raised = true) := by
  cases h.stage with
  | unasked lifecycle => simp [lifecycle, Lifecycle.start] at hasked
  | waiting lifecycle signal detached => exact ⟨detached, fun _ => signal⟩
  | done report phase detached work stand =>
    exact ⟨detached, fun hleft => absurd (.inr stand) hleft⟩

/-- **A request is never mistaken for desertion.** Whatever happens to a server and in whatever
order, its loop takes itself for deserted only if nobody holds the server any more and nobody ever
asked it to stop. Once somebody did, the loop leaves and drops its listener the next time that it
looks at its channel, whoever lets go of the server in between, and it does not come back. -/
theorem request_never_desertion (handle : ServerHandle) (steps : List Step) :
    let start : Running := { handle }
    let r := start.run steps
    (r.acceptor.detached = true → r.holders = 0 ∧ ¬ start.AskedIn steps) ∧
    (start.AskedIn steps →
      r.acceptor.detached = false ∧
      (r.acceptor.stand = .selecting →
        (r.step (.acceptor .observe)).acceptor.stand = .leaving ∧
        (r.step (.acceptor .observe)).acceptor.listening = false) ∧
      (r.acceptor.HasLeft →
        ∀ more, (r.run more).acceptor.HasLeft ∧ (r.run more).acceptor.listening = false)) := by
  intro start r
  have h : r.Sound (start.ledger {} steps) := (sound_start handle).run steps
  have hphase : r.lifecycle.phase = .running ↔ ¬ start.AskedIn steps :=
    ((sound_start handle).phase_run steps).trans (and_iff_right rfl)
  refine ⟨fun hdetached => ⟨h.detached hdetached, fun hasked => ?_⟩, fun hasked => ?_⟩
  · obtain ⟨hattended, -⟩ := h.of_asked fun hrunning => hphase.1 hrunning hasked
    rw [hattended] at hdetached
    cases hdetached
  · obtain ⟨hattended, hraised⟩ := h.of_asked fun hrunning => hphase.1 hrunning hasked
    refine ⟨hattended, fun hselecting => ?_, fun hleft more => ?_⟩
    · have hleave : (r.step (.acceptor .observe)).acceptor = r.acceptor.leave :=
        Acceptor.observe_request hselecting hattended
          (hraised (Acceptor.not_hasLeft_of_selecting hselecting))
      rw [hleave]
      exact ⟨rfl, rfl⟩
    · obtain ⟨hleft', -⟩ := run_hasLeft hleft (start.ledger {} steps) more
      exact ⟨hleft', (h.run more).accounted.not_listening hleft'⟩

/-- The last holder asks and lets go at once; without the request the loop would serve on. -/
example (handle : ServerHandle) :
    let start : Running := { handle }
    (start.run [.acceptor .acceptFails, .stop, .drop, .acceptor .resume,
      .acceptor .observe]).acceptor.stand = .leaving ∧
    (start.run [.drop, .acceptor .observe]).acceptor.detached = true :=
  ⟨rfl, rfl⟩

end Running

end ServiceBootstrap.Server
