import ServiceBootstrap.Proofs.Server.StopRequest

/-!
Servers that have stopped.

A server reads as stopped only behind the end of its loop: the work of a stop gives the completion
up when the loop has ended, and the request comes to its outcome after that. By then the listener
is gone, the set of connections is empty, and every connection is one of those that were reaped
before the loop left, or one of those that were cut off.
-/

namespace ServiceBootstrap.Server

namespace Acceptor

/-- What a loop still does behind a request, wherever it stands. -/
def windDown (signal : Signal) (a : Acceptor) : Acceptor :=
  ((a.step signal .resume).step signal .observe).step signal .cutOff

lemma stand_windDown {a : Acceptor} {signal : Signal} (hsignal : signal.raised = true)
    (hdetached : a.detached = false) : (a.windDown signal).stand = .ended := by
  unfold windDown
  cases hstand : a.stand with
  | selecting | backingOff | leaving | ended =>
    simp [Acceptor.step, Signal.observe?, hstand, hsignal, hdetached, leave]

end Acceptor

lemma Ledger.Once.length {l : Ledger} (h : l.Once) :
    l.accepted = l.reaped.length + (l.members.length + l.cutOff.length) := by
  have hlength := h.length_eq
  rw [List.length_append, List.length_append, List.length_range] at hlength
  exact hlength.symm

namespace Running

variable {r : Running} {l : Ledger}

/-- The end of a server: nothing listens, nothing runs, and the report is there. -/
lemma Sound.of_stopped (h : r.Sound l) (hstopped : r.lifecycle.phase = .stopped) :
    r.acceptor.stand = .ended ∧ ∃ report, r.work = .done report := by
  cases h.stage with
  | unasked lifecycle => simp [lifecycle, Lifecycle.start] at hstopped
  | waiting lifecycle => simp [lifecycle] at hstopped
  | done report phase detached work stand => exact ⟨stand, report, work⟩

lemma Sound.of_report (h : r.Sound l) {report : ShutdownReport}
    (hreport : r.work = .done report ∨ r.request = .resolved report) :
    r.acceptor.stand = .ended ∧ report.served = r.acceptor.served ∧
      report.aborted = r.acceptor.aborted := by
  cases h.stage with
  | unasked lifecycle signal work request =>
    rw [work, request] at hreport
    rcases hreport with hreport | hreport <;> cases hreport
  | waiting lifecycle signal detached work request =>
    rw [work] at hreport
    rcases request with request | request <;> rw [request] at hreport <;>
      rcases hreport with hreport | hreport <;> cases hreport
  | done report' phase detached work stand served aborted request =>
    have hsame : report' = report := by
      rw [work] at hreport
      rcases hreport with hreport | hreport
      · exact StopWork.done.inj hreport
      · rcases request with request | request | request <;> rw [request] at hreport
        · cases hreport
        · cases hreport
        · exact StopRequest.resolved.inj hreport
    rw [← hsame]
    exact ⟨stand, served, aborted⟩

/-- A server that was asked to stop comes to its end on its own. -/
lemma Sound.windsDown (h : r.Sound l) (hasked : r.lifecycle.phase ≠ .running) (now : Nat) :
    (r.run (.acceptor .resume :: windDown now)).lifecycle.phase = .stopped := by
  have hrun : r.run (.acceptor .resume :: windDown now) =
      ({ r with acceptor := r.acceptor.windDown r.signal } : Running).step (.work now) := rfl
  rw [hrun]
  cases h.stage with
  | unasked lifecycle => simp [lifecycle, Lifecycle.start] at hasked
  | waiting lifecycle signal detached work =>
    have hended := Acceptor.stand_windDown signal detached
    simp [Running.step, work, hended, lifecycle, Lifecycle.release]
  | done report phase detached work => simp [Running.step, work, phase]

/-- The counts of a report fit into 64 bits, unless the server takes `2 ^ 64` steps or more. -/
theorem counts_le_steps (handle : ServerHandle) (steps : List Step) (report : ShutdownReport) :
    let r := ({ handle } : Running).run steps
    r.work = .done report ∨ r.request = .resolved report →
      report.aborted ≤ report.served ∧ report.served ≤ steps.length := by
  intro r hreport
  have h : r.Sound (({ handle } : Running).ledger {} steps) := (sound_start handle).run steps
  obtain ⟨hstand, hserved, haborted⟩ := h.of_report hreport
  obtain ⟨-, -, hcut⟩ := h.accounted.at_end hstand
  have hlength := h.accounted.once.length
  have hcounted := h.accounted.served
  have hsteps : r.acceptor.served ≤ 0 + steps.length := served_run_le _ steps
  omega

/-- **A stopped server has released everything, and accounts for every connection once.** Whatever
happens to a server and in whatever order, when it reads as stopped its listener is gone and none of
its handlers is running. Behind its selection the loop accepts and reaps nothing. And the report
that a stop hands over counts the connections that were accepted, each of which was either reaped
before the loop left or cut off at its end, once. Such a report is there as soon as the loop and the
work have gone on after a request, whoever waits for it. -/
theorem stopped_accounts_once (handle : ServerHandle) (steps : List Step) :
    let start : Running := { handle }
    let r := start.run steps
    let l := start.ledger {} steps
    (r.lifecycle.phase = .stopped →
      r.acceptor.listening = false ∧ r.acceptor.running = 0 ∧ l.members = []) ∧
    (r.acceptor.HasLeft → ∀ more,
      (start.ledger {} (steps ++ more)).accepted = l.accepted ∧
      (start.ledger {} (steps ++ more)).reaped = l.reaped) ∧
    (∀ report, r.work = .done report ∨ r.request = .resolved report →
      report.served = l.accepted ∧ l.accepted = l.reaped.length + report.aborted ∧
      report.aborted = l.cutOff.length ∧
      (l.reaped ++ l.cutOff).Perm (List.range l.accepted)) ∧
    (start.AskedIn steps → ∀ now,
      (r.run (.acceptor .resume :: windDown now)).lifecycle.phase = .stopped ∧
      ∃ report, (r.run (.acceptor .resume :: windDown now)).work = .done report) := by
  intro start r l
  have h : r.Sound l := (sound_start handle).run steps
  have hend : r.acceptor.stand = .ended → r.acceptor.handlers = [] ∧ l.members = [] ∧
      r.acceptor.aborted = l.cutOff.length := h.accounted.at_end
  refine ⟨fun hstopped => ?_, fun hleft more => ?_, fun report hreport => ?_, fun hasked now => ?_⟩
  · obtain ⟨hstand, -⟩ := h.of_stopped hstopped
    obtain ⟨hhandlers, hmembers, -⟩ := hend hstand
    refine ⟨h.accounted.not_listening (.inr hstand), ?_, hmembers⟩
    unfold Acceptor.running
    rw [hhandlers, List.count_nil]
  · rw [ledger_append]
    exact (run_hasLeft hleft l more).2
  · obtain ⟨hstand, hserved, haborted⟩ := h.of_report hreport
    obtain ⟨-, hmembers, hcut⟩ := hend hstand
    have honce := h.accounted.once
    have hlength := honce.length
    unfold Ledger.Once at honce
    rw [hmembers, List.nil_append] at honce
    rw [hmembers, List.length_nil, Nat.zero_add] at hlength
    refine ⟨hserved.trans h.accounted.served, ?_, haborted.trans hcut, honce⟩
    rw [hlength, haborted, hcut]
  · have hphase : r.lifecycle.phase ≠ .running := fun hrunning =>
      (((sound_start handle).phase_run steps).1 hrunning).2 hasked
    have hstopped := h.windsDown hphase now
    exact ⟨hstopped, ((h.run _).of_stopped hstopped).2⟩

/-- Of two connections one is reaped and one cut off, while nobody waits for the stop. -/
example (handle : ServerHandle) (now : Nat) :
    (({ handle } : Running).run ([.acceptor .accept, .acceptor .accept, .acceptor (.finish 0),
      .acceptor (.reap 0), .stop, .dropRequest] ++ windDown now)).work =
      .done ⟨handle.id, 2, 1, now - handle.startedAt⟩ :=
  rfl

end Running

end ServiceBootstrap.Server
