import Mathlib.Data.List.TakeWhile
import ServiceBootstrap.Proofs.Server.Request
import ServiceBootstrap.Proofs.Session.Keeps
import ServiceBootstrap.Proofs.Session.Spawned
import ServiceBootstrap.Proofs.Text.ByteOrder
import ServiceBootstrap.Session.Provider

/-!
Starting a server, as its caller sees it.

A start never fails at once: whatever it comes to is the outcome of what it leaves pending, and is
found by the network provider in its next turn. The checks come one after the other, and the network
is not touched before all of them have passed. The instance that a start makes runs with the
configuration that was asked for, in which only the port has become that of the listener.
-/

namespace ServiceBootstrap

namespace Server

variable (c : Configuration) (address : SocketAddress)

lemma property_running {name : String} (h : name ≠ Key.port.name) :
    (running c address).property name = c.property name := by
  rw [Configuration.property, find?_running c address h]
  rfl

lemma get_running {name : String} (h : name ≠ Key.port.name) (t : ValueType) :
    (running c address).get name t = c.get name t := by
  rw [Configuration.get, property_running c address h]
  rfl

lemma property_port_running :
    (running c address).property Key.port.name =
      some (.int32 (Int32.ofNat address.port.toNat)) := by
  have hset : (running c address).properties.find? Key.port.name =
      some (.int32 (Int32.ofNat address.port.toNat)) := NameMap.find?_insert_self ..
  rw [Configuration.property, hset, Option.some_or]

lemma sslContext_running : (running c address).sslContext = c.sslContext := by
  rw [Configuration.sslContext, find?_running c address (by decide)]
  rfl

lemma sslClientAuthentication_running :
    (running c address).sslClientAuthentication = c.sslClientAuthentication := by
  rw [Configuration.sslClientAuthentication, find?_running c address (by decide)]
  rfl

lemma mem_names_running (name : String) :
    name ∈ (running c address).names ↔ name ∈ c.names ∨ name = Key.port.name := by
  rw [Configuration.names, Configuration.names, NameMap.mem_names, NameMap.mem_names]
  by_cases hname : name = Key.port.name
  · have hset : (running c address).properties.find? name =
        some (.int32 (Int32.ofNat address.port.toNat)) := by
      rw [hname]
      exact NameMap.find?_insert_self ..
    exact iff_of_true (by rw [hset]; rfl) (.inr hname)
  · rw [find?_running c address hname, or_iff_left hname]

/-- What a configuration asks of the network, as the port that it names. -/
lemma toNat_askedPort_eq {port : Int32} (h : PortExists port) :
    ((askedPort port).toNat : Int) = if port.toInt = -1 then 0 else port.toInt := by
  split_ifs with hdefault
  · have hport : port = Key.defaultPort := Int32.toInt.inj (hdefault.trans (by decide))
    rw [hport]
    rfl
  · exact toNat_askedPort h hdefault

/-- A configuration is what was asked for, on the port of an address. -/
structure RunsOn (it : Configuration) : Prop where
  names : it.names.Pairwise (fun a b => Text.bytes a < Text.bytes b) ∧
    ∀ name, name ∈ it.names ↔ name ∈ c.names ∨ name = Key.port.name
  port : it.port.toInt = address.port.toNat ∧
    it.property Key.port.name = some (.int32 (Int32.ofNat address.port.toNat))
  property : ∀ name, name ≠ Key.port.name → it.property name = c.property name
  get : ∀ name, name ≠ Key.port.name → ∀ t, it.get name t = c.get name t
  protocol : it.protocol = c.protocol
  host : it.host = c.host
  rootPath : it.rootPath = c.rootPath
  sslContext : it.sslContext = c.sslContext
  sslClientAuthentication : it.sslClientAuthentication = c.sslClientAuthentication

lemma runsOn_running : RunsOn c address (running c address) where
  names := ⟨(NameMap.ascending_names _).imp Text.lt_iff_bytes_lt.1, mem_names_running c address⟩
  port := ⟨port_running c address, property_port_running c address⟩
  property _ := property_running c address
  get _ := get_running c address
  protocol := protocol_running c address
  host := host_running c address
  rootPath := rootPath_running c address
  sslContext := sslContext_running c address
  sslClientAuthentication := sslClientAuthentication_running c address

end Server

namespace Session

variable {W : Type} {c : Configuration} {key : InstanceKey} {s : Stage Script}

/-! ### What a start comes to -/

/-- The instance of a start is on the listener that it was given. -/
structure IsServer (c : Configuration) (address : SocketAddress) (i : Instance) : Prop where
  configuration : Server.RunsOn c address i.configuration
  native : ∃ handle, i.native? = some (.serverHandle handle) ∧ handle.id = i.key.id ∧
    handle.address = address

/-- What a start comes to on a provider, check by check, and what it makes of the provider. -/
structure Settled (c : Configuration) (key : InstanceKey) (before after : Server.Provider)
    (o : Outcome Yield) : Prop where
  protocol : ¬ Server.IsHttp c.protocol →
    o = .error (.unsupportedProtocol c.protocol) ∧ after = before
  port : Server.IsHttp c.protocol → ¬ Server.PortExists c.port →
    o = .error (.providerFailed ("port out of range: " ++ toString c.port.toInt)) ∧ after = before
  listener : Server.IsHttp c.protocol → Server.PortExists c.port →
    ∃ asked : Server.Request, asked.host = c.host ∧
      (asked.port.toNat : Int) = (if c.port.toInt = -1 then 0 else c.port.toInt) ∧
      let (opened, network) := before.bind asked before.network
      after = { before with network } ∧
      (∀ cause, opened = .error (.notBound cause) →
        o = .error (.io ⟨cause.kind, "failed to bind " ++
          (c.host ++ ":" ++ toString asked.port.toNat) ++ ": " ++ cause.text⟩)) ∧
      (∀ cause, opened = .error (.noAddress cause) → o = .error (.io cause)) ∧
      ∀ address, opened = .ok address →
        ∃ i, o = .ok (.started i) ∧ i.key = key ∧ IsServer c address i

lemma isServer_serverInstance (c : Configuration) (address : SocketAddress) (key : InstanceKey) :
    IsServer c address
      (serverInstance key ⟨Server.running c address, ⟨key.id, address, 0⟩⟩) :=
  ⟨Server.runsOn_running c address, _, rfl, rfl, rfl⟩

/-- The outcome of a start as its caller gets it. -/
def startOutcome (key : InstanceKey) (o : Outcome Server.Started) : Outcome Yield :=
  o.map (.started ∘ serverInstance key)

lemma settled_start {p : Server.Provider} (halive : p.alive = true) (c : Configuration)
    (key : InstanceKey) :
    Settled c key p (p.start c key.id 0).2 (startOutcome key (p.start c key.id 0).1) := by
  by_cases hhttp : Server.IsHttp c.protocol
  · by_cases hport : Server.PortExists c.port
    · have hrequest := (Server.request_eq c).trans ((if_pos hhttp).trans (if_pos hport))
      have hasked := Server.toNat_askedPort_eq hport
      -- Of the port that is asked for only its number is told, whatever came of the default.
      generalize Server.askedPort c.port = port at hrequest hasked
      refine ⟨absurd hhttp, fun _ => absurd hport, fun _ _ => ⟨⟨c.host, port⟩, rfl, hasked, ?_⟩⟩
      rcases hbind : p.bind ⟨c.host, port⟩ p.network with ⟨(cause | cause) | address, network⟩
      · rw [Server.Provider.start_of_bind_error halive hrequest hbind]
        refine ⟨rfl, ?_, nofun, nofun⟩
        rintro _ ⟨⟩
        rfl
      · rw [Server.Provider.start_of_bind_error halive hrequest hbind]
        refine ⟨rfl, nofun, ?_, nofun⟩
        rintro _ ⟨⟩
        rfl
      · rw [Server.Provider.start_of_bound halive hrequest hbind]
        refine ⟨rfl, nofun, nofun, ?_⟩
        rintro _ ⟨⟩
        exact ⟨_, rfl, rfl, isServer_serverInstance c address key⟩
    · have hrequest := (Server.request_eq c).trans ((if_pos hhttp).trans (if_neg hport))
      rw [Server.Provider.start_of_request_error halive hrequest]
      exact ⟨absurd hhttp, fun _ _ => ⟨rfl, rfl⟩, fun _ h => absurd h hport⟩
  · have hrequest := (Server.request_eq c).trans (if_neg hhttp)
    rw [Server.Provider.start_of_request_error halive hrequest]
    exact ⟨fun _ => ⟨rfl, rfl⟩, (absurd · hhttp), (absurd · hhttp)⟩

/-! ### Until the provider comes to it -/

/-- The work of a start that the network provider has not come to yet. -/
structure Unsettled (c : Configuration) (key : InstanceKey) (s : Stage Script) : Prop where
  line : s.lines.get (.started key) = .silent none
  task : s.tasks.get (.started key) = some (startWork key c)
  life : s.lifecycle key = .start
  alive : s.provider.alive = true

/-- A start the provider comes to in its next turn. -/
structure Due (c : Configuration) (key : InstanceKey) (s : Stage Script) : Prop
    extends Unsettled c key s where
  queued : .started key ∈ s.queue

/-- An instance was given up at most, the provider is there as before, and nothing was taken out of
a queue. -/
def Spares (key : InstanceKey) (s t : Stage W) : Prop :=
  Keeps key s t ∧ t.provider.alive = s.provider.alive ∧ s.queue ⊆ t.queue

lemma Spares.coarse : Coarse (Spares (W := W) key) where
  same hlife hlog halive hqueue := ⟨Keeps.coarse.same hlife hlog halive hqueue, halive, hqueue⟩
  trans hst htu :=
    ⟨Keeps.coarse.trans hst.1 htu.1, htu.2.1.trans hst.2.1, List.Subset.trans hst.2.2 htu.2.2⟩

lemma Script.spares : Task.Within Script (Spares key) :=
  Script.within Spares.coarse (fun _ _ => ⟨.of_lifecycles rfl, rfl, List.Subset.refl _⟩)
    fun other s => ⟨.release other s, rfl, List.Subset.refl _⟩

lemma leavesAlone_started (key : InstanceKey) : Task.LeavesAlone Script (.started key) :=
  Script.leavesAlone nofun

section

variable {f : Stage Script → Stage Script}

lemma Unsettled.of_spares (h : Unsettled c key s) (hbeside : Beside (.started key) f)
    (hspares : Spares key s (f s)) : Unsettled c key (f s) :=
  ⟨(hbeside.get s).trans h.line, (hbeside.task s).trans h.task, hspares.1.start h.life,
    hspares.2.1.trans h.alive⟩

lemma Due.of_spares (h : Due c key s) (hbeside : Beside (.started key) f)
    (hspares : Spares key s (f s)) : Due c key (f s) :=
  ⟨h.toUnsettled.of_spares hbeside hspares, hspares.2.2 h.queued⟩

end

lemma beside_foldl {line : Line} {f : Stage W → Line → Stage W}
    (hf : ∀ other, other ≠ line → Beside line fun s => f s other) {lines : List Line}
    (hlines : line ∉ lines) : Beside line fun s : Stage W => lines.foldl f s := by
  induction lines with
  | nil => exact .id
  | cons other lines ih =>
    rw [List.mem_cons, not_or] at hlines
    exact (hf other (Ne.symm hlines.1)).comp (ih hlines.2)

/-- Other work leaves a start as it is. -/
lemma beside_runTasks {lines : List Line} (hlines : .started key ∉ lines) :
    Beside (.started key) fun s : Stage Script => lines.foldl Stage.runTask s :=
  beside_foldl (fun _ => beside_runTask (leavesAlone_started key)) hlines

lemma started_not_mem_session (lines : List Line) :
    .started key ∉ lines.filter (·.scheduler = .session) := by
  simp [Line.scheduler]

/-- The session takes nothing out of the queue but its own work. -/
lemma Due.taken (h : Due c key s) :
    Due c key { s with queue := s.queue.filter (·.scheduler ≠ .session) } :=
  ⟨⟨h.line, h.task, h.life, h.alive⟩, by simpa [Line.scheduler] using h.queued⟩

lemma Due.turn_session (h : Due c key s) : Due c key (s.turn .session) :=
  h.taken.of_spares (beside_runTasks (started_not_mem_session _))
    (Spares.coarse.runTasks Script.spares _ _)

/-- The provider goes on without the session. -/
lemma Due.shutdown_session (h : Due c key s) : Due c key (s.shutdown .session) := by
  have hretired : Due c key (s.retire .session) := ⟨⟨h.line, h.task, h.life, h.alive⟩, h.queued⟩
  have hdrop : ∀ other, other ≠ .started key →
      Beside (.started key) fun s : Stage Script => s.dropTask other :=
    fun _ hother => beside_onTask (beside_giveUpTask (leavesAlone_started key) hother)
  have hspares : ∀ (lines : List Line) (s : Stage Script),
      Spares key s (lines.foldl Stage.dropTask s) :=
    Spares.coarse.foldl (Spares.coarse.onTask (Spares.coarse.giveUpTask Script.spares))
  exact (hretired.of_spares (beside_foldl hdrop (started_not_mem_session _)) (hspares _ _)).taken

/-- The provider comes to it. -/
lemma Unsettled.runTask_self (h : Unsettled c key s) :
    s.runTask (.started key) =
      { s with
        provider := (s.provider.start c key.id 0).2
        tasks := s.tasks.set (.started key) none }.setLine (.started key)
          (.sent (startOutcome key (s.provider.start c key.id 0).1)) := by
  let t : Stage Script :=
    { s with
      provider := (s.provider.start c key.id 0).2
      tasks := s.tasks.set (.started key) none }
  have hline : t.lines.get (.started key) = .silent none := h.line
  have hended := endSilence_of_silent hline
    (.sent (startOutcome key (s.provider.start c key.id 0).1))
  unfold Stage.runTask
  rw [onTask_of_some h.task]
  exact hended

/-- What was replied stays on the line, whatever else the provider does. -/
lemma lines_runTasks (hnone : s.tasks.get (.started key) = none) (lines : List Line) :
    (lines.foldl Stage.runTask s).lines.get (.started key) = s.lines.get (.started key) := by
  induction lines generalizing s with
  | nil => rfl
  | cons ran lines ih =>
    by_cases hran : ran = .started key
    · rw [List.foldl_cons, hran, Stage.runTask, onTask_of_none hnone]
      exact ih hnone
    · have hbeside : Beside (.started key) fun s : Stage Script => s.runTask ran :=
        beside_runTask (leavesAlone_started key) hran
      exact (ih ((hbeside.task s).trans hnone)).trans (hbeside.get s)

/-! ### The turn of the provider -/

/-- The stage on which a scheduler comes to the work on a line in its turn. -/
def Stage.reached {W : Type} [Task W] (line : Line) (s : Stage W) : Stage W :=
  ((s.queue.filter (·.scheduler = line.scheduler)).takeWhile (· ≠ line)).foldl Stage.runTask
    { s with queue := s.queue.filter (·.scheduler ≠ line.scheduler) }

lemma turn_eq_reached {W : Type} [Task W] {line : Line} {s : Stage W} (hmem : line ∈ s.queue) :
    ∃ rest, s.turn line.scheduler =
      List.foldl Stage.runTask ((s.reached line).runTask line) rest := by
  have hturn : line ∈ s.queue.filter (·.scheduler = line.scheduler) := by simpa using hmem
  obtain ⟨before, after, hqueue, hfirst⟩ := List.eq_append_cons_of_mem hturn
  have hbefore : (before ++ line :: after).takeWhile (· ≠ line) = before := by
    rw [List.takeWhile_append_of_pos fun other hother => by
      simpa using fun h : other = line => hfirst (h ▸ hother)]
    simp
  refine ⟨after, ?_⟩
  unfold Stage.turn Stage.reached
  rw [hqueue, hbefore, List.foldl_append, List.foldl_cons]

lemma Unsettled.reached (h : Unsettled c key s) :
    Unsettled c key (s.reached (.started key)) := by
  have htaken : Unsettled c key
      { s with queue := s.queue.filter (·.scheduler ≠ (Line.started key).scheduler) } :=
    ⟨h.line, h.task, h.life, h.alive⟩
  refine htaken.of_spares (beside_runTasks fun hmem => ?_)
    (Spares.coarse.runTasks Script.spares _ _)
  simpa using List.mem_takeWhile_imp hmem

lemma Unsettled.poll (h : Unsettled c key s) :
    (Pending.receive (.started key) : Pending Script).poll s =
      ⟨.waiting, Pending.receive (.started key), s⟩ := by
  have hsame : s.setLine (.started key) (.silent none) = s := by
    rw [← h.line, setLine_get]
  rw [poll_receive, h.line, hsame]

/-- The next turn of the provider brings the outcome that the provider finds when it comes to the
start. -/
lemma Due.turn (h : Due c key s) :
    (s.turn .provider).lines.get (.started key) =
      .sent (startOutcome key ((s.reached (.started key)).provider.start c key.id 0).1) := by
  obtain ⟨rest, hturn⟩ := turn_eq_reached h.queued
  have hself := h.reached.runTask_self
  have hnone : ((s.reached (.started key)).runTask (.started key)).tasks.get (.started key) =
      none := by
    rw [hself]
    exact Table.get_set_self ..
  rw [show s.turn .provider = _ from hturn, lines_runTasks hnone rest, hself, get_setLine]

lemma Due.settles (h : Due c key s) :
    let met := s.reached (.started key)
    ∃ o, ((Pending.receive (.started key) : Pending Script).poll (s.turn .provider)).upshot =
        .outcome o ∧
      (s.turn .provider).phase key = .running ∧
      Settled c key met.provider (met.runTask (.started key)).provider o := by
  intro met
  have hkeeps : Keeps key s (s.turn .provider) :=
    Keeps.coarse.turn (fun _ => .of_lifecycles rfl) Script.keeps s
  refine ⟨startOutcome key (met.provider.start c key.id 0).1, ?_,
    congrArg Lifecycle.phase (hkeeps.start h.life), ?_⟩
  · rw [poll_receive, h.turn]
  · rw [h.reached.runTask_self]
    exact settled_start h.reached.alive c key

/-! ### The call -/

/-- The stage of a start whose work is about to be spawned. -/
def Stage.opened (s : Stage Script) : Stage Script :=
  let (key, s) := s.addInstance s.serverId
  s.setLine (.started key) (.silent none)

lemma bootstrapServer_of_alive (halive : s.provider.alive = true) (c : Configuration) :
    let key := (s.addInstance s.serverId).1
    bootstrapServer c s =
      (Pending.receive (.started key),
        { s.opened with
          tasks := s.tasks.set (.started key) (some (startWork key c))
          spawned := s.spawned ++ [.started key]
          queue := s.queue ++ [.started key] }) :=
  congrArg (Prod.mk _) (if_pos halive)

lemma bootstrapServer_of_gone (hgone : s.provider.alive = false) (c : Configuration) :
    let key := (s.addInstance s.serverId).1
    bootstrapServer c s =
      (Pending.receive (.started key), s.opened.setLine (.started key) .closed) := by
  intro key
  have hruns : ¬ s.opened.runs (Line.started key).scheduler := by
    change ¬ s.provider.alive = true
    simp [hgone]
  have hclosed : (Task.abandon (startWork key c) s.opened).closeLine (.started key) =
      s.opened.setLine (.started key) .closed := endSilence_of_silent (get_setLine ..) .closed
  exact congrArg (Prod.mk _) ((if_neg hruns).trans hclosed)

lemma provider_bootstrapServer (c : Configuration) (s : Stage Script) :
    (bootstrapServer c s).2.provider = s.provider := by
  cases halive : s.provider.alive with
  | true => rw [bootstrapServer_of_alive halive]; rfl
  | false => rw [bootstrapServer_of_gone halive]; rfl

lemma due_bootstrapServer (halive : s.provider.alive = true) (c : Configuration) :
    Due c (s.addInstance s.serverId).1 (bootstrapServer c s).2 := by
  rw [bootstrapServer_of_alive halive]
  refine ⟨⟨get_setLine .., Table.get_set_self .., Table.get_set_self .., halive⟩, ?_⟩
  simp

lemma abandoned_bootstrapServer (hgone : s.provider.alive = false) (c : Configuration) :
    ((bootstrapServer c s).1.poll (bootstrapServer c s).2).upshot =
      .outcome (.error .abandoned) := by
  rw [bootstrapServer_of_gone hgone, poll_receive, get_setLine]

/-- **A start is settled check by check.** A start leaves what it comes to pending, and asks nothing
of the network. It waits until the network provider comes to it, whatever becomes of the session
meanwhile, and has its outcome after the provider's next turn, whatever the configuration asks for
and whatever becomes of the listener; from a provider that is gone it is abandoned. A protocol other
than HTTP is refused as it stands, and then a port that does not exist, and in both cases the
provider is left as it was. Otherwise a listener is asked for on the host, on the port by its number
or on any port by default. If that fails, the failure keeps its kind and says what was asked for and
why it failed. If not, there is a running instance with the handle of its server, on the
configuration that was asked for and the port of the listener. -/
theorem start_is_settled (c : Configuration) (s : Stage Script) :
    let (p, called) := bootstrapServer c s
    let key := (s.addInstance s.serverId).1
    called.provider = s.provider ∧
    (s.provider.alive = false → (p.poll called).upshot = .outcome (.error .abandoned)) ∧
    (s.provider.alive = true → Due c key called) ∧
    ∀ t, Due c key t →
      p.poll t = ⟨.waiting, p, t⟩ ∧
      Due c key (t.turn .session) ∧
      Due c key (t.shutdown .session) ∧
      let met := t.reached (.started key)
      let after := met.runTask (.started key)
      ∃ o, (p.poll (t.turn .provider)).upshot = .outcome o ∧
        (t.turn .provider).phase key = .running ∧
        Settled c key met.provider after.provider o := by
  refine ⟨provider_bootstrapServer c s, (abandoned_bootstrapServer · c), (due_bootstrapServer · c),
    fun t ht => ⟨ht.poll, ht.turn_session, ht.shutdown_session, ht.settles⟩⟩

end Session

end ServiceBootstrap
