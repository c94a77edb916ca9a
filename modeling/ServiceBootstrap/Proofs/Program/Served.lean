import ServiceBootstrap.Proofs.Program.Arguments
import ServiceBootstrap.Proofs.Program.Shown
import ServiceBootstrap.Proofs.Server.Request

/-!
What is served is what is shown.

Both commands load the configuration in the same way, so a configuration that cannot be shown is
not served either, for the same reason. A view that is shown decides how serving it ends: the
checks of the start come one after the other, and the first that fails is all there is to say.
-/

namespace ServiceBootstrap

/-- A view is determined by the document that shows it. -/
theorem View.toml_injective {v w : View} (h : v.toml = w.toml) : v = w := by
  have hentries : v.members.map (fun m => (m.1, m.2.tree)) =
      w.members.map fun m => (m.1, m.2.tree) := by
    have hparse := v.parse?_toml
    rw [h, w.parse?_toml] at hparse
    exact (Option.some.inj hparse).symm
  have hport : v.port.toInt64 = w.port.toInt64 → v.port = w.port := by
    intro hport
    have hwide := congrArg Int64.toInt hport
    rw [Int32.toInt_toInt64, Int32.toInt_toInt64] at hwide
    exact Int32.toInt.inj hwide
  have hproperties : v.properties.map Toml.Tree.string = w.properties.map Toml.Tree.string →
      v.properties = w.properties :=
    (List.map_inj_right fun _ _ => Toml.Tree.string.inj).1
  obtain ⟨source, protocol, host, port, rootPath, clientAuth, sslContext, properties⟩ := v
  obtain ⟨source', protocol', host', port', rootPath', clientAuth', sslContext', properties'⟩ := w
  simp only [members, List.map_cons, List.map_nil, Member.tree, List.cons.injEq, Prod.mk.injEq,
    Toml.Tree.string.injEq, Toml.Tree.integer.injEq, Toml.Tree.array.injEq, true_and,
    and_true] at hentries
  obtain ⟨rfl, rfl, rfl, hp, rfl, rfl, rfl, hps⟩ := hentries
  obtain rfl := hport hp
  obtain rfl := hproperties hps
  rfl

namespace Program

/-- A listener that is opened on one port has that port. -/
def HonoursPort (bind : Server.Request → Server.Network →
    Except Server.ListenFailure SocketAddress × Server.Network) : Prop :=
  ∀ r n address, (bind r n).1 = .ok address → r.port ≠ 0 → address.port = r.port

lemma honoursPort_network : HonoursPort Server.Network.bind := by
  intro r n address hbind hport
  unfold Server.Network.bind at hbind
  split at hbind
  · cases hbind
  · rename_i ip hip
    simp only [if_neg hport] at hbind
    split_ifs at hbind
    cases hbind
    rfl

section

variable {c : Configuration} {h : Server.Host}

/-- With a runtime, the registry gives its provider. -/
lemma locate_providers (hruntime : h.runtime = .ok ()) :
    providers.locate makeProvider (fun _ h => h) h =
      (.made (), { providers with provider? := some () }, h) := by
  have hmake : makeProvider "tokio" () h = (.made (), h) := by
    rw [makeProvider, hruntime]
  show providers.tryFactory makeProvider (fun _ h => h) "tokio" () h = _
  rw [Registry.tryFactory, hmake]

lemma startInstance_of_error {e : Failure} {provider : Server.Provider}
    (hruntime : h.runtime = .ok ())
    (hstart : h.toProvider.start c (.ofNat h.nextId) h.clock = (.error e, provider)) :
    startInstance c h = (.error (failed "application failed to start" e.message),
      { h with toProvider := provider, nextId := h.nextId + 1 }) := by
  simp only [startInstance, locate_providers hruntime, Server.Host.bootstrap, hstart]

lemma startInstance_of_ok {started : Server.Started} {provider : Server.Provider}
    (hruntime : h.runtime = .ok ())
    (hstart : h.toProvider.start c (.ofNat h.nextId) h.clock = (.ok started, provider)) :
    (startInstance c h).1 = .ok ⟨started.configuration, { handle := started.handle }⟩ := by
  simp only [startInstance, locate_providers hruntime, Server.Host.bootstrap, hstart]

end

lemma describeInstance_eq (c : Configuration) (server : Server.Running) :
    describeInstance ⟨c, server⟩ =
      "Instance " ++ server.handle.id.text ++ " running at " ++ c.protocol.toLower ++ "://" ++
        c.host ++ ":" ++ toString c.port.toInt ++ c.rootPath ++ " [native handle: " ++
        server.handle.address.text ++ "]" := rfl

/-- The port that is announced is the one of the listener. -/
lemma describeInstance_running {c : Configuration} (hhttp : Server.IsHttp c.protocol)
    (id : InstanceId) (address : SocketAddress) (now : Nat) :
    describeInstance ⟨Server.running c address, { handle := ⟨id, address, now⟩ }⟩ =
      "Instance " ++ id.text ++ " running at http://" ++ c.host ++ ":" ++
        toString address.port.toNat ++ c.rootPath ++ " [native handle: " ++ address.text ++
        "]" := by
  have hlower : c.protocol.toLower = "http" := hhttp
  have hport : toString (Server.running c address).port.toInt = toString address.port.toNat := by
    rw [Server.port_running, Int.toString_eq_repr, Int.repr_eq_if, if_pos (Int.natCast_nonneg _),
      Int.toNat_natCast, Nat.toString_eq_repr]
  have hscheme : " running at http://" = " running at " ++ "http" ++ "://" := rfl
  have hstart : "Instance " ++ id.text ++ " running at http://" =
      "Instance " ++ id.text ++ " running at " ++ "http" ++ "://" := by
    rw [hscheme, ← String.append_assoc, ← String.append_assoc]
  rw [describeInstance_eq, Server.protocol_running, Server.host_running, Server.rootPath_running,
    hport, hlower, hstart]

section

variable {s : Surroundings} {o : CommandLine.Options} {c : Configuration}
  {source : Settings.Source} {exitAfter? : Option UInt64}

/-- What cannot be asked of the network is not tried. -/
lemma serve_of_request_error (halive : s.host.alive = true) (hruntime : s.host.runtime = .ok ())
    (hload : load s o = .ok (c, source)) {e : Failure} (hrequest : Server.request c = .error e) :
    serve s o exitAfter? = (failed "application failed to start" e.message,
      { s.host with nextId := s.host.nextId + 1 }) := by
  rw [serve, hload]
  simp only [startInstance_of_error hruntime
    (Server.Provider.start_of_request_error halive hrequest)]

lemma serve_of_bind_error (halive : s.host.alive = true) (hruntime : s.host.runtime = .ok ())
    (hload : load s o = .ok (c, source)) {r : Server.Request}
    (hrequest : Server.request c = .ok r) {e : Server.ListenFailure}
    {network : Server.Network} (hbind : s.host.bind r s.host.network = (.error e, network)) :
    (serve s o exitAfter?).1 =
      failed "application failed to start" (e.toProvider r).toFailure.message := by
  rw [serve, hload]
  simp only [startInstance_of_error hruntime
    (Server.Provider.start_of_bind_error halive hrequest hbind)]

/-- An instance that was started is announced before anything else is said. -/
lemma serve_announces (hload : load s o = .ok (c, source)) {server : Server.Hosted}
    (hstart : (startInstance c s.host).1 = .ok server) :
    ∃ rest, (serve s o exitAfter?).1.output = describeInstance server ++ "\n" ++ rest := by
  have hannounced : ∀ said, ∃ rest,
      lines (announcement server exitAfter? ++ said) = describeInstance server ++ "\n" ++ rest := by
    intro said
    rw [lines, announcement, List.cons_append, List.map_cons, String.join_cons]
    exact ⟨_, rfl⟩
  match hstarted : startInstance c s.host with
  | (.error report, host) =>
    rw [hstarted] at hstart
    cases hstart
  | (.ok server', host) =>
    obtain rfl : server' = server := by
      rw [hstarted] at hstart
      exact Except.ok.inj hstart
    rw [serve, hload]
    simp only [hstarted]
    split
    · simpa using hannounced []
    · exact hannounced _

lemma serve_of_bound (halive : s.host.alive = true) (hruntime : s.host.runtime = .ok ())
    (hload : load s o = .ok (c, source)) (hhttp : Server.IsHttp c.protocol) {r : Server.Request}
    (hrequest : Server.request c = .ok r) {address : SocketAddress} {network : Server.Network}
    (hbind : s.host.bind r s.host.network = (.ok address, network)) :
    ∃ rest, (serve s o exitAfter?).1.output =
      "Instance " ++ (InstanceId.ofNat s.host.nextId).text ++ " running at http://" ++ c.host ++
        ":" ++ toString address.port.toNat ++ c.rootPath ++ " [native handle: " ++ address.text ++
        "]\n" ++ rest := by
  obtain ⟨rest, houtput⟩ : ∃ rest, (serve s o exitAfter?).1.output = _ :=
    serve_announces hload
      (startInstance_of_ok hruntime (Server.Provider.start_of_bound halive hrequest hbind))
  have hclose : "]\n" = "]" ++ "\n" := rfl
  refine ⟨rest, houtput.trans ?_⟩
  rw [describeInstance_running hhttp, hclose, ← String.append_assoc]

end

/-- What comes of opening a listener for a view. -/
def bound (s : Surroundings) (v : View) : Except Server.ListenFailure SocketAddress :=
  (s.host.bind ⟨v.host, Server.askedPort v.port⟩ s.host.network).1

/-- How the program ends that serves a view: with the first check that fails, or with an instance
that is announced. -/
structure Serves (s : Surroundings) (v : View) (served : Report) (host : Server.Host) : Prop where
  refused : served.code = 1 ∧ served.output = "" ↔
    ¬Server.IsHttp v.protocol ∨ ¬Server.PortExists v.port ∨ ∃ e, bound s v = .error e
  protocol : ¬Server.IsHttp v.protocol →
    served = failed "application failed to start" (Failure.unsupportedProtocol v.protocol).message ∧
      host.network = s.host.network
  port : Server.IsHttp v.protocol → ¬Server.PortExists v.port →
    served = failed "application failed to start"
        (ProviderFailure.invalidPort v.port).toFailure.message ∧
      host.network = s.host.network
  bind : Server.IsHttp v.protocol → Server.PortExists v.port →
    ∀ cause, bound s v = .error (.notBound cause) →
      served = failed "application failed to start" (ProviderFailure.bind
        (v.host ++ ":" ++ toString (Server.askedPort v.port).toNat) cause).toFailure.message
  /-- A listener that is there but does not tell its address is as good as none. -/
  address : Server.IsHttp v.protocol → Server.PortExists v.port →
    ∀ cause, bound s v = .error (.noAddress cause) →
      served = failed "application failed to start" (Failure.io cause).message
  announced : Server.IsHttp v.protocol → Server.PortExists v.port →
    ∀ address, bound s v = .ok address →
      (v.port.toInt ≠ -1 → v.port.toInt ≠ 0 → (address.port.toNat : Int) = v.port.toInt) ∧
      ∃ rest, served.output =
        "Instance " ++ (InstanceId.ofNat s.host.nextId).text ++ " running at http://" ++ v.host ++
          ":" ++ toString address.port.toNat ++ v.rootPath ++ " [native handle: " ++
          address.text ++ "]\n" ++ rest

lemma bound_port {s : Surroundings} {v : View} {address : SocketAddress}
    (hhonours : HonoursPort s.host.bind) (hport : Server.PortExists v.port)
    (hbound : bound s v = .ok address) (hdefault : v.port.toInt ≠ -1) (hany : v.port.toInt ≠ 0) :
    (address.port.toNat : Int) = v.port.toInt := by
  have hasked := Server.toNat_askedPort hport hdefault
  have hne : Server.askedPort v.port ≠ 0 := by
    intro hzero
    rw [hzero] at hasked
    exact hany hasked.symm
  rw [hhonours ⟨v.host, Server.askedPort v.port⟩ s.host.network address hbound hne]
  exact hasked

/-- The checks are gone through in their order. -/
lemma serves_of_load {s : Surroundings} {o : CommandLine.Options} {c : Configuration}
    {source : Settings.Source} (halive : s.host.alive = true) (hruntime : s.host.runtime = .ok ())
    (hhonours : HonoursPort s.host.bind) (hload : load s o = .ok (c, source))
    (exitAfter? : Option UInt64) :
    Serves s (View.ofConfiguration c source) (serve s o exitAfter?).1 (serve s o exitAfter?).2 := by
  have hrequest := Server.request_eq c
  have hprotocol : ¬Server.IsHttp c.protocol → serve s o exitAfter? =
      (failed "application failed to start" (Failure.unsupportedProtocol c.protocol).message,
        { s.host with nextId := s.host.nextId + 1 }) := by
    intro hhttp
    exact serve_of_request_error halive hruntime hload (hrequest.trans (if_neg hhttp))
  have hport : Server.IsHttp c.protocol → ¬Server.PortExists c.port → serve s o exitAfter? =
      (failed "application failed to start" (ProviderFailure.invalidPort c.port).toFailure.message,
        { s.host with nextId := s.host.nextId + 1 }) := by
    intro hhttp hport
    rw [if_pos hhttp, if_neg hport] at hrequest
    exact serve_of_request_error halive hruntime hload hrequest
  have hbind : Server.IsHttp c.protocol → Server.PortExists c.port → ∀ e : Server.ListenFailure,
      bound s (View.ofConfiguration c source) = .error e →
      (serve s o exitAfter?).1 = failed "application failed to start"
        (e.toProvider ⟨c.host, Server.askedPort c.port⟩).toFailure.message := by
    intro hhttp hport e hbound
    rw [if_pos hhttp, if_pos hport] at hrequest
    exact serve_of_bind_error halive hruntime hload hrequest (Prod.ext hbound rfl)
  have hannounced : Server.IsHttp c.protocol → Server.PortExists c.port → ∀ address,
      bound s (View.ofConfiguration c source) = .ok address →
      ∃ rest, (serve s o exitAfter?).1.output =
        "Instance " ++ (InstanceId.ofNat s.host.nextId).text ++ " running at http://" ++ c.host ++
          ":" ++ toString address.port.toNat ++ c.rootPath ++ " [native handle: " ++
          address.text ++ "]\n" ++ rest := by
    intro hhttp hport address hbound
    rw [if_pos hhttp, if_pos hport] at hrequest
    exact serve_of_bound halive hruntime hload hhttp hrequest (Prod.ext hbound rfl)
  refine {
    refused := ⟨fun ⟨_, hempty⟩ => ?_, fun hfails => ?_⟩
    protocol := fun hhttp => ?_
    port := fun hhttp hexists => ?_
    bind := fun hhttp hexists cause => hbind hhttp hexists (.notBound cause)
    address := fun hhttp hexists cause => hbind hhttp hexists (.noAddress cause)
    announced := fun hhttp hexists address hbound =>
      ⟨bound_port hhonours hexists hbound, hannounced hhttp hexists address hbound⟩ }
  · by_contra hpasses
    rw [not_or, not_or, not_not, not_not] at hpasses
    obtain ⟨hhttp, hexists, hfree⟩ := hpasses
    match hbound : bound s (View.ofConfiguration c source) with
    | .error e => exact hfree ⟨e, hbound⟩
    | .ok address =>
      -- an announcement is not empty
      obtain ⟨rest, houtput⟩ := hannounced hhttp hexists address hbound
      have hlength := congrArg String.length (houtput.symm.trans hempty)
      simp [String.length_append] at hlength
  · by_cases hhttp : Server.IsHttp c.protocol
    · by_cases hexists : Server.PortExists c.port
      · obtain ⟨e, hbound⟩ := (hfails.resolve_left (not_not.2 hhttp)).resolve_left
          (not_not.2 hexists)
        rw [hbind hhttp hexists e hbound]
        exact ⟨rfl, rfl⟩
      · rw [hport hhttp hexists]
        exact ⟨rfl, rfl⟩
    · rw [hprotocol hhttp]
      exact ⟨rfl, rfl⟩
  · rw [hprotocol hhttp]
    exact ⟨rfl, rfl⟩
  · rw [hport hhttp hexists]
    exact ⟨rfl, rfl⟩

/-- **What is served is what is shown.** If nothing can be shown, serving fails in the same way and
leaves the host as it was. Otherwise the view that is shown decides how serving it ends. -/
theorem serve_runs_what_is_shown (s : Surroundings) (flags : List String)
    (o : CommandLine.Options)
    (hflags : CommandLine.parse ("show-config" :: flags) = .run (.showConfig o false))
    (halive : s.host.alive = true) (hruntime : s.host.runtime = .ok ())
    (hhonours : HonoursPort s.host.bind) :
    let shown := run s ("show-config" :: flags)
    let served := runOn s ("serve" :: flags)
    (shown.code = 1 → shown.output = "" ∧ served = (shown, s.host)) ∧
    (shown.code = 0 → ∃ v : View, shown = succeeded (String.ofList v.toml)) ∧
    ∀ v : View, shown = succeeded (String.ofList v.toml) → Serves s v served.1 served.2 := by
  have hserved : runOn s ("serve" :: flags) = serve s o none := by
    rw [runOn, CommandLine.parse_serve_of_showConfig hflags]
    rfl
  have hshown : run s ("show-config" :: flags) = showConfig s o false := by
    rw [run, runOn, hflags]
    rfl
  rw [hserved, hshown]
  rcases hload : load s o with e | ⟨c, source⟩
  · have hshow : showConfig s o false = failed e.message e.cause := by
      rw [showConfig, hload]
    have hserve : serve s o none = (failed e.message e.cause, s.host) := by
      rw [serve, hload]
    rw [hshow, hserve]
    refine ⟨fun _ => ⟨rfl, rfl⟩, fun hcode => ?_, fun v hv => ?_⟩
    · cases hcode
    · cases congrArg Report.code hv
  · have hshow : showConfig s o false =
        succeeded (String.ofList (View.ofConfiguration c source).toml) := by
      rw [showConfig, hload]
      rfl
    rw [hshow]
    refine ⟨fun hcode => ?_, fun _ => ⟨_, rfl⟩, fun v hv => ?_⟩
    · cases hcode
    · obtain rfl : View.ofConfiguration c source = v :=
        View.toml_injective (String.ofList_injective (congrArg Report.output hv))
      exact serves_of_load halive hruntime hhonours hload none

theorem serve_runs_what_is_shown_localhost :
    let s : Surroundings := ⟨⟨fun _ => false, fun _ => .error Files.notFound⟩, none, {}⟩
    let flags := ["--host", "localhost", "--port=8080", "--root-path", "/a"]
    ∃ v : View, run s ("show-config" :: flags) = succeeded (String.ofList v.toml) ∧
      v.host = "localhost" ∧ v.port = 8080 ∧ v.rootPath = "/a" ∧
      ∃ rest, (runOn s ("serve" :: flags)).1.output =
        "Instance " ++ (InstanceId.ofNat 1).text ++ " running at http://" ++ "localhost" ++ ":" ++
          toString 8080 ++ "/a" ++ " [native handle: " ++ "127.0.0.1:8080" ++ "]\n" ++ rest := by
  intro s flags
  let v : View := ⟨"defaults", "HTTP", "localhost", 8080, "/a", "NONE", "platform-default",
    ["host", "port", "protocol", "rootPath", "sslClientAuthentication"]⟩
  let address : SocketAddress := ⟨.loopback, 8080⟩
  have hshown : run s ("show-config" :: flags) = succeeded (String.ofList v.toml) := by
    decide +kernel
  have hbound : bound s v = .ok address := by
    decide +kernel
  obtain ⟨-, -, hserves⟩ := serve_runs_what_is_shown s flags _ rfl rfl rfl honoursPort_network
  obtain ⟨-, rest, houtput⟩ :=
    (hserves v hshown).announced (by decide +kernel) (by decide) address hbound
  have haddress : address.text = "127.0.0.1:8080" := by
    decide +kernel
  rw [haddress] at houtput
  exact ⟨v, hshown, rfl, rfl, rfl, rest, houtput⟩

end Program

end ServiceBootstrap
