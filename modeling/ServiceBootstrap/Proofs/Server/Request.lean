import Mathlib.Tactic.Lemma
import Mathlib.Tactic.SplitIfs
import ServiceBootstrap.Server.Provider

/-!
What a configuration asks of the network, settled check by check: first the protocol, then the
port. The configuration a server runs with is the one it was asked for in everything but the port.
-/

namespace ServiceBootstrap.Server

/-- The protocol is HTTP, in any case of its ASCII letters. -/
def IsHttp (protocol : String) : Prop := protocol.toLower = "http"

instance (protocol : String) : Decidable (IsHttp protocol) :=
  inferInstanceAs (Decidable (protocol.toLower = "http"))

/-- The ports a configuration can ask for: the default, and those that exist. -/
def PortExists (port : Int32) : Prop := -1 ≤ port.toInt ∧ port.toInt ≤ 65535

instance (port : Int32) : Decidable (PortExists port) :=
  inferInstanceAs (Decidable (_ ∧ _))

/-- The port that the network is asked for: any port by default. -/
def askedPort (port : Int32) : UInt16 :=
  if port = Key.defaultPort then 0 else UInt16.ofNat port.toInt.toNat

lemma requestedPort_eq (port : Int32) :
    requestedPort port =
      if PortExists port then .ok (askedPort port) else .error (.invalidPort port) := by
  have hdefault : Key.defaultPort.toInt = -1 := by decide
  unfold requestedPort askedPort
  by_cases hport : port = Key.defaultPort
  · have hexists : PortExists port := by
      rw [hport]
      decide
    rw [if_pos hport, if_pos hport, if_pos hexists]
  · have hne : port.toInt ≠ -1 := fun h => hport (Int32.toInt.inj (h.trans hdefault.symm))
    have hrange : 0 ≤ port.toInt ∧ port.toInt < 65536 ↔ PortExists port := by
      unfold PortExists
      omega
    rw [if_neg hport, if_neg hport]
    by_cases hexists : PortExists port
    · rw [if_pos hexists, if_pos (hrange.2 hexists)]
    · rw [if_neg hexists, if_neg (hexists ∘ hrange.1)]

theorem request_eq (c : Configuration) :
    request c =
      if IsHttp c.protocol then
        if PortExists c.port then .ok ⟨c.host, askedPort c.port⟩
        else .error (ProviderFailure.invalidPort c.port).toFailure
      else .error (.unsupportedProtocol c.protocol) := by
  have hspeaks : speaksHttp c.protocol = true ↔ IsHttp c.protocol := beq_iff_eq
  unfold request
  rw [requestedPort_eq]
  by_cases hhttp : IsHttp c.protocol
  · rw [if_pos (hspeaks.2 hhttp), if_pos hhttp]
    split_ifs <;> rfl
  · rw [if_neg (hhttp ∘ hspeaks.1), if_neg hhttp]

/-- A port that is asked for by number is that number. -/
lemma toNat_askedPort {port : Int32} (hexists : PortExists port) (hdefault : port.toInt ≠ -1) :
    ((askedPort port).toNat : Int) = port.toInt := by
  have hne : port ≠ Key.defaultPort := by
    rintro rfl
    exact hdefault rfl
  have hsmall : port.toInt.toNat < 65536 := by
    unfold PortExists at hexists
    omega
  rw [askedPort, if_neg hne, UInt16.toNat_ofNat_of_lt' hsmall]
  unfold PortExists at hexists
  omega

/-! ### How a start comes out -/

section

variable {σ : Type} {bind : Request → σ → Except ListenFailure SocketAddress × σ}
  {c : Configuration} {id : InstanceId} {now : Nat} {s s' : σ} {r : Request}

lemma start_of_request_error {e : Failure} (h : request c = .error e) :
    start bind c id now s = (.error e, s) := by
  rw [start, h]

lemma start_of_bind_error {e : ListenFailure} (h : request c = .ok r)
    (hbind : bind r s = (.error e, s')) :
    start bind c id now s = (.error (e.toProvider r).toFailure, s') := by
  rw [start, h]
  simp only [hbind]

lemma start_of_bound {address : SocketAddress} (h : request c = .ok r)
    (hbind : bind r s = (.ok address, s')) :
    start bind c id now s = (.ok ⟨running c address, id, address, now⟩, s') := by
  rw [start, h]
  simp only [hbind]

end

namespace Provider

variable {p : Provider} {c : Configuration} {id : InstanceId} {now : Nat} {r : Request}
  {network : Network}

lemma start_of_request_error (halive : p.alive = true) {e : Failure} (h : request c = .error e) :
    p.start c id now = (.error e, p) := by
  rw [start, if_pos halive, Server.start_of_request_error h]

lemma start_of_bind_error (halive : p.alive = true) {e : ListenFailure} (h : request c = .ok r)
    (hbind : p.bind r p.network = (.error e, network)) :
    p.start c id now = (.error (e.toProvider r).toFailure, { p with network }) := by
  rw [start, if_pos halive, Server.start_of_bind_error h hbind]

lemma start_of_bound (halive : p.alive = true) {address : SocketAddress} (h : request c = .ok r)
    (hbind : p.bind r p.network = (.ok address, network)) :
    p.start c id now = (.ok ⟨running c address, id, address, now⟩, { p with network }) := by
  rw [start, if_pos halive, Server.start_of_bound h hbind]

end Provider

/-! ### The configuration a server runs with -/

section

variable (c : Configuration) (address : SocketAddress)

lemma find?_running {name : String} (h : name ≠ Key.port.name) :
    (running c address).properties.find? name = c.properties.find? name :=
  NameMap.find?_insert_of_ne c.properties _ h

lemma protocol_running : (running c address).protocol = c.protocol := by
  rw [Configuration.protocol, Configuration.text, find?_running c address (by decide)]
  rfl

lemma host_running : (running c address).host = c.host := by
  rw [Configuration.host, Configuration.text, find?_running c address (by decide)]
  rfl

lemma rootPath_running : (running c address).rootPath = c.rootPath := by
  rw [Configuration.rootPath, Configuration.text, find?_running c address (by decide)]
  rfl

lemma port_running : (running c address).port.toInt = address.port.toNat := by
  have hport : (running c address).port = Int32.ofNat address.port.toNat := by
    have hset : (running c address).properties.find? Key.port.name =
        some (.int32 (Int32.ofNat address.port.toNat)) := NameMap.find?_insert_self ..
    rw [Configuration.port, hset]
  have hsmall : address.port.toNat < 2 ^ 31 := by
    have hlt := address.port.toNat_lt
    omega
  rw [hport, Int32.toInt_ofNat_of_lt hsmall]

end

end ServiceBootstrap.Server
