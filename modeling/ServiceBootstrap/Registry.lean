import ServiceBootstrap.Event

/-!
The registry of providers, and the choice of the one that is used.

Factories are registered under names; the first factory under a name stays. The first look-up that
succeeds calls the factory under the smallest name, and its provider is kept for good: no factory
is called after that, and no new name is taken.

Factories have a state of their own and may fail or panic, so a look-up acts on surroundings of
type `σ`. It has two parts. A look-up first checks whether there is a provider already, without
holding the registry; only if there is none does it take hold of the registry and choose.
-/

namespace ServiceBootstrap

/-- How the call of a factory ends. -/
inductive Attempt (P : Type) where
  | made (provider : P)
  | failed (failure : Failure)
  | panicked (message : String)
  deriving DecidableEq, Repr

def Attempt.map {P Q : Type} (f : P → Q) : Attempt P → Attempt Q
  | made p => .made (f p)
  | failed e => .failed e
  | panicked message => .panicked message

/-- Goes on with the provider if there is one. -/
def Attempt.andThen {P A σ : Type} (use : P → σ → A × σ) : Attempt P → σ → Attempt A × σ
  | made p, s => (.made (use p s).1, (use p s).2)
  | failed e, s => (.failed e, s)
  | panicked message, s => (.panicked message, s)

structure Registry (F P : Type) where
  factories : NameMap F
  provider? : Option P

namespace Registry

variable {F P σ : Type}

def new : Registry F P := ⟨.empty, none⟩

instance : Inhabited (Registry F P) := ⟨new⟩

def isResolved (r : Registry F P) : Bool := r.provider?.isSome

/-- The registered names, in the order in which the choice prefers them. -/
def names (r : Registry F P) : List String := r.factories.names

/-- What becomes of the registration of a factory. -/
inductive Registration where
  | known
  | added
  | refused
  deriving DecidableEq, Repr

def registration (r : Registry F P) (name : String) : Registration :=
  if r.factories.contains name then .known
  else if r.isResolved then .refused
  else .added

def Registration.event? (name : String) : Registration → Option Event
  | known => some (.providerKnown name)
  | added => some (.providerRegistered name)
  | refused => none

/-- Reports what becomes of a registration, if it is worth a report. -/
def Registration.announce (report : Event → σ → σ) (name : String) (x : Registration) (s : σ) : σ :=
  match x.event? name with
  | some e => report e s
  | none => s

def Registration.outcome (name : String) : Registration → Outcome Unit
  | known | added => .ok ()
  | refused => .error (.registryLocked name)

def register (r : Registry F P) (name : String) (factory : F) : Registry F P :=
  if r.registration name = .added then { r with factories := r.factories.insert name factory }
  else r

def noProvider : Failure := .unsupported "no provider registered for the Bootstrapper contract"

/-- What a look-up that holds the registry goes on with. -/
inductive Candidate (F P : Type) where
  /-- There is a provider already. -/
  | resolved (provider : P)
  | none
  /-- The factory under the smallest name, and the other names. -/
  | factory (name : String) (factory : F) (others : List String)

def candidate (r : Registry F P) : Candidate F P :=
  match r.provider? with
  | some p => .resolved p
  | none =>
    match r.factories.entries with
    | [] => .none
    | e :: others => .factory e.1 e.2 (others.map (·.1))

def passOver (report : Event → σ → σ) (chosen : String) (others : List String) (s : σ) : σ :=
  others.foldl (fun s other => report (.providerPassedOver other chosen) s) s

/-- Calls a factory; the provider that it makes is kept. -/
def tryFactory (call : String → F → σ → Attempt P × σ) (report : Event → σ → σ) (name : String)
    (factory : F) (r : Registry F P) (s : σ) : Attempt P × Registry F P × σ :=
  match call name factory s with
  | (.made p, s) => (.made p, { r with provider? := some p }, report (.providerResolved name) s)
  | (attempt, s) => (attempt, r, s)

/-- The part of a look-up that holds the registry. -/
def choose (call : String → F → σ → Attempt P × σ) (report : Event → σ → σ) (r : Registry F P)
    (s : σ) : Attempt P × Registry F P × σ :=
  match r.candidate with
  | .resolved p => (.made p, r, s)
  | .none => (.failed noProvider, r, s)
  | .factory name factory others =>
    r.tryFactory call report name factory (passOver report name others s)

def locate (call : String → F → σ → Attempt P × σ) (report : Event → σ → σ) (r : Registry F P)
    (s : σ) : Attempt P × Registry F P × σ :=
  match r.provider? with
  | some p => (.made p, r, s)
  | none => r.choose call report s

/-- How a registered factory is shown. -/
def describeEntry (name : String) : String :=
  "ProviderDescriptor \x7b name: " ++ Text.quoted name ++ ", .. \x7d"

theorem candidate_eq_resolved {r : Registry F P} {p : P} (h : r.candidate = .resolved p) :
    r.provider? = some p := by
  unfold candidate at h
  grind

theorem candidate_eq_factory {r : Registry F P} {name : String} {factory : F}
    {others : List String} (h : r.candidate = .factory name factory others) :
    r.provider? = none := by
  unfold candidate at h
  grind

/-- A factory either makes the provider that is kept from then on, or leaves the registry alone. -/
theorem tryFactory_cases (call : String → F → σ → Attempt P × σ) (report : Event → σ → σ)
    (name : String) (factory : F) (r : Registry F P) (s : σ) :
    (∃ p, (r.tryFactory call report name factory s).1 = .made p ∧
      (r.tryFactory call report name factory s).2.1 = { r with provider? := some p }) ∨
    (∀ p, (r.tryFactory call report name factory s).1 ≠ .made p) ∧
      (r.tryFactory call report name factory s).2.1 = r := by
  unfold tryFactory
  rcases call name factory s with ⟨p | e | message, s'⟩
  · exact .inl ⟨p, rfl, rfl⟩
  · exact .inr ⟨nofun, rfl⟩
  · exact .inr ⟨nofun, rfl⟩

theorem register_of_resolved {r : Registry F P} (h : r.isResolved) (name : String)
    (factory : F) : r.register name factory = r := by
  unfold register registration
  grind

theorem locate_eq_choose (call : String → F → σ → Attempt P × σ) (report : Event → σ → σ)
    (r : Registry F P) (s : σ) : r.locate call report s = r.choose call report s := by
  unfold locate choose candidate
  cases r.provider? <;> rfl

end Registry

end ServiceBootstrap
