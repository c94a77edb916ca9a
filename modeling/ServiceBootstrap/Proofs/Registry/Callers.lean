import Mathlib.Tactic.Lemma
import ServiceBootstrap.Registry
import ServiceBootstrap.Table

/-!
Any number of callers at one registry, in any order of their steps.

A look-up checks for a provider without holding the registry, and only then waits for it. Between
the check and the choice others can register, choose, fail and break down, so the choice checks
again. Only one caller at a time is past that second check, and this is what makes the provider that
it keeps the only one there will ever be.

A factory that panics poisons the registry for all who take hold of it later. They go on with it all
the same, so that nobody can tell.
-/

namespace ServiceBootstrap

def Attempt.made? {P : Type} : Attempt P → Option P
  | made p => some p
  | failed _ | panicked _ => none

def Attempt.isPanic {P : Type} : Attempt P → Bool
  | panicked _ => true
  | made _ | failed _ => false

/-- Going on with an answer fails as the answer did. -/
lemma Attempt.map_andThen {P A σ : Type} (a : Attempt P) (use : P → σ → A × σ) (s : σ) :
    (a.andThen use s).1.map (fun _ => ()) = a.map fun _ => () := by
  cases a <;> rfl

/-- Where a call stands that looks for the provider, and may go on with it. -/
inductive Position (F P A : Type) where
  | idle
  /-- Has found no provider, and waits for the registry. -/
  | waiting
  /-- Holds the registry, and is in a factory. -/
  | calling (name : String) (factory : F)
  /-- Holds the registry, and has the answer. -/
  | leaving (answer : Attempt P)
  | answered (answer : Attempt P)
  /-- Has gone on with the answer. -/
  | done (answer : Attempt P) (result : Attempt A)

namespace Position

variable {F P A : Type}

def Holds : Position F P A → Prop
  | calling _ _ | leaving _ => True
  | idle | waiting | answered _ | done _ _ => False

def answer? : Position F P A → Option (Attempt P)
  | leaving a | answered a | done a _ => some a
  | idle | waiting | calling _ _ => none

end Position

/-- What somebody is told who asks for something else than the provider. -/
inductive Told where
  | registration (name : String) (outcome : Outcome Unit)
  | resolved (yes : Bool)
  | names (names : List String)

/-- Everything that can be seen of a registry and its callers. -/
structure Callers (σ F P A : Type) where
  registry : Registry F P := .new
  surroundings : σ
  /-- The caller that holds the registry. -/
  holder? : Option Nat := none
  /-- Somebody who held the registry let go of it in a panic. -/
  poisoned : Bool := false
  position : Table Nat (Position F P A) := .const .idle
  /-- The factories that were called so far, and how each call ended. -/
  calls : List (String × Attempt P) := []
  told : List Told := []

namespace Callers

variable {σ F P A : Type}

def put (k : Nat) (q : Position F P A) (c : Callers σ F P A) : Callers σ F P A :=
  { c with position := c.position.set k q }

/-- The registry for whoever takes hold of it: a poisoned one comes as an error that carries it. -/
def lock (c : Callers σ F P A) : Except (Registry F P) (Registry F P) :=
  if c.poisoned then .error c.registry else .ok c.registry

/-- The registry that somebody goes on with who has taken hold of it. -/
def taken (c : Callers σ F P A) : Registry F P :=
  match c.lock with
  | .ok r | .error r => r

@[simp] lemma taken_eq (c : Callers σ F P A) : c.taken = c.registry := by
  unfold taken lock
  cases c.poisoned <;> rfl

/-- The check that does not hold the registry. -/
def check (k : Nat) (c : Callers σ F P A) : Callers σ F P A :=
  match c.position.get k with
  | .idle =>
    match c.registry.provider? with
    | some p => c.put k (.answered (.made p))
    | none => c.put k .waiting
  | _ => c

/-- Takes hold of the registry once it is free, and goes as far as to the factory. -/
def enter (report : Event → σ → σ) (k : Nat) (c : Callers σ F P A) : Callers σ F P A :=
  match c.position.get k, c.holder? with
  | .waiting, none =>
    match c.taken.candidate with
    | .resolved p => { c with holder? := some k }.put k (.leaving (.made p))
    | .none => { c with holder? := some k }.put k (.leaving (.failed Registry.noProvider))
    | .factory name factory others =>
      let s := Registry.passOver report name others c.surroundings
      { c with holder? := some k, surroundings := s }.put k (.calling name factory)
  | _, _ => c

/-- The factory comes to its end. -/
def finish (call : String → F → σ → Attempt P × σ) (report : Event → σ → σ) (k : Nat)
    (c : Callers σ F P A) : Callers σ F P A :=
  match c.position.get k with
  | .calling name factory =>
    let (a, r, s) := c.registry.tryFactory call report name factory c.surroundings
    { c with registry := r, surroundings := s, calls := c.calls ++ [(name, a)] }.put k (.leaving a)
  | _ => c

/-- Lets go of the registry. -/
def leave (k : Nat) (c : Callers σ F P A) : Callers σ F P A :=
  match c.position.get k with
  | .leaving a =>
    { c with holder? := none, poisoned := c.poisoned || a.isPanic }.put k (.answered a)
  | _ => c

/-- Goes on with the provider, to start something on it or to have its builder. -/
def goOn (k : Nat) (use : P → σ → A × σ) (c : Callers σ F P A) : Callers σ F P A :=
  match c.position.get k with
  | .answered a =>
    let (b, s) := a.andThen use c.surroundings
    { c with surroundings := s }.put k (.done a b)
  | _ => c

/-- Registers a factory once the registry is free. -/
def register (report : Event → σ → σ) (name : String) (factory : F) (c : Callers σ F P A) :
    Callers σ F P A :=
  match c.holder? with
  | none =>
    let registration := c.taken.registration name
    { c with
      registry := c.taken.register name factory
      surroundings := registration.announce report name c.surroundings
      told := c.told ++ [.registration name (registration.outcome name)] }
  | some _ => c

/-- Tells whether there is a provider, without holding the registry. -/
def tellResolved (c : Callers σ F P A) : Callers σ F P A :=
  { c with told := c.told ++ [.resolved c.registry.isResolved] }

/-- Tells the names once the registry is free. -/
def tellNames (c : Callers σ F P A) : Callers σ F P A :=
  match c.holder? with
  | none => { c with told := c.told ++ [.names c.taken.names] }
  | some _ => c

inductive Move (σ F P A : Type) where
  | check (k : Nat)
  | enter (k : Nat)
  | finish (k : Nat)
  | leave (k : Nat)
  | goOn (k : Nat) (use : P → σ → A × σ)
  | register (name : String) (factory : F)
  | tellResolved
  | tellNames
  /-- Anything that happens beside the registry. -/
  | act (f : σ → σ)

variable (call : String → F → σ → Attempt P × σ) (report : Event → σ → σ)

def step (c : Callers σ F P A) : Move σ F P A → Callers σ F P A
  | .check k => c.check k
  | .enter k => c.enter report k
  | .finish k => c.finish call report k
  | .leave k => c.leave k
  | .goOn k use => c.goOn k use
  | .register name factory => c.register report name factory
  | .tellResolved => c.tellResolved
  | .tellNames => c.tellNames
  | .act f => { c with surroundings := f c.surroundings }

/-- A run from a new registry. -/
def run (s : σ) (moves : List (Move σ F P A)) : Callers σ F P A :=
  moves.foldl (step call report) { surroundings := s }

/-- What a position takes for granted: a factory is called for want of a provider, an answer that
is a provider is the one that is kept, and whoever goes on fails as the look-up did. -/
def Fits (r : Registry F P) : Position F P A → Prop
  | .idle | .waiting => True
  | .calling _ _ => r.provider? = none
  | .leaving a | .answered a => ∀ p, a = .made p → r.provider? = some p
  | .done a b => (∀ p, a = .made p → r.provider? = some p) ∧
      b.map (fun _ => ()) = a.map fun _ => ()

/-- What holds between any two steps. -/
structure Sound (c : Callers σ F P A) : Prop where
  holder : ∀ k, (c.position.get k).Holds ↔ c.holder? = some k
  fits : ∀ k, Fits c.registry (c.position.get k)
  made : c.calls.filterMap (·.2.made?) = c.registry.provider?.toList

/-! ### One step -/

variable {c : Callers σ F P A}

lemma get_position_put (k j : Nat) (q : Position F P A) :
    (c.put k q).position.get j = if j = k then q else c.position.get j := rfl

lemma made_append (calls : List (String × Attempt P)) (name : String) (a : Attempt P) :
    (calls ++ [(name, a)]).filterMap (·.2.made?) =
      calls.filterMap (·.2.made?) ++ a.made?.toList := by
  rw [List.filterMap_append]
  cases a <;> rfl

/-- A caller moves to another position, and the registry may change hands with it. -/
lemma Sound.put (h : Sound c) {k : Nat} (q : Position F P A) (holder? : Option Nat)
    (hholder : ∀ j, (if j = k then q else c.position.get j).Holds ↔ holder? = some j)
    (hfits : Fits c.registry q) (s : σ) (poisoned : Bool) :
    Sound ({ c with holder?, surroundings := s, poisoned }.put k q) where
  holder := hholder
  fits j := by
    rw [get_position_put]
    split
    · exact hfits
    · exact h.fits j
  made := h.made

/-- A caller that does not hold the registry moves to where it does not hold it either. -/
lemma Sound.put_free (h : Sound c) {k : Nat} (q : Position F P A) (hq : ¬ q.Holds)
    (hk : ¬ (c.position.get k).Holds) (hfits : Fits c.registry q) (s : σ) :
    Sound ({ c with surroundings := s }.put k q) := by
  refine h.put q c.holder? (fun j => ?_) hfits s c.poisoned
  split
  · next heq => rw [← h.holder j, heq]; exact iff_of_false hq hk
  · exact h.holder j

lemma Sound.check (h : Sound c) (k : Nat) : Sound (c.check k) := by
  unfold Callers.check
  split
  · next hidle =>
    have hfree : ¬ (c.position.get k).Holds := by rw [hidle]; exact id
    split
    · next p hp =>
      refine h.put_free (.answered (.made p)) id hfree ?_ c.surroundings
      rintro _ ⟨⟩
      exact hp
    · exact h.put_free .waiting id hfree trivial c.surroundings
  · exact h

lemma Sound.enter (h : Sound c) (k : Nat) : Sound (c.enter report k) := by
  unfold Callers.enter
  rw [taken_eq]
  split
  · next hwaiting hnone =>
    -- nobody holds a free registry, so the caller is the only one that does
    have hholder : ∀ q : Position F P A, q.Holds → ∀ j,
        (if j = k then q else c.position.get j).Holds ↔ some k = some j := by
      intro q hq j
      split
      · next heq => simp [heq, hq]
      · next hne => rw [h.holder j, hnone]; simp [Ne.symm hne]
    split
    · next p hcandidate =>
      refine h.put (.leaving (.made p)) _ (hholder _ trivial) ?_ c.surroundings c.poisoned
      rintro _ ⟨⟩
      exact Registry.candidate_eq_resolved hcandidate
    · exact h.put (.leaving (.failed _)) _ (hholder _ trivial) nofun c.surroundings c.poisoned
    · next hcandidate =>
      exact h.put (.calling _ _) _ (hholder _ trivial)
        (Registry.candidate_eq_factory hcandidate) _ c.poisoned
  · exact h

/-- While a caller is in a factory, nobody else relies on the registry. -/
lemma Sound.fits_of_calling (h : Sound c) {k : Nat} {name : String} {factory : F}
    (hk : c.position.get k = .calling name factory) (r : Registry F P) {j : Nat} (hne : j ≠ k) :
    Fits r (c.position.get j) := by
  have hholder : c.holder? = some k := (h.holder k).1 (by rw [hk]; trivial)
  have hnone : c.registry.provider? = none := by simpa [hk, Fits] using h.fits k
  have hfree : ¬ (c.position.get j).Holds := by
    rw [h.holder j, hholder, Option.some.injEq]
    exact hne.symm
  have hfits := h.fits j
  cases hj : c.position.get j with
  | idle => trivial
  | waiting => trivial
  | calling name factory => rw [hj] at hfree; exact absurd trivial hfree
  | leaving a => rw [hj] at hfree; exact absurd trivial hfree
  | answered a =>
    rw [hj] at hfits
    intro p hp
    simp [hfits p hp] at hnone
  | done a b =>
    rw [hj] at hfits
    refine ⟨fun p hp => ?_, hfits.2⟩
    simp [hfits.1 p hp] at hnone

lemma Sound.finish (h : Sound c) (k : Nat) : Sound (c.finish call report k) := by
  unfold Callers.finish
  split
  · next name factory hk =>
    have hnone : c.registry.provider? = none := by simpa [hk, Fits] using h.fits k
    have hcases := c.registry.tryFactory_cases call report name factory c.surroundings
    generalize c.registry.tryFactory call report name factory c.surroundings = t at hcases ⊢
    obtain ⟨a, r, s⟩ := t
    dsimp only at hcases ⊢
    have hholder : ∀ j, (if j = k then (.leaving a : Position F P A) else
        c.position.get j).Holds ↔ c.holder? = some j := by
      intro j
      split
      · next heq => rw [← h.holder j, heq, hk]; exact Iff.rfl
      · exact h.holder j
    rcases hcases with ⟨p, rfl, rfl⟩ | ⟨hfailed, rfl⟩
    · refine ⟨hholder, fun j => ?_, ?_⟩
      · rw [get_position_put]
        split
        · rintro _ ⟨⟩
          rfl
        · next hne => exact h.fits_of_calling hk _ hne
      · refine (made_append c.calls name _).trans ?_
        rw [h.made, hnone]
        rfl
    · refine ⟨hholder, fun j => ?_, ?_⟩
      · rw [get_position_put]
        split
        · exact fun p hp => absurd hp (hfailed p)
        · exact h.fits j
      · have ha : a.made? = none := by
          cases a with
          | made p => exact absurd rfl (hfailed p)
          | failed e => rfl
          | panicked message => rfl
        refine (made_append c.calls name _).trans ?_
        rw [h.made, ha, Option.toList_none, List.append_nil]
        rfl
  · exact h

lemma Sound.leave (h : Sound c) (k : Nat) : Sound (c.leave k) := by
  unfold Callers.leave
  split
  · next a hk =>
    have hholder : c.holder? = some k := (h.holder k).1 (by rw [hk]; trivial)
    have hfits : Fits c.registry (.answered a : Position F P A) := by
      simpa [hk, Fits] using h.fits k
    refine h.put (.answered a) none (fun j => ?_) hfits c.surroundings _
    split
    · exact iff_of_false id nofun
    · next hne => rw [h.holder j, hholder]; simp [Ne.symm hne]
  · exact h

lemma Sound.goOn (h : Sound c) (k : Nat) (use : P → σ → A × σ) : Sound (c.goOn k use) := by
  unfold Callers.goOn
  split
  · next a hk =>
    have hfits : ∀ p, a = .made p → c.registry.provider? = some p := by
      simpa [hk, Fits] using h.fits k
    refine h.put_free (.done a _) id (by rw [hk]; exact id) ⟨hfits, ?_⟩ _
    exact Attempt.map_andThen a use c.surroundings
  · exact h

lemma Sound.register (h : Sound c) (name : String) (factory : F) :
    Sound (c.register report name factory) := by
  unfold Callers.register
  rw [taken_eq]
  split
  · have hprovider : (c.registry.register name factory).provider? = c.registry.provider? := by
      unfold Registry.register
      split <;> rfl
    refine ⟨h.holder, fun k => ?_, h.made.trans (by rw [hprovider])⟩
    have hfits := h.fits k
    unfold Fits at hfits ⊢
    simpa only [hprovider] using hfits
  · exact h

lemma Sound.tellNames (h : Sound c) : Sound c.tellNames := by
  unfold Callers.tellNames
  split
  · exact ⟨h.holder, h.fits, h.made⟩
  · exact h

lemma Sound.step (h : Sound c) (m : Move σ F P A) : Sound (c.step call report m) := by
  cases m with
  | check k => exact h.check k
  | enter k => exact h.enter report k
  | finish k => exact h.finish call report k
  | leave k => exact h.leave k
  | goOn k use => exact h.goOn k use
  | register name factory => exact h.register report name factory
  | tellResolved => exact ⟨h.holder, h.fits, h.made⟩
  | tellNames => exact h.tellNames
  | act f => exact ⟨h.holder, h.fits, h.made⟩

lemma Sound.run (h : Sound c) (moves : List (Move σ F P A)) :
    Sound (moves.foldl (Callers.step call report) c) := by
  induction moves generalizing c with
  | nil => exact h
  | cons m moves ih => exact ih (h.step call report m)

lemma sound_new (s : σ) : Sound ({ surroundings := s } : Callers σ F P A) where
  holder _ := iff_of_false id nofun
  fits _ := trivial
  made := rfl

/-! ### What is told -/

/-- What a move tells of the registry, if it comes to it. -/
def tells (c : Callers σ F P A) : Move σ F P A → List Told
  | .register name _ =>
    if c.holder?.isSome then []
    else [.registration name ((c.registry.registration name).outcome name)]
  | .tellResolved => [.resolved c.registry.isResolved]
  | .tellNames => if c.holder?.isSome then [] else [.names c.registry.names]
  | _ => []

lemma told_step (c : Callers σ F P A) (m : Move σ F P A) :
    (c.step call report m).told = c.told ++ c.tells m := by
  cases m with
  | check k =>
    simp only [step, Callers.check, tells, List.append_nil]
    split
    · split <;> rfl
    · rfl
  | enter k =>
    simp only [step, Callers.enter, tells, List.append_nil]
    split
    · split <;> rfl
    · rfl
  | finish k =>
    simp only [step, Callers.finish, tells, List.append_nil]
    split <;> rfl
  | leave k =>
    simp only [step, Callers.leave, tells, List.append_nil]
    split <;> rfl
  | goOn k use =>
    simp only [step, Callers.goOn, tells, List.append_nil]
    split <;> rfl
  | register name factory =>
    simp only [step, Callers.register, taken_eq, tells]
    cases c.holder? with
    | none => rfl
    | some k => exact (List.append_nil _).symm
  | tellResolved => rfl
  | tellNames =>
    simp only [step, Callers.tellNames, taken_eq, tells]
    cases c.holder? with
    | none => rfl
    | some k => exact (List.append_nil _).symm
  | act f => exact (List.append_nil _).symm

/-! ### Panics -/

/-- The same callers, as if nobody had ever let go of the registry in a panic. -/
def cleared (c : Callers σ F P A) : Callers σ F P A := { c with poisoned := false }

lemma cleared_step (c : Callers σ F P A) (m : Move σ F P A) :
    (c.step call report m).cleared = (c.cleared.step call report m).cleared := by
  cases m with
  | check k =>
    simp only [step, Callers.check, cleared]
    split
    · split <;> rfl
    · rfl
  | enter k =>
    simp only [step, Callers.enter, taken_eq, cleared]
    split
    · split <;> rfl
    · rfl
  | finish k =>
    simp only [step, Callers.finish, cleared]
    split <;> rfl
  | leave k =>
    simp only [step, Callers.leave, cleared]
    split <;> rfl
  | goOn k use =>
    simp only [step, Callers.goOn, cleared]
    split <;> rfl
  | register name factory =>
    simp only [step, Callers.register, taken_eq, cleared]
    split <;> rfl
  | tellResolved => rfl
  | tellNames =>
    simp only [step, Callers.tellNames, taken_eq, cleared]
    split <;> rfl
  | act f => rfl

/-- Nobody can tell whether the registry is poisoned: whatever is done, it comes to the same. -/
theorem cleared_run (c : Callers σ F P A) (moves : List (Move σ F P A)) :
    (moves.foldl (step call report) c).cleared =
      (moves.foldl (step call report) c.cleared).cleared := by
  induction moves generalizing c with
  | nil => rfl
  | cons m moves ih =>
    rw [List.foldl_cons, List.foldl_cons, ih, cleared_step, ← ih]

/-! ### After the choice -/

/-- The registry is as it was, and no factory was called. -/
def Unmoved (c d : Callers σ F P A) : Prop := d.registry = c.registry ∧ d.calls = c.calls

lemma unmoved_check (c : Callers σ F P A) (k : Nat) : Unmoved c (c.check k) := by
  unfold Callers.check
  split
  · split <;> exact ⟨rfl, rfl⟩
  · exact ⟨rfl, rfl⟩

lemma unmoved_enter (c : Callers σ F P A) (k : Nat) : Unmoved c (c.enter report k) := by
  unfold Callers.enter
  split
  · split <;> exact ⟨rfl, rfl⟩
  · exact ⟨rfl, rfl⟩

lemma unmoved_leave (c : Callers σ F P A) (k : Nat) : Unmoved c (c.leave k) := by
  unfold Callers.leave
  split <;> exact ⟨rfl, rfl⟩

lemma unmoved_goOn (c : Callers σ F P A) (k : Nat) (use : P → σ → A × σ) :
    Unmoved c (c.goOn k use) := by
  unfold Callers.goOn
  split <;> exact ⟨rfl, rfl⟩

lemma unmoved_tellNames (c : Callers σ F P A) : Unmoved c c.tellNames := by
  unfold Callers.tellNames
  split <;> exact ⟨rfl, rfl⟩

/-- Once there is a provider, no step touches the registry or calls a factory. -/
lemma Sound.unmoved_step (h : Sound c) {p : P} (hp : c.registry.provider? = some p)
    (m : Move σ F P A) : Unmoved c (c.step call report m) := by
  cases m with
  | check k => exact unmoved_check c k
  | enter k => exact unmoved_enter report c k
  | leave k => exact unmoved_leave c k
  | goOn k use => exact unmoved_goOn c k use
  | tellResolved | act => exact ⟨rfl, rfl⟩
  | tellNames => exact unmoved_tellNames c
  | finish k =>
    change Unmoved c (c.finish call report k)
    unfold Callers.finish
    split
    · next hk =>
      -- a factory is called only for want of a provider
      have hfits := h.fits k
      rw [hk] at hfits
      simp [Fits, hp] at hfits
    · exact ⟨rfl, rfl⟩
  | register name factory =>
    change Unmoved c (c.register report name factory)
    unfold Callers.register
    rw [taken_eq]
    split
    · have hresolved : c.registry.isResolved := by simp [Registry.isResolved, hp]
      exact ⟨Registry.register_of_resolved hresolved name factory, rfl⟩
    · exact ⟨rfl, rfl⟩

lemma Sound.unmoved_run (h : Sound c) {p : P} (hp : c.registry.provider? = some p)
    (moves : List (Move σ F P A)) : Unmoved c (moves.foldl (Callers.step call report) c) := by
  induction moves generalizing c with
  | nil => exact ⟨rfl, rfl⟩
  | cons m moves ih =>
    obtain ⟨hregistry, hcalls⟩ := h.unmoved_step call report hp m
    have hp' : (c.step call report m).registry.provider? = some p := by rw [hregistry, hp]
    obtain ⟨hregistry', hcalls'⟩ := ih (h.step call report m) hp'
    exact ⟨hregistry'.trans hregistry, hcalls'.trans hcalls⟩

/-- What is told of a registry that has its provider. -/
def IsFinal (r : Registry F P) : Told → Prop
  | .registration name outcome =>
    outcome = if r.factories.contains name then .ok () else .error (.registryLocked name)
  | .resolved yes => yes = true
  | .names names => names = r.names

lemma outcome_of_resolved {r : Registry F P} {p : P} (hp : r.provider? = some p) (name : String) :
    (r.registration name).outcome name =
      if r.factories.contains name then .ok () else .error (.registryLocked name) := by
  unfold Registry.registration Registry.isResolved
  rw [hp]
  split <;> rfl

lemma isFinal_of_tells {p : P} (hp : c.registry.provider? = some p) {m : Move σ F P A} {t : Told}
    (ht : t ∈ c.tells m) : IsFinal c.registry t := by
  unfold tells at ht
  split at ht
  · next name factory =>
    split at ht
    · cases ht
    · rw [List.mem_singleton.1 ht]
      exact outcome_of_resolved hp name
  · rw [List.mem_singleton.1 ht]
    simp [IsFinal, Registry.isResolved, hp]
  · split at ht
    · cases ht
    · rw [List.mem_singleton.1 ht]
      rfl
  · cases ht

/-- Once there is a provider, all answers are those of the registry as it is. -/
lemma Sound.told_run (h : Sound c) {p : P} (hp : c.registry.provider? = some p)
    (moves : List (Move σ F P A)) :
    ∃ later, (moves.foldl (Callers.step call report) c).told = c.told ++ later ∧
      ∀ t ∈ later, IsFinal c.registry t := by
  induction moves generalizing c with
  | nil => exact ⟨[], (List.append_nil _).symm, nofun⟩
  | cons m moves ih =>
    obtain ⟨hregistry, -⟩ := h.unmoved_step call report hp m
    obtain ⟨later, hlater, hfinal⟩ := ih (h.step call report m) (by rw [hregistry, hp])
    refine ⟨c.tells m ++ later, ?_, fun t ht => ?_⟩
    · rw [List.foldl_cons, hlater, told_step, List.append_assoc]
    · rcases List.mem_append.1 ht with ht | ht
      · exact isFinal_of_tells hp ht
      · rw [← hregistry]
        exact hfinal t ht

/-- A look-up that nobody comes between is the look-up of the registry. -/
theorem lookup_alone {k : Nat} (hidle : c.position.get k = .idle) (hfree : c.holder? = none) :
    let d := (((c.check k).enter report k).finish call report k).leave k
    let (a, r, s) := c.registry.locate call report c.surroundings
    d.registry = r ∧ d.surroundings = s ∧ d.position.get k = .answered a ∧ d.holder? = none := by
  cases hp : c.registry.provider? with
  | some p =>
    simp [Callers.check, Callers.enter, Callers.finish, Callers.leave, hidle, hp, Callers.put,
      Registry.locate, hfree]
  | none =>
    rw [Registry.locate_eq_choose]
    unfold Registry.choose
    cases hcandidate : c.registry.candidate with
    | resolved p => simp [Registry.candidate_eq_resolved hcandidate] at hp
    | none =>
      simp [Callers.check, Callers.enter, Callers.finish, Callers.leave, hidle, hp, Callers.put,
        hfree, hcandidate]
    | factory name factory others =>
      simp [Callers.check, Callers.enter, Callers.finish, Callers.leave, hidle, hp, Callers.put,
        hfree, hcandidate]

/-! ### The choice -/

/-- **The choice is made once and is final.** Whatever the callers do and in whatever order, the
providers that factories made are the one that is kept, if there is one, and everybody who is
answered with a provider is answered with that one. Going on with an answer fails exactly as the
look-up did, and then nothing is called. From the choice on, the registry stays as it is: whoever
asks is told that there is a provider, and always the same names, and a registration comes to
nothing if its name is known, and is refused if it is new. -/
theorem choice_is_final (s : σ) (moves : List (Move σ F P A)) :
    let c := run call report s moves
    c.calls.filterMap (·.2.made?) = c.registry.provider?.toList ∧
    (∀ k p, (c.position.get k).answer? = some (.made p) → c.registry.provider? = some p) ∧
    (∀ k a b, c.position.get k = .done a b → b.map (fun _ => ()) = a.map fun _ => ()) ∧
    (∀ k a use, c.position.get k = .answered a →
      (∀ p, a = .made p →
        (c.goOn k use).position.get k = .done a (.made (use p c.surroundings).1) ∧
        (c.goOn k use).surroundings = (use p c.surroundings).2) ∧
      (a.made? = none →
        (c.goOn k use).surroundings = c.surroundings ∧ ∀ use', c.goOn k use = c.goOn k use')) ∧
    ∀ p, c.registry.provider? = some p →
      (∀ more, Unmoved c (run call report s (moves ++ more)) ∧
        ∃ later, (run call report s (moves ++ more)).told = c.told ++ later ∧
          ∀ t ∈ later, IsFinal c.registry t) ∧
      ∀ name factory,
        c.registry.register name factory = c.registry ∧
        (c.registry.registration name).outcome name =
          if c.registry.factories.contains name then .ok () else .error (.registryLocked name) := by
  intro c
  have h : Sound c := (sound_new s).run call report moves
  refine ⟨h.made, fun k p hk => ?_, fun k a b hk => ?_, fun k a use hk => ⟨?_, ?_⟩,
    fun p hp => ⟨fun more => ?_, fun name factory => ⟨?_, ?_⟩⟩⟩
  · have hfits := h.fits k
    cases hq : c.position.get k with
    | idle => simp [hq, Position.answer?] at hk
    | waiting => simp [hq, Position.answer?] at hk
    | calling name factory => simp [hq, Position.answer?] at hk
    | leaving a => rw [hq] at hk hfits; exact hfits p (Option.some.inj hk)
    | answered a => rw [hq] at hk hfits; exact hfits p (Option.some.inj hk)
    | done a b => rw [hq] at hk hfits; exact hfits.1 p (Option.some.inj hk)
  · have hfits := h.fits k
    rw [hk] at hfits
    exact hfits.2
  · rintro p rfl
    simp [Callers.goOn, hk, Callers.put, Attempt.andThen]
  · intro ha
    cases a with
    | made p => simp [Attempt.made?] at ha
    | failed e => simp [Callers.goOn, hk, Callers.put, Attempt.andThen]
    | panicked message => simp [Callers.goOn, hk, Callers.put, Attempt.andThen]
  · unfold run
    rw [List.foldl_append]
    exact ⟨h.unmoved_run call report hp more, h.told_run call report hp more⟩
  · exact Registry.register_of_resolved (by simp [Registry.isResolved, hp]) name factory
  · exact outcome_of_resolved hp name

/-- Two callers find no provider; the second waits for the first, whose provider it gets. -/
example :
    let call : String → Unit → Nat → Attempt Nat × Nat := fun _ _ n => (.made n, n + 1)
    let c : Callers Nat Unit Nat Nat := run call (fun _ n => n) 5
      [.register "a" (), .check 0, .check 1, .enter 0, .enter 1, .finish 0, .leave 0, .enter 1,
        .finish 1, .leave 1]
    c.calls = [("a", .made 5)] ∧
    (c.position.get 0).answer? = some (.made 5) ∧ (c.position.get 1).answer? = some (.made 5) := by
  decide

end Callers

end ServiceBootstrap
