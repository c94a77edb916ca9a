import Mathlib.Tactic.Lemma
import ServiceBootstrap.Pending

/-!
The laws of the layers, poll by poll.

Two pending outcomes are alike if nobody who polls them can tell them apart: polled at the same
moments, with the same things happening in between, each poll ends in the same way and leaves the
same surroundings, up to the first that is not left waiting. Whatever a continuation does shows in
the surroundings, so it is run in the same poll and in the same order on both sides. Alikeness is
shown by a relation that each poll keeps, and up to the success of the pending outcome at the
bottom the two sides differ in their nesting only.
-/

namespace ServiceBootstrap.Pending

variable {σ W V : Type}

/-- Runs a continuation, and composes what it goes on with with another. -/
def Continuation.andThen (f g : Continuation σ W V) : Continuation σ W V where
  next v s := (f.next v s).compose g
  effect := f.effect
  discard s := g.discard (f.discard s)

/-- Goes on with the success itself. -/
def Continuation.pure : Continuation σ W V where
  next v _ := value v

/-- Goes on with what a function makes of the success. -/
def Continuation.ofMap (f : V → σ → V × σ) (discard : σ → σ) : Continuation σ W V where
  next v s := value (f v s).1
  effect v s := (f v s).2
  discard := discard

variable [Work σ W V]

/-- What polls show when something happens in front of each of them. -/
def watch (p : Pending σ W V) : List (σ → σ) → σ → List (Upshot V × σ)
  | [], _ => []
  | event :: events, s =>
    let polled := p.poll (event s)
    (polled.upshot, polled.surroundings) ::
      match polled.upshot with
      | .waiting => watch polled.rest events polled.surroundings
      | _ => []

def Alike (p q : Pending σ W V) : Prop := ∀ events s, p.watch events s = q.watch events s

/-- One poll of related pending outcomes shows the same, and relates what is left waiting. -/
def Simulation (R : Pending σ W V → Pending σ W V → Prop) : Prop :=
  ∀ p q s, R p q →
    (p.poll s).upshot = (q.poll s).upshot ∧
    (p.poll s).surroundings = (q.poll s).surroundings ∧
    ((p.poll s).upshot = .waiting → R (p.poll s).rest (q.poll s).rest)

lemma Simulation.alike {R : Pending σ W V → Pending σ W V → Prop} (hR : Simulation R)
    {p q : Pending σ W V} (h : R p q) : Alike p q := by
  intro events
  induction events generalizing p q with
  | nil => intro s; rfl
  | cons event events ih =>
    intro s
    obtain ⟨hup, hsur, hrest⟩ := hR p q (event s) h
    simp only [watch, ← hup, ← hsur]
    cases hw : (p.poll (event s)).upshot with
    | waiting => simp only [ih (hrest hw)]
    | outcome o => rfl
    | broken => rfl

/-- To be alike it is enough to be related until a poll makes both sides the same. -/
lemma alike_of_step {R : Pending σ W V → Pending σ W V → Prop}
    (hR : ∀ p q s, R p q → p.poll s = q.poll s ∨
      ∃ p' q' s', R p' q' ∧ p.poll s = ⟨.waiting, p', s'⟩ ∧ q.poll s = ⟨.waiting, q', s'⟩)
    {p q : Pending σ W V} (h : R p q) : Alike p q := by
  have hsim : Simulation fun a b : Pending σ W V => a = b ∨ R a b := by
    rintro a b s (rfl | hab)
    · exact ⟨rfl, rfl, fun _ => .inl rfl⟩
    · rcases hR a b s hab with heq | ⟨a', b', s', hab', ha, hb⟩
      · rw [heq]; exact ⟨rfl, rfl, fun _ => .inl rfl⟩
      · rw [ha, hb]; exact ⟨rfl, rfl, fun _ => .inr hab'⟩
  exact hsim.alike (.inr h)

/-! ### One poll of a layer -/

lemma poll_compose (p : Pending σ W V) (k : Continuation σ W V) (s : σ) :
    (p.compose k).poll s =
      match p.poll s with
      | ⟨.waiting, p', s'⟩ => ⟨.waiting, p'.compose k, s'⟩
      | ⟨.outcome (.ok v), _, s'⟩ => (k.next v s').poll (k.effect v s')
      | ⟨.outcome (.error e), _, s'⟩ => ⟨.outcome (.error e), .ready none, k.discard s'⟩
      | ⟨.broken, _, s'⟩ => ⟨.broken, .ready none, k.discard s'⟩ := by
  rcases hp : p.poll s with ⟨_ | (e | v) | _, p', s'⟩ <;> simp only [compose, poll, hp]

lemma poll_map (p : Pending σ W V) (f : V → σ → V × σ) (discard : σ → σ) (s : σ) :
    (p.map f discard).poll s =
      match p.poll s with
      | ⟨.waiting, p', s'⟩ => ⟨.waiting, p'.map f discard, s'⟩
      | ⟨.outcome (.ok v), _, s'⟩ => ⟨.outcome (.ok (f v s').1), .ready none, (f v s').2⟩
      | ⟨.outcome (.error e), _, s'⟩ => ⟨.outcome (.error e), .ready none, discard s'⟩
      | ⟨.broken, _, s'⟩ => ⟨.broken, .ready none, discard s'⟩ := by
  rcases hp : p.poll s with ⟨_ | (e | v) | _, p', s'⟩ <;> simp only [map, poll, hp]

lemma poll_value (v : V) (s : σ) :
    (value v : Pending σ W V).poll s = ⟨.outcome (.ok v), .ready none, s⟩ := rfl

/-! ### The laws -/

lemma compose_assoc (p : Pending σ W V) (f g : Continuation σ W V) :
    Alike ((p.compose f).compose g) (p.compose (f.andThen g)) := by
  refine alike_of_step (R := fun a b => ∃ p : Pending σ W V,
    a = (p.compose f).compose g ∧ b = p.compose (f.andThen g)) ?_ ⟨p, rfl, rfl⟩
  rintro _ _ s ⟨p, rfl, rfl⟩
  rw [poll_compose, poll_compose, poll_compose]
  rcases p.poll s with ⟨_ | (e | v) | _, p', s'⟩
  · exact .inr ⟨_, _, s', ⟨p', rfl, rfl⟩, rfl, rfl⟩
  · exact .inl rfl
  · -- the first continuation has been run, and both sides are what it gave, composed with the other
    exact .inl (poll_compose (f.next v s') g (f.effect v s')).symm
  · exact .inl rfl

lemma compose_pure (p : Pending σ W V) : Alike (p.compose .pure) p := by
  have hsim : Simulation fun a b : Pending σ W V => a = b.compose .pure := by
    rintro _ q s rfl
    rw [poll_compose]
    rcases q.poll s with ⟨_ | (e | v) | _, q', s'⟩
    · exact ⟨rfl, rfl, fun _ => rfl⟩
    · exact ⟨rfl, rfl, nofun⟩
    · exact ⟨rfl, rfl, nofun⟩
    · exact ⟨rfl, rfl, nofun⟩
  exact hsim.alike rfl

lemma map_eq_compose (p : Pending σ W V) (f : V → σ → V × σ) (discard : σ → σ) :
    Alike (p.map f discard) (p.compose (.ofMap f discard)) := by
  refine alike_of_step (R := fun a b => ∃ p : Pending σ W V,
    a = p.map f discard ∧ b = p.compose (.ofMap f discard)) ?_ ⟨p, rfl, rfl⟩
  rintro _ _ s ⟨p, rfl, rfl⟩
  rw [poll_map, poll_compose]
  rcases p.poll s with ⟨_ | (e | v) | _, p', s'⟩
  · exact .inr ⟨_, _, s', ⟨p', rfl, rfl⟩, rfl, rfl⟩
  · exact .inl rfl
  · exact .inl rfl
  · exact .inl rfl

lemma map_map (p : Pending σ W V) (f g : V → σ → V × σ) (df dg : σ → σ) :
    Alike ((p.map f df).map g dg)
      (p.map (fun v s => g (f v s).1 (f v s).2) fun s => dg (df s)) := by
  refine alike_of_step (R := fun a b => ∃ p : Pending σ W V,
    a = (p.map f df).map g dg ∧
      b = p.map (fun v s => g (f v s).1 (f v s).2) fun s => dg (df s)) ?_ ⟨p, rfl, rfl⟩
  rintro _ _ s ⟨p, rfl, rfl⟩
  rw [poll_map, poll_map, poll_map]
  rcases p.poll s with ⟨_ | (e | v) | _, p', s'⟩
  · exact .inr ⟨_, _, s', ⟨p', rfl, rfl⟩, rfl, rfl⟩
  · exact .inl rfl
  · exact .inl rfl
  · exact .inl rfl

/-- The first poll runs the continuation and polls what it gives. -/
lemma value_compose (v : V) (f : Continuation σ W V) (event : σ → σ) (events : List (σ → σ))
    (s : σ) :
    ((value v).compose f).watch (event :: events) s =
      (f.next v (event s)).watch ((fun _ => f.effect v (event s)) :: events) s := by
  simp only [watch, poll_compose, poll_value]

/-- **The laws of the layers.** Composing is associative, with the value as its unit on both
sides, and mapping is composing with a value. -/
theorem layer_laws (p : Pending σ W V) :
    (∀ f g : Continuation σ W V, Alike ((p.compose f).compose g) (p.compose (f.andThen g))) ∧
    Alike (p.compose .pure) p ∧
    (∀ (f : V → σ → V × σ) (df : σ → σ), Alike (p.map f df) (p.compose (.ofMap f df))) ∧
    (∀ (f g : V → σ → V × σ) (df dg : σ → σ),
      Alike ((p.map f df).map g dg)
        (p.map (fun v s => g (f v s).1 (f v s).2) fun s => dg (df s))) ∧
    (∀ (v : V) (f : Continuation σ W V) (event : σ → σ) (events : List (σ → σ)) (s : σ),
      ((value v).compose f).watch (event :: events) s =
        (f.next v (event s)).watch ((fun _ => f.effect v (event s)) :: events) s) ∧
    ∀ v : V, Alike ((value v).compose { next := fun _ _ => p }) p := by
  refine ⟨compose_assoc p, compose_pure p, map_eq_compose p, map_map p, value_compose, ?_⟩
  intro v events s
  cases events with
  | nil => rfl
  | cons event events => exact value_compose v _ event events s

end ServiceBootstrap.Pending
