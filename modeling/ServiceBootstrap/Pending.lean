import ServiceBootstrap.Failure

/-!
Outcomes that are still to come.

A pending outcome advances only when it is polled. It is made of a slot that already holds the
outcome, or of unfinished work, with any number of layers on top: a layer either settles what the
layer below gave, or goes on with a further pending outcome after a success. Polling a layer polls
what is below it, and a layer that is reached passes its own outcome up within the same poll.
Giving up a pending outcome gives up all that it still holds. Work that breaks down comes to no
outcome: the poll breaks down with it, and all that was still held is given up.

Work acts on surroundings of type `σ`, and its outcomes carry values of type `V`.
-/

namespace ServiceBootstrap

/-- What work is left with after it was polled. -/
inductive Progress (W V : Type) where
  | waiting (work : W)
  | finished (outcome : Outcome V)
  /-- Broke down, and still holds what is left. -/
  | broken (rest : W)

/-- Work that can be advanced, and given up while it is unfinished. -/
class Work (σ W V : Type) where
  advance : W → σ → Progress W V × σ
  abandon : W → σ → σ

inductive Pending (σ W V : Type) where
  /-- The outcome itself; it is taken by the first poll. -/
  | ready (slot : Option (Outcome V))
  | work (w : W)
  /-- Turns the outcome below into another, with an effect on the surroundings. What it holds is
  given up if there is no outcome. -/
  | settle (below : Pending σ W V) (finish : Outcome V → σ → Outcome V × σ) (discard : σ → σ)
  /-- After a success below, has the effect and goes on with the next pending outcome, both found
  from the surroundings at that moment. If there is no success, what the continuation holds is
  given up. -/
  | chain (below : Pending σ W V) (next : V → σ → Pending σ W V) (effect : V → σ → σ)
      (discard : σ → σ)

namespace Pending

variable {σ W V : Type}

def value (v : V) : Pending σ W V := .ready (some (.ok v))

def failed (e : Failure) : Pending σ W V := .ready (some (.error e))

/-- How a poll ends. -/
inductive Upshot (V : Type) where
  | waiting
  | outcome (o : Outcome V)
  /-- The poll broke down; there will be no outcome. -/
  | broken

def Upshot.outcome? : Upshot V → Option (Outcome V)
  | outcome o => some o
  | waiting | broken => none

/-- What a poll gives: how it ends, what is left, and the surroundings. -/
structure Polled (σ W V : Type) where
  upshot : Upshot V
  rest : Pending σ W V
  surroundings : σ

def poll [Work σ W V] : Pending σ W V → σ → Polled σ W V
  | .ready (some o), s => ⟨.outcome o, .ready none, s⟩
  | .ready none, s => ⟨.outcome (.error .abandoned), .ready none, s⟩
  | .work w, s =>
    match Work.advance (V := V) w s with
    | (.waiting w', s') => ⟨.waiting, .work w', s'⟩
    | (.finished o, s') => ⟨.outcome o, .ready none, s'⟩
    | (.broken w', s') => ⟨.broken, .ready none, Work.abandon (V := V) w' s'⟩
  | .settle below finish discard, s =>
    match poll below s with
    | ⟨.waiting, below', s'⟩ => ⟨.waiting, .settle below' finish discard, s'⟩
    | ⟨.outcome o, _, s'⟩ => ⟨.outcome (finish o s').1, .ready none, (finish o s').2⟩
    | ⟨.broken, _, s'⟩ => ⟨.broken, .ready none, discard s'⟩
  | .chain below next effect discard, s =>
    match poll below s with
    | ⟨.waiting, below', s'⟩ => ⟨.waiting, .chain below' next effect discard, s'⟩
    | ⟨.outcome (.ok v), _, s'⟩ => poll (next v s') (effect v s')
    | ⟨.outcome (.error e), _, s'⟩ => ⟨.outcome (.error e), .ready none, discard s'⟩
    | ⟨.broken, _, s'⟩ => ⟨.broken, .ready none, discard s'⟩

/-- Gives up a pending outcome and everything it still holds. -/
def abandon [Work σ W V] : Pending σ W V → σ → σ
  | .ready _, s => s
  | .work w, s => Work.abandon (V := V) w s
  | .settle below _ discard, s => discard (abandon below s)
  | .chain below _ _ discard, s => discard (abandon below s)

/-- Maps a success; failures pass through. The function may act on the surroundings, and may hold
something that is given up with it when it is not run. -/
def map (p : Pending σ W V) (f : V → σ → V × σ) (discard : σ → σ := id) : Pending σ W V :=
  .settle p (fun o s =>
    match o with
    | .ok v => (.ok (f v s).1, (f v s).2)
    | .error e => (.error e, discard s)) discard

/-- Looks at a failure without touching it. -/
def inspectFailure (p : Pending σ W V) (f : Failure → σ → σ) (discard : σ → σ := id) :
    Pending σ W V :=
  .settle p (fun o s =>
    match o with
    | .ok v => (.ok v, discard s)
    | .error e => (.error e, f e s)) discard

/-- What comes after a success: its effect, the pending outcome it goes on with, and what it
means to give it up unused. -/
structure Continuation (σ W V : Type) where
  next : V → σ → Pending σ W V
  effect : V → σ → σ := fun _ s => s
  discard : σ → σ := id

def compose (p : Pending σ W V) (k : Continuation σ W V) : Pending σ W V :=
  .chain p k.next k.effect k.discard

end Pending

end ServiceBootstrap
