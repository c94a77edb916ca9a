/-!
The loop that accepts the connections of one server.

While it selects, the loop takes whatever comes first: a signal on its channel, a connection, a
failure to accept, or a handler that has finished and can be taken out of the set of connections.
Being asked to stop makes it leave: it drops the listener, counts what is left in the set, and
ends once all of that is cut off. If instead everyone who could ask is gone, it goes on serving
and no longer looks at the channel.

The counts are natural numbers. A program that keeps them in 64 bits counts the same as long as it
takes fewer than `2 ^ 64` steps: no step adds more than one.
-/

namespace ServiceBootstrap.Server

/-- The channel on which the loop is asked to stop. -/
structure Signal where
  /-- A request that the loop has not seen. -/
  raised : Bool := false
  /-- Nobody is left who could ask. -/
  closed : Bool := false
  deriving DecidableEq, Repr, Inhabited

inductive Observation where
  | stop
  | deserted
  deriving DecidableEq, Repr

/-- What there is to see on the channel; a request is seen before the closing. -/
def Signal.observe? (s : Signal) : Option Observation :=
  if s.raised then some .stop else if s.closed then some .deserted else none

inductive Handler where
  | running
  | finished
  deriving DecidableEq, Repr, Inhabited

inductive Stand where
  | selecting
  /-- Waits for a moment after a failure to accept. -/
  | backingOff
  /-- Has left, and cuts off the connections. -/
  | leaving
  | ended
  deriving DecidableEq, Repr, Inhabited

structure Acceptor where
  stand : Stand := .selecting
  detached : Bool := false
  listening : Bool := true
  /-- The handlers in the set of connections, in the order of their acceptance. -/
  handlers : List Handler := []
  /-- How many connections were ever accepted. -/
  served : Nat := 0
  /-- How many handlers were taken out of the set after they had finished. -/
  reaped : Nat := 0
  /-- How many handlers were in the set when the loop left. -/
  aborted : Nat := 0
  deriving DecidableEq, Repr, Inhabited

namespace Acceptor

inductive Step where
  /-- The loop looks at its channel. -/
  | observe
  | accept
  | acceptFails
  | resume
  /-- The handler at a place of the set finishes, well or with a failure. -/
  | finish (place : Nat)
  /-- A handler that has finished is taken out of the set. -/
  | reap (place : Nat)
  /-- All connections are cut off, and the loop ends. -/
  | cutOff
  deriving DecidableEq, Repr

def leave (a : Acceptor) : Acceptor :=
  { a with stand := .leaving, listening := false, aborted := a.handlers.length }

/-- A step that is not possible changes nothing. -/
def step (signal : Signal) (a : Acceptor) : Step → Acceptor
  | .observe =>
    if a.stand = .selecting ∧ a.detached = false then
      match signal.observe? with
      | some .stop => a.leave
      | some .deserted => { a with detached := true }
      | none => a
    else a
  | .accept =>
    if a.stand = .selecting then
      { a with served := a.served + 1, handlers := a.handlers ++ [.running] }
    else a
  | .acceptFails => if a.stand = .selecting then { a with stand := .backingOff } else a
  | .resume => if a.stand = .backingOff then { a with stand := .selecting } else a
  | .finish place => { a with handlers := a.handlers.set place .finished }
  | .reap place =>
    if a.stand = .selecting ∧ a.handlers[place]? = some .finished then
      { a with handlers := a.handlers.eraseIdx place, reaped := a.reaped + 1 }
    else a
  | .cutOff => if a.stand = .leaving then { a with stand := .ended, handlers := [] } else a

/-- How many handlers are still running. -/
def running (a : Acceptor) : Nat := a.handlers.count .running

end Acceptor

end ServiceBootstrap.Server
