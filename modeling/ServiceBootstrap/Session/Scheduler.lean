import ServiceBootstrap.Pending
import ServiceBootstrap.Session.Stage

/-!
Work on a stage, the pending outcomes that wait for it, and the schedulers that run what was
spawned.

Nothing runs by itself. Work advances when whoever holds it polls it: the owner of a pending
outcome, or a scheduler in a turn. Spawned work replies over a line; its owner holds the other end
of the line and nothing else, so the work goes on without the owner.
-/

namespace ServiceBootstrap

/-- The same progress of work that is held in another way. -/
def Progress.map {W X V : Type} (f : W → X) : Progress W V → Progress X V
  | waiting w => .waiting (f w)
  | finished o => .finished o
  | broken w => .broken (f w)

namespace Session

/-- Work on a stage. Spawned work, known by the line it replies on, is woken when it can go on. -/
class Task (W : Type) where
  advance : Option Line → W → Stage W → Progress W Yield × Stage W
  abandon : W → Stage W → Stage W

/-- Where an outcome comes from: over a line, or from work of one's own. -/
inductive Source (W : Type) where
  | line (line : Line)
  | work (w : W)

variable {W : Type} [Task W]

instance : Work (Stage W) (Source W) Yield where
  advance
    | .line line, s =>
      match s.receive none line with
      | (some o, s) => (.finished o, s)
      | (none, s) => (.waiting (.line line), s)
    | .work w, s => ((Task.advance none w s).1.map .work, (Task.advance none w s).2)
  abandon
    | .line line, s => s.hangUp line
    | .work w, s => Task.abandon w s

abbrev Pending (W : Type) := ServiceBootstrap.Pending (Stage W) (Source W) Yield

/-- Waits for what comes over a line. -/
def Pending.receive {W : Type} (line : Line) : Pending W := .work (.line line)

/-- Waits for work by advancing it. -/
def Pending.future {W : Type} (w : W) : Pending W := .work (.work w)

namespace Stage

/-- Whether a scheduler is still there. That of the network provider goes with the provider. -/
def runs (s : Stage W) : Scheduler → Bool
  | .session => s.alive
  | .provider => s.provider.alive

/-- A scheduler is there no longer. -/
def retire (r : Scheduler) (s : Stage W) : Stage W :=
  match r with
  | .session => { s with alive := false }
  | .provider => { s with provider := s.provider.drop }

/-- Gives work to the scheduler of its line; without one it is given up at once. -/
def spawn (line : Line) (w : W) (s : Stage W) : Stage W :=
  if s.runs line.scheduler then
    { s with
      tasks := s.tasks.set line (some w)
      spawned := s.spawned ++ [line]
      queue := s.queue ++ [line] }
  else (Task.abandon w s).closeLine line

/-- Spawned work comes to its end, and leaves something on its line. -/
def endTask (line : Line) (l : LineState) (s : Stage W) : Stage W :=
  ({ s with tasks := s.tasks.set line none }.endSilence line l).2

/-- Spawned work goes away without an outcome. -/
def giveUpTask (line : Line) (w : W) (s : Stage W) : Stage W :=
  (Task.abandon w s).endTask line .closed

/-- What becomes of spawned work that was advanced. -/
def settleTask (line : Line) (p : Progress W Yield) (s : Stage W) : Stage W :=
  match p with
  | .waiting w => { s with tasks := s.tasks.set line (some w) }
  | .finished o => s.endTask line (.sent o)
  | .broken w => s.giveUpTask line w

/-- Lets spawned work go as far as it can. -/
def advanceTask (line : Line) (w : W) (s : Stage W) : Stage W :=
  (Task.advance (some line) w s).2.settleTask line (Task.advance (some line) w s).1

/-- Does something with a piece of spawned work, unless it has come to its end. -/
def onTask (act : Line → W → Stage W → Stage W) (s : Stage W) (line : Line) : Stage W :=
  match s.tasks.get line with
  | none => s
  | some w => act line w s

def runTask (s : Stage W) (line : Line) : Stage W := s.onTask advanceTask line

def dropTask (s : Stage W) (line : Line) : Stage W := s.onTask giveUpTask line

/-- One turn of a scheduler: all its work that can go on does, in the order of the queue. -/
def turn (r : Scheduler) (s : Stage W) : Stage W :=
  (s.queue.filter (·.scheduler = r)).foldl runTask
    { s with queue := s.queue.filter (·.scheduler ≠ r) }

/-- A turn of every scheduler. -/
def turnAll (s : Stage W) : Stage W := (s.turn .session).turn .provider

/-- A scheduler goes away, and all its unfinished work with it. -/
def shutdown (r : Scheduler) (s : Stage W) : Stage W :=
  let s := (s.spawned.filter (·.scheduler = r)).foldl dropTask (s.retire r)
  { s with queue := s.queue.filter (·.scheduler ≠ r) }

end Stage

/-- Spawns work with a new line, and waits for what it replies. -/
def Pending.spawn (line : Line) (w : W) (s : Stage W) : Pending W × Stage W :=
  (.receive line, (s.setLine line (.silent none)).spawn line w)

end Session

end ServiceBootstrap
