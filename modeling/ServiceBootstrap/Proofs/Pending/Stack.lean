import ServiceBootstrap.Proofs.Pending.Laws

/-!
Stacks of layers on a pending outcome.

Whatever a layer is, a poll of it polls what is below. It waits as long as that waits. After a
success it goes on with a further pending outcome, which for a mapping and an observer holds the
value already. A failure it passes on, and the only thing it does about it is its own. So the
layers of a stack above a failure act on it one after the other, from the bottom up, in the poll
that the failure comes up in.
-/

namespace ServiceBootstrap.Pending

variable {σ W V : Type}

/-- One layer of a stack, with what it holds. -/
inductive Layer (σ W V : Type) where
  | map (f : V → σ → V × σ) (discard : σ → σ)
  | compose (k : Continuation σ W V)
  | inspect (f : Failure → σ → σ) (discard : σ → σ)

namespace Layer

/-- Puts a layer on a pending outcome. -/
def on (p : Pending σ W V) : Layer σ W V → Pending σ W V
  | map f discard => p.map f discard
  | compose k => p.compose k
  | inspect f discard => p.inspectFailure f discard

/-- What a layer goes on with after a success. -/
def next : Layer σ W V → V → σ → Pending σ W V
  | map f _, v, s => value (f v s).1
  | compose k, v, s => k.next v s
  | inspect _ _, v, _ => value v

/-- What a layer does after a success. -/
def effect : Layer σ W V → V → σ → σ
  | map f _, v, s => (f v s).2
  | compose k, v, s => k.effect v s
  | inspect _ discard, _, s => discard s

/-- What a layer does after a failure. -/
def onFailure (e : Failure) (s : σ) : Layer σ W V → σ
  | map _ discard => discard s
  | compose k => k.discard s
  | inspect f _ => f e s

/-- Gives up what a layer holds. -/
def giveUp (s : σ) : Layer σ W V → σ
  | map _ discard => discard s
  | compose k => k.discard s
  | inspect _ discard => discard s

end Layer

/-- Puts layers on a pending outcome, the first one at the bottom. -/
def stack (p : Pending σ W V) (layers : List (Layer σ W V)) : Pending σ W V :=
  layers.foldl Layer.on p

lemma stack_cons (p : Pending σ W V) (l : Layer σ W V) (above : List (Layer σ W V)) :
    stack p (l :: above) = stack (l.on p) above := rfl

variable [Work σ W V]

/-! ### One poll -/

lemma poll_inspectFailure (p : Pending σ W V) (f : Failure → σ → σ) (discard : σ → σ) (s : σ) :
    (p.inspectFailure f discard).poll s =
      match p.poll s with
      | ⟨.waiting, p', s'⟩ => ⟨.waiting, p'.inspectFailure f discard, s'⟩
      | ⟨.outcome (.ok v), _, s'⟩ => ⟨.outcome (.ok v), .ready none, discard s'⟩
      | ⟨.outcome (.error e), _, s'⟩ => ⟨.outcome (.error e), .ready none, f e s'⟩
      | ⟨.broken, _, s'⟩ => ⟨.broken, .ready none, discard s'⟩ := by
  rcases hp : p.poll s with ⟨_ | (e | v) | _, p', s'⟩ <;> simp only [inspectFailure, poll, hp]

lemma poll_on (l : Layer σ W V) (p : Pending σ W V) (s : σ) :
    (l.on p).poll s =
      match p.poll s with
      | ⟨.waiting, p', s'⟩ => ⟨.waiting, l.on p', s'⟩
      | ⟨.outcome (.ok v), _, s'⟩ => (l.next v s').poll (l.effect v s')
      | ⟨.outcome (.error e), _, s'⟩ => ⟨.outcome (.error e), .ready none, l.onFailure e s'⟩
      | ⟨.broken, _, s'⟩ => ⟨.broken, .ready none, l.giveUp s'⟩ := by
  cases l with
  | map f discard => exact poll_map p f discard s
  | compose k => exact poll_compose p k s
  | inspect f discard => exact poll_inspectFailure p f discard s

variable {p : Pending σ W V} {s : σ}

/-- A stack is polled as what is below it is polled. -/
lemma poll_stack_congr {q : Pending σ W V} {t : σ} (h : p.poll s = q.poll t)
    (layers : List (Layer σ W V)) : (stack p layers).poll s = (stack q layers).poll t := by
  induction layers generalizing p q with
  | nil => exact h
  | cons l above ih =>
    have hon : (l.on p).poll s = (l.on q).poll t := by rw [poll_on, poll_on, h]
    exact ih hon

lemma poll_stack_of_waiting {p' : Pending σ W V} {s' : σ} (h : p.poll s = ⟨.waiting, p', s'⟩)
    (layers : List (Layer σ W V)) :
    (stack p layers).poll s = ⟨.waiting, stack p' layers, s'⟩ := by
  induction layers generalizing p p' with
  | nil => exact h
  | cons l above ih =>
    have hon : (l.on p).poll s = ⟨.waiting, l.on p', s'⟩ := by rw [poll_on, h]
    exact ih hon

lemma poll_stack_of_success {v : V} {p' : Pending σ W V} {s' : σ}
    (h : p.poll s = ⟨.outcome (.ok v), p', s'⟩) (l : Layer σ W V) (above : List (Layer σ W V)) :
    (stack p (l :: above)).poll s = (stack (l.next v s') above).poll (l.effect v s') := by
  have hon : (l.on p).poll s = (l.next v s').poll (l.effect v s') := by rw [poll_on, h]
  exact poll_stack_congr hon above

/-- A failure comes up through a whole stack in one poll, and each layer acts on it in turn. -/
lemma poll_stack_of_failure {e : Failure} {p' : Pending σ W V} {s' : σ}
    (h : p.poll s = ⟨.outcome (.error e), p', s'⟩) (layers : List (Layer σ W V)) :
    ∃ rest, (stack p layers).poll s =
      ⟨.outcome (.error e), rest, layers.foldl (Layer.onFailure e) s'⟩ := by
  induction layers generalizing p p' s' with
  | nil => exact ⟨p', h⟩
  | cons l above ih =>
    have hon : (l.on p).poll s = ⟨.outcome (.error e), .ready none, l.onFailure e s'⟩ := by
      rw [poll_on, h]
    exact ih hon

lemma poll_stack_of_broken {p' : Pending σ W V} {s' : σ} (h : p.poll s = ⟨.broken, p', s'⟩)
    (layers : List (Layer σ W V)) :
    ∃ rest, (stack p layers).poll s = ⟨.broken, rest, layers.foldl Layer.giveUp s'⟩ := by
  induction layers generalizing p p' s' with
  | nil => exact ⟨p', h⟩
  | cons l above ih =>
    have hon : (l.on p).poll s = ⟨.broken, .ready none, l.giveUp s'⟩ := by rw [poll_on, h]
    exact ih hon

lemma abandon_stack (p : Pending σ W V) (layers : List (Layer σ W V)) (s : σ) :
    (stack p layers).abandon s = layers.foldl Layer.giveUp (p.abandon s) := by
  induction layers generalizing p with
  | nil => rfl
  | cons l above ih =>
    have hon : (l.on p).abandon s = l.giveUp (p.abandon s) := by cases l <;> rfl
    rw [stack_cons, ih, hon, List.foldl_cons]

end ServiceBootstrap.Pending
