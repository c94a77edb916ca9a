import ServiceBootstrap.Proofs.Pending.Record

/-!
Failures on their way through a stack.

A failure that comes up anywhere in a stack is the outcome of the whole stack in that same poll.
Nothing of what is above it is run but the observers, each of them once and from the bottom up, and
no observer below it ever is. Behind the outcome, and once the stack was given up, nothing is run
any more. All of this is read off the record that stands beside the stack.
-/

namespace ServiceBootstrap

variable {σ W V : Type}

namespace Handle

/-- How a pending outcome has ended for its owner. -/
def upshot : Handle σ W V → Pending.Upshot V
  | held _ => .waiting
  | resolved o => .outcome o
  | gone => .broken

/-- What the owner of a pending outcome does, and what happens around it. -/
inductive Move (σ : Type) where
  | poll
  | drop
  | act (f : σ → σ)

variable [Work σ W V]

def move (c : Handle σ W V × σ) : Move σ → Handle σ W V × σ
  | .poll => c.1.poll c.2
  | .drop => c.1.drop c.2
  | .act f => (c.1, f c.2)

def play (c : Handle σ W V × σ) (moves : List (Move σ)) : Handle σ W V × σ := moves.foldl move c

lemma upshot_drop (c : Handle σ W V × σ) : (move c .drop).1.upshot ≠ .waiting := by
  rcases c with ⟨p | o | _, s⟩ <;> nofun

lemma poll_congr {p q : Pending σ W V} {s t : σ} (h : p.poll s = q.poll t) :
    (held p).poll s = (held q).poll t := by
  rw [poll_held, poll_held, h]

end Handle

namespace Pending

open Handle (Move)

/-- The same move beside a record, into which it writes nothing. -/
def besideMove : Move σ → Move (Recorded σ)
  | .poll => .poll
  | .drop => .drop
  | .act f => .act (Recorded.act f)

/-- A stack in the hands of its owner, and the same stack beside its record: some layers are
passed, and are what is written down. -/
inductive Standing (layers : List (Layer σ W V)) :
    Handle σ W V × σ → Handle (Recorded σ) W V × Recorded σ → Prop where
  | held (below above : List (Layer σ W V)) (h : below ++ above = layers) (p : Pending σ W V)
      (s : σ) :
    Standing layers (.held (stack p above), s)
      (.held (stack (p.under below.length) (recordedFrom below.length above)),
        ⟨s, entries Layer.passed 0 below⟩)
  | succeeded (v : V) (s : σ) :
    Standing layers (.resolved (.ok v), s)
      (.resolved (.ok v), ⟨s, entries Layer.passed 0 layers⟩)
  | failed (below above : List (Layer σ W V)) (h : below ++ above = layers) (e : Failure) (s : σ) :
    Standing layers (.resolved (.error e), s)
      (.resolved (.error e), ⟨s, entries Layer.passed 0 below ++
        .failed below.length e :: entries (Layer.informed e) below.length above⟩)
  | gone (below above : List (Layer σ W V)) (h : below ++ above = layers) (s : σ) :
    Standing layers (.gone, s) (.gone, ⟨s, entries Layer.passed 0 below⟩)

variable {layers : List (Layer σ W V)} {c : Handle σ W V × σ}
  {d : Handle (Recorded σ) W V × Recorded σ}

/-! ### What a record says -/

lemma Standing.seen (h : Standing layers c d) :
    d.1.upshot = c.1.upshot ∧ d.2.surroundings = c.2 := by
  cases h <;> exact ⟨rfl, rfl⟩

/-- A failure that is written down is the outcome of the stack. -/
lemma Standing.of_failed (h : Standing layers c d) {i : Nat} {e : Failure}
    (hmem : .failed i e ∈ d.2.record) :
    d.1 = .resolved (.error e) ∧
      ∃ below above, below ++ above = layers ∧ below.length = i ∧
        d.2.record = entries Layer.passed 0 below ++
          .failed i e :: entries (Layer.informed e) i above := by
  have hpassed : ∀ ls : List (Layer σ W V), .failed i e ∉ entries Layer.passed 0 ls := by
    intro ls hls
    obtain ⟨j, l, hl⟩ := exists_of_mem_entries hls
    cases l <;> simp [Layer.passed] at hl
  cases h with
  | held below above h p s => exact absurd hmem (hpassed below)
  | succeeded v s => exact absurd hmem (hpassed layers)
  | gone below above h s => exact absurd hmem (hpassed below)
  | failed below above h e' s =>
    have hinformed : .failed i e ∉ entries (Layer.informed e') below.length above := by
      intro hls
      obtain ⟨j, l, hl⟩ := exists_of_mem_entries hls
      cases l <;> simp [Layer.informed] at hl
    rcases List.mem_append.1 hmem with hmem | hmem
    · exact absurd hmem (hpassed below)
    · rcases List.mem_cons.1 hmem with heq | hmem
      · cases heq
        exact ⟨rfl, below, above, h, rfl, rfl⟩
      · exact absurd hmem hinformed

lemma Standing.failed_of_resolved (h : Standing layers c d) {e : Failure}
    (hd : d.1 = .resolved (.error e)) : ∃ i, .failed i e ∈ d.2.record := by
  cases h with
  | held below above h p s => cases hd
  | succeeded v s => cases hd
  | gone below above h s => cases hd
  | failed below above h e' s =>
    cases hd
    exact ⟨below.length, List.mem_append_right _ List.mem_cons_self⟩

lemma Standing.of_success (h : Standing layers c d) {v : V} (hd : d.1 = .resolved (.ok v)) :
    d.2.record = entries Layer.passed 0 layers := by
  cases h with
  | held below above h p s => cases hd
  | succeeded v s => rfl
  | gone below above h s => cases hd
  | failed below above h e s => cases hd

/-- The layers of which something was run stand in the record from the bottom up, each once. -/
lemma Standing.ran (h : Standing layers c d) :
    (d.2.record.filterMap Entry.ran?).Pairwise (· < ·) := by
  have hpassed : ∀ below : List (Layer σ W V),
      ((entries Layer.passed 0 below).filterMap Entry.ran?).Sublist
        (List.range' 0 below.length) := ran_entries ran_passed 0
  have hascending : ∀ n, (List.range' 0 n).Pairwise (· < ·) := fun n => List.pairwise_lt_range'
  cases h with
  | held below above h p s => exact (hascending _).sublist (hpassed below)
  | succeeded v s => exact (hascending _).sublist (hpassed layers)
  | gone below above h s => exact (hascending _).sublist (hpassed below)
  | failed below above h e s =>
    have hran := (hpassed below).append (ran_entries (ran_informed e) below.length above)
    have hrange : List.range' 0 below.length ++ List.range' below.length above.length =
        List.range' 0 (below.length + above.length) := by
      rw [← List.range'_append_1, Nat.zero_add]
    rw [hrange] at hran
    rw [List.filterMap_append, List.filterMap_cons]
    exact (hascending _).sublist hran

variable [Work σ W V]

/-! ### One poll -/

/-- Without a success at the bottom the poll ends there, for the whole stack. -/
lemma standing_poll_of_no_success {below above : List (Layer σ W V)} (h : below ++ above = layers)
    {p : Pending σ W V} {s : σ} (hp : ¬ ∃ v p' s', p.poll s = ⟨.outcome (.ok v), p', s'⟩) :
    Standing layers ((Handle.held (stack p above)).poll s)
      ((Handle.held (stack (p.under below.length) (recordedFrom below.length above))).poll
        ⟨s, entries Layer.passed 0 below⟩) := by
  have hunder := poll_under below.length p s (entries Layer.passed 0 below)
  rw [Handle.poll_held, Handle.poll_held]
  rcases hpoll : p.poll s with ⟨_ | (e | v) | _, p', s'⟩ <;> rw [hpoll] at hunder
  · rw [poll_stack_of_waiting hpoll, poll_stack_of_waiting hunder]
    exact .held below above h p' s'
  · obtain ⟨rest, hstack⟩ := poll_stack_of_failure hpoll above
    obtain ⟨rest', hrecorded⟩ :=
      poll_stack_of_failure hunder (recordedFrom below.length above)
    rw [hstack, hrecorded, onFailure_recordedFrom, List.append_assoc]
    exact .failed below above h e _
  · exact absurd ⟨v, p', s', hpoll⟩ hp
  · obtain ⟨rest, hstack⟩ := poll_stack_of_broken hpoll above
    obtain ⟨rest', hrecorded⟩ := poll_stack_of_broken hunder (recordedFrom below.length above)
    rw [hstack, hrecorded, giveUp_recordedFrom]
    exact .gone below above h _

/-- One poll goes up through as many layers as there are successes for. -/
lemma standing_poll (below above : List (Layer σ W V)) (h : below ++ above = layers)
    (p : Pending σ W V) (s : σ) :
    Standing layers ((Handle.held (stack p above)).poll s)
      ((Handle.held (stack (p.under below.length) (recordedFrom below.length above))).poll
        ⟨s, entries Layer.passed 0 below⟩) := by
  induction above generalizing below p s with
  | nil =>
    by_cases hsuccess : ∃ v p' s', p.poll s = ⟨.outcome (.ok v), p', s'⟩
    · obtain ⟨v, p', s', hpoll⟩ := hsuccess
      have hunder : (p.under below.length).poll ⟨s, entries Layer.passed 0 below⟩ =
          ⟨.outcome (.ok v), .ready none, ⟨s', entries Layer.passed 0 below⟩⟩ := by
        rw [poll_under, hpoll]
      obtain rfl : below = layers := (List.append_nil below).symm.trans h
      simp only [stack, recordedFrom, List.foldl_nil, Handle.poll_held, hpoll, hunder]
      exact .succeeded v s'
    · exact standing_poll_of_no_success h hsuccess
  | cons l above ih =>
    by_cases hsuccess : ∃ v p' s', p.poll s = ⟨.outcome (.ok v), p', s'⟩
    · obtain ⟨v, p', s', hpoll⟩ := hsuccess
      have hunder : (p.under below.length).poll ⟨s, entries Layer.passed 0 below⟩ =
          ⟨.outcome (.ok v), .ready none, ⟨s', entries Layer.passed 0 below⟩⟩ := by
        rw [poll_under, hpoll]
      -- the layer goes on in the same poll, under the layers that are left
      have hstack := poll_stack_of_success hpoll l above
      have hrecorded := (poll_stack_of_success hunder (l.recorded below.length)
        (recordedFrom (below.length + 1) above)).trans
          (poll_stack_congr (poll_next_recorded below.length l v s' _) _)
      have hpassed : entries Layer.passed 0 (below ++ [l]) =
          entries Layer.passed 0 below ++ l.passed below.length := by
        rw [entries_append, entries, entries, List.append_nil, Nat.zero_add]
      have hnext := ih (below ++ [l]) ((List.append_assoc ..).trans h) (l.next v s') (l.effect v s')
      rw [List.length_append, List.length_singleton, hpassed] at hnext
      rw [Handle.poll_congr hstack, recordedFrom, Handle.poll_congr hrecorded]
      exact hnext
    · exact standing_poll_of_no_success h hsuccess

/-! ### A run -/

/-- Giving up a stack writes nothing down. -/
lemma abandon_recorded (i : Nat) (p : Pending σ W V) (above : List (Layer σ W V))
    (r : Recorded σ) :
    (stack (p.under i) (recordedFrom i above)).abandon r = r.act (stack p above).abandon := by
  have hunder : (p.under i).abandon r = r.act p.abandon := abandon_besideRecord p r
  rw [abandon_stack, hunder, giveUp_recordedFrom]
  unfold Recorded.act
  rw [abandon_stack]

lemma Standing.move (h : Standing layers c d) (m : Move σ) :
    Standing layers (Handle.move c m) (Handle.move d (besideMove m)) := by
  cases m with
  | poll =>
    cases h with
    | held below above h p s => exact standing_poll below above h p s
    | succeeded v s => exact .succeeded v s
    | failed below above h e s => exact .failed below above h e s
    | gone below above h s => exact .gone below above h s
  | drop =>
    cases h with
    | held below above h p s =>
      simp only [Handle.move, besideMove, Handle.drop_held, abandon_recorded]
      exact .gone below above h ((stack p above).abandon s)
    | succeeded v s => exact .succeeded v s
    | failed below above h e s => exact .failed below above h e s
    | gone below above h s => exact .gone below above h s
  | act f =>
    cases h with
    | held below above h p s => exact .held below above h p (f s)
    | succeeded v s => exact .succeeded v (f s)
    | failed below above h e s => exact .failed below above h e (f s)
    | gone below above h s => exact .gone below above h (f s)

lemma Standing.play (h : Standing layers c d) (moves : List (Move σ)) :
    Standing layers (Handle.play c moves) (Handle.play d (moves.map besideMove)) := by
  induction moves generalizing c d with
  | nil => exact h
  | cons m moves ih => exact ih (h.move m)

/-- Where there is nothing left to poll, nothing is run any more. -/
lemma Standing.record_play (h : Standing layers c d) (hd : d.1.upshot ≠ .waiting)
    (moves : List (Move σ)) :
    (Handle.play d (moves.map besideMove)).2.record = d.2.record := by
  induction moves generalizing c d with
  | nil => rfl
  | cons m moves ih =>
    have hsame : (Handle.move d (besideMove m)).1 = d.1 ∧
        (Handle.move d (besideMove m)).2.record = d.2.record := by
      cases h with
      | held below above h p s => exact absurd rfl hd
      | succeeded v s => cases m <;> exact ⟨rfl, rfl⟩
      | failed below above h e s => cases m <;> exact ⟨rfl, rfl⟩
      | gone below above h s => cases m <;> exact ⟨rfl, rfl⟩
    exact (ih (h.move m) (by rwa [hsame.1])).trans hsame.2

/-- Nothing is run but in a poll. -/
lemma Standing.record_move (h : Standing layers c d) {m : Move σ} (hm : m ≠ .poll) :
    (Handle.move d (besideMove m)).2.record = d.2.record := by
  cases m with
  | poll => exact absurd rfl hm
  | act f => rfl
  | drop =>
    cases h with
    | held below above h p s =>
      simp only [Handle.move, besideMove, Handle.drop_held, abandon_recorded, Recorded.act]
    | succeeded v s => rfl
    | failed below above h e s => rfl
    | gone below above h s => rfl

/-- **Failures pass through any stack untouched.** When the lower part of a stack fails in a poll,
then so does the whole stack in that poll, with the same failure, and all that the layers above do
is what each of them does about a failure, one after the other. Read off the record, which shows
nothing but what the stack itself would show: the failure of the pending outcome under any layer is
the outcome of the whole stack. By then the continuations below that layer have been run and no
observer of them, and of what is above the observers have been run on that failure and no
continuation, from the bottom up. In every run each continuation and each observer is run at most
once, only in a poll, and never once the stack has been given up. -/
theorem failures_pass_through (p : Pending σ W V) (layers : List (Layer σ W V)) (s : σ)
    (moves : List (Move σ)) :
    let seen := Handle.play (.held (stack p layers), s) moves
    let c := Handle.play (.held (recordedStack p layers), ⟨s, []⟩) (moves.map besideMove)
    (∀ below above, below ++ above = layers → ∀ t e rest t',
      (stack p below).poll t = ⟨.outcome (.error e), rest, t'⟩ →
      ∃ rest', (stack p layers).poll t =
        ⟨.outcome (.error e), rest', above.foldl (Layer.onFailure e) t'⟩) ∧
    (c.1.upshot = seen.1.upshot ∧ c.2.surroundings = seen.2) ∧
    (∀ i e, .failed i e ∈ c.2.record →
      c.1 = .resolved (.error e) ∧
      ∃ below above, below ++ above = layers ∧ below.length = i ∧
        c.2.record = entries Layer.passed 0 below ++
          .failed i e :: entries (Layer.informed e) i above) ∧
    (∀ e, c.1 = .resolved (.error e) → ∃ i, .failed i e ∈ c.2.record) ∧
    (∀ v, c.1 = .resolved (.ok v) → c.2.record = entries Layer.passed 0 layers) ∧
    (c.2.record.filterMap Entry.ran?).Pairwise (· < ·) ∧
    (∀ m : Move σ, m ≠ .poll → (Handle.move c (besideMove m)).2.record = c.2.record) ∧
    ∀ more : List (Move σ),
      (Handle.play (Handle.move c .drop) (more.map besideMove)).2.record = c.2.record := by
  intro seen c
  have h : Standing layers seen c := (Standing.held [] layers rfl p s).play moves
  refine ⟨fun below above habove t e rest t' hfails => ?_, h.seen, fun i e hmem => h.of_failed hmem,
    fun e hresolved => h.failed_of_resolved hresolved, fun v hresolved => h.of_success hresolved,
    h.ran, fun m hm => h.record_move hm, fun more => ?_⟩
  · have hstack : stack p layers = stack (stack p below) above := by
      rw [← habove]
      exact List.foldl_append
    rw [hstack]
    exact poll_stack_of_failure hfails above
  · have hgone := (h.move .drop).record_play (Handle.upshot_drop c) more
    exact hgone.trans (h.record_move nofun)

/-- The second layer goes on with a failure, which only the observer above it gets to see. -/
example (f : Failure → σ → σ) (g : V → σ → V × σ) (v : V) (e : Failure) (s : σ) :
    (Handle.play (.held (recordedStack (value v : Pending σ W V) [.inspect f id,
      .compose { next := fun _ _ => failed e }, .map g id, .inspect f id]), ⟨s, []⟩)
      [.poll]).2.record = [.continued 1, .failed 2 e, .observed 3 e] :=
  rfl

end Pending

end ServiceBootstrap
