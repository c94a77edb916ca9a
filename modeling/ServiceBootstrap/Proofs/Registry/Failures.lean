import ServiceBootstrap.Proofs.Registry.Attempts

/-!
What fails at a registry leaves no trace there.

The registry changes in two ways only: a factory makes a provider, or a new name is added. So the
look-ups that got no provider and the registrations that added nothing can be taken out of a run,
and nobody else sees the difference.
-/

namespace ServiceBootstrap

namespace Registry

variable {F P : Type}

lemma registration_of_mem {r : Registry F P} {name : String} (h : name ∈ r.names) :
    r.registration name = .known :=
  if_pos (NameMap.mem_names.1 h)

lemma registration_of_notMem {r : Registry F P} {name : String} (h : name ∉ r.names)
    (hresolved : r.isResolved) : r.registration name = .refused := by
  have hnew : ¬ r.factories.contains name := fun hknown => h (NameMap.mem_names.2 hknown)
  unfold registration
  rw [if_neg hnew, if_pos hresolved]

lemma register_of_names_or_resolved {r : Registry F P} {name : String}
    (h : name ∈ r.names ∨ r.isResolved) (factory : F) : r.register name factory = r := by
  refine register_of_not_added (fun hadded => ?_) factory
  obtain ⟨hnew, hnone⟩ := registration_eq_added.1 hadded
  rcases h with hknown | hresolved
  · exact hnew hknown
  · simp [isResolved, hnone] at hresolved

lemma find?_register_new {r : Registry F P} (h : r.provider? = none) {name : String}
    (hname : name ∉ r.names) (factory : F) (other : String) :
    (r.register name factory).factories.find? other =
      if other = name then some factory else r.factories.find? other := by
  have hfind : r.factories.find? name = none :=
    Option.not_isSome_iff_eq_none.1 fun hsome => hname (NameMap.mem_names.2 hsome)
  rw [find?_register h]
  by_cases hother : other = name
  · rw [if_pos hother, if_pos hother, hother, hfind, Option.none_or]
  · rw [if_neg hother, if_neg hother, Option.or_none]

end Registry

namespace Callers

variable {σ F P A : Type} (call : String → F → σ → Attempt P × σ) (report : Event → σ → σ)
variable {c d : Callers σ F P A}

/-! ### Without those that fail -/

/-- Nothing but surroundings depends on the move: it is one of the callers that are gone, or it
waits for the registry, or it registers a name that is not added. What it is told is nobody else's
concern. -/
def vain (gone : Nat → Bool) (c : Callers σ F P A) : Move σ F P A → Bool
  | .check k | .finish k | .leave k | .goOn k _ => gone k
  | .enter k => gone k || c.holder?.isSome
  | .register name _ => c.holder?.isSome || c.registry.registration name ≠ .added
  | .tellNames => c.holder?.isSome
  | .tellResolved | .act _ => false

/-- The moves of a run with all vain ones left out: what they do to surroundings happens beside
the registry. -/
def without (gone : Nat → Bool) : Callers σ F P A → List (Move σ F P A) → List (Move σ F P A)
  | _, [] => []
  | c, m :: moves =>
    (if c.vain gone m then .act fun _ => (c.step call report m).surroundings else m) ::
      without gone (c.step call report m) moves

/-- What is told in a run, but for what vain moves are told. -/
def toldWithout (gone : Nat → Bool) : Callers σ F P A → List (Move σ F P A) → List Told
  | _, [] => []
  | c, m :: moves =>
    (if c.vain gone m then [] else c.tells m) ++ toldWithout gone (c.step call report m) moves

/-- Two runs look the same to all but the callers that are gone, and none of these has hold of the
registry in the second. -/
structure Same (gone : Nat → Bool) (c d : Callers σ F P A) : Prop where
  registry : d.registry = c.registry
  surroundings : d.surroundings = c.surroundings
  holder : d.holder? = c.holder?.filter fun k => !gone k
  position : ∀ k, gone k = false → d.position.get k = c.position.get k

variable {gone : Nat → Bool}

lemma Same.holder_none (h : Same gone c d) (hfree : c.holder? = none) : d.holder? = none := by
  rw [h.holder, hfree]
  rfl

lemma Same.put (h : Same gone c d) (k : Nat) (q : Position F P A) :
    Same gone (c.put k q) (d.put k q) where
  registry := h.registry
  surroundings := h.surroundings
  holder := h.holder
  position j hj := by
    rw [get_position_put, get_position_put]
    split
    · rfl
    · exact h.position j hj

lemma registry_of_vain {m : Move σ F P A} (hvain : c.vain gone m)
    (hfailed : ∀ k p, gone k →
      ((c.step call report m).position.get k).answer? ≠ some (.made p)) :
    (c.step call report m).registry = c.registry := by
  rcases step_cases call report c m with ⟨hsame, -⟩ |
    ⟨k, name, factory, rfl, hk, hanswer, -, hkept⟩ | ⟨name, factory, rfl, hfree, hadded⟩
  · exact hsame.1
  · exact hkept fun p hp => hfailed k p hvain (by rw [hanswer, hp])
  · simp [vain, hfree, hadded] at hvain

lemma holder_of_vain (hsound : Sound c) {m : Move σ F P A} (hvain : c.vain gone m) :
    (c.step call report m).holder?.filter (fun k => !gone k) =
      c.holder?.filter fun k => !gone k := by
  cases m with
  | check k =>
    simp only [step, Callers.check]
    grind [Callers.put]
  | enter k =>
    -- who is gone takes hold of a free registry, and this is not seen
    simp only [step, Callers.enter, taken_eq]
    split
    · next hwaiting hfree =>
      have hk : gone k := by simpa [vain, hfree] using hvain
      rw [hfree]
      split <;> simp [Callers.put, Option.filter, hk]
    · rfl
  | finish k =>
    simp only [step, Callers.finish]
    split <;> rfl
  | leave k =>
    simp only [step, Callers.leave]
    split
    · next a hleaving =>
      have hk : gone k := hvain
      have hholder : c.holder? = some k := (hsound.holder k).1 (by rw [hleaving]; trivial)
      simp [Callers.put, hholder, Option.filter, hk]
    · rfl
  | goOn k use =>
    simp only [step, Callers.goOn]
    split <;> rfl
  | register name factory =>
    simp only [step, Callers.register]
    split <;> simp_all
  | tellNames =>
    simp only [step, Callers.tellNames]
    split <;> simp_all
  | tellResolved | act => rfl

lemma position_of_vain {m : Move σ F P A} (hvain : c.vain gone m) {j : Nat}
    (hj : gone j = false) : (c.step call report m).position.get j = c.position.get j := by
  by_cases hm : m.caller? = some j
  · -- only a caller that waits makes a vain move without being gone
    cases m with
    | enter k =>
      obtain rfl : k = j := Option.some.inj hm
      have hheld : c.holder?.isSome := by simpa [vain, hj] using hvain
      simp only [step, Callers.enter]
      split
      · next hfree => simp [hfree] at hheld
      · rfl
    | check k => simp_all [vain, Move.caller?]
    | finish k => simp_all [vain, Move.caller?]
    | leave k => simp_all [vain, Move.caller?]
    | goOn k use => simp_all [vain, Move.caller?]
    | register | tellResolved | tellNames | act => cases hm
  · exact position_step call report m hm

/-- What a vain move does to everything but surroundings is not seen. -/
lemma Same.vain_step (h : Same gone c d) (hsound : Sound c) {m : Move σ F P A}
    (hvain : c.vain gone m)
    (hfailed : ∀ k p, gone k →
      ((c.step call report m).position.get k).answer? ≠ some (.made p)) :
    Same gone (c.step call report m)
      { d with surroundings := (c.step call report m).surroundings } where
  registry := h.registry.trans (registry_of_vain call report hvain hfailed).symm
  surroundings := rfl
  holder := h.holder.trans (holder_of_vain call report hsound hvain).symm
  position j hj := (h.position j hj).trans (position_of_vain call report hvain hj).symm

/-- Any other move is the same move in both. -/
lemma Same.kept_step (h : Same gone c d) {m : Move σ F P A} (hkept : c.vain gone m = false) :
    Same gone (c.step call report m) (d.step call report m) := by
  cases m with
  | check k =>
    simp only [step, Callers.check, h.position k hkept, h.registry]
    split
    · split
      · exact h.put k _
      · exact h.put k _
    · exact h
  | enter k =>
    obtain ⟨hk, hfree⟩ : gone k = false ∧ c.holder? = none := by simpa [vain] using hkept
    have htaken : (some k).filter (fun k => !gone k) = some k := by simp [Option.filter, hk]
    simp only [step, Callers.enter, taken_eq, h.position k hk, hfree, h.holder_none hfree,
      h.registry, h.surroundings]
    split
    · split
      · refine Same.put ?_ k _
        exact ⟨rfl, rfl, htaken.symm, h.position⟩
      · refine Same.put ?_ k _
        exact ⟨rfl, rfl, htaken.symm, h.position⟩
      · refine Same.put ?_ k _
        exact ⟨rfl, rfl, htaken.symm, h.position⟩
    · exact h
  | finish k =>
    simp only [step, Callers.finish, h.position k hkept, h.registry, h.surroundings]
    split
    · refine Same.put ?_ k _
      exact ⟨rfl, rfl, h.holder, h.position⟩
    · exact h
  | leave k =>
    simp only [step, Callers.leave, h.position k hkept]
    split
    · refine Same.put ?_ k _
      exact ⟨h.registry, h.surroundings, rfl, h.position⟩
    · exact h
  | goOn k use =>
    simp only [step, Callers.goOn, h.position k hkept, h.surroundings]
    split
    · refine Same.put ?_ k _
      exact ⟨h.registry, rfl, h.holder, h.position⟩
    · exact h
  | register name factory =>
    have hfree : c.holder? = none := by simpa [vain] using (Bool.or_eq_false_iff.1 hkept).1
    simp only [step, Callers.register, taken_eq, hfree, h.holder_none hfree, h.registry,
      h.surroundings]
    exact ⟨rfl, rfl, rfl, h.position⟩
  | tellResolved => exact ⟨h.registry, h.surroundings, h.holder, h.position⟩
  | tellNames =>
    have hfree : c.holder? = none := by simpa [vain] using hkept
    simp only [step, Callers.tellNames, hfree, h.holder_none hfree]
    exact ⟨h.registry, h.surroundings, rfl, h.position⟩
  | act f =>
    refine ⟨h.registry, ?_, h.holder, h.position⟩
    simp only [step, h.surroundings]

/-- A move that is not vain is told the same in both. -/
lemma Same.tells_kept (h : Same gone c d) {m : Move σ F P A} (hkept : c.vain gone m = false) :
    d.tells m = c.tells m := by
  cases m with
  | register name factory =>
    have hfree : c.holder? = none := by simpa [vain] using (Bool.or_eq_false_iff.1 hkept).1
    simp only [tells, hfree, h.holder_none hfree, h.registry]
  | tellResolved => simp only [tells, h.registry]
  | tellNames =>
    have hfree : c.holder? = none := by simpa [vain] using hkept
    simp only [tells, hfree, h.holder_none hfree, h.registry]
  | check | enter | finish | leave | goOn | act => rfl

lemma Same.run (h : Same gone c d) (hsound : Sound c) (moves : List (Move σ F P A))
    (hfailed : ∀ k p, gone k →
      ((moves.foldl (step call report) c).position.get k).answer? ≠ some (.made p)) :
    Same gone (moves.foldl (step call report) c)
      ((without call report gone c moves).foldl (step call report) d) ∧
    ((without call report gone c moves).foldl (step call report) d).told =
      d.told ++ toldWithout call report gone c moves := by
  induction moves generalizing c d with
  | nil => exact ⟨h, (List.append_nil _).symm⟩
  | cons m moves ih =>
    unfold without toldWithout
    -- an answer is for good, so who has no provider in the end had none before
    have hnow : ∀ k p, gone k →
        ((c.step call report m).position.get k).answer? ≠ some (.made p) :=
      fun k p hk hp => hfailed k p hk (answer_run call report hp moves)
    cases hm : c.vain gone m with
    | true =>
      rw [if_pos rfl, if_pos rfl, List.nil_append]
      exact ih (h.vain_step call report hsound hm hnow) (hsound.step call report m) hfailed
    | false =>
      obtain ⟨hrest, htold⟩ :=
        ih (h.kept_step call report hm) (hsound.step call report m) hfailed
      rw [if_neg Bool.false_ne_true, if_neg Bool.false_ne_true]
      refine ⟨hrest, htold.trans ?_⟩
      rw [told_step, h.tells_kept hm, List.append_assoc]

/-! ### No trace -/

lemma step_register_of_names_or_resolved {name : String}
    (h : name ∈ c.registry.names ∨ c.registry.isResolved) (factory : F) :
    c.step call report (.register name factory) =
      if c.holder?.isSome then c
      else if name ∈ c.registry.names then
        { c with
          surroundings := report (.providerKnown name) c.surroundings
          told := c.told ++ [.registration name (.ok ())] }
      else { c with told := c.told ++ [.registration name (.error (.registryLocked name))] } := by
  simp only [step, Callers.register, taken_eq, Registry.register_of_names_or_resolved h]
  split
  · next hfree =>
    rw [if_neg (by simp [hfree])]
    split
    · next hknown =>
      rw [Registry.registration_of_mem hknown]
      rfl
    · next hnew =>
      rw [Registry.registration_of_notMem hnew (h.resolve_left hnew)]
      rfl
  · next hheld => rw [if_pos (by simp [hheld])]

/-- **What fails leaves no trace.** Whatever the callers do, in whatever order, and however often
factories fail or panic: a step of a look-up changes the registry only if it gets a provider from
it, and a registration of a known name, or of any name once there is a provider, changes nothing:
the one is reported as known, the other is refused. Callers that never get a provider, and
registrations that add nothing, can be taken out of the run: all the others are where they were and
have the answers that they had, to whatever they asked. As long as there is no
provider a new name is added, and every look-up calls one factory, the one under the smallest name
at the time at which it takes hold of the registry, once; without any name it calls none. -/
theorem failures_leave_no_trace (s : σ) (moves : List (Move σ F P A)) :
    let c := run call report s moves
    (∀ m k, m.caller? = some k →
      (∀ p, ((c.step call report m).position.get k).answer? ≠ some (.made p)) →
      (c.step call report m).registry = c.registry) ∧
    (∀ name, name ∈ c.registry.names ∨ c.registry.isResolved → ∀ factory,
      c.step call report (.register name factory) =
        if c.holder?.isSome then c
        else if name ∈ c.registry.names then
          { c with
            surroundings := report (.providerKnown name) c.surroundings
            told := c.told ++ [.registration name (.ok ())] }
        else { c with told := c.told ++ [.registration name (.error (.registryLocked name))] }) ∧
    (∀ gone : Nat → Bool, (∀ k p, gone k → (c.position.get k).answer? ≠ some (.made p)) →
      let d := run call report s (without call report gone { surroundings := s } moves)
      d.registry = c.registry ∧ d.surroundings = c.surroundings ∧
      d.told = toldWithout call report gone { surroundings := s } moves ∧
      ∀ k, gone k = false → d.position.get k = c.position.get k) ∧
    (c.registry.provider? = none → c.holder? = none →
      ∀ name, name ∉ c.registry.names → ∀ factory,
      let d := c.step call report (.register name factory)
      (c.registry.registration name).outcome name = .ok () ∧
      d.told = c.told ++ [.registration name (.ok ())] ∧ d.registry.provider? = none ∧
      ∀ other, d.registry.factories.find? other =
        if other = name then some factory else c.registry.factories.find? other) ∧
    ∀ before k after, moves = before ++ .enter k :: after →
      let b := run call report s before
      let calls := callsOf call report k { surroundings := s } moves
      b.position.get k = .waiting → b.holder? = none → b.registry.provider? = none →
      (b.registry.names = [] →
        (c.position.get k).answer? = some (.failed Registry.noProvider) ∧ calls = []) ∧
      ∀ name others, b.registry.names = name :: others →
        (∀ other ∈ others, Text.bytes name < Text.bytes other) ∧
        ∃ factory, b.registry.factories.find? name = some factory ∧
          ((c.position.get k = .calling name factory ∧ c.registry = b.registry ∧ calls = []) ∨
            ∃ t, (c.position.get k).answer? = some (call name factory t).1 ∧
              calls = [(name, (call name factory t).1)]) := by
  intro c
  have hnew : Sound ({ surroundings := s } : Callers σ F P A) := sound_new s
  refine ⟨fun m k hm hfailed => ?_, fun name hname factory => ?_, fun gone hfailed => ?_,
    fun hnone hfree name hname factory => ?_, ?_⟩
  · rcases step_cases call report c m with ⟨hsame, -⟩ |
      ⟨j, name, factory, rfl, -, hanswer, -, hkept⟩ | ⟨name, factory, rfl, -⟩
    · exact hsame.1
    · obtain rfl : j = k := Option.some.inj hm
      exact hkept fun p hp => hfailed p (by rw [hanswer, hp])
    · cases hm
  · exact step_register_of_names_or_resolved call report hname factory
  · have hsame : Same gone ({ surroundings := s } : Callers σ F P A) { surroundings := s } :=
      ⟨rfl, rfl, rfl, fun _ _ => rfl⟩
    obtain ⟨hsame, htold⟩ := hsame.run call report hnew moves hfailed
    exact ⟨hsame.registry, hsame.surroundings, htold, hsame.position⟩
  · have hadded : c.registry.registration name = .added :=
      Registry.registration_eq_added.2 ⟨hname, hnone⟩
    simp only [step, Callers.register, taken_eq, hfree, hadded]
    refine ⟨rfl, rfl, ?_, Registry.find?_register_new hnone hname factory⟩
    rw [Registry.provider?_register, hnone]
  · intro before k after hmoves b calls hwaiting hfree hnone
    have hc : c = (Move.enter k :: after).foldl (step call report) b := by
      change run call report s moves = _
      rw [run, hmoves, List.foldl_append]
      rfl
    -- nothing is called before the caller takes hold of the registry
    have hbefore : callsOf call report k { surroundings := s } before = [] := by
      refine callsOf_of_unanswered call report before ?_
      change (b.position.get k).answer? = none
      rw [hwaiting]
      rfl
    have hcalls : calls = callsOf call report k b (.enter k :: after) := by
      change callsOf call report k _ moves = _
      rw [hmoves, callsOf_append, hbefore, List.nil_append]
      rfl
    obtain ⟨hrefused, hchosen⟩ := unresolved_run call report
      (hnew.run call report before) hwaiting hfree hnone after
    rw [hc, hcalls]
    exact ⟨hrefused, fun name others hnames =>
      ⟨Registry.bytes_lt_of_names hnames, hchosen name others hnames⟩⟩

/-- A factory fails; the next attempt calls the one that has been registered under a smaller name
in between. -/
example :
    let call : String → Bool → Nat → Attempt Nat × Nat := fun name good n =>
      if good then (.made n, n + 1) else (.panicked name, n + 1)
    let c : Callers Nat Bool Nat Nat := run call (fun _ n => n) 5
      [.register "b" false, .check 0, .enter 0, .finish 0, .leave 0, .register "a" true, .check 1,
        .enter 1, .finish 1, .leave 1]
    c.calls = [("b", .panicked "b"), ("a", .made 6)] ∧ c.registry.names = ["a", "b"] := by
  decide

end Callers

end ServiceBootstrap
