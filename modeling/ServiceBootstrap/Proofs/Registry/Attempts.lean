import ServiceBootstrap.Proofs.Registry.Callers
import ServiceBootstrap.Proofs.Registry.Choice

/-!
One attempt to get a provider, among any number of callers.

A step does one of three things: the factory that some caller is in comes to its end, a new name is
added, or the registry and the calls stay as they are. An answer is for good, and a caller calls no
factory before it takes hold of the registry, and none after it has its answer. So an attempt that
finds no provider makes one call: the caller in a factory holds the registry, and the factory is the
one under the smallest of the names that were there when it took hold.
-/

namespace ServiceBootstrap

namespace Registry

variable {F P σ : Type}

lemma tryFactory_fst (call : String → F → σ → Attempt P × σ) (report : Event → σ → σ)
    (name : String) (factory : F) (r : Registry F P) (s : σ) :
    (r.tryFactory call report name factory s).1 = (call name factory s).1 := by
  unfold tryFactory
  rcases call name factory s with ⟨p | e | message, s'⟩ <;> rfl

lemma registration_eq_added {r : Registry F P} {name : String} :
    r.registration name = .added ↔ name ∉ r.names ∧ r.provider? = none := by
  have hknown : name ∈ r.names ↔ r.factories.contains name := NameMap.mem_names
  unfold registration isResolved
  rw [hknown]
  split
  · next h => simp [h]
  · next h => cases hp : r.provider? <;> simp [h]

lemma register_of_not_added {r : Registry F P} {name : String}
    (h : r.registration name ≠ .added) (factory : F) : r.register name factory = r :=
  if_neg h

lemma bytes_lt_of_names {r : Registry F P} {name : String} {others : List String}
    (h : r.names = name :: others) : ∀ other ∈ others, Text.bytes name < Text.bytes other := by
  have hascending := NameMap.ascending_names r.factories
  rw [← names, h] at hascending
  intro other hother
  exact Text.lt_iff_bytes_lt.1 ((List.pairwise_cons.1 hascending).1 other hother)

lemma candidate_of_no_names {r : Registry F P} (h : r.provider? = none) (hnames : r.names = []) :
    r.candidate = .none := by
  have hentries : r.factories.entries = [] := List.map_eq_nil_iff.1 hnames
  unfold candidate
  rw [h, hentries]

end Registry

namespace Callers

variable {σ F P A : Type}

/-- The caller that makes a move. -/
def Move.caller? : Move σ F P A → Option Nat
  | .check k | .enter k | .finish k | .leave k | .goOn k _ => some k
  | .register _ _ | .tellResolved | .tellNames | .act _ => none

variable (call : String → F → σ → Attempt P × σ) (report : Event → σ → σ)
variable {c : Callers σ F P A}

/-! ### What a step does -/

/-- All that a step can do to the registry, to the calls and to whoever is in a factory. -/
lemma step_cases (c : Callers σ F P A) (m : Move σ F P A) :
    (Unmoved c (c.step call report m) ∧ ∀ k name factory,
      c.position.get k = .calling name factory →
      (c.step call report m).position.get k = .calling name factory) ∨
    (∃ k name factory, m = .finish k ∧ c.position.get k = .calling name factory ∧
      ((c.step call report m).position.get k).answer? =
        some (call name factory c.surroundings).1 ∧
      (c.step call report m).calls =
        c.calls ++ [(name, (call name factory c.surroundings).1)] ∧
      ((∀ p, (call name factory c.surroundings).1 ≠ .made p) →
        (c.step call report m).registry = c.registry)) ∨
    ∃ name factory, m = .register name factory ∧ c.holder? = none ∧
      c.registry.registration name = .added := by
  have hput : ∀ (e : Callers σ F P A) {j : Nat} (q : Position F P A),
      (∀ name factory, e.position.get j ≠ .calling name factory) → ∀ k name factory,
      e.position.get k = .calling name factory →
      (e.put j q).position.get k = .calling name factory := by
    intro e j q hj k name factory hk
    have hne : k ≠ j := fun heq => hj name factory (heq ▸ hk)
    rw [get_position_put, if_neg hne]
    exact hk
  cases m with
  | check j =>
    refine .inl ⟨unmoved_check c j, ?_⟩
    simp only [step, Callers.check]
    grind
  | enter j =>
    refine .inl ⟨unmoved_enter report c j, ?_⟩
    simp only [step, Callers.enter]
    grind
  | leave j =>
    refine .inl ⟨unmoved_leave c j, ?_⟩
    simp only [step, Callers.leave]
    grind
  | goOn j use =>
    refine .inl ⟨unmoved_goOn c j use, ?_⟩
    simp only [step, Callers.goOn]
    grind
  | tellResolved | act => exact .inl ⟨⟨rfl, rfl⟩, fun _ _ _ hk => hk⟩
  | tellNames =>
    refine .inl ⟨unmoved_tellNames c, ?_⟩
    simp only [step, Callers.tellNames]
    split <;> exact fun _ _ _ hk => hk
  | finish k =>
    simp only [step, Callers.finish]
    split
    · next name factory hk =>
      have hanswer := Registry.tryFactory_fst call report name factory c.registry c.surroundings
      have hcases := c.registry.tryFactory_cases call report name factory c.surroundings
      refine .inr (.inl ⟨k, name, factory, rfl, hk, ?_, ?_, fun hfailed => ?_⟩)
      · rw [get_position_put, if_pos rfl, ← hanswer]
        rfl
      · rw [← hanswer]
        rfl
      · rcases hcases with ⟨p, hmade, -⟩ | ⟨-, hregistry⟩
        · exact absurd (hanswer.symm.trans hmade) (hfailed p)
        · exact hregistry
    · exact .inl ⟨⟨rfl, rfl⟩, fun _ _ _ hk => hk⟩
  | register name factory =>
    simp only [step, Callers.register, taken_eq]
    split
    · next hfree =>
      by_cases hadded : c.registry.registration name = .added
      · exact .inr (.inr ⟨name, factory, rfl, hfree, hadded⟩)
      · exact .inl ⟨⟨Registry.register_of_not_added hadded factory, rfl⟩, fun _ _ _ hk => hk⟩
    · exact .inl ⟨⟨rfl, rfl⟩, fun _ _ _ hk => hk⟩

/-- A caller stays where it is while others move. -/
lemma position_step (m : Move σ F P A) {j : Nat} (hj : m.caller? ≠ some j) :
    (c.step call report m).position.get j = c.position.get j := by
  have hput : ∀ (e : Callers σ F P A) (k : Nat) q, k ≠ j →
      (e.put k q).position.get j = e.position.get j := by
    intro e k q hk
    rw [get_position_put, if_neg (Ne.symm hk)]
  simp only [Move.caller?, ne_eq] at hj
  cases m with
  | check k =>
    simp only [step, Callers.check]
    grind
  | enter k =>
    simp only [step, Callers.enter]
    grind
  | finish k =>
    simp only [step, Callers.finish]
    grind
  | leave k =>
    simp only [step, Callers.leave]
    grind
  | goOn k use =>
    simp only [step, Callers.goOn]
    grind
  | register name factory =>
    simp only [step, Callers.register]
    split <;> rfl
  | tellNames =>
    simp only [step, Callers.tellNames]
    split <;> rfl
  | tellResolved | act => rfl

/-- An answer is for good. -/
lemma answer_step {k : Nat} {a : Attempt P} (h : (c.position.get k).answer? = some a)
    (m : Move σ F P A) : ((c.step call report m).position.get k).answer? = some a := by
  by_cases hm : m.caller? = some k
  · cases m with
    | check j =>
      obtain rfl : j = k := Option.some.inj hm
      simp only [step, Callers.check]
      grind [Position.answer?]
    | enter j =>
      obtain rfl : j = k := Option.some.inj hm
      simp only [step, Callers.enter]
      grind [Position.answer?]
    | finish j =>
      obtain rfl : j = k := Option.some.inj hm
      simp only [step, Callers.finish]
      grind [Position.answer?]
    | leave j =>
      obtain rfl : j = k := Option.some.inj hm
      simp only [step, Callers.leave]
      split
      · next b hb =>
        rw [hb] at h
        rw [get_position_put, if_pos rfl]
        exact h
      · exact h
    | goOn j use =>
      obtain rfl : j = k := Option.some.inj hm
      simp only [step, Callers.goOn]
      split
      · next b hb =>
        rw [hb] at h
        rw [get_position_put, if_pos rfl]
        exact h
      · exact h
    | register | tellResolved | tellNames | act => cases hm
  · rw [position_step call report m hm]
    exact h

lemma answer_run {k : Nat} {a : Attempt P} (h : (c.position.get k).answer? = some a)
    (moves : List (Move σ F P A)) :
    ((moves.foldl (step call report) c).position.get k).answer? = some a := by
  induction moves generalizing c with
  | nil => exact h
  | cons m moves ih => exact ih (answer_step call report h m)

/-! ### The calls of one caller -/

/-- The calls of factories that a caller makes in the course of some moves, and how they ended. -/
def callsOf (k : Nat) : Callers σ F P A → List (Move σ F P A) → List (String × Attempt P)
  | _, [] => []
  | c, m :: moves =>
    (if m.caller? = some k then (c.step call report m).calls.drop c.calls.length else []) ++
      callsOf k (c.step call report m) moves

lemma callsOf_append (k : Nat) (c : Callers σ F P A) (before after : List (Move σ F P A)) :
    callsOf call report k c (before ++ after) =
      callsOf call report k c before ++
        callsOf call report k (before.foldl (step call report) c) after := by
  induction before generalizing c with
  | nil => rfl
  | cons m before ih => simp only [List.cons_append, callsOf, ih, List.append_assoc,
      List.foldl_cons]

lemma callsOf_cons {k : Nat} {m : Move σ F P A}
    (h : m.caller? = some k → (c.step call report m).calls = c.calls)
    (moves : List (Move σ F P A)) :
    callsOf call report k c (m :: moves) =
      callsOf call report k (c.step call report m) moves := by
  rw [callsOf]
  split
  · next hm => rw [h hm, List.drop_length, List.nil_append]
  · exact List.nil_append _

/-- A caller calls a factory on the way to its answer. -/
lemma calls_step_of_caller {k : Nat} {m : Move σ F P A} (hm : m.caller? = some k) :
    (c.step call report m).calls = c.calls ∨
      (c.position.get k).answer? = none ∧
        ∃ a, ((c.step call report m).position.get k).answer? = some a := by
  rcases step_cases call report c m with ⟨hsame, -⟩ | ⟨j, name, factory, rfl, hj, hanswer, -⟩ |
    ⟨name, factory, rfl, -⟩
  · exact .inl hsame.2
  · obtain rfl : j = k := Option.some.inj hm
    exact .inr ⟨by rw [hj]; rfl, _, hanswer⟩
  · cases hm

/-- Whoever has an answer calls nothing. -/
lemma callsOf_of_answered {k : Nat} {a : Attempt P} (h : (c.position.get k).answer? = some a)
    (moves : List (Move σ F P A)) : callsOf call report k c moves = [] := by
  induction moves generalizing c with
  | nil => rfl
  | cons m moves ih =>
    rw [callsOf_cons]
    · exact ih (answer_step call report h m)
    · intro hm
      rcases calls_step_of_caller call report hm with hsame | ⟨hnone, -⟩
      · exact hsame
      · simp [h] at hnone

/-- Whoever has no answer has called nothing. -/
lemma callsOf_of_unanswered {k : Nat} (moves : List (Move σ F P A))
    (h : ((moves.foldl (step call report) c).position.get k).answer? = none) :
    callsOf call report k c moves = [] := by
  induction moves generalizing c with
  | nil => rfl
  | cons m moves ih =>
    rw [callsOf_cons]
    · exact ih h
    · intro hm
      rcases calls_step_of_caller call report hm with hsame | ⟨-, a, ha⟩
      · exact hsame
      · -- the answer would have stayed
        have hlast := answer_run call report ha moves
        exact absurd (h.symm.trans hlast) (by simp)

/-- While a caller is in a factory, the registry stays the same for everybody; in the end the
caller has what the factory gave it, and that was its only call. -/
lemma calling_run (h : Sound c) {k : Nat} {name : String} {factory : F}
    (hk : c.position.get k = .calling name factory) (moves : List (Move σ F P A)) :
    let d := moves.foldl (step call report) c
    (d.position.get k = .calling name factory ∧ d.registry = c.registry ∧
      callsOf call report k c moves = []) ∨
    ∃ s, (d.position.get k).answer? = some (call name factory s).1 ∧
      callsOf call report k c moves = [(name, (call name factory s).1)] := by
  induction moves generalizing c with
  | nil => exact .inl ⟨hk, rfl, rfl⟩
  | cons m moves ih =>
    have hholder : c.holder? = some k := (h.holder k).1 (by rw [hk]; trivial)
    rcases step_cases call report c m with ⟨hsame, hstays⟩ |
      ⟨j, name', factory', rfl, hj, hanswer, hcalls, -⟩ | ⟨name', factory', rfl, hfree, -⟩
    · have hrest := ih (h.step call report m) (hstays k name factory hk)
      rw [hsame.1] at hrest
      rw [callsOf_cons call report fun _ => hsame.2]
      exact hrest
    · -- nobody else is in a factory
      have hother : c.holder? = some j := (h.holder j).1 (by rw [hj]; trivial)
      obtain rfl : j = k := Option.some.inj (hother.symm.trans hholder)
      obtain ⟨rfl, rfl⟩ : name' = name ∧ factory' = factory := by
        rw [hj] at hk
        exact Position.calling.inj hk
      have hmine : (Move.finish j : Move σ F P A).caller? = some j := rfl
      refine .inr ⟨c.surroundings, answer_run call report hanswer moves, ?_⟩
      rw [callsOf, if_pos hmine, hcalls, List.drop_left, callsOf_of_answered call report hanswer,
        List.append_nil]
    · simp [hfree] at hholder

/-- A caller that takes hold of a registry without a provider is refused if there are no names, and
else goes into the factory of the smallest. -/
lemma enter_unresolved {k : Nat} (hwaiting : c.position.get k = .waiting)
    (hfree : c.holder? = none) (hnone : c.registry.provider? = none) :
    let d := c.step call report (.enter k)
    d.registry = c.registry ∧ d.calls = c.calls ∧
    (c.registry.names = [] → d.position.get k = .leaving (.failed Registry.noProvider)) ∧
    ∀ name others, c.registry.names = name :: others →
      ∃ factory, c.registry.factories.find? name = some factory ∧
        d.position.get k = .calling name factory := by
  obtain ⟨hregistry, hcalls⟩ := unmoved_enter report c k
  refine ⟨hregistry, hcalls, fun hnames => ?_, fun name others hnames => ?_⟩
  · simp only [step, Callers.enter, hwaiting, hfree, taken_eq,
      Registry.candidate_of_no_names hnone hnames]
    rw [get_position_put, if_pos rfl]
  · obtain ⟨factory, hfactory, hcandidate⟩ := Registry.candidate_of_names hnone hnames
    refine ⟨factory, hfactory, ?_⟩
    simp only [step, Callers.enter, hwaiting, hfree, taken_eq, hcandidate]
    rw [get_position_put, if_pos rfl]

/-- What comes of a caller that takes hold of a registry without a provider, whatever follows. -/
lemma unresolved_run (h : Sound c) {k : Nat} (hwaiting : c.position.get k = .waiting)
    (hfree : c.holder? = none) (hnone : c.registry.provider? = none)
    (after : List (Move σ F P A)) :
    let d := (Move.enter k :: after).foldl (step call report) c
    let calls := callsOf call report k c (.enter k :: after)
    (c.registry.names = [] →
      (d.position.get k).answer? = some (.failed Registry.noProvider) ∧ calls = []) ∧
    ∀ name others, c.registry.names = name :: others →
      ∃ factory, c.registry.factories.find? name = some factory ∧
        ((d.position.get k = .calling name factory ∧ d.registry = c.registry ∧ calls = []) ∨
          ∃ t, (d.position.get k).answer? = some (call name factory t).1 ∧
            calls = [(name, (call name factory t).1)]) := by
  obtain ⟨hregistry, hsame, hrefused, hgoes⟩ := enter_unresolved call report hwaiting hfree hnone
  intro d calls
  have hcalls : calls = callsOf call report k (c.step call report (.enter k)) after :=
    callsOf_cons call report (fun _ => hsame) after
  rw [hcalls]
  refine ⟨fun hnames => ?_, fun name others hnames => ?_⟩
  · have hanswer : ((c.step call report (.enter k)).position.get k).answer? =
        some (.failed Registry.noProvider) := by
      rw [hrefused hnames]
      rfl
    exact ⟨answer_run call report hanswer after, callsOf_of_answered call report hanswer after⟩
  · obtain ⟨factory, hfactory, hcalling⟩ := hgoes name others hnames
    refine ⟨factory, hfactory, ?_⟩
    rw [← hregistry]
    exact calling_run call report (h.step call report (.enter k)) hcalling after

end Callers

end ServiceBootstrap
