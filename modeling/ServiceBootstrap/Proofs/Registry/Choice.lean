import ServiceBootstrap.Proofs.NameMap
import ServiceBootstrap.Proofs.Text.ByteOrder
import ServiceBootstrap.Registry

/-!
The order in which factories are registered makes no difference to the choice.

What a registry finds under a name is the first factory that was registered under it. A map from
names is determined by what it finds, so the names of a sequence of registrations and the first
factory under each of them are all that the registry depends on. The choice is the smallest name,
and the others are reported in their order.
-/

namespace ServiceBootstrap

namespace Registry

variable {F P σ : Type}

/-- A new registry after some registrations. -/
def registered (entries : List (String × F)) : Registry F P :=
  entries.foldl (fun r e => r.register e.1 e.2) .new

lemma provider?_register (r : Registry F P) (name : String) (factory : F) :
    (r.register name factory).provider? = r.provider? := by
  unfold register
  split <;> rfl

/-- A registration is only of consequence for its own name, and only if nothing is there yet. -/
lemma find?_register {r : Registry F P} (h : r.provider? = none) (name other : String)
    (factory : F) :
    (r.register name factory).factories.find? other =
      (r.factories.find? other).or (if other = name then some factory else none) := by
  have hresolved : r.isResolved = false := by simp [isResolved, h]
  unfold register registration
  cases hknown : r.factories.contains name with
  | true =>
    simp only [if_true, reduceCtorEq, if_false]
    by_cases hname : other = name
    · have hsome : (r.factories.find? other).isSome := hname ▸ hknown
      rw [Option.or_of_isSome hsome]
    · rw [if_neg hname, Option.or_none]
  | false =>
    simp only [hresolved, Bool.false_eq_true, if_false, if_true]
    by_cases hname : other = name
    · have hnone : r.factories.find? name = none := by
        simpa [NameMap.contains] using hknown
      rw [hname, NameMap.find?_insert_self, hnone, if_pos rfl, Option.none_or]
    · rw [NameMap.find?_insert_of_ne _ _ hname, if_neg hname, Option.or_none]

lemma foldl_register {r : Registry F P} (h : r.provider? = none) (entries : List (String × F)) :
    (entries.foldl (fun r e => r.register e.1 e.2) r).provider? = none ∧
    ∀ name, (entries.foldl (fun r e => r.register e.1 e.2) r).factories.find? name =
      (r.factories.find? name).or (entries.lookup name) := by
  induction entries generalizing r with
  | nil => exact ⟨h, fun name => (Option.or_none).symm⟩
  | cons e entries ih =>
    obtain ⟨hprovider, hfind⟩ := ih ((provider?_register r e.1 e.2).trans h)
    refine ⟨hprovider, fun name => (hfind name).trans ?_⟩
    rw [find?_register h, Option.or_assoc, List.lookup_cons]
    by_cases hname : name = e.1
    · rw [if_pos hname, hname, beq_self_eq_true, Option.some_or]
    · rw [if_neg hname, beq_false_of_ne hname, Option.none_or]

lemma provider?_registered (entries : List (String × F)) :
    (registered entries : Registry F P).provider? = none :=
  (foldl_register rfl entries).1

/-- What is found under a name is the first factory that was registered under it. -/
lemma find?_registered (entries : List (String × F)) (name : String) :
    (registered entries : Registry F P).factories.find? name = entries.lookup name :=
  (foldl_register rfl entries).2 name

lemma mem_names_registered {entries : List (String × F)} {name : String} :
    name ∈ (registered entries : Registry F P).names ↔ name ∈ entries.map (·.1) := by
  rw [names, NameMap.mem_names, find?_registered, NameMap.isSome_lookup]

/-- Registrations of the same names, with the same first factory for each, are all the same. -/
lemma registered_congr {entries others : List (String × F)}
    (h : ∀ name, others.lookup name = entries.lookup name) :
    (registered others : Registry F P) = registered entries := by
  have hfactories : (registered others : Registry F P).factories =
      (registered entries : Registry F P).factories :=
    NameMap.eq_of_find?_eq fun name => by rw [find?_registered, find?_registered, h]
  have hprovider : (registered others : Registry F P).provider? =
      (registered entries : Registry F P).provider? := by
    rw [provider?_registered, provider?_registered]
  have hext : ∀ {r t : Registry F P},
      r.factories = t.factories → r.provider? = t.provider? → r = t := by
    rintro ⟨factories, provider?⟩ ⟨_, _⟩ rfl rfl
    rfl
  exact hext hfactories hprovider

/-- The choice of a registry that has none yet is the smallest of its names. -/
lemma candidate_of_names {r : Registry F P} (h : r.provider? = none) {name : String}
    {others : List String} (hnames : r.names = name :: others) :
    ∃ factory, r.factories.find? name = some factory ∧
      r.candidate = .factory name factory others := by
  unfold names NameMap.names at hnames
  obtain ⟨⟨name', factory⟩, rest, hentries, rfl, rfl⟩ := List.map_eq_cons_iff.1 hnames
  refine ⟨factory, NameMap.mem_entries.1 ?_, ?_⟩
  · rw [hentries]
    exact List.mem_cons_self
  · unfold candidate
    rw [h, hentries]

/-- **The choice does not depend on the order of registrations.** After any registrations on a new
registry, at least one, the names are those that were registered, strictly ascending by their
bytes. A look-up reports every name but the smallest, in their order and each against the smallest,
and then calls one factory: the first that was registered under the smallest name. Registrations of
the same names with the same first factory under each name give the same names and the same
look-up. -/
theorem choice_ignores_order (call : String → F → σ → Attempt P × σ) (report : Event → σ → σ)
    (e : String × F) (es : List (String × F)) (s : σ) :
    let r : Registry F P := registered (e :: es)
    r.names.Pairwise (fun a b => Text.bytes a < Text.bytes b) ∧
    (∀ name, name ∈ r.names ↔ name ∈ (e :: es).map (·.1)) ∧
    (∃ name factory others, r.names = name :: others ∧
      (e :: es).lookup name = some factory ∧
      r.locate call report s =
        match call name factory
          ((others.map fun other => Event.providerPassedOver other name).foldl
            (fun s warning => report warning s) s) with
        | (.made p, t) =>
          (.made p, { r with provider? := some p }, report (.providerResolved name) t)
        | (attempt, t) => (attempt, r, t)) ∧
    ∀ others : List (String × F), (∀ name, others.lookup name = (e :: es).lookup name) →
      (registered others : Registry F P).names = r.names ∧
      (registered others : Registry F P).locate call report s = r.locate call report s := by
  intro r
  have hfirst : e.1 ∈ r.names := mem_names_registered.2 (List.mem_map_of_mem List.mem_cons_self)
  refine ⟨(NameMap.ascending_names _).imp Text.lt_iff_bytes_lt.1, fun name => mem_names_registered,
    ?_, fun others hothers => ?_⟩
  · obtain ⟨name, others, hnames⟩ := List.exists_cons_of_ne_nil (List.ne_nil_of_mem hfirst)
    obtain ⟨factory, hfactory, hcandidate⟩ := candidate_of_names (provider?_registered _) hnames
    refine ⟨name, factory, others, hnames, (find?_registered _ _).symm.trans hfactory, ?_⟩
    rw [locate_eq_choose, choose, hcandidate, List.foldl_map]
    rfl
  · have hsame : (registered others : Registry F P) = r := registered_congr hothers
    rw [hsame]
    exact ⟨rfl, rfl⟩

/-- The second factory under a name is never found. -/
example :
    let r : Registry Nat Unit := registered [("zeta", 1), ("alpha", 2), ("mid", 3), ("alpha", 4)]
    r.names = ["alpha", "mid", "zeta"] ∧ r.candidate = .factory "alpha" 2 ["mid", "zeta"] :=
  ⟨by decide, by rfl⟩

end Registry

end ServiceBootstrap
