import ServiceBootstrap.Proofs.Registry.Choice

/-!
A registry as the list of what was registered, in the order of the registrations.

A registration goes through the list in search of its name and is added at the end; a look-up sorts
a copy of the list. A name stands in the list once, so the names of a sorted copy ascend strictly,
and no two lists with the same members are like that. Hence every sorting comes to the map that a
registry keeps, and what is asked of the list is answered as the registry answers it.
-/

namespace ServiceBootstrap

/-- Descriptors as they were added, and the provider once it is resolved. -/
structure Listing (F P : Type) where
  descriptors : List (String × F)
  nodup : (descriptors.map (·.1)).Nodup
  provider? : Option P

namespace Listing

variable {F P σ : Type}

def new : Listing F P := ⟨[], .nil, none⟩

def isResolved (l : Listing F P) : Bool := l.provider?.isSome

def registration (l : Listing F P) (name : String) : Registry.Registration :=
  if l.descriptors.any (·.1 == name) then .known
  else if l.isResolved then .refused
  else .added

lemma any_name_iff {descriptors : List (String × F)} {name : String} :
    descriptors.any (·.1 == name) ↔ name ∈ descriptors.map (·.1) := by
  simp only [List.any_eq_true, beq_iff_eq, List.mem_map]

lemma registration_eq_added {l : Listing F P} {name : String} :
    l.registration name = .added ↔
      name ∉ l.descriptors.map (·.1) ∧ l.provider? = none := by
  unfold registration isResolved
  rw [← any_name_iff]
  split
  · next h => simp [h]
  · next h => cases hp : l.provider? <;> simp [h]

/-- Adds a descriptor of a new name at the end. -/
def push (l : Listing F P) (name : String) (factory : F)
    (h : name ∉ l.descriptors.map (·.1)) : Listing F P where
  descriptors := l.descriptors ++ [(name, factory)]
  nodup := by
    rw [List.map_append, List.map_singleton, List.nodup_append]
    refine ⟨l.nodup, List.nodup_singleton _, fun a ha b hb hab => h ?_⟩
    rwa [hab, List.mem_singleton.1 hb] at ha
  provider? := l.provider?

def register (l : Listing F P) (name : String) (factory : F) : Listing F P :=
  if h : l.registration name = .added then
    l.push name factory (registration_eq_added.1 h).1
  else l

def names (l : Listing F P) : List String := (l.descriptors.map (·.1)).mergeSort (· ≤ ·)

/-- The descriptors by their names. -/
def sorted (l : Listing F P) : List (String × F) :=
  l.descriptors.mergeSort fun d e => d.1 ≤ e.1

def choose (call : String → F → σ → Attempt P × σ) (report : Event → σ → σ) (l : Listing F P)
    (s : σ) : Attempt P × Listing F P × σ :=
  match l.provider?, l.sorted with
  | some p, _ => (.made p, l, s)
  | none, [] => (.failed Registry.noProvider, l, s)
  | none, chosen :: ignored =>
    match call chosen.1 chosen.2
      (Registry.passOver report chosen.1 (ignored.map (·.1)) s) with
    | (.made p, s) =>
      (.made p, { l with provider? := some p }, report (.providerResolved chosen.1) s)
    | (attempt, s) => (attempt, l, s)

def locate (call : String → F → σ → Attempt P × σ) (report : Event → σ → σ) (l : Listing F P)
    (s : σ) : Attempt P × Listing F P × σ :=
  match l.provider? with
  | some p => (.made p, l, s)
  | none => l.choose call report s

/-! ### Sorting -/

lemma perm_sorted (l : Listing F P) : l.sorted.Perm l.descriptors := List.mergeSort_perm _ _

lemma pairwise_sorted (l : Listing F P) : l.sorted.Pairwise fun d e => d.1 ≤ e.1 := by
  refine (List.pairwise_mergeSort (fun a b c hab hbc => ?_) (fun a b => ?_) _).imp
    (of_decide_eq_true ·)
  · exact decide_eq_true (String.le_trans (of_decide_eq_true hab) (of_decide_eq_true hbc))
  · simpa using String.le_total a.1 b.1

/-- As no name is there twice, names in their order ascend strictly. -/
lemma ascending_of_sorted (l : Listing F P) {es : List (String × F)}
    (hperm : es.Perm l.descriptors) (hsorted : es.Pairwise fun d e => d.1 ≤ e.1) :
    es.Pairwise fun d e => d.1 < e.1 := by
  have hnodup : (es.map (·.1)).Nodup := (hperm.map (·.1)).nodup_iff.2 l.nodup
  exact hsorted.imp₂ (fun _ _ hle hne => Std.lt_of_le_of_ne hle hne) (List.pairwise_map.1 hnodup)

/-- Sorting the descriptors by their names comes to the same, in whatever way it is done. -/
lemma eq_sorted (l : Listing F P) {es : List (String × F)} (hperm : es.Perm l.descriptors)
    (hsorted : es.Pairwise fun d e => d.1 ≤ e.1) : es = l.sorted :=
  (hperm.trans l.perm_sorted.symm).eq_of_pairwise
    (fun _ _ _ _ hlt hgt => absurd hgt (String.lt_asymm hlt))
    (l.ascending_of_sorted hperm hsorted)
    (l.ascending_of_sorted l.perm_sorted l.pairwise_sorted)

/-- The names can be taken from the sorted descriptors as well as sorted on their own. -/
lemma names_eq (l : Listing F P) : l.names = l.sorted.map (·.1) := by
  have hnames : l.names.Pairwise (· ≤ ·) := by
    refine (List.pairwise_mergeSort (fun a b c hab hbc => ?_) (fun a b => ?_) _).imp
      (of_decide_eq_true ·)
    · exact decide_eq_true (String.le_trans (of_decide_eq_true hab) (of_decide_eq_true hbc))
    · simpa using String.le_total a b
  have hsorted : (l.sorted.map (·.1)).Pairwise (· ≤ ·) := List.pairwise_map.2 l.pairwise_sorted
  have hperm : l.names.Perm (l.sorted.map (·.1)) :=
    (List.mergeSort_perm _ _).trans (l.perm_sorted.map (·.1)).symm
  exact hperm.eq_of_pairwise (fun _ _ _ _ => String.le_antisymm) hnames hsorted

/-! ### The registry of a listing -/

/-- The map that the sorted descriptors are, with the provider. -/
def toRegistry (l : Listing F P) : Registry F P :=
  ⟨⟨l.sorted, l.ascending_of_sorted l.perm_sorted l.pairwise_sorted⟩, l.provider?⟩

lemma toRegistry_eq {l : Listing F P} {r : Registry F P} (h : r.factories.entries = l.sorted)
    (hprovider : r.provider? = l.provider?) : l.toRegistry = r := by
  obtain ⟨⟨entries, ascending⟩, provider?⟩ := r
  subst h hprovider
  rfl

lemma names_toRegistry (l : Listing F P) : l.toRegistry.names = l.names := l.names_eq.symm

lemma mem_names_toRegistry {l : Listing F P} {name : String} :
    name ∈ l.toRegistry.names ↔ name ∈ l.descriptors.map (·.1) :=
  (l.perm_sorted.map (·.1)).mem_iff

lemma registration_toRegistry (l : Listing F P) (name : String) :
    l.toRegistry.registration name = l.registration name := by
  have hknown : l.toRegistry.factories.contains name = l.descriptors.any (·.1 == name) := by
    rw [Bool.eq_iff_iff, any_name_iff, ← mem_names_toRegistry]
    exact NameMap.mem_names.symm
  unfold Registry.registration registration
  rw [hknown]
  rfl

lemma toRegistry_new : (new : Listing F P).toRegistry = .new :=
  toRegistry_eq List.mergeSort_nil.symm rfl

/-- A new name is put in at its place, and the rest stays. -/
lemma perm_insertEntry {es : List (String × F)} {name : String} (h : name ∉ es.map (·.1))
    (factory : F) : (NameMap.insertEntry name factory es).Perm ((name, factory) :: es) := by
  induction es with
  | nil => exact List.Perm.refl _
  | cons e es ih =>
    rw [List.map_cons, List.mem_cons, not_or] at h
    unfold NameMap.insertEntry
    split
    · exact List.Perm.refl _
    · rw [if_neg h.1]
      exact ((ih h.2).cons e).trans (List.Perm.swap _ _ _)

/-- To add a descriptor at the end is to put it into the map. -/
lemma toRegistry_push (l : Listing F P) {name : String} (factory : F)
    (h : name ∉ l.descriptors.map (·.1)) :
    (l.push name factory h).toRegistry =
      { l.toRegistry with factories := l.toRegistry.factories.insert name factory } := by
  refine toRegistry_eq (eq_sorted _ ?_ ?_) rfl
  · have hsorted : (l.sorted ++ [(name, factory)]).Perm (l.descriptors ++ [(name, factory)]) :=
      l.perm_sorted.append_right _
    exact (perm_insertEntry (mt mem_names_toRegistry.1 h) factory).trans
      ((List.perm_append_singleton _ _).symm.trans hsorted)
  · exact (l.toRegistry.factories.insert name factory).ascending.imp Std.le_of_lt

lemma toRegistry_register (l : Listing F P) (name : String) (factory : F) :
    (l.register name factory).toRegistry = l.toRegistry.register name factory := by
  unfold register Registry.register
  rw [registration_toRegistry]
  split
  · exact l.toRegistry_push factory _
  · rfl

/-- A look-up that sorts the list gives what the registry gives, and leaves what it leaves. -/
lemma toRegistry_locate (call : String → F → σ → Attempt P × σ) (report : Event → σ → σ)
    (l : Listing F P) (s : σ) :
    l.toRegistry.locate call report s =
      ((l.locate call report s).1, (l.locate call report s).2.1.toRegistry,
        (l.locate call report s).2.2) := by
  have hprovider : l.toRegistry.provider? = l.provider? := rfl
  have hentries : l.toRegistry.factories.entries = l.sorted := rfl
  unfold Registry.locate Registry.choose Registry.candidate locate choose
  rw [hprovider, hentries]
  cases hp : l.provider? with
  | some p => rfl
  | none =>
    rcases hsorted : l.sorted with _ | ⟨chosen, ignored⟩
    · rfl
    · dsimp only
      unfold Registry.tryFactory
      rcases call chosen.1 chosen.2 _ with ⟨p | e | message, t⟩ <;> rfl

/-! ### Many registrations -/

/-- A new listing after some registrations. -/
def listed (entries : List (String × F)) : Listing F P :=
  entries.foldl (fun l e => l.register e.1 e.2) .new

lemma toRegistry_foldl (l : Listing F P) (entries : List (String × F)) :
    (entries.foldl (fun l e => l.register e.1 e.2) l).toRegistry =
      entries.foldl (fun r e => r.register e.1 e.2) l.toRegistry := by
  induction entries generalizing l with
  | nil => rfl
  | cons e entries ih =>
    rw [List.foldl_cons, List.foldl_cons, ih, toRegistry_register]

lemma toRegistry_listed (entries : List (String × F)) :
    (listed entries : Listing F P).toRegistry = Registry.registered entries := by
  unfold listed Registry.registered
  rw [toRegistry_foldl, toRegistry_new]

/-- **The order in the list makes no difference.** Registrations of the same names with the same
first factory under each name give lists that may differ in their order. Sorted they are the same,
so the names are the same, and a look-up gives the same and reports the same. -/
theorem order_ignored {entries others : List (String × F)}
    (h : ∀ name, others.lookup name = entries.lookup name)
    (call : String → F → σ → Attempt P × σ) (report : Event → σ → σ) (s : σ) :
    let l : Listing F P := listed entries
    let m : Listing F P := listed others
    m.descriptors.Perm l.descriptors ∧ m.sorted = l.sorted ∧ m.names = l.names ∧
    (m.locate call report s).1 = (l.locate call report s).1 ∧
    (m.locate call report s).2.2 = (l.locate call report s).2.2 := by
  intro l m
  have hsame : m.toRegistry = l.toRegistry := by
    rw [toRegistry_listed, toRegistry_listed, Registry.registered_congr h]
  have hsorted : m.sorted = l.sorted := congrArg (·.factories.entries) hsame
  have hlocate := m.toRegistry_locate call report s
  rw [hsame, toRegistry_locate, Prod.mk.injEq, Prod.mk.injEq] at hlocate
  refine ⟨?_, hsorted, ?_, hlocate.1.symm, hlocate.2.2.symm⟩
  · exact m.perm_sorted.symm.trans (hsorted ▸ l.perm_sorted)
  · rw [← names_toRegistry, hsame, names_toRegistry]

/-- The list itself keeps the order of the registrations. -/
example :
    let l : Listing Nat Unit := listed [("zeta", 1), ("alpha", 2), ("mid", 3), ("alpha", 4)]
    l.descriptors = [("zeta", 1), ("alpha", 2), ("mid", 3)] ∧
    l.names = ["alpha", "mid", "zeta"] := by
  cbv

end Listing

end ServiceBootstrap
