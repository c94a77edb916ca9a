import Mathlib.Tactic.Lemma
import ServiceBootstrap.Pending

/-!
Pending outcomes in the hands of their owners.

An owner can poll a pending outcome until it has the outcome, and can give it up at any time before.
What this does to the surroundings is bounded by what the work and the layers do one by one: if each
of them stays within a relation that can be chained, then so does every poll and every giving up.
-/

namespace ServiceBootstrap

variable {σ W V : Type} [Work σ W V]

/-- All that work does stays within a relation. -/
structure Work.Within (σ W V : Type) [Work σ W V] (R : σ → σ → Prop) : Prop where
  advance : ∀ (w : W) (s : σ), R s (Work.advance (V := V) w s).2
  abandon : ∀ (w : W) (s : σ), R s (Work.abandon (V := V) w s)

namespace Pending

/-- All that the layers do stays within a relation. -/
def Within (R : σ → σ → Prop) : Pending σ W V → Prop
  | .ready _ | .work _ => True
  | .settle below finish discard =>
    Within R below ∧ (∀ o s, R s (finish o s).2) ∧ ∀ s, R s (discard s)
  | .chain below next effect discard =>
    Within R below ∧ (∀ v s, Within R (next v s)) ∧ (∀ v s, R s (effect v s)) ∧
      ∀ s, R s (discard s)

section

variable {R : σ → σ → Prop} (hwork : Work.Within σ W V R) (hrefl : ∀ s, R s s)
  (htrans : ∀ {a b c}, R a b → R b c → R a c)

include hwork hrefl htrans

lemma Within.poll {p : Pending σ W V} (hp : p.Within R) (s : σ) :
    R s (p.poll s).surroundings ∧ (p.poll s).rest.Within R := by
  induction p generalizing s with
  | ready slot => cases slot <;> exact ⟨hrefl s, trivial⟩
  | work w =>
    have hadv := hwork.advance w s
    unfold Pending.poll
    generalize Work.advance (V := V) w s = r at hadv ⊢
    rcases r with ⟨w' | o | w', s'⟩
    · exact ⟨hadv, trivial⟩
    · exact ⟨hadv, trivial⟩
    · exact ⟨htrans hadv (hwork.abandon w' s'), trivial⟩
  | settle below finish discard ih =>
    obtain ⟨hbelow, hfinish, hdiscard⟩ := hp
    obtain ⟨hs, hrest⟩ := ih hbelow s
    unfold Pending.poll
    generalize below.poll s = r at hs hrest ⊢
    rcases r with ⟨_ | o | _, below', s'⟩
    · exact ⟨hs, hrest, hfinish, hdiscard⟩
    · exact ⟨htrans hs (hfinish o s'), trivial⟩
    · exact ⟨htrans hs (hdiscard s'), trivial⟩
  | chain below next effect discard ih ihnext =>
    obtain ⟨hbelow, hnext, heffect, hdiscard⟩ := hp
    obtain ⟨hs, hrest⟩ := ih hbelow s
    unfold Pending.poll
    generalize below.poll s = r at hs hrest ⊢
    rcases r with ⟨_ | (e | v) | _, below', s'⟩
    · exact ⟨hs, hrest, hnext, heffect, hdiscard⟩
    · exact ⟨htrans hs (hdiscard s'), trivial⟩
    · -- the same poll goes on with what the continuation gave
      obtain ⟨hs', hrest'⟩ := ihnext v s' (hnext v s') (effect v s')
      exact ⟨htrans hs (htrans (heffect v s') hs'), hrest'⟩
    · exact ⟨htrans hs (hdiscard s'), trivial⟩

lemma Within.abandon {p : Pending σ W V} (hp : p.Within R) (s : σ) : R s (p.abandon s) := by
  induction p generalizing s with
  | ready slot => exact hrefl s
  | work w => exact hwork.abandon w s
  | settle below finish discard ih => exact htrans (ih hp.1 s) (hp.2.2 _)
  | chain below next effect discard ih => exact htrans (ih hp.1 s) (hp.2.2.2 _)

end

end Pending

/-- What has become of a pending outcome. -/
inductive Handle (σ W V : Type) where
  | held (p : Pending σ W V)
  | resolved (o : Outcome V)
  /-- It was given up, or broke down. -/
  | gone

namespace Handle

/-- The owner polls; there is nothing to poll behind the outcome. -/
def poll : Handle σ W V → σ → Handle σ W V × σ
  | held p, s =>
    match p.poll s with
    | ⟨.waiting, rest, s⟩ => (held rest, s)
    | ⟨.outcome o, _, s⟩ => (resolved o, s)
    | ⟨.broken, _, s⟩ => (gone, s)
  | h, s => (h, s)

/-- The owner gives up. -/
def drop : Handle σ W V → σ → Handle σ W V × σ
  | held p, s => (gone, p.abandon s)
  | h, s => (h, s)

lemma poll_held (p : Pending σ W V) (s : σ) :
    (held p).poll s =
      match p.poll s with
      | ⟨.waiting, rest, s⟩ => (held rest, s)
      | ⟨.outcome o, _, s⟩ => (resolved o, s)
      | ⟨.broken, _, s⟩ => (gone, s) := rfl

@[simp] lemma drop_held (p : Pending σ W V) (s : σ) :
    (held p).drop s = (gone, p.abandon s) := rfl

/-- All that a held pending outcome does stays within a relation. -/
def Within (R : σ → σ → Prop) : Handle σ W V → Prop
  | held p => p.Within R
  | resolved _ | gone => True

section

variable {R : σ → σ → Prop} (hwork : Work.Within σ W V R) (hrefl : ∀ s, R s s)
  (htrans : ∀ {a b c}, R a b → R b c → R a c)

include hwork hrefl htrans

lemma Within.poll {h : Handle σ W V} (hh : h.Within R) (s : σ) :
    R s (h.poll s).2 ∧ (h.poll s).1.Within R := by
  rcases h with p | o | _
  · obtain ⟨hs, hrest⟩ := Pending.Within.poll hwork hrefl htrans hh s
    rw [poll_held]
    generalize p.poll s = r at hs hrest ⊢
    rcases r with ⟨_ | o | _, rest, s'⟩
    · exact ⟨hs, hrest⟩
    · exact ⟨hs, trivial⟩
    · exact ⟨hs, trivial⟩
  · exact ⟨hrefl s, trivial⟩
  · exact ⟨hrefl s, trivial⟩

lemma Within.drop {h : Handle σ W V} (hh : h.Within R) (s : σ) :
    R s (h.drop s).2 ∧ (h.drop s).1.Within R := by
  rcases h with p | o | _
  · exact ⟨Pending.Within.abandon hwork hrefl htrans hh s, trivial⟩
  · exact ⟨hrefl s, trivial⟩
  · exact ⟨hrefl s, trivial⟩

end

end Handle

end ServiceBootstrap
