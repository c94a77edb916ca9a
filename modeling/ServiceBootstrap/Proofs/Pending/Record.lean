import Mathlib.Data.List.Range
import ServiceBootstrap.Proofs.Pending.Handle
import ServiceBootstrap.Proofs.Pending.Stack

/-!
What is run of a stack, written down beside it.

A record stands beside the surroundings and never touches them. Each continuation and each observer
of a stack writes its place into the record when it is run, and a failure is written down where it
comes up: at the pending outcome at the bottom, or at the one that a layer went on with. At any
moment a stack in the hands of its owner is a pending outcome that some layers went on to, under
the layers that are left. What was passed is what the record holds, and it holds nothing of what is
above until a failure comes up, which then runs the observers above it and nothing else.
-/

namespace ServiceBootstrap.Pending

variable {σ W V : Type}

/-- What is written down about a stack, whose layers are numbered from the bottom up. -/
inductive Entry where
  /-- The continuation of a layer was run. -/
  | continued (layer : Nat)
  /-- The observer of a layer was run on a failure. -/
  | observed (layer : Nat) (e : Failure)
  /-- The pending outcome under this layer failed: the one at the bottom, or what the layer below
  it went on with. -/
  | failed (layer : Nat) (e : Failure)
  deriving DecidableEq, Repr

/-- The layer of which something was run. -/
def Entry.ran? : Entry → Option Nat
  | continued i | observed i _ => some i
  | failed _ _ => none

/-- Surroundings with a record beside them. -/
structure Recorded (σ : Type) where
  surroundings : σ
  record : List Entry := []

namespace Recorded

def write (entry : Entry) (r : Recorded σ) : Recorded σ :=
  { r with record := r.record ++ [entry] }

/-- An effect on the surroundings, of which nothing is written down. -/
def act (f : σ → σ) (r : Recorded σ) : Recorded σ := { r with surroundings := f r.surroundings }

end Recorded

instance [Work σ W V] : Work (Recorded σ) W V where
  advance w r :=
    ((Work.advance (V := V) w r.surroundings).1,
      { r with surroundings := (Work.advance (V := V) w r.surroundings).2 })
  abandon w := Recorded.act (Work.abandon (V := V) w)

/-- The same pending outcome beside a record, into which it writes nothing. -/
def besideRecord : Pending σ W V → Pending (Recorded σ) W V
  | .ready slot => .ready slot
  | .work w => .work w
  | .settle below finish discard =>
    .settle (besideRecord below)
      (fun o r => ((finish o r.surroundings).1,
        { r with surroundings := (finish o r.surroundings).2 }))
      (Recorded.act discard)
  | .chain below next effect discard =>
    .chain (besideRecord below) (fun v r => besideRecord (next v r.surroundings))
      (fun v => Recorded.act (effect v)) (Recorded.act discard)

/-- The pending outcome under a layer: its failure is written down. -/
def under (i : Nat) (p : Pending σ W V) : Pending (Recorded σ) W V :=
  (besideRecord p).inspectFailure fun e => Recorded.write (.failed i e)

namespace Layer

/-- The same layer beside a record, into which it writes what is run of it. -/
def recorded (i : Nat) : Layer σ W V → Layer (Recorded σ) W V
  | map f discard =>
    map (fun v r => ((f v r.surroundings).1,
        Recorded.write (.continued i) { r with surroundings := (f v r.surroundings).2 }))
      (Recorded.act discard)
  | compose k =>
    compose
      { next := fun v r => (k.next v r.surroundings).under (i + 1)
        effect := fun v r => (r.act (k.effect v)).write (.continued i)
        discard := Recorded.act k.discard }
  | inspect f discard =>
    inspect (fun e r => (r.act (f e)).write (.observed i e)) (Recorded.act discard)

/-- What is written down of a layer that a success passes. -/
def passed (i : Nat) : Layer σ W V → List Entry
  | map _ _ | compose _ => [.continued i]
  | inspect _ _ => []

/-- What is written down of a layer that a failure passes. -/
def informed (e : Failure) (i : Nat) : Layer σ W V → List Entry
  | map _ _ | compose _ => []
  | inspect _ _ => [.observed i e]

end Layer

/-- Layers that are numbered from some number on, beside a record. -/
def recordedFrom : Nat → List (Layer σ W V) → List (Layer (Recorded σ) W V)
  | _, [] => []
  | i, l :: above => l.recorded i :: recordedFrom (i + 1) above

/-- What is written down of layers that are numbered from some number on. -/
def entries (entry : Nat → Layer σ W V → List Entry) : Nat → List (Layer σ W V) → List Entry
  | _, [] => []
  | i, l :: above => entry i l ++ entries entry (i + 1) above

/-- A stack beside an empty record. -/
def recordedStack (p : Pending σ W V) (layers : List (Layer σ W V)) : Pending (Recorded σ) W V :=
  stack (p.under 0) (recordedFrom 0 layers)

lemma entries_append (entry : Nat → Layer σ W V → List Entry) (i : Nat)
    (below above : List (Layer σ W V)) :
    entries entry i (below ++ above) =
      entries entry i below ++ entries entry (i + below.length) above := by
  induction below generalizing i with
  | nil => rfl
  | cons l below ih =>
    rw [List.cons_append, entries, entries, ih, List.append_assoc, List.length_cons,
      Nat.add_right_comm, Nat.add_assoc]

lemma exists_of_mem_entries {entry : Nat → Layer σ W V → List Entry} {x : Entry} {i : Nat}
    {layers : List (Layer σ W V)} (h : x ∈ entries entry i layers) : ∃ j l, x ∈ entry j l := by
  induction layers generalizing i with
  | nil => exact absurd h List.not_mem_nil
  | cons l above ih =>
    rcases List.mem_append.1 h with hl | habove
    · exact ⟨i, l, hl⟩
    · exact ih habove

/-- Of each layer at most one thing is written down, in the order of the layers. -/
lemma ran_entries {entry : Nat → Layer σ W V → List Entry}
    (hentry : ∀ i l, ((entry i l).filterMap Entry.ran?).Sublist [i]) (i : Nat)
    (layers : List (Layer σ W V)) :
    ((entries entry i layers).filterMap Entry.ran?).Sublist (List.range' i layers.length) := by
  induction layers generalizing i with
  | nil => exact .slnil
  | cons l above ih =>
    rw [entries, List.filterMap_append, List.length_cons, List.range'_succ]
    exact (hentry i l).append (ih (i + 1))

lemma ran_passed (i : Nat) (l : Layer σ W V) :
    ((l.passed i).filterMap Entry.ran?).Sublist [i] := by
  cases l with
  | map f discard => exact .refl _
  | compose k => exact .refl _
  | inspect f discard => exact List.nil_sublist _

lemma ran_informed (e : Failure) (i : Nat) (l : Layer σ W V) :
    ((l.informed e i).filterMap Entry.ran?).Sublist [i] := by
  cases l with
  | map f discard => exact List.nil_sublist _
  | compose k => exact List.nil_sublist _
  | inspect f discard => exact .refl _

/-! ### Writing down changes nothing -/

lemma onFailure_recordedFrom (e : Failure) (i : Nat) (layers : List (Layer σ W V)) (s : σ)
    (record : List Entry) :
    (recordedFrom i layers).foldl (Layer.onFailure e) ⟨s, record⟩ =
      ⟨layers.foldl (Layer.onFailure e) s, record ++ entries (Layer.informed e) i layers⟩ := by
  induction layers generalizing i s record with
  | nil => rw [entries, List.append_nil]; rfl
  | cons l above ih =>
    have hl : (l.recorded i).onFailure e ⟨s, record⟩ =
        ⟨l.onFailure e s, record ++ l.informed e i⟩ := by
      cases l with
      | map f discard => rw [Layer.informed, List.append_nil]; rfl
      | compose k => rw [Layer.informed, List.append_nil]; rfl
      | inspect f discard => rfl
    rw [recordedFrom, List.foldl_cons, hl, ih, entries, List.foldl_cons, List.append_assoc]

lemma giveUp_recordedFrom (i : Nat) (layers : List (Layer σ W V)) (r : Recorded σ) :
    (recordedFrom i layers).foldl Layer.giveUp r =
      r.act fun s => layers.foldl Layer.giveUp s := by
  induction layers generalizing i r with
  | nil => rfl
  | cons l above ih =>
    have hl : (l.recorded i).giveUp r = r.act l.giveUp := by cases l <;> rfl
    rw [recordedFrom, List.foldl_cons, hl, ih]
    rfl

variable [Work σ W V]

lemma poll_besideRecord (p : Pending σ W V) (r : Recorded σ) :
    (besideRecord p).poll r =
      ⟨(p.poll r.surroundings).upshot, besideRecord (p.poll r.surroundings).rest,
        { r with surroundings := (p.poll r.surroundings).surroundings }⟩ := by
  induction p generalizing r with
  | ready slot => cases slot <;> rfl
  | work w =>
    simp only [besideRecord, poll, Work.advance]
    rcases Work.advance (V := V) w r.surroundings with ⟨w' | o | w', s'⟩ <;> rfl
  | settle below finish discard ih =>
    simp only [besideRecord, poll, ih]
    rcases below.poll r.surroundings with ⟨_ | o | _, below', s'⟩ <;> rfl
  | chain below next effect discard ih ihnext =>
    simp only [besideRecord, poll, ih]
    rcases below.poll r.surroundings with ⟨_ | (e | v) | _, below', s'⟩
    · rfl
    · rfl
    · exact ihnext v s' _
    · rfl

lemma abandon_besideRecord (p : Pending σ W V) (r : Recorded σ) :
    (besideRecord p).abandon r = r.act p.abandon := by
  induction p generalizing r with
  | ready slot => rfl
  | work w => rfl
  | settle below finish discard ih => simp only [besideRecord, abandon, ih]; rfl
  | chain below next effect discard ih => simp only [besideRecord, abandon, ih]; rfl

lemma poll_under (i : Nat) (p : Pending σ W V) (s : σ) (record : List Entry) :
    (p.under i).poll ⟨s, record⟩ =
      match p.poll s with
      | ⟨.waiting, p', s'⟩ => ⟨.waiting, p'.under i, ⟨s', record⟩⟩
      | ⟨.outcome (.ok v), _, s'⟩ => ⟨.outcome (.ok v), .ready none, ⟨s', record⟩⟩
      | ⟨.outcome (.error e), _, s'⟩ =>
        ⟨.outcome (.error e), .ready none, ⟨s', record ++ [.failed i e]⟩⟩
      | ⟨.broken, _, s'⟩ => ⟨.broken, .ready none, ⟨s', record⟩⟩ := by
  unfold under
  rw [poll_inspectFailure, poll_besideRecord]
  rcases p.poll s with ⟨_ | (e | v) | _, p', s'⟩ <;> rfl

/-- What a recorded layer goes on with is what the layer goes on with, recorded. -/
lemma poll_next_recorded (i : Nat) (l : Layer σ W V) (v : V) (s : σ) (record : List Entry) :
    ((l.recorded i).next v ⟨s, record⟩).poll ((l.recorded i).effect v ⟨s, record⟩) =
      ((l.next v s).under (i + 1)).poll ⟨l.effect v s, record ++ l.passed i⟩ := by
  cases l with
  | map f discard => rfl
  | compose k => rfl
  | inspect f discard => rw [Layer.passed, List.append_nil]; rfl

end ServiceBootstrap.Pending
