import Mathlib.Tactic.Lemma
import ServiceBootstrap.Hello.Serve

/-!
What is done with a connection, written down in its order.

A record of every read, write and closing, each with what came of it, can be kept beside the state
of a connection, and it changes nothing. What a loop adds to the record is a relation of its own:
the reads that go on until the head ends, and the writes that go on until all bytes are taken. From
the record alone one can tell what was read, what was sent and what failed.
-/

namespace ServiceBootstrap.Hello

variable {σ : Type} {w : Wire σ} {s s' : σ} {e : IoFailure}

/-! ### One step of each loop -/

lemma readHead_of_ends {head : List UInt8} (h : headEnds head) (s : σ) :
    readHead w head s = (.ok head, s) := by
  rw [readHead, if_pos h]

lemma readHead_of_error {head : List UInt8} (h : ¬ headEnds head)
    (hread : w.read s = (.error e, s')) : readHead w head s = (.error e, s') := by
  rw [readHead, if_neg h, hread]

lemma readHead_of_nothing {head : List UInt8} (h : ¬ headEnds head)
    (hread : w.read s = (.ok [], s')) : readHead w head s = (.ok head, s') := by
  rw [readHead, if_neg h, hread]

lemma readHead_of_some {head : List UInt8} {b : UInt8} {bs : List UInt8} (h : ¬ headEnds head)
    (hread : w.read s = (.ok (b :: bs), s')) :
    readHead w head s = readHead w (head ++ (b :: bs).take readLimit) s' := by
  rw [readHead, if_neg h, hread]

lemma writeAll_nil (s : σ) : writeAll w [] s = (.ok (), s) := by rw [writeAll]

lemma writeAll_of_error {b : UInt8} {bs : List UInt8}
    (hwrite : w.write (b :: bs) s = (.error e, s')) :
    writeAll w (b :: bs) s =
      if e.kind = .interrupted then writeAll w (b :: bs) s' else (.error e, s') := by
  rw [writeAll]
  split <;> simp_all

lemma writeAll_of_zero {b : UInt8} {bs : List UInt8} (hwrite : w.write (b :: bs) s = (.ok 0, s')) :
    writeAll w (b :: bs) s = (.error writeZero, s') := by
  rw [writeAll]
  split <;> simp_all

lemma writeAll_of_some {b : UInt8} {bs : List UInt8} {n : Nat}
    (hwrite : w.write (b :: bs) s = (.ok (n + 1), s')) :
    writeAll w (b :: bs) s = writeAll w (bs.drop n) s' := by
  rw [writeAll]
  split <;> simp_all

/-! ### The record -/

def failure? {α : Type} : Except IoFailure α → Option IoFailure
  | .error e => some e
  | .ok _ => none

lemma eq_error_of_failure? {α : Type} {outcome : Except IoFailure α}
    (h : failure? outcome = some e) : outcome = .error e := by
  cases outcome with
  | error _ => exact congrArg Except.error (Option.some.inj h)
  | ok _ => cases h

lemma eq_ok_of_failure? {α : Type} {outcome : Except IoFailure α} (h : failure? outcome = none) :
    ∃ a, outcome = .ok a := by
  cases outcome with
  | error _ => cases h
  | ok a => exact ⟨a, rfl⟩

lemma eq_of_failure? {outcome other : Except IoFailure Unit}
    (h : failure? outcome = failure? other) : outcome = other := by
  rcases hother : other with e | _
  · exact eq_error_of_failure? (h.trans (congrArg failure? hother))
  · obtain ⟨_, hok⟩ := eq_ok_of_failure? (h.trans (congrArg failure? hother))
    exact hok

/-- Something done with a connection, and what came of it. -/
inductive Deed where
  | read (outcome : Except IoFailure (List UInt8))
  | write (offered : List UInt8) (outcome : Except IoFailure Nat)
  | close (outcome : Except IoFailure Unit)

namespace Deed

def readFailure? : Deed → Option IoFailure
  | read outcome => failure? outcome
  | _ => none

/-- An interrupted write does not count, as it is tried again; one that takes nothing does. -/
def writeFailure? : Deed → Option IoFailure
  | write _ (.error e) => if e.kind = .interrupted then none else some e
  | write _ (.ok 0) => some writeZero
  | _ => none

def closeFailure? : Deed → Option IoFailure
  | close outcome => failure? outcome
  | _ => none

/-- The bytes that a read gave. -/
def heard : Deed → List UInt8
  | read (.ok bytes) => bytes
  | _ => []

/-- The bytes that a write took. -/
def sent : Deed → List UInt8
  | write offered (.ok n) => offered.take n
  | _ => []

end Deed

namespace Wire

/-- A connection beside a record of what is done with it. -/
def recorded (w : Wire σ) : Wire (σ × List Deed) where
  read s := ((w.read s.1).1, (w.read s.1).2, s.2 ++ [.read (w.read s.1).1])
  write bytes s :=
    ((w.write bytes s.1).1, (w.write bytes s.1).2, s.2 ++ [.write bytes (w.write bytes s.1).1])
  close s := ((w.close s.1).1, (w.close s.1).2, s.2 ++ [.close (w.close s.1).1])
  interruptions s := w.interruptions s.1
  interruptions_lt {bytes s e s'} h hkind := by
    obtain ⟨houtcome, hstate⟩ := Prod.mk.inj h
    exact w.interruptions_lt (Prod.ext houtcome (congrArg Prod.fst hstate)) hkind

/-- No read gives more than is asked for, and the state tells what has been written: all that the
writes took. -/
structure Faithful (w : Wire σ) (written : σ → List UInt8) : Prop where
  fits : ∀ {s bytes s'}, w.read s = (.ok bytes, s') → bytes.length ≤ readLimit
  read : ∀ {s outcome s'}, w.read s = (outcome, s') → written s' = written s
  write : ∀ {s bytes outcome s'}, w.write bytes s = (outcome, s') →
    written s' = written s ++ (Deed.write bytes outcome).sent
  close : ∀ {s outcome s'}, w.close s = (outcome, s') → written s' = written s

variable {deeds : List Deed}

lemma recorded_read {outcome : Except IoFailure (List UInt8)} (h : w.read s = (outcome, s')) :
    w.recorded.read (s, deeds) = (outcome, s', deeds ++ [.read outcome]) := by
  simp only [recorded, h]

lemma recorded_write {bytes : List UInt8} {outcome : Except IoFailure Nat}
    (h : w.write bytes s = (outcome, s')) :
    w.recorded.write bytes (s, deeds) = (outcome, s', deeds ++ [.write bytes outcome]) := by
  simp only [recorded, h]

lemma recorded_close {outcome : Except IoFailure Unit} (h : w.close s = (outcome, s')) :
    w.recorded.close (s, deeds) = (outcome, s', deeds ++ [.close outcome]) := by
  simp only [recorded, h]

end Wire

/-! ### Reading the head -/

/-- The reads behind a head, and what they come to. -/
inductive Reads : List UInt8 → List Deed → Except IoFailure (List UInt8) → Prop where
  | enough {head : List UInt8} (ends : headEnds head) : Reads head [] (.ok head)
  | failed {head : List UInt8} (ends : ¬ headEnds head) (e : IoFailure) :
    Reads head [.read (.error e)] (.error e)
  | nothing {head : List UInt8} (ends : ¬ headEnds head) : Reads head [.read (.ok [])] (.ok head)
  | some {head bytes : List UInt8} {deeds : List Deed} {outcome : Except IoFailure (List UInt8)}
    (ends : ¬ headEnds head) (nonempty : bytes ≠ []) (after : Reads (head ++ bytes) deeds outcome) :
    Reads head (.read (.ok bytes) :: deeds) outcome

variable {written : σ → List UInt8}

lemma Wire.Faithful.readHead_recorded (hw : w.Faithful written) (head : List UInt8) (s : σ)
    (deeds : List Deed) : ∃ reads,
      readHead w.recorded head (s, deeds) =
        ((readHead w head s).1, (readHead w head s).2, deeds ++ reads) ∧
      Reads head reads (readHead w head s).1 ∧ written (readHead w head s).2 = written s := by
  induction head, s using readHead.induct (w := w) generalizing deeds with
  | case1 head s hends =>
    rw [readHead_of_ends hends, readHead_of_ends hends]
    exact ⟨[], by simp, .enough hends, rfl⟩
  | case2 head s hends e s' hread =>
    rw [readHead_of_error hends hread, readHead_of_error hends (recorded_read hread)]
    exact ⟨_, rfl, .failed hends e, hw.read hread⟩
  | case3 head s hends s' hread =>
    rw [readHead_of_nothing hends hread, readHead_of_nothing hends (recorded_read hread)]
    exact ⟨_, rfl, .nothing hends, hw.read hread⟩
  | case4 head s hends b bs s' hread ih =>
    have hfits : (b :: bs).take readLimit = b :: bs := List.take_of_length_le (hw.fits hread)
    rw [readHead_of_some hends hread, readHead_of_some hends (recorded_read hread), hfits]
    rw [hfits] at ih
    obtain ⟨reads, hreads, hrelated, hkept⟩ := ih (deeds ++ [.read (.ok (b :: bs))])
    refine ⟨.read (.ok (b :: bs)) :: reads, ?_, .some hends (by simp) hrelated,
      hkept.trans (hw.read hread)⟩
    rw [hreads, List.append_assoc, List.singleton_append]

namespace Reads

variable {head : List UInt8} {deeds : List Deed} {outcome : Except IoFailure (List UInt8)}

lemma eq_read (h : Reads head deeds outcome) : ∀ d ∈ deeds, ∃ given, d = .read given := by
  induction h with
  | enough => simp
  | failed => simp
  | nothing => simp
  | some _ _ _ ih => exact List.forall_mem_cons.2 ⟨⟨_, rfl⟩, ih⟩

/-- The head that was read is what all reads gave. -/
lemma eq_heard {read : List UInt8} (h : Reads head deeds (.ok read)) :
    read = head ++ deeds.flatMap Deed.heard := by
  generalize houtcome : Except.ok read = outcome at h
  induction h with
  | enough => cases houtcome; simp
  | failed => cases houtcome
  | nothing => cases houtcome; simp [Deed.heard]
  | some _ _ _ ih => rw [ih houtcome, List.flatMap_cons, Deed.heard, List.append_assoc]

lemma failure_eq (h : Reads head deeds outcome) :
    deeds.findSome? Deed.readFailure? = failure? outcome := by
  induction h with
  | enough => rfl
  | failed => rfl
  | nothing => rfl
  | some _ _ _ ih => exact ih

end Reads

/-! ### Writing the response -/

/-- The writes of some bytes, and what they come to. -/
inductive Writes : List UInt8 → List Deed → Except IoFailure Unit → Prop where
  | done : Writes [] [] (.ok ())
  | failed {bytes : List UInt8} (left : bytes ≠ []) {e : IoFailure}
    (final : e.kind ≠ .interrupted) : Writes bytes [.write bytes (.error e)] (.error e)
  | stuck {bytes : List UInt8} (left : bytes ≠ []) :
    Writes bytes [.write bytes (.ok 0)] (.error writeZero)
  | again {bytes : List UInt8} {e : IoFailure} {deeds : List Deed} {outcome : Except IoFailure Unit}
    (interrupted : e.kind = .interrupted) (after : Writes bytes deeds outcome) :
    Writes bytes (.write bytes (.error e) :: deeds) outcome
  | some {bytes : List UInt8} {n : Nat} {deeds : List Deed} {outcome : Except IoFailure Unit}
    (after : Writes (bytes.drop (n + 1)) deeds outcome) :
    Writes bytes (.write bytes (.ok (n + 1)) :: deeds) outcome

lemma Wire.Faithful.writeAll_recorded (hw : w.Faithful written) (bytes : List UInt8) (s : σ)
    (deeds : List Deed) : ∃ writes,
      writeAll w.recorded bytes (s, deeds) =
        ((writeAll w bytes s).1, (writeAll w bytes s).2, deeds ++ writes) ∧
      Writes bytes writes (writeAll w bytes s).1 ∧
      written (writeAll w bytes s).2 = written s ++ writes.flatMap Deed.sent := by
  induction bytes, s using writeAll.induct (w := w) generalizing deeds with
  | case1 s =>
    rw [writeAll_nil, writeAll_nil]
    exact ⟨[], by simp, .done, by simp⟩
  | case2 s b bs e s' hwrite hkind ih =>
    rw [writeAll_of_error hwrite, writeAll_of_error (recorded_write hwrite), if_pos hkind,
      if_pos hkind]
    obtain ⟨writes, hwrites, hrelated, htold⟩ := ih (deeds ++ [.write (b :: bs) (.error e)])
    refine ⟨.write (b :: bs) (.error e) :: writes, ?_, .again hkind hrelated, ?_⟩
    · rw [hwrites, List.append_assoc, List.singleton_append]
    · rw [htold, hw.write hwrite, List.append_assoc, List.flatMap_cons]
  | case3 s b bs e s' hwrite hkind =>
    rw [writeAll_of_error hwrite, writeAll_of_error (recorded_write hwrite), if_neg hkind,
      if_neg hkind]
    exact ⟨_, rfl, .failed (by simp) hkind, by simp [hw.write hwrite]⟩
  | case4 s b bs s' hwrite =>
    rw [writeAll_of_zero hwrite, writeAll_of_zero (recorded_write hwrite)]
    exact ⟨_, rfl, .stuck (by simp), by simp [hw.write hwrite]⟩
  | case5 s b bs n s' hwrite ih =>
    rw [writeAll_of_some hwrite, writeAll_of_some (recorded_write hwrite)]
    obtain ⟨writes, hwrites, hrelated, htold⟩ := ih (deeds ++ [.write (b :: bs) (.ok (n + 1))])
    refine ⟨.write (b :: bs) (.ok (n + 1)) :: writes, ?_, .some hrelated, ?_⟩
    · rw [hwrites, List.append_assoc, List.singleton_append]
    · rw [htold, hw.write hwrite, List.append_assoc, List.flatMap_cons]

namespace Writes

variable {bytes : List UInt8} {deeds : List Deed} {outcome : Except IoFailure Unit}

lemma eq_write (h : Writes bytes deeds outcome) :
    ∀ d ∈ deeds, ∃ offered taken, d = .write offered taken := by
  induction h with
  | done => simp
  | failed => simp
  | stuck => simp
  | again _ _ ih => exact List.forall_mem_cons.2 ⟨⟨_, _, rfl⟩, ih⟩
  | some _ ih => exact List.forall_mem_cons.2 ⟨⟨_, _, rfl⟩, ih⟩

/-- What is sent are the first of the bytes, and all of them just if nothing goes wrong. -/
lemma sent_append (h : Writes bytes deeds outcome) :
    ∃ left, deeds.flatMap Deed.sent ++ left = bytes ∧ (outcome = .ok () ↔ left = []) := by
  induction h with
  | done => exact ⟨[], by simp⟩
  | @failed bytes hleft => exact ⟨bytes, rfl, by simp [hleft]⟩
  | @stuck bytes hleft => exact ⟨bytes, rfl, by simp [hleft]⟩
  | again _ _ ih => simpa [Deed.sent] using ih
  | @some bytes n _ _ _ ih =>
    obtain ⟨left, hsent, hok⟩ := ih
    refine ⟨left, ?_, hok⟩
    rw [List.flatMap_cons, List.append_assoc, hsent]
    exact List.take_append_drop _ _

lemma failure_eq (h : Writes bytes deeds outcome) :
    deeds.findSome? Deed.writeFailure? = failure? outcome := by
  induction h with
  | done => rfl
  | failed _ hfinal => simp [Deed.writeFailure?, failure?, hfinal]
  | stuck => rfl
  | again hinterrupted _ ih => rwa [List.findSome?_cons, Deed.writeFailure?, if_pos hinterrupted]
  | some _ ih => exact ih

end Writes

end ServiceBootstrap.Hello
