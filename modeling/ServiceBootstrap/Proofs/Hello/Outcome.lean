import Mathlib.Data.List.Infix
import ServiceBootstrap.Configuration
import ServiceBootstrap.Hello.Script
import ServiceBootstrap.Proofs.Hello.Deeds

/-!
How serving a connection ends, whatever goes wrong on the way.

A connection that was served has been read from, then written to, then closed, and the first of
these that fails is the end of it. So what was written is part of the response to what was read,
the whole of it just if the connection was gone on to be closed. For a script one can say more: a
write failure comes when so many bytes have been taken, however many were taken at a time, and one
that is an interruption only is overcome.
-/

namespace ServiceBootstrap.Hello

variable {σ : Type} {w : Wire σ} {written : σ → List UInt8}

lemma Response.bytes_ne_nil (r : Response) : r.bytes ≠ [] := by
  have hversion : "HTTP/1.1 ".toByteArray.data ≠ #[] := by decide
  simp [Response.bytes, Response.text, hversion]

/-! ### Deeds of one kind -/

lemma Reads.no_others {head : List UInt8} {deeds : List Deed}
    {outcome : Except IoFailure (List UInt8)} (h : Reads head deeds outcome) :
    deeds.flatMap Deed.sent = [] ∧ deeds.findSome? Deed.writeFailure? = none ∧
      deeds.findSome? Deed.closeFailure? = none ∧ ∀ closing, .close closing ∉ deeds := by
  have hread := h.eq_read
  refine ⟨List.flatMap_eq_nil_iff.2 fun d hd => ?_, List.findSome?_eq_none_iff.2 fun d hd => ?_,
    List.findSome?_eq_none_iff.2 fun d hd => ?_, fun closing hd => ?_⟩ <;>
  · obtain ⟨given, hgiven⟩ := hread _ hd
    cases hgiven <;> rfl

lemma Writes.no_others {bytes : List UInt8} {deeds : List Deed} {outcome : Except IoFailure Unit}
    (h : Writes bytes deeds outcome) :
    deeds.flatMap Deed.heard = [] ∧ deeds.findSome? Deed.readFailure? = none ∧
      deeds.findSome? Deed.closeFailure? = none ∧ ∀ closing, .close closing ∉ deeds := by
  have hwrite := h.eq_write
  refine ⟨List.flatMap_eq_nil_iff.2 fun d hd => ?_, List.findSome?_eq_none_iff.2 fun d hd => ?_,
    List.findSome?_eq_none_iff.2 fun d hd => ?_, fun closing hd => ?_⟩ <;>
  · obtain ⟨offered, taken, htaken⟩ := hwrite _ hd
    cases htaken <;> rfl

/-! ### The whole connection -/

/-- All that is done with a connection, what reading it comes to, and what serving it does. -/
inductive Served (root : String) :
    Except IoFailure (List UInt8) → List Deed → Except IoFailure Unit → Prop where
  | unread {reads : List Deed} {e : IoFailure} (read : Reads [] reads (.error e)) :
    Served root (.error e) reads (.error e)
  | unwritten {reads writes : List Deed} {head : List UInt8} {e : IoFailure}
    (read : Reads [] reads (.ok head))
    (write : Writes (response root head).bytes writes (.error e)) :
    Served root (.ok head) (reads ++ writes) (.error e)
  | closed {reads writes : List Deed} {head : List UInt8} (read : Reads [] reads (.ok head))
    (write : Writes (response root head).bytes writes (.ok ())) (outcome : Except IoFailure Unit) :
    Served root (.ok head) (reads ++ writes ++ [.close outcome]) outcome

lemma Wire.Faithful.serve_recorded (hw : w.Faithful written) (root : String) (s : σ) :
    ∃ deeds, serve w.recorded root (s, []) = ((serve w root s).1, (serve w root s).2, deeds) ∧
      Served root (readHead w [] s).1 deeds (serve w root s).1 ∧
      written (serve w root s).2 = written s ++ deeds.flatMap Deed.sent := by
  obtain ⟨reads, hreads, hread, hkept⟩ := hw.readHead_recorded [] s []
  rw [List.nil_append] at hreads
  unfold serve
  rw [hreads]
  rcases hhead : readHead w [] s with ⟨e | head, s₁⟩
  · rw [hhead] at hread hkept
    dsimp only
    exact ⟨reads, rfl, .unread hread, by rw [hkept, hread.no_others.1, List.append_nil]⟩
  · rw [hhead] at hread hkept
    dsimp only at hread hkept ⊢
    obtain ⟨writes, hwrites, hwrite, htold⟩ :=
      hw.writeAll_recorded (response root head).bytes s₁ reads
    rw [hwrites]
    rcases hall : writeAll w (response root head).bytes s₁ with ⟨e | _, s₂⟩
    · rw [hall] at hwrite htold
      refine ⟨reads ++ writes, rfl, .unwritten hread hwrite, ?_⟩
      rw [List.flatMap_append, hread.no_others.1, List.nil_append]
      exact htold.trans (congrArg (· ++ _) hkept)
    · rw [hall] at hwrite htold
      dsimp only at hwrite htold ⊢
      rcases hclose : w.close s₂ with ⟨outcome, s₃⟩
      rw [recorded_close hclose]
      refine ⟨reads ++ writes ++ [.close outcome], rfl, .closed hread hwrite outcome, ?_⟩
      have hclosed : written s₃ = written s₂ := hw.close hclose
      simp only [List.flatMap_append, hread.no_others.1, hclosed, htold, hkept, Deed.sent,
        List.flatMap_cons, List.flatMap_nil, List.append_nil, List.nil_append]

/-- All there was to send: the response to what the reads gave. -/
def answer (root : String) (deeds : List Deed) : List UInt8 :=
  (response root (deeds.flatMap Deed.heard)).bytes

namespace Served

variable {root : String} {reading : Except IoFailure (List UInt8)} {deeds : List Deed}
  {outcome : Except IoFailure Unit}

lemma answer_append {reads writes : List Deed} {head bytes : List UInt8}
    {outcome : Except IoFailure Unit} (hread : Reads [] reads (.ok head))
    (hwrite : Writes bytes writes outcome) :
    answer root (reads ++ writes) = (response root head).bytes := by
  rw [answer, List.flatMap_append, hwrite.no_others.1, hread.eq_heard, List.nil_append,
    List.append_nil]

lemma answer_append_close (deeds : List Deed) (outcome : Except IoFailure Unit) :
    answer root (deeds ++ [Deed.close outcome]) = answer root deeds := by
  simp [answer, Deed.heard]

/-- What was sent is part of the answer, and the whole of it just if nothing failed before the
connection was closed. -/
lemma sent_isPrefix (h : Served root reading deeds outcome) :
    deeds.flatMap Deed.sent <+: answer root deeds ∧
      (deeds.flatMap Deed.sent = answer root deeds ↔
        deeds.findSome? Deed.readFailure? = none ∧ deeds.findSome? Deed.writeFailure? = none) ∧
      ((∃ closing, .close closing ∈ deeds) ↔ deeds.flatMap Deed.sent = answer root deeds) := by
  cases h with
  | @unread reads e hread =>
    obtain ⟨hsent, -, -, hclose⟩ := hread.no_others
    have hanswer : [] ≠ answer root deeds := (Response.bytes_ne_nil _).symm
    rw [hsent, hread.failure_eq]
    exact ⟨List.nil_prefix, by simp [hanswer, failure?], by simp [hanswer, hclose]⟩
  | @unwritten reads writes head e hread hwrite =>
    obtain ⟨left, hleft, hall⟩ := hwrite.sent_append
    have hsome : left ≠ [] := fun hnil => absurd (hall.2 hnil) (by simp)
    rw [answer_append hread hwrite, List.flatMap_append, hread.no_others.1, List.nil_append,
      ← hleft, List.findSome?_append, List.findSome?_append, hwrite.failure_eq]
    refine ⟨List.prefix_append _ _, ?_, ?_⟩
    · simp [hsome, failure?, hread.no_others.2.1]
    · simp [hsome, hread.no_others.2.2.2, hwrite.no_others.2.2.2]
  | @closed reads writes head hread hwrite _ =>
    obtain ⟨left, hleft, hall⟩ := hwrite.sent_append
    have hanswer : answer root (reads ++ writes ++ [Deed.close outcome]) =
        (reads ++ writes ++ [Deed.close outcome]).flatMap Deed.sent := by
      rw [answer_append_close, answer_append hread hwrite, ← hleft, hall.1 rfl]
      simp [hread.no_others.1, Deed.sent]
    rw [hanswer]
    refine ⟨List.prefix_rfl, iff_of_true rfl ⟨?_, ?_⟩, iff_of_true ⟨outcome, by simp⟩ rfl⟩
    · simp [List.findSome?_append, hread.failure_eq, hwrite.no_others.2.1, failure?,
        Deed.readFailure?]
    · simp [List.findSome?_append, hread.no_others.2.1, hwrite.failure_eq, failure?,
        Deed.writeFailure?]

lemma reading_failure (h : Served root reading deeds outcome) :
    deeds.findSome? Deed.readFailure? = failure? reading := by
  cases h with
  | unread hread => exact hread.failure_eq
  | unwritten hread hwrite =>
    simp [List.findSome?_append, hread.failure_eq, hwrite.no_others.2.1, failure?]
  | closed hread hwrite =>
    simp [List.findSome?_append, hread.failure_eq, hwrite.no_others.2.1, failure?,
      Deed.readFailure?]

lemma answer_eq {head : List UInt8} (h : Served root (.ok head) deeds outcome) :
    answer root deeds = (response root head).bytes := by
  cases h with
  | unwritten hread hwrite => exact answer_append hread hwrite
  | closed hread hwrite => exact (answer_append_close _ _).trans (answer_append hread hwrite)

/-- The first failure is the result, and there is no other. -/
lemma failure_eq (h : Served root reading deeds outcome) :
    failure? outcome = (deeds.findSome? Deed.readFailure?).or
      ((deeds.findSome? Deed.writeFailure?).or (deeds.findSome? Deed.closeFailure?)) := by
  cases h with
  | unread hread =>
    rw [hread.failure_eq]
    rfl
  | unwritten hread hwrite =>
    simp [List.findSome?_append, hread.failure_eq, hread.no_others, hwrite.failure_eq,
      hwrite.no_others, failure?]
  | closed hread hwrite =>
    simp [List.findSome?_append, hread.failure_eq, hread.no_others, hwrite.failure_eq,
      hwrite.no_others, failure?, Deed.readFailure?, Deed.writeFailure?, Deed.closeFailure?]

end Served

/-! ### Scripts -/

namespace Script

variable {s t : Script}

lemma accept_eq (bytes : List UInt8) (s : Script) :
    ∃ k ≤ bytes.length, s.accept bytes = (.ok k, { s with written := s.written ++ bytes.take k }) ∧
      (s.writeLimit ≠ some 0 → bytes ≠ [] → 0 < k) := by
  unfold accept
  cases s.writeLimit with
  | none => exact ⟨bytes.length, le_rfl, by simp, fun _ => List.length_pos_iff.2⟩
  | some most =>
    refine ⟨(bytes.take most).length, List.length_take_le' .., ?_, fun hmost hbytes => ?_⟩
    · simp [List.take_eq_take_iff]
    · have hpos := List.length_pos_iff.2 hbytes
      have hmost : most ≠ 0 := fun hzero => hmost (congrArg some hzero)
      rw [List.length_take]
      omega

/-- A write fails where it should, or takes some of the bytes in front of that place. -/
lemma write_cases (bytes : List UInt8) (s : Script) :
    (∃ n e, s.writeFailure = some (n, e) ∧ n ≤ s.written.length ∧
      wire.write bytes s = (.error e, { s with writeFailure := none })) ∨
    ∃ k ≤ bytes.length, (∀ n e, s.writeFailure = some (n, e) → s.written.length + k ≤ n) ∧
      wire.write bytes s = (.ok k, { s with written := s.written ++ bytes.take k }) ∧
      (s.writeLimit ≠ some 0 → bytes ≠ [] → 0 < k) := by
  rcases Option.eq_none_or_eq_some s.writeFailure with hfailure | ⟨⟨n, e⟩, hfailure⟩
  · have hwrite : wire.write bytes s = s.accept bytes := by simp only [wire, write, hfailure]
    obtain ⟨k, hk, haccept, hpos⟩ := s.accept_eq bytes
    exact .inr ⟨k, hk, by simp [hfailure], hwrite.trans haccept, hpos⟩
  · have hwrite : wire.write bytes s = if n - s.written.length = 0
        then (.error e, { s with writeFailure := none })
        else s.accept (bytes.take (n - s.written.length)) := by
      simp only [wire, write, hfailure]
    by_cases hroom : n - s.written.length = 0
    · exact .inl ⟨n, e, hfailure, by omega, hwrite.trans (if_pos hroom)⟩
    · obtain ⟨k, hk, haccept, hpos⟩ := s.accept_eq (bytes.take (n - s.written.length))
      rw [List.length_take] at hk
      refine .inr ⟨k, by omega, ?_, ?_, fun hlimit hbytes => hpos hlimit (by simp [hroom, hbytes])⟩
      · intro _ _ hsame
        cases hfailure.symm.trans hsame
        omega
      · rw [hwrite, if_neg hroom, haccept, List.take_take, Nat.min_eq_left (by omega)]

lemma wire_faithful : wire.Faithful Script.written where
  fits {s bytes s'} h := by
    dsimp only [wire, read] at h
    split at h <;> cases h
    · exact Nat.zero_le _
    · exact List.length_take_le _ _
  read {s outcome s'} h := by
    dsimp only [wire, read] at h
    split at h <;> cases h <;> rfl
  write {s bytes outcome s'} h := by
    rcases s.write_cases bytes with ⟨n, e, -, -, hwrite⟩ | ⟨k, -, -, hwrite, -⟩
    · cases hwrite.symm.trans h
      simp [Deed.sent]
    · cases hwrite.symm.trans h
      rfl
  close {s outcome s'} h := by
    dsimp only [wire, close] at h
    split at h <;> cases h <;> rfl

/-- The failure that a response of so many bytes does not get past, and the number of bytes that
are taken before it. A write that is only interrupted is tried again. -/
def fault? (s : Script) (length : Nat) : Option (Nat × IoFailure) :=
  s.writeFailure.filter fun fault =>
    fault.1 - s.written.length < length ∧ fault.2.kind ≠ .interrupted

/-- What is taken of a response. -/
def taken (s : Script) (bytes : List UInt8) : List UInt8 :=
  match s.fault? bytes.length with
  | some (n, _) => bytes.take (n - s.written.length)
  | none => bytes

lemma taken_of_none {bytes : List UInt8} (h : s.fault? bytes.length = none) :
    s.taken bytes = bytes := by
  rw [taken, h]

lemma taken_of_some {bytes : List UInt8} {n : Nat} {e : IoFailure}
    (h : s.fault? bytes.length = some (n, e)) :
    s.taken bytes = bytes.take (n - s.written.length) := by
  rw [taken, h]

/-- Taking some bytes in front of the failure brings it as much nearer. -/
lemma fault?_after {k length : Nat} {more : List UInt8} (hmore : more.length = k)
    (hk : k ≤ length) (hfront : ∀ n e, s.writeFailure = some (n, e) → s.written.length + k ≤ n) :
    fault? { s with written := s.written ++ more } (length - k) = s.fault? length := by
  rcases Option.eq_none_or_eq_some s.writeFailure with hfailure | ⟨⟨n, e⟩, hfailure⟩
  · simp [fault?, hfailure]
  · have hn := hfront n e hfailure
    have hlt : n - (s.written.length + k) < length - k ↔ n - s.written.length < length := by omega
    simp [fault?, hfailure, Option.filter, hmore, hlt]

lemma taken_after {k : Nat} {bytes : List UInt8} (hk : k ≤ bytes.length)
    (hfront : ∀ n e, s.writeFailure = some (n, e) → s.written.length + k ≤ n) :
    bytes.take k ++ taken { s with written := s.written ++ bytes.take k } (bytes.drop k) =
      s.taken bytes := by
  have hlength : (bytes.take k).length = k := List.length_take_of_le hk
  have hfault := fault?_after hlength hk hfront
  rw [← List.length_drop] at hfault
  rcases Option.eq_none_or_eq_some (s.fault? bytes.length) with hnone | ⟨⟨n, e⟩, hsome⟩
  · rw [taken_of_none hnone, taken_of_none (hfault.trans hnone), List.take_append_drop]
  · have hn := hfront n e (Option.eq_some_of_filter_eq_some hsome)
    have hsplit : n - s.written.length = k + (n - (s.written.length + k)) := by omega
    rw [taken_of_some hsome, taken_of_some (hfault.trans hsome), List.length_append, hlength,
      hsplit, List.take_add]

/-- Writing all bytes ends with the failure that is in the way, if there is one, and takes all that
stands before it. -/
lemma wire_writeAll (bytes : List UInt8) (s : Script) (hlimit : s.writeLimit ≠ some 0) :
    failure? (writeAll wire bytes s).1 = (s.fault? bytes.length).map (·.2) ∧
      (writeAll wire bytes s).2.written = s.written ++ s.taken bytes ∧
      (writeAll wire bytes s).2.closeFailure = s.closeFailure := by
  induction bytes, s using writeAll.induct (w := wire) with
  | case1 s =>
    have hnone : s.fault? ([] : List UInt8).length = none := by simp [fault?]
    rw [writeAll_nil, hnone, taken_of_none hnone, List.append_nil]
    exact ⟨rfl, rfl, rfl⟩
  | case2 s b bs e s' hwrite hkind ih =>
    rcases s.write_cases (b :: bs) with ⟨n, _, hfailure, -, hstruck⟩ | ⟨k, -, -, htaken, -⟩
    · cases hwrite.symm.trans hstruck
      have hnone : s.fault? (b :: bs).length = none := by simp [fault?, hfailure, hkind]
      have hcalm : fault? { s with writeFailure := none } (b :: bs).length = none := rfl
      rw [writeAll_of_error hwrite, if_pos hkind, hnone, taken_of_none hnone]
      rw [hcalm, taken_of_none hcalm] at ih
      exact ih hlimit
    · cases hwrite.symm.trans htaken
  | case3 s b bs e s' hwrite hkind =>
    rcases s.write_cases (b :: bs) with ⟨n, _, hfailure, hn, hstruck⟩ | ⟨k, -, -, htaken, -⟩
    · cases hwrite.symm.trans hstruck
      have hroom : n - s.written.length = 0 := by omega
      have hsome : s.fault? (b :: bs).length = some (n, e) := by
        simp [fault?, hfailure, Option.filter, hkind, hroom]
      rw [writeAll_of_error hwrite, if_neg hkind, hsome, taken_of_some hsome, hroom, List.take_zero,
        List.append_nil]
      exact ⟨rfl, rfl, rfl⟩
    · cases hwrite.symm.trans htaken
  | case4 s b bs s' hwrite =>
    rcases s.write_cases (b :: bs) with ⟨n, _, -, -, hstruck⟩ | ⟨k, -, -, htaken, hpos⟩
    · cases hwrite.symm.trans hstruck
    · cases hwrite.symm.trans htaken
      exact absurd (hpos hlimit (by simp)) (Nat.lt_irrefl 0)
  | case5 s b bs n s' hwrite ih =>
    rcases s.write_cases (b :: bs) with ⟨m, _, -, -, hstruck⟩ | ⟨k, hk, hfront, htaken, -⟩
    · cases hwrite.symm.trans hstruck
    · cases hwrite.symm.trans htaken
      have hfault := fault?_after (List.length_take_of_le hk) hk hfront
      rw [← List.length_drop] at hfault
      obtain ⟨hfailure, hwritten, hclose⟩ := ih hlimit
      rw [writeAll_of_some hwrite]
      refine ⟨hfailure.trans (congrArg (Option.map (·.2)) hfault), ?_, hclose⟩
      rw [hwritten, List.append_assoc]
      exact congrArg (s.written ++ ·) (taken_after hk hfront)

/-- Reading depends on what comes in, and leaves all else as it is. -/
lemma read_congr {outcome : Except IoFailure (List UInt8)} {s' : Script}
    (h : wire.read s = (outcome, s')) (hsame : t.incoming = s.incoming) :
    (∃ t', wire.read t = (outcome, t') ∧ t'.incoming = s'.incoming) ∧
      s' = { s with incoming := s'.incoming, bytesRead := s'.bytesRead } := by
  dsimp only [wire, read] at h ⊢
  rw [hsame]
  split at h <;> cases h
  · exact ⟨⟨t, rfl, hsame⟩, rfl⟩
  · exact ⟨⟨_, rfl, rfl⟩, rfl⟩
  · exact ⟨⟨_, rfl, rfl⟩, rfl⟩

lemma wire_readHead (head : List UInt8) (s t : Script) (hsame : t.incoming = s.incoming) :
    (readHead wire head t).1 = (readHead wire head s).1 ∧
      ∃ incoming bytesRead, (readHead wire head s).2 =
        { s with incoming := incoming, bytesRead := bytesRead } := by
  induction head, s using readHead.induct (w := wire) generalizing t with
  | case1 head s hends =>
    rw [readHead_of_ends hends, readHead_of_ends hends]
    exact ⟨rfl, s.incoming, s.bytesRead, rfl⟩
  | case2 head s hends e s' hread =>
    obtain ⟨⟨t', hread', -⟩, hkept⟩ := read_congr hread hsame
    rw [readHead_of_error hends hread, readHead_of_error hends hread']
    exact ⟨rfl, _, _, hkept⟩
  | case3 head s hends s' hread =>
    obtain ⟨⟨t', hread', -⟩, hkept⟩ := read_congr hread hsame
    rw [readHead_of_nothing hends hread, readHead_of_nothing hends hread']
    exact ⟨rfl, _, _, hkept⟩
  | case4 head s hends b bs s' hread ih =>
    obtain ⟨⟨t', hread', hsame'⟩, hkept⟩ := read_congr hread hsame
    obtain ⟨hhead, incoming, bytesRead, hrest⟩ := ih t' hsame'
    rw [readHead_of_some hends hread, readHead_of_some hends hread']
    refine ⟨hhead, incoming, bytesRead, ?_⟩
    rw [hrest, hkept]

/-- A read fails only as the script has it. -/
lemma fails_mem_of_readHead {head : List UInt8} {s : Script} {e : IoFailure}
    (h : (readHead wire head s).1 = .error e) : .fails e ∈ s.incoming := by
  induction head, s using readHead.induct (w := wire) with
  | case1 head s hends =>
    rw [readHead_of_ends hends] at h
    cases h
  | case2 head s hends e' s' hread =>
    rw [readHead_of_error hends hread] at h
    cases h
    dsimp only [wire, read] at hread
    split at hread <;> cases hread
    rename_i hincoming
    rw [hincoming]
    exact List.mem_cons_self
  | case3 head s hends s' hread =>
    rw [readHead_of_nothing hends hread] at h
    cases h
  | case4 head s hends b bs s' hread ih =>
    rw [readHead_of_some hends hread] at h
    have hmem := ih h
    dsimp only [wire, read] at hread
    split at hread
    · cases hread
    · cases hread
    · rename_i bytes rest hincoming
      rw [← congrArg (·.2.incoming) hread] at hmem
      rw [hincoming]
      dsimp only at hmem
      split at hmem
      · exact List.mem_cons_of_mem _ hmem
      · simpa using hmem

/-- How a script is served, told by its parts: reading fails, or the response runs into a failure,
or closing may fail. -/
lemma wire_serve (root : String) (s : Script) (hlimit : s.writeLimit ≠ some 0) :
    (∀ e, (readHead wire [] s).1 = .error e →
      failure? (serve wire root s).1 = some e ∧ (serve wire root s).2.written = s.written) ∧
    ∀ head, (readHead wire [] s).1 = .ok head →
      let bytes := (response root head).bytes
      failure? (serve wire root s).1 = ((s.fault? bytes.length).map (·.2)).or s.closeFailure ∧
        (serve wire root s).2.written = s.written ++ s.taken bytes := by
  obtain ⟨-, incoming, bytesRead, hkept⟩ := wire_readHead [] s s rfl
  rcases hhead : readHead wire [] s with ⟨e | head, s₁⟩
  · rw [hhead] at hkept
    refine ⟨fun _ he => ?_, fun head hok => by cases hok⟩
    cases he
    dsimp only at hkept
    unfold serve
    rw [hhead, hkept]
    exact ⟨rfl, rfl⟩
  · rw [hhead] at hkept
    refine ⟨fun _ he => (by cases he), fun _ hok => ?_⟩
    cases hok
    dsimp only at hkept
    subst hkept
    obtain ⟨hfailure, hwritten, hclose⟩ := wire_writeAll (response root head).bytes
      { s with incoming := incoming, bytesRead := bytesRead } hlimit
    unfold serve
    rw [hhead]
    dsimp only at hfailure hwritten hclose ⊢
    rcases hall : writeAll wire (response root head).bytes
      { s with incoming := incoming, bytesRead := bytesRead } with ⟨e | _, s₂⟩
    · rw [hall] at hfailure hwritten
      have hfault : (s.fault? (response root head).bytes.length).map (·.2) = some e := hfailure.symm
      rw [hfault]
      exact ⟨rfl, hwritten⟩
    · rw [hall] at hfailure hwritten hclose
      have hfault : (s.fault? (response root head).bytes.length).map (·.2) = none := hfailure.symm
      dsimp only at hwritten hclose ⊢
      rw [hfault, Option.none_or]
      dsimp only [wire, close]
      rw [hclose]
      rcases Option.eq_none_or_eq_some s.closeFailure with hnone | ⟨e, hsome⟩
      · rw [hnone]
        exact ⟨rfl, hwritten⟩
      · rw [hsome]
        exact ⟨rfl, hwritten⟩

end Script

/-! ### The outcome -/

/-- **Serving ends with the first failure.** Beside a record, which changes nothing, one can see
that what is written is always part of the response to what was read; that it is the whole of it
just if no read failed and no write did, other than by being interrupted, and that only then the
connection is closed; that nothing is written behind a read that failed; and that the result is the
failure of reading, or else of writing, or else of closing, as the script has it. How many bytes
are taken at a time makes no difference. -/
theorem served_until_failure (c : Configuration) (s : Script) (hstart : s.written = [])
    (hlimit : s.writeLimit ≠ some 0) :
    let out := serve Script.wire c.rootPath s
    let deeds := (serve Script.wire.recorded c.rootPath (s, [])).2.2
    let answer := answer c.rootPath deeds
    serve Script.wire.recorded c.rootPath (s, []) = (out.1, out.2, deeds) ∧
    out.2.written <+: answer ∧
    (out.2.written = answer ↔
      deeds.findSome? Deed.readFailure? = none ∧ deeds.findSome? Deed.writeFailure? = none) ∧
    ((∃ closing, .close closing ∈ deeds) ↔ out.2.written = answer) ∧
    failure? out.1 = (deeds.findSome? Deed.readFailure?).or
      ((deeds.findSome? Deed.writeFailure?).or (deeds.findSome? Deed.closeFailure?)) ∧
    (∀ e, deeds.findSome? Deed.readFailure? = some e →
      .fails e ∈ s.incoming ∧ out.2.written = []) ∧
    (deeds.findSome? Deed.readFailure? = none →
      failure? out.1 = ((s.fault? answer.length).map (·.2)).or s.closeFailure ∧
        out.2.written = s.taken answer) ∧
    ∀ limit, limit ≠ some 0 →
      let other := serve Script.wire c.rootPath { s with writeLimit := limit }
      other.1 = out.1 ∧ other.2.written = out.2.written := by
  intro out deeds answer
  obtain ⟨deeds', hdeeds, hserved, hsent⟩ := Script.wire_faithful.serve_recorded c.rootPath s
  have hsame : deeds = deeds' := congrArg (·.2.2) hdeeds
  have hwritten : out.2.written = deeds.flatMap Deed.sent := by
    rw [hstart, List.nil_append, ← hsame] at hsent
    exact hsent
  rw [← hsame] at hserved
  obtain ⟨hpart, hwhole, hclosed⟩ := hserved.sent_isPrefix
  obtain ⟨hunread, hread⟩ := s.wire_serve c.rootPath hlimit
  have hreading := hserved.reading_failure
  refine ⟨hdeeds.trans (by rw [hsame]), hwritten ▸ hpart, hwritten ▸ hwhole, hwritten ▸ hclosed,
    hserved.failure_eq, fun e he => ?_, fun hnone => ?_, fun limit hother => ?_⟩
  · rw [he] at hreading
    have herror := eq_error_of_failure? hreading.symm
    exact ⟨Script.fails_mem_of_readHead herror, (hunread e herror).2.trans hstart⟩
  · rw [hnone] at hreading
    obtain ⟨head, hhead⟩ := eq_ok_of_failure? hreading.symm
    have hanswer : answer = (response c.rootPath head).bytes := by
      rw [hhead] at hserved
      exact hserved.answer_eq
    obtain ⟨hfailure, htaken⟩ := hread head hhead
    rw [hstart, List.nil_append] at htaken
    rw [hanswer]
    exact ⟨hfailure, htaken⟩
  · intro other
    obtain ⟨hunread', hread'⟩ := Script.wire_serve c.rootPath { s with writeLimit := limit } hother
    have hhead := (Script.wire_readHead [] s { s with writeLimit := limit } rfl).1
    rw [hhead] at hunread' hread'
    rcases hreads : (readHead Script.wire [] s).1 with e | head
    · obtain ⟨hfailure, hnothing⟩ := hunread e hreads
      obtain ⟨hfailure', hnothing'⟩ := hunread' e hreads
      exact ⟨eq_of_failure? (hfailure'.trans hfailure.symm), hnothing'.trans hnothing.symm⟩
    · obtain ⟨hfailure, htaken⟩ := hread head hreads
      obtain ⟨hfailure', htaken'⟩ := hread' head hreads
      exact ⟨eq_of_failure? (hfailure'.trans hfailure.symm), htaken'.trans htaken.symm⟩

/-- A broken connection behind three bytes, which a slow reader takes one at a time. -/
theorem served_until_failure_broken :
    let s : Script :=
      { incoming := [.bytes [71, 69, 84, 32, 47, 10]]
        writeLimit := some 1
        writeFailure := some (3, ⟨.brokenPipe, "gone"⟩) }
    s.written = [] ∧ s.writeLimit ≠ some 0 ∧
      (serve Script.wire "/" s).1 = .error ⟨.brokenPipe, "gone"⟩ ∧
      (serve Script.wire "/" s).2.written = [72, 84, 84] ∧
      (serve Script.wire "/" { s with writeLimit := none }).2.written = [72, 84, 84] := by
  intro s
  have hroot : (Builder.new.build).rootPath = "/" := by decide
  have hserved := served_until_failure Builder.new.build s rfl (by decide)
  rw [hroot] at hserved
  obtain ⟨-, -, -, -, -, hread, hwrite, hany⟩ := hserved
  have hnone : (serve Script.wire.recorded "/" (s, [])).2.2.findSome? Deed.readFailure? = none :=
    Option.eq_none_iff_forall_ne_some.2 fun e he => by simpa [s] using (hread e he).1
  obtain ⟨hfailure, htaken⟩ := hwrite hnone
  have hresponse : ∀ root head, 3 < (response root head).bytes.length ∧
      (response root head).bytes.take 3 = [72, 84, 84] := by
    intro root head
    unfold response respond
    split <;> decide +kernel
  obtain ⟨hlong, hthree⟩ : 3 < (answer "/" (serve Script.wire.recorded "/" (s, [])).2.2).length ∧
    (answer "/" (serve Script.wire.recorded "/" (s, [])).2.2).take 3 = [72, 84, 84] :=
    hresponse _ _
  have hfault : s.fault? (answer "/" (serve Script.wire.recorded "/" (s, [])).2.2).length =
      some (3, ⟨.brokenPipe, "gone"⟩) := by
    simp [Script.fault?, Option.filter, s, hlong]
  rw [hfault] at hfailure
  have hwritten : (serve Script.wire "/" s).2.written = [72, 84, 84] :=
    htaken.trans ((Script.taken_of_some hfault).trans hthree)
  exact ⟨rfl, by decide, eq_error_of_failure? hfailure, hwritten,
    (hany none (by decide)).2.trans hwritten⟩

/-- A write that fails without being the end: a whole response, although a write was interrupted. -/
theorem whole_despite_interruption :
    let s : Script := { incoming := [], writeFailure := some (0, ⟨.interrupted, "again"⟩) }
    let deeds := (serve Script.wire.recorded "/" (s, [])).2.2
    ¬ ((serve Script.wire "/" s).2.written = answer "/" deeds ↔
      (∀ e, .read (.error e) ∉ deeds) ∧ ∀ offered e, .write offered (.error e) ∉ deeds) := by
  intro s deeds
  obtain ⟨b, bs, hbytes⟩ := List.exists_cons_of_ne_nil (response "/" []).bytes_ne_nil
  have hserve : deeds = [.read (.ok []), .write (b :: bs) (.error ⟨.interrupted, "again"⟩),
      .write (b :: bs) (.ok (bs.length + 1)), .close (.ok ())] := by
    dsimp only [deeds]
    unfold serve
    rw [readHead_of_nothing (by decide) rfl]
    dsimp only
    rw [hbytes, writeAll_of_error rfl, if_pos rfl, writeAll_of_some rfl, List.drop_length,
      writeAll_nil]
    rfl
  obtain ⟨deeds', hrecorded, -, hsent⟩ := Script.wire_faithful.serve_recorded "/" s
  have hsame : deeds = deeds' := congrArg (·.2.2) hrecorded
  intro hcomplete
  have hwhole : (serve Script.wire "/" s).2.written = answer "/" deeds := by
    have hanswer : answer "/" deeds = b :: bs := by rw [hserve]; exact hbytes
    rw [hsent, hanswer, ← hsame, hserve]
    simp [s, Deed.sent]
  exact (hcomplete.1 hwhole).2 (b :: bs) ⟨.interrupted, "again"⟩ (by simp [hserve])

end ServiceBootstrap.Hello
