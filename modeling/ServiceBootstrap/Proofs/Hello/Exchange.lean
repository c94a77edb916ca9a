import ServiceBootstrap.Configuration
import ServiceBootstrap.Hello.Script
import ServiceBootstrap.Proofs.Hello.Deeds
import ServiceBootstrap.Proofs.Hello.RequestLine

/-!
Connections that nothing goes wrong with.

Where reading the head of a request stops depends on how the stream was cut into reads: behind the
read that completes an empty line or the limit, or at the end. In each case the first line is part
of what has been read, if it is not longer than the limit, and the answer depends on nothing else.
-/

namespace ServiceBootstrap.Hello

variable {σ : Type} {w : Wire σ} {s : σ}

/-- From a state on, reads give a stream in pieces of any sizes, and then its end. -/
inductive Wire.Delivers (w : Wire σ) : List UInt8 → σ → Prop where
  | done {s s' : σ} (read : w.read s = (.ok [], s')) : Delivers w [] s
  | more {s s' : σ} {chunk rest : List UInt8} (nonempty : chunk ≠ [])
      (fits : chunk.length ≤ readLimit) (read : w.read s = (.ok chunk, s'))
      (after : Delivers w rest s') : Delivers w (chunk ++ rest) s

/-- In some states, which are never left by reading and writing, every write takes at least one
byte, and what has been written so far is told by the state. -/
structure Wire.Accepts (w : Wire σ) (accepting : σ → Prop) (written : σ → List UInt8) : Prop where
  read : ∀ {s}, accepting s → accepting (w.read s).2 ∧ written (w.read s).2 = written s
  write : ∀ {s}, accepting s → ∀ b bs, ∃ n s', w.write (b :: bs) s = (.ok (n + 1), s') ∧
    accepting s' ∧ written s' = written s ++ (b :: bs).take (n + 1)
  close : ∀ {s}, accepting s → written (w.close s).2 = written s

variable {accepting : σ → Prop} {written : σ → List UInt8}

/-! ### Reading -/

/-- Reading the head takes a part of the stream: all of it, or enough. -/
lemma Wire.Accepts.readHead (hw : w.Accepts accepting written) {rest : List UInt8}
    (h : w.Delivers rest s) (hs : accepting s) (head : List UInt8) :
    ∃ got s', Hello.readHead w head s = (.ok (head ++ got), s') ∧ got <+: rest ∧
      (got = rest ∨ headEnds (head ++ got)) ∧ accepting s' ∧ written s' = written s := by
  by_cases hends : headEnds head
  · rw [readHead_of_ends hends]
    exact ⟨[], s, by simp, List.nil_prefix, .inr (by simpa using hends), hs, rfl⟩
  induction h generalizing head with
  | done hread =>
    rw [readHead_of_nothing hends hread]
    have hread' := hw.read hs
    rw [hread] at hread'
    exact ⟨[], _, by simp, List.nil_prefix, .inl rfl, hread'⟩
  | @more s s' chunk rest nonempty fits hread after ih =>
    obtain ⟨b, bs, rfl⟩ := List.exists_cons_of_ne_nil nonempty
    obtain ⟨hs', hwritten⟩ := hw.read hs
    rw [hread] at hs' hwritten
    rw [readHead_of_some hends hread, List.take_of_length_le fits]
    by_cases hends' : headEnds (head ++ b :: bs)
    · rw [readHead_of_ends hends']
      exact ⟨b :: bs, s', rfl, List.prefix_append _ _, .inr hends', hs', hwritten⟩
    · obtain ⟨got, s'', hhead, hpart, hgot, hs'', hwritten'⟩ := ih hs' (head ++ b :: bs) hends'
      refine ⟨b :: bs ++ got, s'', ?_, (List.prefix_append_right_inj _).2 hpart, ?_, hs'',
        hwritten'.trans hwritten⟩
      · rw [hhead, List.append_assoc]
      · rw [← List.append_assoc]
        exact hgot.imp (congrArg (b :: bs ++ ·)) id

/-! ### Writing -/

lemma Wire.Accepts.writeAll (hw : w.Accepts accepting written) (hs : accepting s)
    (bytes : List UInt8) :
    ∃ s', Hello.writeAll w bytes s = (.ok (), s') ∧ accepting s' ∧
      written s' = written s ++ bytes := by
  induction hlength : bytes.length using Nat.strongRecOn generalizing bytes s with
  | _ length ih =>
    cases bytes with
    | nil => exact ⟨s, writeAll_nil s, hs, by simp⟩
    | cons b bs =>
      obtain ⟨n, s', hwrite, hs', hwritten⟩ := hw.write hs b bs
      obtain ⟨s'', hrest, hs'', hwritten'⟩ := ih (bs.drop n).length
        (by simp at hlength ⊢; omega) hs' (bs.drop n) rfl
      refine ⟨s'', (writeAll_of_some hwrite).trans hrest, hs'', ?_⟩
      rw [hwritten', hwritten, List.append_assoc, List.take_succ_cons, List.cons_append,
        List.take_append_drop]

/-! ### The first line -/

lemma line_append_of_mem {head : List UInt8} (h : 10 ∈ head) (rest : List UInt8) :
    line (head ++ rest) = line head := by
  induction head with
  | nil => cases h
  | cons b head ih =>
    unfold line at ih ⊢
    by_cases hb : b = 10
    · rw [List.cons_append, List.takeWhile_cons_of_neg (by simpa using hb),
        List.takeWhile_cons_of_neg (by simpa using hb)]
    · rw [List.cons_append, List.takeWhile_cons_of_pos (by simpa using hb),
        List.takeWhile_cons_of_pos (by simpa using hb),
        ih ((List.mem_cons.1 h).resolve_left (Ne.symm hb))]

/-- The first line of what was read is that of the whole stream. -/
lemma line_of_headEnds {head stream : List UInt8} (hpart : head <+: stream)
    (hends : head = stream ∨ headEnds head)
    (hlimit : stream.length ≤ 8192 ∨ 10 ∈ stream.take 8192) : line head = line stream := by
  obtain ⟨rest, rfl⟩ := hpart
  rcases hends with hall | hends
  · rw [← hall]
  rw [headEnds_iff, headLimit] at hends
  rcases hends with hblank | hlong
  · exact (line_append_of_mem (hblank.subset (by decide)) rest).symm
  rcases hlimit with hshort | hmem
  · have hrest : rest = [] := by
      rw [List.length_append] at hshort
      exact List.eq_nil_of_length_eq_zero (by omega)
    rw [hrest, List.append_nil]
  · rw [List.take_append_of_le_length hlong] at hmem
    exact (line_append_of_mem (List.mem_of_mem_take hmem) rest).symm

/-! ### The whole exchange -/

lemma Wire.Accepts.serve (hw : w.Accepts accepting written) {stream : List UInt8}
    (hstream : w.Delivers stream s) (hs : accepting s)
    (hlimit : stream.length ≤ 8192 ∨ 10 ∈ stream.take 8192) (root : String) :
    written (Hello.serve w root s).2 =
      written s ++ (respond (String.ofList (askedFor (line stream))) root).bytes := by
  obtain ⟨head, s', hread, hpart, hends, hs', hkept⟩ := hw.readHead hstream hs []
  rw [List.nil_append] at hread hends
  obtain ⟨s'', hwrite, hs'', hwritten⟩ := hw.writeAll hs' (response root head).bytes
  unfold Hello.serve
  rw [hread]
  dsimp only
  rw [hwrite]
  dsimp only
  rw [hw.close hs'', hwritten, hkept, response, requestPath_lossy,
    line_of_headEnds hpart hends hlimit]

/-! ### Scripts -/

namespace Script

lemma wire_delivers (chunks : List (List UInt8)) (nonempty : ∀ chunk ∈ chunks, chunk ≠ [])
    {s : Script} (hs : s.incoming = chunks.map .bytes) : wire.Delivers chunks.flatten s := by
  -- one chunk can take several reads
  induction hlength : chunks.flatten.length using Nat.strongRecOn generalizing chunks s with
  | _ length ih =>
    cases chunks with
    | nil => exact .done (by simp only [wire, read, hs, List.map_nil]; rfl)
    | cons chunk chunks =>
      have hchunk := nonempty chunk List.mem_cons_self
      have hrest := fun c hc => nonempty c (List.mem_cons_of_mem chunk hc)
      have htaken : chunk.take readLimit ≠ [] := by simpa [readLimit] using hchunk
      have hread : wire.read s = (.ok (chunk.take readLimit), (wire.read s).2) := by
        simp only [wire, read, hs, List.map_cons]
      have hnext : (wire.read s).2.incoming = if (chunk.drop readLimit).isEmpty
          then chunks.map .bytes else (chunk.drop readLimit :: chunks).map .bytes := by
        simp only [wire, read, hs, List.map_cons]
      have hlen : (chunk.drop readLimit ++ chunks.flatten).length < length := by
        have hpos := List.length_pos_iff.2 hchunk
        simp [readLimit] at hlength ⊢
        omega
      rw [List.flatten_cons, ← List.take_append_drop readLimit chunk, List.append_assoc]
      refine .more htaken (List.length_take_le _ _) hread ?_
      by_cases hleft : chunk.drop readLimit = []
      · rw [hleft] at hnext hlen ⊢
        exact ih _ hlen _ hrest hnext rfl
      · rw [if_neg (by simpa using hleft)] at hnext
        exact ih _ hlen _ (List.forall_mem_cons.2 ⟨hleft, hrest⟩) hnext rfl

lemma wire_accepts : wire.Accepts (fun s => s.writeFailure = none ∧ s.writeLimit ≠ some 0)
    Script.written where
  read {s} hs := by
    dsimp only [wire, read]
    split <;> exact ⟨hs, rfl⟩
  write {s} hs b bs := by
    obtain ⟨hfailure, hlimit⟩ := hs
    have hwrite : wire.write (b :: bs) s = s.accept (b :: bs) := by
      simp only [wire, write, hfailure]
    rw [hwrite]
    unfold accept
    cases hmost : s.writeLimit with
    | none => exact ⟨bs.length, _, rfl, ⟨hfailure, by simp⟩, by simp⟩
    | some most =>
      cases most with
      | zero => exact absurd hmost hlimit
      | succ n =>
        exact ⟨(bs.take n).length, _, rfl, ⟨hfailure, by simp⟩,
          by simp [List.take_eq_take_iff]⟩
  close {s} _ := by
    dsimp only [wire, close]
    split <;> rfl

end Script

/-! ### The answer -/

/-- **The answer to a stream.** Whatever the sizes of the reads and of the writes, a connection that
delivers a stream and its end gets the response to what the first line of the stream asks for, if
that line ends within the limit or the stream does; and so does any other connection whose stream
has the same first line, however much of it is read. -/
theorem answer_of_first_line (c : Configuration) (hw : w.Accepts accepting written)
    (hs : accepting s) {stream : List UInt8} (hstream : w.Delivers stream s)
    (hlimit : stream.length ≤ 8192 ∨ 10 ∈ stream.take 8192) :
    written (serve w c.rootPath s).2 = written s ++
      (respond (String.ofList (askedFor (line stream))) c.rootPath).bytes ∧
    ∀ {τ : Type} {v : Wire τ} {accepting' : τ → Prop} {written' : τ → List UInt8} {t : τ}
      {stream' : List UInt8}, v.Accepts accepting' written' → accepting' t →
      v.Delivers stream' t → (stream'.length ≤ 8192 ∨ 10 ∈ stream'.take 8192) →
      line stream' = line stream →
      ∃ answer, written (serve w c.rootPath s).2 = written s ++ answer ∧
        written' (serve v c.rootPath t).2 = written' t ++ answer := by
  have hanswer := hw.serve hstream hs hlimit c.rootPath
  refine ⟨hanswer, fun hv ht hstream' hlimit' hline => ⟨_, hanswer, ?_⟩⟩
  rw [← hline]
  exact hv.serve hstream' ht hlimit' c.rootPath

/-- A request in one piece and, with another end, in three pieces and to a slow reader. -/
theorem answer_of_first_line_scripts :
    let c : Configuration := (Builder.new.rootPath "/a").build
    let whole : Script := { incoming := [.bytes [71, 69, 84, 32, 47, 97, 63, 113, 10]] }
    let pieces : Script :=
      { incoming := [.bytes [71, 69], .bytes [84, 32, 47, 97, 63, 113], .bytes [10, 72]]
        writeLimit := some 5 }
    (serve Script.wire c.rootPath whole).2.written = found.bytes ∧
      (serve Script.wire c.rootPath pieces).2.written = found.bytes := by
  intro c whole pieces
  have hroot : c.rootPath = "/a" := by decide
  have hfound : respond (String.ofList (askedFor (line [71, 69, 84, 32, 47, 97, 63, 113, 10])))
      "/a" = found := by decide
  obtain ⟨hwhole, hsame⟩ :=
    answer_of_first_line c Script.wire_accepts (s := whole) ⟨rfl, by decide⟩
      (Script.wire_delivers [[71, 69, 84, 32, 47, 97, 63, 113, 10]] (by decide) rfl)
      (.inl (by decide))
  obtain ⟨answer, hanswer, hpieces⟩ := hsame Script.wire_accepts (t := pieces) ⟨rfl, by decide⟩
    (Script.wire_delivers [[71, 69], [84, 32, 47, 97, 63, 113], [10, 72]] (by decide) rfl)
    (.inl (by decide)) (by decide)
  have hfirst : (serve Script.wire c.rootPath whole).2.written = found.bytes := by
    rw [hwhole, hroot]
    exact congrArg Response.bytes hfound
  refine ⟨hfirst, ?_⟩
  rw [hpieces, ← hfirst, hanswer]

end ServiceBootstrap.Hello
