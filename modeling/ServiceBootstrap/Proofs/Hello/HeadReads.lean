import Mathlib.Data.Nat.Find
import ServiceBootstrap.Proofs.Hello.Deeds

/-!
How many reads the head of a request takes.

The reads of a connection can be numbered, and what they give is a sequence without an end, whether
or not anyone reads that far. The head ends with the first read of the sequence that gives nothing,
fails, completes an empty line, over however many reads it came in, or brings the total to the
limit. All reads before it give something and stay below the limit, so there are not many of them,
and no sequence goes on without such a read. Reading the head does all of these reads and no more,
and what it has is what they gave.
-/

namespace ServiceBootstrap.Hello

/-- What the reads of a connection give, one after another. -/
def Incoming : Type := Nat → Except IoFailure (List UInt8)

namespace Incoming

variable {g : Incoming} {n : Nat}

/-- The first so many reads. -/
def reads (g : Incoming) (n : Nat) : List Deed := (List.range n).map fun i => .read (g i)

/-- All bytes of the first so many reads, in their order. -/
def heard (g : Incoming) (n : Nat) : List UInt8 := (g.reads n).flatMap Deed.heard

/-- No read gives more than is asked for. -/
def Fits (g : Incoming) : Prop := ∀ n bytes, g n = .ok bytes → bytes.length ≤ readLimit

/-- The head can end with the read behind so many others. -/
inductive EndsAt (g : Incoming) (n : Nat) : Prop where
  | nothing (given : g n = .ok [])
  | failed {e : IoFailure} (given : g n = .error e)
  | blank (part : blankLine <:+: g.heard (n + 1))
  | enough (long : headLimit ≤ (g.heard (n + 1)).length)

lemma reads_succ (g : Incoming) (n : Nat) : g.reads (n + 1) = g.reads n ++ [.read (g n)] := by
  simp [reads, List.range_succ]

@[simp] lemma heard_zero (g : Incoming) : g.heard 0 = [] := rfl

lemma heard_succ (g : Incoming) (n : Nat) :
    g.heard (n + 1) = g.heard n ++ (Deed.read (g n)).heard := by
  simp [heard, reads_succ]

/-- A read that gives something can end the head by what has been heard with it only. -/
lemma EndsAt.headEnds_heard {b : UInt8} {bs : List UInt8} (ends : g.EndsAt n)
    (hgiven : g n = .ok (b :: bs)) : headEnds (g.heard (n + 1)) := by
  rw [headEnds_iff]
  cases ends with
  | nothing hnothing => cases hnothing.symm.trans hgiven
  | failed hfailed => cases hfailed.symm.trans hgiven
  | blank part => exact .inl part
  | enough long => exact .inr long

/-! ### Before the end -/

lemma exists_cons_of_not_endsAt (h : ¬ g.EndsAt n) : ∃ b bs, g n = .ok (b :: bs) := by
  rcases hgiven : g n with e | _ | ⟨b, bs⟩
  · exact absurd (.failed hgiven) h
  · exact absurd (.nothing hgiven) h
  · exact ⟨b, bs, rfl⟩

lemma not_headEnds_heard (before : ∀ m < n, ¬ g.EndsAt m) : ¬ headEnds (g.heard n) := by
  cases n with
  | zero =>
    rw [heard_zero]
    decide
  | succ n =>
    have hnot := before n n.lt_succ_self
    rw [headEnds_iff]
    exact fun hends => hnot (hends.elim .blank .enough)

/-- Every read before the end gives at least one byte. -/
lemma le_length_heard (before : ∀ m < n, ¬ g.EndsAt m) : n ≤ (g.heard n).length := by
  induction n with
  | zero => exact Nat.zero_le _
  | succ n ih =>
    obtain ⟨b, bs, hgiven⟩ := exists_cons_of_not_endsAt (before n n.lt_succ_self)
    have hn : n ≤ (g.heard n).length := ih fun m hm => before m (Nat.lt_succ_of_lt hm)
    have hsome : (Deed.read (g n)).heard.length = bs.length + 1 := by rw [hgiven]; rfl
    rw [heard_succ, List.length_append, hsome]
    omega

lemma length_heard_lt (before : ∀ m < n, ¬ g.EndsAt m) : (g.heard n).length < headLimit := by
  have hnot := not_headEnds_heard before
  rw [headEnds_iff, not_or, Nat.not_le] at hnot
  exact hnot.2

/-- Some read ends the head, and one of them is the first. -/
lemma exists_first (g : Incoming) : ∃ n, g.EndsAt n ∧ ∀ m < n, ¬ g.EndsAt m := by
  classical
  have hsome : ∃ n, g.EndsAt n := by
    by_contra hnone
    have before : ∀ m < headLimit, ¬ g.EndsAt m := fun m _ hm => hnone ⟨m, hm⟩
    exact absurd (length_heard_lt before) (Nat.not_lt.2 (le_length_heard before))
  exact ⟨Nat.find hsome, Nat.find_spec hsome, fun m => Nat.find_min hsome⟩

end Incoming

namespace Wire

variable {σ : Type} {w : Wire σ} {s : σ} {n : Nat}

/-- The state behind so many reads. -/
def behind (w : Wire σ) (s : σ) : Nat → σ
  | 0 => s
  | n + 1 => (w.read (w.behind s n)).2

/-- What the reads give from a state on. -/
def incoming (w : Wire σ) (s : σ) : Incoming := fun n => (w.read (w.behind s n)).1

lemma read_behind (w : Wire σ) (s : σ) (n : Nat) :
    w.read (w.behind s n) = (w.incoming s n, w.behind s (n + 1)) := rfl

lemma recorded_behind (w : Wire σ) (s : σ) (deeds : List Deed) (n : Nat) :
    w.recorded.behind (s, deeds) n = (w.behind s n, deeds ++ (w.incoming s).reads n) := by
  induction n with
  | zero => simp [behind, Incoming.reads]
  | succ n ih =>
    rw [behind, ih, recorded_read (w.read_behind s n), Incoming.reads_succ, List.append_assoc]

lemma recorded_incoming (w : Wire σ) (s : σ) (deeds : List Deed) :
    w.recorded.incoming (s, deeds) = w.incoming s := by
  funext n
  rw [incoming, recorded_behind, recorded_read (w.read_behind s n)]

/-! ### Reading up to the end -/

lemma readHead_step (fits : (w.incoming s).Fits) (before : ∀ m < n + 1, ¬ (w.incoming s).EndsAt m) :
    readHead w ((w.incoming s).heard n) (w.behind s n) =
      readHead w ((w.incoming s).heard (n + 1)) (w.behind s (n + 1)) := by
  obtain ⟨b, bs, hgiven⟩ := Incoming.exists_cons_of_not_endsAt (before n n.lt_succ_self)
  have hends := Incoming.not_headEnds_heard fun m hm => before m (Nat.lt_succ_of_lt hm)
  have hread := w.read_behind s n
  rw [hgiven] at hread
  rw [readHead_of_some hends hread, List.take_of_length_le (fits n _ hgiven), Incoming.heard_succ,
    hgiven, Deed.heard]

lemma readHead_run (fits : (w.incoming s).Fits) (before : ∀ m < n, ¬ (w.incoming s).EndsAt m) :
    readHead w [] s = readHead w ((w.incoming s).heard n) (w.behind s n) := by
  induction n with
  | zero => rfl
  | succ n ih =>
    rw [ih fun m hm => before m (Nat.lt_succ_of_lt hm)]
    exact readHead_step fits before

/-- What reading comes to with the first read that ends the head. -/
lemma readHead_last (fits : (w.incoming s).Fits) (ends : (w.incoming s).EndsAt n)
    (before : ∀ m < n, ¬ (w.incoming s).EndsAt m) :
    readHead w ((w.incoming s).heard n) (w.behind s n) =
      ((w.incoming s n).map fun _ => (w.incoming s).heard (n + 1), w.behind s (n + 1)) := by
  have hends := Incoming.not_headEnds_heard before
  have hread := w.read_behind s n
  have hsucc := (w.incoming s).heard_succ n
  rcases hgiven : w.incoming s n with e | _ | ⟨b, bs⟩ <;> rw [hgiven] at hread hsucc
  · exact readHead_of_error hends hread
  · rw [Deed.heard, List.append_nil] at hsucc
    rw [readHead_of_nothing hends hread, hsucc, Except.map]
  · rw [Deed.heard] at hsucc
    have henough := ends.headEnds_heard hgiven
    rw [readHead_of_some hends hread, List.take_of_length_le (fits n _ hgiven), ← hsucc]
    exact readHead_of_ends henough _

/-- A connection that gives the same bytes with every read, for ever. -/
def repeating (bytes : List UInt8) : Wire Unit where
  read _ := (.ok bytes, ())
  write bs _ := (.ok bs.length, ())
  close _ := (.ok (), ())
  interruptions _ := 0
  interruptions_lt h _ := by cases h

lemma fits_repeating {bytes : List UInt8} (h : bytes.length ≤ readLimit) :
    ((repeating bytes).incoming ()).Fits := by
  intro n given hgiven
  cases hgiven
  exact h

lemma heard_repeating (bytes : List UInt8) (n : Nat) :
    ((repeating bytes).incoming ()).heard n = (List.replicate n bytes).flatten := by
  induction n with
  | zero => rfl
  | succ n ih =>
    rw [Incoming.heard_succ, ih, List.replicate_succ', List.flatten_append, List.flatten_singleton]
    rfl

end Wire

/-- **Reading the head ends, and with the right read.** Whatever a connection gives, by reads of at
most 1024 bytes each, there is a first read that the head can end with; it is one of the first 8192,
and no more than 9215 bytes have come in with it. Reading the head does that read and all before it,
as a record kept beside the connection shows, and nothing else. All the way, what it has is what
the reads gave so far, and so is what it comes to, if the last of them does not fail. -/
theorem head_ends_with_first_read {σ : Type} (w : Wire σ) (s : σ) (fits : (w.incoming s).Fits) :
    let g := w.incoming s
    ∃ n < 8192, g.EndsAt n ∧ (∀ m < n, ¬ g.EndsAt m) ∧ (g.heard (n + 1)).length ≤ 9215 ∧
      readHead w [] s = ((g n).map fun _ => g.heard (n + 1), w.behind s (n + 1)) ∧
      readHead w.recorded [] (s, []) =
        ((g n).map fun _ => g.heard (n + 1), w.behind s (n + 1), g.reads (n + 1)) ∧
      ∀ m ≤ n, readHead w.recorded [] (s, []) =
        readHead w.recorded (g.heard m) (w.behind s m, g.reads m) := by
  intro g
  obtain ⟨n, ends, before⟩ := g.exists_first
  have hlong : (g.heard n).length < headLimit := Incoming.length_heard_lt before
  have hmany : n ≤ (g.heard n).length := Incoming.le_length_heard before
  have hlast : (Deed.read (g n)).heard.length ≤ 1024 := by
    rcases hgiven : g n with e | bytes
    · exact Nat.zero_le _
    · exact fits n bytes hgiven
  have hrecorded : w.recorded.incoming (s, []) = g := w.recorded_incoming s []
  have hfits : (w.recorded.incoming (s, [])).Fits := by rwa [hrecorded]
  have hends : (w.recorded.incoming (s, [])).EndsAt n := by rwa [hrecorded]
  have hbefore : ∀ m < n, ¬ (w.recorded.incoming (s, [])).EndsAt m := by rwa [hrecorded]
  refine ⟨n, Nat.lt_of_le_of_lt hmany hlong, ends, before, ?_, ?_, ?_, fun m hm => ?_⟩
  · rw [Incoming.heard_succ, List.length_append]
    unfold headLimit at hlong
    omega
  · rw [Wire.readHead_run fits before]
    exact Wire.readHead_last fits ends before
  · rw [Wire.readHead_run hfits hbefore, Wire.readHead_last hfits hends hbefore, hrecorded,
      Wire.recorded_behind]
    rfl
  · rw [Wire.readHead_run hfits fun k hk => hbefore k (Nat.lt_of_lt_of_le hk hm), hrecorded,
      Wire.recorded_behind]
    rfl

/-- Two streams without an end: single bytes, which take all of the 8192 reads, and an empty line
that comes in two parts. -/
theorem head_ends_with_first_read_endless :
    ((Wire.repeating [65]).incoming ()).Fits ∧ ((Wire.repeating [13, 10]).incoming ()).Fits ∧
      (readHead (Wire.repeating [65]) [] ()).1 = .ok (List.replicate 8192 65) ∧
      (readHead (Wire.repeating [65]).recorded [] ((), [])).2.2.length = 8192 ∧
      (readHead (Wire.repeating [13, 10]) [] ()).1 = .ok [13, 10, 13, 10] := by
  have hone : ((Wire.repeating [65]).incoming ()).Fits := Wire.fits_repeating (by decide)
  have htwo : ((Wire.repeating [13, 10]).incoming ()).Fits := Wire.fits_repeating (by decide)
  obtain ⟨n, hn, ends, -, -, hread, hrecorded, -⟩ :=
    head_ends_with_first_read (Wire.repeating [65]) () hone
  have hheard : ∀ n, ((Wire.repeating [65]).incoming ()).heard n = List.replicate n 65 := by
    intro n
    rw [Wire.heard_repeating, List.flatten_replicate_singleton]
  have hlast : n = 8191 := by
    cases ends with
    | nothing hnothing => cases hnothing
    | failed hfailed => cases hfailed
    | blank part =>
      rw [hheard] at part
      have hcarriage : 13 ∈ List.replicate (n + 1) (65 : UInt8) := part.subset (by decide)
      exact absurd (List.eq_of_mem_replicate hcarriage) (by decide)
    | enough long =>
      rw [hheard, List.length_replicate] at long
      unfold headLimit at long
      omega
  subst hlast
  obtain ⟨m, -, ends, before, -, hsplit, -⟩ :=
    head_ends_with_first_read (Wire.repeating [13, 10]) () htwo
  have hsecond : m = 1 := by
    rcases Nat.lt_trichotomy m 1 with hfirst | hsecond | hlater
    · obtain rfl : m = 0 := by omega
      cases ends with
      | nothing hnothing => cases hnothing
      | failed hfailed => cases hfailed
      | blank part => exact absurd part (by decide)
      | enough long => exact absurd long (by decide)
    · exact hsecond
    · exact absurd (.blank (by decide)) (before 1 hlater)
  subst hsecond
  refine ⟨hone, htwo, ?_, ?_, ?_⟩
  · rw [hread, hheard]
    rfl
  · rw [hrecorded]
    simp [Incoming.reads]
  · rw [hsplit]
    rfl

end ServiceBootstrap.Hello
