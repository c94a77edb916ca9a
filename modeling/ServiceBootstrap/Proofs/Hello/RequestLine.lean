import Mathlib.Data.List.TakeDrop
import ServiceBootstrap.Hello.Request
import ServiceBootstrap.Text.Utf8

/-!
The request line, from the bytes up.

A line feed is one byte, and no part of any other character. So the first line can be cut off before
the bytes are read as text or after, and what stands behind it plays no part in how it is read: an
unfinished character in front of a line feed is ill-formed, as it is at the end of the bytes.
-/

namespace ServiceBootstrap

namespace Text

/-! ### Words -/

/-- The longest runs of characters none of which is blank. -/
def words (cs : List Char) : List (List Char) := (cs.splitOnP isBlank).filter (· ≠ [])

lemma splitOnP_isBlank (cs : List Char) :
    cs.splitOnP isBlank = cs.takeWhile (!isBlank ·) ::
      match cs.dropWhile (!isBlank ·) with
      | [] => []
      | _ :: rest => rest.splitOnP isBlank := by
  induction cs with
  | nil => rfl
  | cons c cs ih =>
    rw [List.splitOnP_cons_eq_if_modifyHead]
    cases hc : isBlank c with
    | true => simp [hc]
    | false =>
      rw [ih]
      simp [hc]

lemma words_cons_of_blank {c : Char} (h : isBlank c) (cs : List Char) :
    words (c :: cs) = words cs := by
  simp [words, List.splitOnP_cons_eq_if_modifyHead, h]

lemma words_skipBlanks (cs : List Char) : words (skipBlanks cs) = words cs := by
  induction cs with
  | nil => rfl
  | cons c cs ih =>
    unfold skipBlanks at ih ⊢
    by_cases hc : isBlank c
    · rw [List.dropWhile_cons_of_pos hc, ih, words_cons_of_blank hc]
    · rw [List.dropWhile_cons_of_neg hc]

lemma words_of_not_blank {c : Char} (h : ¬ isBlank c) (cs : List Char) :
    words (c :: cs) = (c :: cs.takeWhile (!isBlank ·)) :: words (cs.dropWhile (!isBlank ·)) := by
  have hc : isBlank c = false := by simpa using h
  unfold words
  rw [splitOnP_isBlank, List.takeWhile_cons_of_pos (by simp [hc]),
    List.dropWhile_cons_of_pos (by simp [hc]), List.filter_cons_of_pos (by simp)]
  congr 1
  have hhead := List.head?_dropWhile_not (!isBlank ·) cs
  cases hrest : cs.dropWhile (!isBlank ·) with
  | nil => rfl
  | cons b rest =>
    -- the first word ends at a blank
    have hb : isBlank b := by simpa [hrest] using hhead
    exact (words_cons_of_blank hb rest).symm

/-- A text has no words, or the first one and those behind it. -/
lemma words_cases (cs : List Char) :
    firstWord cs = ([], []) ∧ words cs = [] ∨
    (firstWord cs).1 ≠ [] ∧ words cs = (firstWord cs).1 :: words (firstWord cs).2 := by
  rw [← words_skipBlanks cs]
  unfold firstWord
  rw [List.span_eq_takeWhile_dropWhile]
  have hhead := List.head?_dropWhile_not isBlank cs
  cases hskip : skipBlanks cs with
  | nil => exact .inl ⟨rfl, rfl⟩
  | cons c rest =>
    have hc : isBlank c = false := by
      rwa [show cs.dropWhile isBlank = c :: rest from hskip] at hhead
    refine .inr ⟨by simp [hc], ?_⟩
    rw [words_of_not_blank (by simp [hc])]
    simp [hc]

/-- The second word is the second of all words. -/
lemma secondWord?_eq (cs : List Char) : secondWord? cs = (words cs)[1]? := by
  unfold secondWord?
  rcases words_cases cs with ⟨hfirst, hwords⟩ | ⟨-, hwords⟩
  · rw [hfirst, hwords]
    rfl
  · rw [hwords, List.getElem?_cons_succ]
    rcases words_cases (firstWord cs).2 with ⟨hsecond, hnone⟩ | ⟨hne, hsome⟩
    · rw [hsecond, hnone]
      rfl
    · rw [hsome, List.getElem?_cons_zero]
      cases hword : (firstWord (firstWord cs).2).1 with
      | nil => exact absurd hword hne
      | cons c word => rfl

namespace Utf8

/-! ### Lines -/

lemma eq_of_ofNat_eq_newline {n : Nat} (h : Char.ofNat n = '\n') : n = 10 := by
  have hnat := congrArg Char.toNat h
  unfold Char.ofNat at hnat
  by_cases hvalid : n.isValidChar
  · rw [dif_pos hvalid] at hnat
    exact hnat
  · rw [dif_neg hvalid] at hnat
    cases hnat

/-- A scan inside a character: whatever comes, the character lies behind the line feed. -/
def Scan.Sound (s : Scan) : Prop :=
  s.owed = 0 ∨ 0x80 ≤ s.low ∧ 10 < 64 * s.code + (s.low - 0x80)

lemma sound_between : between.Sound := .inl rfl

lemma sound_first (b : Nat) : (first b).2.Sound := by
  unfold first Scan.Sound
  repeat' split
  all_goals dsimp only [between]; omega

lemma newline_notMem_first {b : Nat} (h : b ≠ 10) : some '\n' ∉ (first b).1 := by
  unfold first
  repeat' split
  · intro hmem
    have hchar : '\n' = Char.ofNat b := Option.some.inj (List.mem_singleton.1 hmem)
    exact h (eq_of_ofNat_eq_newline hchar.symm)
  all_goals simp only [List.not_mem_nil, not_false_eq_true, List.mem_singleton, reduceCtorEq]

lemma Scan.Sound.step {s : Scan} (hs : s.Sound) (b : UInt8) : (Utf8.step s b).2.Sound := by
  unfold Utf8.step
  dsimp only
  split_ifs with hbetween hrange hlast
  · exact sound_first _
  · exact sound_between
  · refine .inr ⟨by simp, ?_⟩
    rcases hs with hs | ⟨hlow, hcode⟩
    · exact absurd hs hbetween
    · dsimp only
      omega
  · exact sound_first _

lemma Scan.Sound.newline_notMem_step {s : Scan} (hs : s.Sound) {b : UInt8} (hb : b ≠ 10) :
    some '\n' ∉ (Utf8.step s b).1 := by
  have hb' : b.toNat ≠ 10 := fun h => hb (UInt8.toNat_inj.1 h)
  unfold Utf8.step
  dsimp only
  split_ifs with hbetween hrange hlast
  · exact newline_notMem_first hb'
  · intro hmem
    have hchar := eq_of_ofNat_eq_newline (Option.some.inj (List.mem_singleton.1 hmem)).symm
    rcases hs with hs | ⟨hlow, hcode⟩
    · exact hbetween hs
    · omega
  · simp
  · simp [newline_notMem_first hb']

/-- A line feed ends an unfinished character as the end of the bytes does. -/
lemma Scan.Sound.step_newline {s : Scan} (hs : s.Sound) :
    Utf8.step s 10 = (piecesFrom s [] ++ [some '\n'], between) := by
  have hfirst : first 10 = ([some '\n'], between) := rfl
  unfold Utf8.step piecesFrom
  by_cases howed : s.owed = 0
  · rw [if_pos howed, if_pos howed]
    exact hfirst
  · have hout : ¬ (s.low ≤ 10 ∧ 10 ≤ s.high) := by
      rcases hs with hs | ⟨hlow, -⟩
      · exact absurd hs howed
      · omega
    rw [if_neg howed, if_neg howed]
    exact (if_neg hout).trans rfl

/-- The character that is shown for a piece. -/
def shown (p : Piece) : Char := p.getD '\ufffd'

lemma shown_ne_newline {ps : List Piece} (h : some '\n' ∉ ps) :
    ∀ c ∈ ps.map shown, decide (c ≠ '\n') = true := by
  intro c hc
  obtain ⟨p, hp, rfl⟩ := List.mem_map.1 hc
  cases p with
  | none => rfl
  | some c => exact decide_eq_true fun hshown => h (hshown ▸ hp)

lemma takeWhile_end (s : Scan) (rest : List Piece) :
    (((piecesFrom s [] ++ some '\n' :: rest)).map shown).takeWhile (· ≠ '\n') =
      (piecesFrom s []).map shown := by
  unfold piecesFrom
  split <;> simp [shown]

/-- The first line can be cut off before the bytes are read or after. -/
lemma takeWhile_shown {s : Scan} (hs : s.Sound) (bytes : List UInt8) :
    ((piecesFrom s bytes).map shown).takeWhile (· ≠ '\n') =
      (piecesFrom s (bytes.takeWhile (· ≠ 10))).map shown := by
  induction bytes generalizing s with
  | nil =>
    unfold piecesFrom
    split <;> simp [shown]
  | cons b bytes ih =>
    rw [piecesFrom]
    by_cases hb : b = 10
    · subst hb
      rw [hs.step_newline, List.append_assoc, List.singleton_append, takeWhile_end,
        List.takeWhile_cons_of_neg (by simp)]
    · have hpieces := shown_ne_newline (hs.newline_notMem_step hb)
      rw [List.map_append, List.takeWhile_append_of_pos hpieces, ih (hs.step b),
        List.takeWhile_cons_of_pos (by simpa using hb), piecesFrom, List.map_append]

lemma takeWhile_lossy (bytes : List UInt8) :
    (lossy bytes).takeWhile (· ≠ '\n') = lossy (bytes.takeWhile (· ≠ 10)) :=
  takeWhile_shown sound_between bytes

end Utf8

end Text

namespace Hello

/-- The bytes of a stream in front of its first line feed. -/
def line (stream : List UInt8) : List UInt8 := stream.takeWhile (· ≠ 10)

/-- What a request line asks for: its second word, without the query that a question mark sets off,
or the root if there is no second word. -/
def askedFor (line : List UInt8) : List Char :=
  match (Text.words (Text.Utf8.lossy line))[1]? with
  | some word => word.takeWhile (· ≠ '?')
  | none => ['/']

lemma requestPath_lossy (head : List UInt8) :
    requestPath (Text.Utf8.lossy head) = askedFor (line head) := by
  unfold requestPath requestPath? askedFor firstLine line
  rw [Text.Utf8.takeWhile_lossy, Text.secondWord?_eq]
  cases (Text.words (Text.Utf8.lossy (head.takeWhile (· ≠ 10))))[1]? <;> rfl

end Hello

end ServiceBootstrap
