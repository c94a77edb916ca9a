import Mathlib.Tactic.Lemma
import Mathlib.Tactic.SplitIfs
import ServiceBootstrap.Toml.Quotation
import ServiceBootstrap.Toml.Written

/-!
Strings are read as they were written.

Each of the four forms is read back by its own reader. In the forms of several lines the closing
quotes may follow quotes of the text, so what is proved there by induction is about a text together
with the quotes that stand right before it: at most two, which is all that the form lets stand.
-/

namespace ServiceBootstrap.Toml

/-! ### Characters -/

lemma isPlain_of_not_needsEscape {c : Char} (h : needsEscape c = false) (hbreak : c ≠ '\n') :
    isPlain c = true := by
  unfold needsEscape at h
  unfold isPlain
  by_cases htab : c = '\t'
  · simp [htab]
  · simp [htab, hbreak] at h ⊢
    omega

/-- The characters that are written by their code points are few. -/
lemma scalar?_codeEscape {c : Char} (h : needsEscape c = true) :
    ∃ a b d e, codeEscape c = ['\\', 'u', a, b, d, e] ∧ scalar? [a, b, d, e] = some c := by
  refine ⟨_, _, _, _, rfl, ?_⟩
  have hsmall : c.toNat < 128 := by
    simp [needsEscape] at h
    omega
  have hall : ∀ n : Fin 128, scalar? [hexDigit (n.val / 4096 % 16), hexDigit (n.val / 256 % 16),
      hexDigit (n.val / 16 % 16), hexDigit (n.val % 16)] = some (Char.ofNat n.val) := by decide
  have hc := hall ⟨c.toNat, hsmall⟩
  rwa [Char.ofNat_toNat] at hc

/-- What the readers of basic strings have in common. -/
structure ReadsBasic (read : List Char → Reading (List Char)) : Prop where
  plain : ∀ {c}, isPlain c = true → c ≠ '\x22' → c ≠ '\\' → ∀ cs,
    read (c :: cs) = prepend c (read cs)
  short : ∀ {c x}, escaped? c = some x → ∀ cs, read ('\\' :: c :: cs) = prepend x (read cs)
  code : ∀ {a b d e x}, scalar? [a, b, d, e] = some x → ∀ cs,
    read ('\\' :: 'u' :: a :: b :: d :: e :: cs) = prepend x (read cs)

lemma ReadsBasic.escape {read : List Char → Reading (List Char)} (h : ReadsBasic read) {c : Char}
    (hquote : c ≠ '\x22') (hbreak : c ≠ '\n') (cs : List Char) :
    read (Toml.escape c ++ cs) = prepend c (read cs) := by
  unfold Toml.escape
  split_ifs with hb ht hf hr hslash hcode
  · rw [hb]
    exact h.short rfl cs
  · rw [ht]
    exact h.short rfl cs
  · rw [hf]
    exact h.short rfl cs
  · rw [hr]
    exact h.short rfl cs
  · rw [hslash]
    exact h.short rfl cs
  · obtain ⟨a, b, d, e, hwritten, hscalar⟩ := scalar?_codeEscape hcode
    rw [hwritten]
    exact h.code hscalar cs
  · exact h.plain (isPlain_of_not_needsEscape (by simpa using hcode) hbreak) hquote hslash cs

lemma ne_unicode_of_escaped? {c x : Char} (h : escaped? c = some x) : c ≠ 'u' ∧ c ≠ 'U' := by
  constructor <;> rintro rfl <;> simp [escaped?] at h

lemma readsBasic_basicRest : ReadsBasic basicRest where
  plain {c} hplain hquote hslash cs := by
    rw [basicRest.eq_def]
    split <;> simp_all
  short {c x} hc cs := by
    obtain ⟨hu, hU⟩ := ne_unicode_of_escaped? hc
    rw [basicRest, hc, Option.bind_some]
    · rintro a b d e cs' rfl
      exact absurd rfl hu
    · rintro a b d e f g h i cs' rfl
      exact absurd rfl hU
  code {a b d e x} hx cs := by
    rw [basicRest, hx, Option.bind_some]

/-- No short escape is a blank, so a backslash before it does not end its line. -/
lemma endsLine_of_escaped? {c x : Char} (h : escaped? c = some x) (cs : List Char) :
    endsLine (c :: cs) = false := by
  unfold escaped? at h
  split_ifs at h with hb ht hn hf hr hquote hslash <;> subst c <;> rfl

lemma readsBasic_basicLines : ReadsBasic (basicLines .text) where
  plain {c} hplain hquote hslash cs := by
    have hbreak : c ≠ '\n' ∧ c ≠ '\r' := by
      constructor <;> rintro rfl <;> revert hplain <;> decide
    rw [basicLines.eq_def]
    split <;> simp_all
  short {c x} hc cs := by
    obtain ⟨hu, hU⟩ := ne_unicode_of_escaped? hc
    rw [basicLines, endsLine_of_escaped? hc, hc, Option.bind_some]
    · rfl
    · rintro a b d e cs' rfl
      exact absurd rfl hu
    · rintro a b d e f g h i cs' rfl
      exact absurd rfl hU
    · simp
  code {a b d e x} hx cs := by
    rw [basicLines, hx, Option.bind_some]
    simp

/-! ### On one line -/

theorem basicRest_writeBasic (cs rest : List Char) :
    basicRest (writeBasic cs ++ '\x22' :: rest) = some (cs, rest) := by
  induction cs with
  | nil => rfl
  | cons c cs ih =>
    have hread : basicRest (writeBasic (c :: cs) ++ '\x22' :: rest) =
        prepend c (basicRest (writeBasic cs ++ '\x22' :: rest)) := by
      rw [writeBasic, List.append_assoc]
      split_ifs with hquote hbreak
      · rw [hquote]
        exact readsBasic_basicRest.short rfl _
      · rw [hbreak]
        exact readsBasic_basicRest.short rfl _
      · exact readsBasic_basicRest.escape hquote hbreak _
    rw [hread, ih]
    rfl

theorem literalRest_append {cs : List Char} (hplain : ∀ c ∈ cs, isPlain c = true ∧ c ≠ '\'')
    (rest : List Char) : literalRest (cs ++ '\'' :: rest) = some (cs, rest) := by
  induction cs with
  | nil => rfl
  | cons c cs ih =>
    obtain ⟨hc, hquote⟩ := hplain c (List.mem_cons_self ..)
    rw [List.cons_append, literalRest, if_pos hc,
      ih fun d hd => hplain d (List.mem_cons_of_mem _ hd)]
    · rfl
    · simpa using hquote

/-! ### On several lines -/

/-- What the readers of strings of several lines have in common: quotes that are not three in a row
belong to the text, and so do up to two before the last three. -/
structure ReadsQuotes (q : Char) (read : List Char → Reading (List Char)) : Prop where
  quote : ∀ {cs}, (∀ tail, cs ≠ q :: q :: tail) → read (q :: cs) = prepend q (read cs)
  close : ∀ {run}, run ≤ 2 → ∀ {rest}, (∀ tail, rest ≠ q :: tail) →
    read (List.replicate run q ++ q :: q :: q :: rest) = some (List.replicate run q, rest)

lemma ReadsQuotes.quotes {q : Char} {read : List Char → Reading (List Char)}
    (h : ReadsQuotes q read) {run : Nat} (hrun : run ≤ 2) {cs : List Char}
    (hhead : ∀ tail, cs ≠ q :: tail) {text rest : List Char} (hcs : read cs = some (text, rest)) :
    read (List.replicate run q ++ cs) = some (List.replicate run q ++ text, rest) := by
  have hone : read (q :: cs) = some (q :: text, rest) := by
    rw [h.quote fun tail => hhead _, hcs]
    rfl
  match run with
  | 0 => exact hcs
  | 1 => exact hone
  | 2 =>
    have htwo : ∀ tail, q :: cs ≠ q :: q :: tail := by simpa using hhead
    show read (q :: q :: cs) = _
    rw [h.quote htwo, hone]
    rfl

lemma readsQuotes_basicLines : ReadsQuotes '\x22' (basicLines .text) where
  quote {cs} hquotes := by
    have hplain : isPlain '\x22' = true := by decide
    rw [basicLines.eq_def]
    split <;> simp_all
    rename_i heq
    rw [← heq.1, if_pos hplain]
  close {run} hrun {rest} hrest := by
    match run with
    | 0 =>
      show basicLines .text ('\x22' :: '\x22' :: '\x22' :: rest) = _
      rw [basicLines] <;> simp_all
    | 1 =>
      show basicLines .text ('\x22' :: '\x22' :: '\x22' :: '\x22' :: rest) = _
      rw [basicLines] <;> simp_all
    | 2 => rfl

lemma readsQuotes_literalLines : ReadsQuotes '\'' literalLines where
  quote {cs} hquotes := by
    have hplain : isPlain '\'' = true := by decide
    rw [literalLines.eq_def]
    split <;> simp_all
    rename_i heq
    rw [← heq.1, if_pos (.inr hplain)]
  close {run} hrun {rest} hrest := by
    match run with
    | 0 =>
      show literalLines ('\'' :: '\'' :: '\'' :: rest) = _
      rw [literalLines] <;> simp_all
    | 1 =>
      show literalLines ('\'' :: '\'' :: '\'' :: '\'' :: rest) = _
      rw [literalLines] <;> simp_all
    | 2 => rfl

/-- An escaped character starts with a backslash or with itself. -/
lemma escape_append_ne_quote {c : Char} (hquote : c ≠ '\x22') (cs tail : List Char) :
    escape c ++ cs ≠ '\x22' :: tail := by
  unfold escape codeEscape
  split_ifs <;> simp [hquote]

/-- A text with the quotes right before it is read back behind those quotes. -/
lemma basicLines_writeBasicLines {rest : List Char} (hrest : ∀ tail, rest ≠ '\x22' :: tail)
    (cs : List Char) {run : Nat} (hrun : run ≤ 2) :
    basicLines .text (List.replicate run '\x22' ++
        (writeBasicLines run cs ++ '\x22' :: '\x22' :: '\x22' :: rest)) =
      some (List.replicate run '\x22' ++ cs, rest) := by
  induction cs generalizing run with
  | nil =>
    rw [List.append_nil]
    exact readsQuotes_basicLines.close hrun hrest
  | cons c cs ih =>
    have hnone := ih (Nat.zero_le 2)
    rw [writeBasicLines]
    split_ifs with hquote hlt hbreak
    · subst hquote
      have hrun : run + 1 ≤ 2 := hlt
      have hmore := ih hrun
      rw [List.replicate_succ', List.append_assoc, List.append_assoc] at hmore
      exact hmore
    · subst hquote
      refine readsQuotes_basicLines.quotes hrun (by simp) ?_
      rw [List.cons_append, List.cons_append, readsBasic_basicLines.short rfl]
      exact congrArg (prepend '\x22') hnone
    · subst hbreak
      refine readsQuotes_basicLines.quotes hrun (by simp) ?_
      rw [List.cons_append, basicLines, keepLineEnd, if_pos rfl]
      exact congrArg (prepend '\n') hnone
    · rw [List.append_assoc]
      refine readsQuotes_basicLines.quotes hrun (escape_append_ne_quote hquote _) ?_
      rw [readsBasic_basicLines.escape hquote hbreak]
      exact congrArg (prepend c) hnone

lemma le_longestRunFrom (q : Char) (run : Nat) (cs : List Char) :
    run ≤ longestRunFrom q run cs := by
  induction cs generalizing run with
  | nil => exact Nat.le_refl run
  | cons c cs ih =>
    rw [longestRunFrom]
    split_ifs
    · exact Nat.le_trans (Nat.le_succ run) (ih (run + 1))
    · exact Nat.le_max_left ..

lemma not_mem_of_longestRunFrom {q : Char} {run : Nat} {cs : List Char}
    (h : longestRunFrom q run cs = 0) : q ∉ cs := by
  induction cs generalizing run with
  | nil => exact List.not_mem_nil
  | cons c cs ih =>
    rw [longestRunFrom] at h
    split_ifs at h with hc
    · have hrun := le_longestRunFrom q (run + 1) cs
      omega
    · have hnone : longestRunFrom q 0 cs = 0 := by omega
      have hcs := ih hnone
      simpa using ⟨Ne.symm hc, hcs⟩

lemma literalLines_cons {c : Char} (hquote : c ≠ '\'') (hescape : needsEscape c = false)
    (cs : List Char) : literalLines (c :: cs) = prepend c (literalLines cs) := by
  have hreturn : c ≠ '\r' := by
    rintro rfl
    revert hescape
    decide
  have hkept : (c = '\n' || isPlain c) = true := by
    by_cases hbreak : c = '\n'
    · simp [hbreak]
    · simp [isPlain_of_not_needsEscape hescape hbreak]
  rw [literalLines, if_pos hkept] <;> simp_all

lemma literalLines_append {rest : List Char} (hrest : ∀ tail, rest ≠ '\'' :: tail) {cs : List Char}
    (hplain : ∀ c ∈ cs, needsEscape c = false) {run : Nat}
    (hruns : longestRunFrom '\'' run cs ≤ 2) :
    literalLines (List.replicate run '\'' ++ (cs ++ '\'' :: '\'' :: '\'' :: rest)) =
      some (List.replicate run '\'' ++ cs, rest) := by
  have hrun : run ≤ 2 := Nat.le_trans (le_longestRunFrom _ run cs) hruns
  induction cs generalizing run with
  | nil =>
    rw [List.append_nil]
    exact readsQuotes_literalLines.close hrun hrest
  | cons c cs ih =>
    have hc := hplain c (List.mem_cons_self ..)
    have hcs := fun d hd => hplain d (List.mem_cons_of_mem c hd)
    rw [longestRunFrom] at hruns
    split_ifs at hruns with hquote
    · subst hquote
      have hmore := ih hcs hruns (Nat.le_trans (le_longestRunFrom _ _ cs) hruns)
      rw [List.replicate_succ', List.append_assoc, List.append_assoc] at hmore
      exact hmore
    · have hfresh : longestRunFrom '\'' 0 cs ≤ 2 := Nat.le_trans (Nat.le_max_right ..) hruns
      have hnone := ih hcs hfresh (Nat.zero_le 2)
      refine readsQuotes_literalLines.quotes hrun (by simp [hquote]) ?_
      rw [List.cons_append, literalLines_cons hquote hc]
      exact congrArg (prepend c) hnone

/-! ### Any form -/

lemma of_form_literal {cs : List Char} (h : form cs = .literal) :
    ∀ c ∈ cs, isPlain c = true ∧ c ≠ '\'' := by
  simp only [form] at h
  split_ifs at h with hbasic hliteral
  simp only [Bool.and_eq_true, Bool.not_eq_true', decide_eq_true_eq, List.any_eq_false,
    List.contains_eq_mem, decide_eq_false_iff_not] at hliteral
  obtain ⟨⟨hcoded, hsingle⟩, hbroken⟩ := hliteral
  intro c hc
  have hescape : needsEscape c = false := by simpa using hcoded c hc
  refine ⟨isPlain_of_not_needsEscape hescape ?_, ?_⟩
  · rintro rfl
    exact hbroken hc
  · rintro rfl
    exact not_mem_of_longestRunFrom hsingle hc

lemma of_form_literalLines {cs : List Char} (h : form cs = .literalLines) :
    (∀ c ∈ cs, needsEscape c = false) ∧ longestRun '\'' cs ≤ 2 := by
  simp only [form] at h
  split_ifs at h with hbasic hliteral hlines hkept
  simp only [Bool.and_eq_true, Bool.not_eq_true', decide_eq_true_eq, List.any_eq_false] at hkept
  exact ⟨fun c hc => by simpa using hkept.1 c hc, hkept.2⟩

/-- No line end stands at the start of a text that is written without one. -/
lemma lineEnd?_writeBasicLines {cs : List Char} (hbreak : '\n' ∉ cs) (tail : List Char) :
    lineEnd? (writeBasicLines 0 cs ++ '\x22' :: tail) = none := by
  match cs with
  | [] => rfl
  | c :: cs =>
    have hc : c ≠ '\n' := by
      rintro rfl
      exact hbreak (List.mem_cons_self ..)
    rw [writeBasicLines, if_neg hc]
    split_ifs with hquote hlt
    · rfl
    · rfl
    · unfold escape codeEscape
      split_ifs <;> simp_all [lineEnd?]

lemma lineEnd?_append_of_not_needsEscape {cs : List Char}
    (hplain : ∀ c ∈ cs, needsEscape c = false) (hbreak : '\n' ∉ cs) (tail : List Char) :
    lineEnd? (cs ++ '\'' :: tail) = none := by
  match cs with
  | [] => rfl
  | c :: cs =>
    have hc : c ≠ '\n' := by
      rintro rfl
      exact hbreak (List.mem_cons_self ..)
    have hreturn : c ≠ '\r' := by
      rintro rfl
      exact absurd (hplain _ (List.mem_cons_self ..)) (by decide)
    rw [List.cons_append, lineEnd?] <;> simp_all

lemma skipLineEnd_opening {cs written : List Char} (h : '\n' ∉ cs → lineEnd? written = none) :
    skipLineEnd (opening cs ++ written) = written := by
  unfold opening
  split_ifs with hbreak
  · rfl
  · have hbreak : '\n' ∉ cs := by simpa using hbreak
    rw [List.nil_append, skipLineEnd, h hbreak]
    rfl

lemma writeBasic_append_ne_quotes (cs : List Char) {rest : List Char}
    (hrest : ∀ tail, rest ≠ '\x22' :: tail) (tail : List Char) :
    writeBasic cs ++ '\x22' :: rest ≠ '\x22' :: '\x22' :: tail := by
  match cs with
  | [] => simpa [writeBasic] using hrest tail
  | c :: cs =>
    rw [writeBasic, List.append_assoc]
    split_ifs with hquote hbreak
    · simp
    · simp
    · exact escape_append_ne_quote hquote _ _

lemma append_ne_quotes {cs : List Char} (hquote : '\'' ∉ cs) {rest : List Char}
    (hrest : ∀ tail, rest ≠ '\'' :: tail) (tail : List Char) :
    cs ++ '\'' :: rest ≠ '\'' :: '\'' :: tail := by
  match cs with
  | [] => simpa using hrest tail
  | c :: cs =>
    have hc : c ≠ '\'' := by
      rintro rfl
      exact hquote (List.mem_cons_self ..)
    simp [hc]

/-- **Round trip of strings.** Whatever its characters are, a string is read back as it was
written, up to where it ends; only a quote behind it could be taken for a part of it. -/
theorem string?_writeString (cs : List Char) {rest : List Char}
    (hdouble : ∀ tail, rest ≠ '\x22' :: tail) (hsingle : ∀ tail, rest ≠ '\'' :: tail) :
    string? (writeString cs ++ rest) = some (cs, rest) := by
  unfold writeString
  match hform : form cs with
  | .basic =>
    have hread := basicRest_writeBasic cs rest
    have hquotes := writeBasic_append_ne_quotes cs hdouble
    simp only [List.cons_append, List.append_assoc, List.nil_append]
    rw [string?]
    · exact hread
    · simpa using hquotes
    · simp
  | .literal =>
    have hplain := of_form_literal hform
    have hread := literalRest_append hplain rest
    have hquotes := append_ne_quotes (fun hc => (hplain _ hc).2 rfl) hsingle
    simp only [List.cons_append, List.append_assoc, List.nil_append]
    rw [string?]
    · exact hread
    · simp
    · simpa using hquotes
  | .basicLines =>
    have hread := basicLines_writeBasicLines hdouble cs (Nat.zero_le 2)
    have hopened := skipLineEnd_opening fun hbreak : '\n' ∉ cs =>
      lineEnd?_writeBasicLines hbreak ('\x22' :: '\x22' :: rest)
    simp only [List.cons_append, List.append_assoc, List.nil_append]
    rw [string?, hopened]
    exact hread
  | .literalLines =>
    obtain ⟨hplain, hruns⟩ := of_form_literalLines hform
    have hread := literalLines_append hsingle hplain hruns
    have hopened := skipLineEnd_opening fun hbreak =>
      lineEnd?_append_of_not_needsEscape hplain hbreak ('\'' :: '\'' :: rest)
    simp only [List.cons_append, List.append_assoc, List.nil_append]
    rw [string?, hopened]
    exact hread

end ServiceBootstrap.Toml
