import Mathlib.Data.List.Basic
import Mathlib.Tactic.Lemma
import Mathlib.Tactic.SplitIfs
import ServiceBootstrap.Proofs.View.Parts
import ServiceBootstrap.Text.Entries
import ServiceBootstrap.Text.Quoted
import ServiceBootstrap.Toml.Quotation

/-!
What can be told from a text.

A way of writing is legible if what was written, and what follows it, can be told from the whole.
Quoted text is legible whatever follows; a word without a comma or a closing brace is legible in
front of one of them. Legible parts make legible entries, and those make a legible list, on one
line or one a line.
-/

namespace ServiceBootstrap.Text

variable {α β : Type} {P : α → Prop} {Next : List Char → Prop} {write : α → List Char}

/-- Two things of `P` that are written alike in front of something of `Next` are the same, and the
same follows them. -/
def Legible (P : α → Prop) (Next : List Char → Prop) (write : α → List Char) : Prop :=
  ∀ ⦃a b⦄, P a → P b → ∀ ⦃rest rest'⦄, Next rest → Next rest' →
    write a ++ rest = write b ++ rest' → a = b ∧ rest = rest'

namespace Legible

lemma of_read {read : List Char → Option (α × List Char)}
    (h : ∀ a, P a → ∀ rest, Next rest → read (write a ++ rest) = some (a, rest)) :
    Legible P Next write := by
  intro a b ha hb rest rest' hrest hrest' heq
  have hread := h a ha rest hrest
  rw [heq, h b hb rest' hrest'] at hread
  exact ⟨(congrArg Prod.fst (Option.some.inj hread)).symm,
    (congrArg Prod.snd (Option.some.inj hread)).symm⟩

/-- Words that are told by their characters, in front of one that is none of them. -/
lemma of_words {p : Char → Bool} (hword : ∀ a, P a → ∀ c ∈ write a, p c = true)
    (hnext : ∀ {rest}, Next rest → ∀ c tail, rest = c :: tail → p c = false)
    (hinj : ∀ {a b}, P a → P b → write a = write b → a = b) : Legible P Next write := by
  intro a b ha hb rest rest' hrest hrest' heq
  have hspan := congrArg (List.span p) heq
  rw [span_append (hword a ha) (hnext hrest), span_append (hword b hb) (hnext hrest')] at hspan
  exact ⟨hinj ha hb (congrArg Prod.fst hspan), congrArg Prod.snd hspan⟩

lemma enclosed (h : Legible P Next write) (Next' : List Char → Prop) (before after : List Char)
    (hafter : ∀ {rest}, Next' rest → Next (after ++ rest)) :
    Legible P Next' (fun a => before ++ write a ++ after) := by
  intro a b ha hb rest rest' hrest hrest' heq
  simp only [List.append_assoc] at heq
  obtain ⟨hab, hrests⟩ :=
    h ha hb (hafter hrest) (hafter hrest') (List.append_cancel_left heq)
  exact ⟨hab, List.append_cancel_left hrests⟩

lemma pair {Q : β → Prop} {write' : β → List Char} (h : Legible P (fun _ => True) write)
    (h' : Legible Q Next write') (between : List Char) :
    Legible (fun e : α × β => P e.1 ∧ Q e.2) Next
      (fun e => write e.1 ++ between ++ write' e.2) := by
  intro d e hd he rest rest' hrest hrest' heq
  simp only [List.append_assoc] at heq
  obtain ⟨hfst, heq⟩ := h hd.1 he.1 trivial trivial heq
  obtain ⟨hsnd, hrests⟩ := h' hd.2 he.2 hrest hrest' (List.append_cancel_left heq)
  exact ⟨Prod.ext hfst hsnd, hrests⟩

/-- Two kinds of things no text of which starts both. -/
lemma or {Q : α → Prop} (h : Legible P Next write) (h' : Legible Q Next write)
    (hdistinct : ∀ {a b}, P a → Q b → ∀ rest rest', write a ++ rest ≠ write b ++ rest') :
    Legible (fun a => P a ∨ Q a) Next write := by
  rintro a b (ha | ha) (hb | hb) rest rest' hrest hrest' heq
  · exact h ha hb hrest hrest' heq
  · exact absurd heq (hdistinct ha hb rest rest')
  · exact absurd heq.symm (hdistinct hb ha rest' rest)
  · exact h' ha hb hrest hrest' heq

/-- One after the other up to a closing character, which starts none of them. -/
lemma closed (h : Legible P Next write) (close : Char)
    (hwrite : ∀ a rest, Next (write a ++ rest) ∧ ∀ tail, write a ++ rest ≠ close :: tail)
    (hclose : ∀ rest, Next (close :: rest)) :
    Legible (fun l : List α => ∀ a ∈ l, P a) (fun _ => True)
      (fun l => l.flatMap write ++ [close]) := by
  have hnext : ∀ (l : List α) (rest : List Char), Next (l.flatMap write ++ close :: rest) := by
    intro l rest
    cases l with
    | nil => exact hclose rest
    | cons a l =>
      rw [List.flatMap_cons, List.append_assoc]
      exact (hwrite a _).1
  -- The closing character tells the list that ends from the one that goes on.
  intro l
  induction l with
  | nil =>
    intro m _ _ rest rest' _ _ heq
    cases m with
    | nil => exact ⟨rfl, (List.cons.inj heq).2⟩
    | cons b m =>
      simp only [List.flatMap_cons, List.append_assoc] at heq
      exact absurd heq.symm ((hwrite b _).2 rest)
  | cons a l ih =>
    intro m hl hm rest rest' _ _ heq
    cases m with
    | nil =>
      simp only [List.flatMap_cons, List.append_assoc] at heq
      exact absurd heq ((hwrite a _).2 rest')
    | cons b m =>
      simp only [List.flatMap_cons, List.append_assoc, List.singleton_append] at heq
      obtain ⟨rfl, hrests⟩ := h (hl a List.mem_cons_self) (hm b List.mem_cons_self)
        (hnext l rest) (hnext m rest') heq
      have hmore : l = m ∧ rest = rest' :=
        ih (fun c hc => hl c (List.mem_cons_of_mem _ hc))
          (fun c hc => hm c (List.mem_cons_of_mem _ hc)) trivial trivial
          (by simpa only [List.append_assoc, List.singleton_append] using hrests)
      exact ⟨congrArg _ hmore.1, hmore.2⟩

end Legible

/-! ### Quoted text -/

lemma hexNumber?_append_digit (ds : List Char) (d : Char) :
    Toml.hexNumber? (ds ++ [d]) =
      (Toml.hexNumber? ds).bind fun n => (Toml.hexDigit? d).map (16 * n + ·) := by
  unfold Toml.hexNumber?
  rw [List.foldlM_append]
  simp

lemma hexDigit?_digitChar {n : Nat} (h : n < 16) : Toml.hexDigit? n.digitChar = some n := by
  have hall : ∀ k : Fin 16, Toml.hexDigit? (Nat.digitChar k) = some k.val := by decide
  exact hall ⟨n, h⟩

lemma hexNumber?_toDigits (n : Nat) : Toml.hexNumber? (Nat.toDigits 16 n) = some n := by
  induction n using Nat.strongRecOn with
  | ind n ih =>
    rw [Nat.toDigits_eq_if (by decide)]
    split_ifs with hlt
    · have hdigit := hexDigit?_digitChar hlt
      simp [Toml.hexNumber?, hdigit]
    · rw [hexNumber?_append_digit, ih (n / 16) (by omega), hexDigit?_digitChar (by omega)]
      simp only [Option.bind_some, Option.map_some]
      congr 1
      omega

lemma ne_brace_of_mem_toDigits {n : Nat} {d : Char} (h : d ∈ Nat.toDigits 16 n) : d ≠ '\x7d' := by
  induction n using Nat.strongRecOn with
  | ind n ih =>
    rw [Nat.toDigits_eq_if (by decide)] at h
    split_ifs at h with hlt
    · rw [List.mem_singleton.1 h]
      exact Nat.digitChar_ne _ (by decide)
    · obtain hfront | hlast := List.mem_append.1 h
      · exact ih (n / 16) (by omega) hfront
      · rw [List.mem_singleton.1 hlast]
        exact Nat.digitChar_ne _ (by decide)

/-- What a character behind a backslash stands for. -/
def unescaped? (c : Char) : Option Char :=
  if c = '0' then some '\x00'
  else if c = 't' then some '\t'
  else if c = 'r' then some '\r'
  else if c = 'n' then some '\n'
  else if c = '\x22' then some '\x22'
  else if c = '\\' then some '\\'
  else none

/-- Reads one character of quoted text, which the closing quote is none of. -/
def readChar? : List Char → Option (Char × List Char)
  | [] => none
  | c :: cs =>
    if c = '\x22' then none
    else if c ≠ '\\' then some (c, cs)
    else if cs.head? = some 'u' then
      (Toml.scalar? ((cs.drop 2).takeWhile (· != '\x7d'))).map
        (·, ((cs.drop 2).dropWhile (· != '\x7d')).tail)
    else (cs.head?.bind unescaped?).map (·, cs.tail)

lemma readChar?_codeEscape (c : Char) (rest : List Char) :
    readChar? (codeEscape c ++ rest) = some (c, rest) := by
  have hdigits : ∀ d ∈ Nat.toDigits 16 c.toNat, (d != '\x7d') = true := fun d hd =>
    bne_iff_ne.2 (ne_brace_of_mem_toDigits hd)
  have htake : (Nat.toDigits 16 c.toNat ++ '\x7d' :: rest).takeWhile (· != '\x7d') =
      Nat.toDigits 16 c.toNat := by
    rw [List.takeWhile_append_of_pos hdigits]
    simp
  have hdrop : (Nat.toDigits 16 c.toNat ++ '\x7d' :: rest).dropWhile (· != '\x7d') =
      '\x7d' :: rest := by
    rw [List.dropWhile_append_of_pos hdigits]
    simp
  have hscalar : Toml.scalar? (Nat.toDigits 16 c.toNat) = some c := by
    have hvalid : c.toNat.isValidChar := c.valid
    rw [Toml.scalar?, hexNumber?_toDigits, Option.bind_some, if_pos hvalid, Char.ofNat_toNat]
  simp [codeEscape, readChar?, htake, hdrop, hscalar]

lemma readChar?_quotedChar (c : Char) (rest : List Char) :
    readChar? (quotedChar c ++ rest) = some (c, rest) := by
  unfold quotedChar
  split_ifs with hnull htab hreturn hfeed hquote hslash hextends hprints
  · rw [hnull]
    rfl
  · rw [htab]
    rfl
  · rw [hreturn]
    rfl
  · rw [hfeed]
    rfl
  · rw [hquote]
    rfl
  · rw [hslash]
    rfl
  · exact readChar?_codeEscape c rest
  · simp [readChar?, hquote, hslash]
  · exact readChar?_codeEscape c rest

theorem legible_quotedChars :
    Legible (fun _ => True) (fun _ => True) (fun s : String => quotedChars s.toList) := by
  have hchar : Legible (fun _ => True) (fun _ => True) quotedChar :=
    .of_read fun c _ rest _ => readChar?_quotedChar c rest
  have hclosing : ∀ (c : Char) (rest tail : List Char), quotedChar c ++ rest ≠ '\x22' :: tail := by
    intro c rest tail heq
    have hread := readChar?_quotedChar c rest
    rw [heq] at hread
    cases hread
  have hchars := Legible.enclosed
    (Legible.closed hchar '\x22' (fun c rest => ⟨trivial, hclosing c rest⟩) fun _ => trivial)
    (fun _ => True) ['\x22'] [] fun _ => trivial
  intro s t _ _ rest rest' _ _ heq
  have hst : s.toList = t.toList ∧ rest = rest' :=
    hchars (fun _ _ => trivial) (fun _ _ => trivial) trivial trivial
      (by simpa [quotedChars] using heq)
  exact ⟨String.toList_inj.1 hst.1, hst.2⟩

/-! ### Lists of entries -/

/-- What stands behind an entry. -/
def EndsEntry (rest : List Char) : Prop := ∃ tail, rest = ',' :: tail ∨ rest = '\x7d' :: tail

lemma endsEntry_comma (tail : List Char) : EndsEntry (',' :: tail) := ⟨tail, .inl rfl⟩

lemma endsEntry_brace (tail : List Char) : EndsEntry ('\x7d' :: tail) := ⟨tail, .inr rfl⟩

lemma intercalate_cons (separator a : List Char) (l : List (List Char)) :
    List.intercalate separator (a :: l) = a ++ l.flatMap (separator ++ ·) := by
  induction l generalizing a with
  | nil => simp
  | cons b l ih => rw [List.intercalate_cons_cons, ih, List.flatMap_cons, List.append_assoc,
      List.append_assoc]

variable {shown : α → String × String}

/-- The text of one entry. -/
def entryText (shown : α → String × String) (a : α) : List Char := (Entries.entry (shown a)).toList

lemma inline_nil_append (rest : List Char) :
    (Entries.inline (([] : List α).map shown)).toList ++ rest = '\x7b' :: '\x7d' :: rest := by
  simp [Entries.inline]

lemma inline_cons_append (a : α) (l : List α) (rest : List Char) :
    (Entries.inline ((a :: l).map shown)).toList ++ rest = '\x7b' :: (entryText shown a ++
      (l.flatMap (fun a => [',', ' '] ++ entryText shown a ++ []) ++ ['\x7d'] ++ rest)) := by
  simp [Entries.inline, entryText, String.toList_intercalate, intercalate_cons, List.flatMap_map,
    Function.comp_def]

lemma stacked_nil_append (rest : List Char) :
    (Entries.stacked (([] : List α).map shown)).toList ++ rest = '\x7b' :: '\x7d' :: rest := by
  simp [Entries.stacked]

lemma stacked_cons_append (a : α) (l : List α) (rest : List Char) :
    (Entries.stacked ((a :: l).map shown)).toList ++ rest = '\x7b' :: '\n' ::
      ((a :: l).flatMap (fun a => [' ', ' ', ' ', ' '] ++ entryText shown a ++ [',', '\n']) ++
        ['\x7d'] ++ rest) := by
  simp [Entries.stacked, entryText, String.toList_join, List.flatMap_map, Function.comp_def]

theorem legible_inline (h : Legible P EndsEntry (entryText shown))
    (hopening : ∀ a rest tail, entryText shown a ++ rest ≠ '\x7d' :: tail) :
    Legible (fun l : List α => ∀ a ∈ l, P a) (fun _ => True)
      (fun l => (Entries.inline (l.map shown)).toList) := by
  have hmore := Legible.closed (Legible.enclosed h EndsEntry [',', ' '] [] id) '\x7d'
    (fun a rest => ⟨endsEntry_comma _, fun tail heq => by cases heq⟩) endsEntry_brace
  have hends : ∀ (l : List α) (rest : List Char), EndsEntry (l.flatMap
      (fun a => [',', ' '] ++ entryText shown a ++ []) ++ ['\x7d'] ++ rest) := by
    intro l rest
    cases l with
    | nil => exact endsEntry_brace rest
    | cons a l => exact endsEntry_comma _
  intro l m hl hm rest rest' _ _ heq
  dsimp only at heq
  cases l with
  | nil =>
    cases m with
    | nil => exact ⟨rfl, List.append_cancel_left heq⟩
    | cons b m =>
      rw [inline_nil_append, inline_cons_append] at heq
      exact absurd (List.cons.inj heq).2.symm (hopening b _ _)
  | cons a l =>
    cases m with
    | nil =>
      rw [inline_nil_append, inline_cons_append] at heq
      exact absurd (List.cons.inj heq).2 (hopening a _ _)
    | cons b m =>
      rw [inline_cons_append, inline_cons_append] at heq
      obtain ⟨rfl, hbehind⟩ := h (hl a List.mem_cons_self) (hm b List.mem_cons_self)
        (hends l rest) (hends m rest') (List.cons.inj heq).2
      obtain ⟨rfl, hrests⟩ := hmore (fun c hc => hl c (List.mem_cons_of_mem _ hc))
        (fun c hc => hm c (List.mem_cons_of_mem _ hc)) trivial trivial hbehind
      exact ⟨rfl, hrests⟩

theorem legible_stacked (h : Legible P EndsEntry (entryText shown)) :
    Legible (fun l : List α => ∀ a ∈ l, P a) (fun _ => True)
      (fun l => (Entries.stacked (l.map shown)).toList) := by
  have hlines := Legible.closed (Legible.enclosed h (fun _ => True) [' ', ' ', ' ', ' ']
    [',', '\n'] fun _ => endsEntry_comma _) '\x7d'
    (fun a rest => ⟨trivial, fun tail heq => by cases heq⟩) fun _ => trivial
  intro l m hl hm rest rest' _ _ heq
  dsimp only at heq
  cases l with
  | nil =>
    cases m with
    | nil => exact ⟨rfl, List.append_cancel_left heq⟩
    | cons b m =>
      rw [stacked_nil_append, stacked_cons_append] at heq
      cases heq
  | cons a l =>
    cases m with
    | nil =>
      rw [stacked_nil_append, stacked_cons_append] at heq
      cases heq
    | cons b m =>
      rw [stacked_cons_append, stacked_cons_append] at heq
      exact hlines hl hm trivial trivial (List.cons.inj (List.cons.inj heq).2).2

end ServiceBootstrap.Text
