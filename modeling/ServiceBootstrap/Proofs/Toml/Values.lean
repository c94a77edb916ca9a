import Mathlib.Data.List.Basic
import ServiceBootstrap.Proofs.Toml.Strings
import ServiceBootstrap.Proofs.View.Parts
import ServiceBootstrap.Toml.Document

/-!
Values are read as they were written: strings, numbers, and arrays of strings.
-/

namespace ServiceBootstrap.Toml

/-! ### Numbers -/

lemma digits?_of_digits {ds : List Char} (hdigit : ∀ c ∈ ds, c.isDigit = true) (hne : ds ≠ []) :
    Figure.digits? Char.isDigit ds = some ds := by
  induction ds with
  | nil => exact absurd rfl hne
  | cons d ds ih =>
    have hd := hdigit d (List.mem_cons_self ..)
    have hds : ∀ c ∈ ds, c.isDigit = true := fun c hc => hdigit c (List.mem_cons_of_mem _ hc)
    match ds with
    | [] => simp [Figure.digits?, hd]
    | c :: ds =>
      have hunder : c ≠ '_' := by
        rintro rfl
        exact absurd (hds _ (List.mem_cons_self ..)) (by decide)
      rw [Figure.digits?, if_pos hd, ih hds (List.cons_ne_nil _ _)]
      · rfl
      · simp
      · simp [hunder]

lemma number_of_digits {ds : List Char} (hdigit : ∀ c ∈ ds, c.isDigit = true) :
    Figure.number 10 ds = Nat.ofDigitChars 10 ds 0 := by
  rw [Nat.ofDigitChars_eq_foldl, Figure.number]
  refine List.foldl_ext _ _ _ fun n c hc => ?_
  rw [Figure.digitValue, if_pos (hdigit c hc)]

lemma decimal?_of_isDecimal {ds : List Char} (h : IsDecimal ds) : Figure.decimal? ds = some ds := by
  unfold Figure.decimal?
  rw [digits?_of_digits h.digit h.ne_nil]
  split
  · rename_i hzero
    exact absurd (Option.some.inj hzero) (h.noLeadingZero _ _)
  · rfl

lemma date?_eq_none {cs : List Char} (h : '-' ∉ cs.tail) : Moment.date? cs = none := by
  unfold Moment.date?
  split <;> simp_all

lemma time?_eq_none {cs : List Char} (h : ':' ∉ cs) : Moment.time? cs = none := by
  unfold Moment.time?
  split <;> simp_all

lemma int64?_toInt (n : Int32) : Figure.int64? n.toInt = some n.toInt64 := by
  have hlow := n.minValue_le_toInt
  have hhigh := n.toInt_le
  have hmin : Int64.minValue.toInt ≤ Int32.minValue.toInt := by decide
  have hmax : Int32.maxValue.toInt ≤ Int64.maxValue.toInt := by decide
  rw [Figure.int64?, if_pos ⟨by omega, by omega⟩, Int64.ofInt_int32ToInt]

/-- No digit is the letter of a base. -/
lemma integer?_of_isDecimal {ds : List Char} (h : IsDecimal ds) (negative : Bool) :
    integer? (minus negative ++ ds) = Figure.int64? (signedValue negative ds) := by
  have hsecond : ∀ c cs, minus negative ++ ds ≠ '0' :: c :: cs := by
    cases negative
    · exact h.noLeadingZero
    · simp [minus]
  have hsigned : Figure.signed (minus negative ++ ds) = (negative, ds) := by
    cases negative
    · obtain ⟨d, tail, hcons, hminus, hplus⟩ := h.eq_cons
      rw [hcons]
      show Figure.signed (d :: tail) = _
      rw [Figure.signed] <;> simp [hplus, hminus]
    · rfl
  rw [integer?, hsigned]
  · simp only [decimal?_of_isDecimal h, Option.bind_some, number_of_digits h.digit, signedValue]
  · exact hsecond _
  · exact hsecond _
  · exact hsecond _

lemma date?_decimal (n : Int32) : Moment.date? (decimal n) = none := by
  refine date?_eq_none fun hminus => ?_
  exact absurd (isDigit_of_mem_tail_decimal hminus) (by decide)

lemma moment?_decimal (n : Int32) : moment? (decimal n) = none := by
  have htime : Moment.time? (decimal n) = none := by
    refine time?_eq_none fun hcolon => ?_
    rcases mem_decimal hcolon with h | h
    · exact absurd h (by decide)
    · exact absurd h (by decide)
  rw [moment?, date?_decimal, htime]

lemma wordValue?_decimal (n : Int32) : wordValue? (decimal n) = some (.integer n.toInt64) := by
  obtain ⟨negative, ds, hds, hdecimal, hvalue⟩ := decimal_eq n
  have hinteger : integer? (decimal n) = some n.toInt64 := by
    rw [hdecimal, integer?_of_isDecimal hds, hvalue, int64?_toInt]
  obtain ⟨c, cs, hcons, hc⟩ := decimal_eq_cons n
  simp only [foreign, List.mem_cons, not_or] at hc
  rw [wordValue?, if_neg (by simp [hcons, hc]), if_neg (by simp [hcons, hc]), moment?_decimal,
    hinteger]

lemma isWordChar_decimal (n : Int32) : ∀ c ∈ decimal n, isWordChar c = true := by
  intro c hc
  rcases mem_decimal hc with rfl | hdigit
  · decide
  · simp [isWordChar, Char.isAlphanum, hdigit]

lemma word_decimal (n : Int32) {rest : List Char}
    (hrest : ∀ c tail, rest = c :: tail → isWordChar c = false) :
    word (decimal n ++ rest) = (decimal n, rest) := by
  simp only [word, span_append (isWordChar_decimal n) hrest, date?_decimal]
  rfl

/-- A text that opens neither a string nor an array nor a table starts with a word. -/
lemma value?_of_word (depth : Nat) {c : Char} {cs : List Char}
    (hopen : c ∉ ['\x22', '\'', '[', '\x7b']) :
    value? depth (c :: cs) =
      (wordValue? (word (c :: cs)).1).map (·, (word (c :: cs)).2) := by
  simp only [List.mem_cons, List.not_mem_nil, not_or] at hopen
  obtain ⟨hdouble, hsingle, harray, htable, -⟩ := hopen
  have hquotation : quotation? (c :: cs) = none := by
    rw [quotation?] <;> simp [hdouble, hsingle]
  have hstring : string? (c :: cs) = none := by
    rw [string?, hquotation] <;> simp [hdouble, hsingle]
  cases depth <;> rw [value?, hstring] <;> simp [harray, htable]

/-- **Round trip of numbers.** A number is read back as it was written, up to where it ends. -/
theorem value?_decimal (depth : Nat) (n : Int32) {rest : List Char}
    (hrest : ∀ c tail, rest = c :: tail → isWordChar c = false) :
    value? depth (decimal n ++ rest) = some (.integer n.toInt64, rest) := by
  obtain ⟨c, cs, hcons, hc⟩ := decimal_eq_cons n
  have hopen : c ∉ ['\x22', '\'', '[', '\x7b'] := by
    simp only [foreign, List.mem_cons, not_or] at hc
    simp [hc]
  have hword : word (c :: (cs ++ rest)) = (decimal n, rest) := by
    rw [← List.cons_append, ← hcons]
    exact word_decimal n hrest
  rw [hcons, List.cons_append, value?_of_word depth hopen, hword, wordValue?_decimal]
  rfl

/-! ### Strings and arrays of strings -/

theorem value?_writeString (depth : Nat) (s : String) {rest : List Char}
    (hdouble : ∀ tail, rest ≠ '\x22' :: tail) (hsingle : ∀ tail, rest ≠ '\'' :: tail) :
    value? depth (writeString s.toList ++ rest) = some (.string s, rest) := by
  have hstring := string?_writeString s.toList hdouble hsingle
  unfold value?
  simp only [hstring, String.ofList_toList]

/-- Every form opens with a quote. -/
lemma writeString_eq_cons (cs : List Char) :
    ∃ q tail, writeString cs = q :: tail ∧ (q = '\x22' ∨ q = '\'') := by
  unfold writeString
  match form cs with
  | .basic => exact ⟨_, _, rfl, .inl rfl⟩
  | .literal => exact ⟨_, _, rfl, .inr rfl⟩
  | .basicLines => exact ⟨_, _, rfl, .inl rfl⟩
  | .literalLines => exact ⟨_, _, rfl, .inr rfl⟩

/-- The text of an item stands where an array goes on. -/
lemma skipLines_writeString (cs rest : List Char) :
    skipLines false (writeString cs ++ rest) = writeString cs ++ rest ∧
      ∀ tail, writeString cs ++ rest ≠ ']' :: tail := by
  obtain ⟨q, tail, hcons, hquote⟩ := writeString_eq_cons cs
  rw [hcons, List.cons_append]
  rcases hquote with rfl | rfl <;> simp [skipLines, isSpace]

lemma items_last (depth fuel : Nat) (s : String) (rest : List Char) :
    items (value? depth) (fuel + 1) (writeString s.toList ++ ']' :: rest) =
      some ([.string s], rest) := by
  have hvalue : value? depth (writeString s.toList ++ ']' :: rest)
      = some (.string s, ']' :: rest) :=
    value?_writeString depth s (by simp) (by simp)
  obtain ⟨hskip, hopen⟩ := skipLines_writeString s.toList (']' :: rest)
  rw [items, hskip]
  split
  · exact absurd ‹_› (hopen _)
  · rw [hvalue]
    rfl

/-- One blank stands behind the comma. -/
lemma items_more (depth fuel : Nat) (s : String) (rest : List Char) :
    items (value? depth) (fuel + 2) (writeString s.toList ++ ',' :: ' ' :: rest) =
      (items (value? depth) (fuel + 1) rest).map fun (ts, rest) => (.string s :: ts, rest) := by
  have hvalue : value? depth (writeString s.toList ++ ',' :: ' ' :: rest) =
      some (.string s, ',' :: ' ' :: rest) :=
    value?_writeString depth s (by simp) (by simp)
  obtain ⟨hskip, hopen⟩ := skipLines_writeString s.toList (',' :: ' ' :: rest)
  have hblank : skipLines false (' ' :: rest) = skipLines false rest := by
    simp [skipLines, isSpace]
  have hspace : items (value? depth) (fuel + 1) (' ' :: rest) =
      items (value? depth) (fuel + 1) rest := by
    rw [items, items, hblank]
  rw [items, hskip]
  split
  · exact absurd ‹_› (hopen _)
  · rw [hvalue]
    show (items (value? depth) (fuel + 1) (' ' :: rest)).bind _ = _
    rw [hspace]
    cases items (value? depth) (fuel + 1) rest <;> rfl

def writeStrings (ss : List String) : List Char :=
  separated [',', ' '] (ss.map fun s => writeString s.toList)

lemma items_writeStrings (depth : Nat) (ss : List String) (rest : List Char) {fuel : Nat}
    (hfuel : ss.length < fuel) :
    items (value? depth) fuel (writeStrings ss ++ ']' :: rest) =
      some (ss.map .string, rest) := by
  induction ss generalizing fuel with
  | nil =>
    match fuel with
    | fuel + 1 => rfl
  | cons s ss ih =>
    match fuel, ss with
    | fuel + 1, [] => exact items_last depth fuel s rest
    | 1, t :: ss => simp at hfuel
    | fuel + 2, t :: ss =>
      have hmore : (t :: ss).length < fuel + 1 := by simpa using hfuel
      have hwritten : writeStrings (s :: t :: ss) ++ ']' :: rest =
          writeString s.toList ++ ',' :: ' ' :: (writeStrings (t :: ss) ++ ']' :: rest) := by
        simp [writeStrings, separated]
      rw [hwritten, items_more, ih hmore]
      rfl

/-- **Round trip of arrays.** A list of strings is read back as it was written. -/
theorem value?_writeStrings (depth : Nat) (ss : List String) (rest : List Char) :
    value? (depth + 1) ('[' :: writeStrings ss ++ ']' :: rest) =
      some (.array (ss.map .string), rest) := by
  have hfuel : ss.length < (writeStrings ss ++ ']' :: rest).length + 1 := by
    have hlength : ss.length ≤ (writeStrings ss).length + 1 := by
      simpa [writeStrings] using
        length_le_separated ',' [' '] (ss.map fun s => writeString s.toList)
    simp only [List.length_append, List.length_cons]
    omega
  have hstring : string? ('[' :: (writeStrings ss ++ ']' :: rest)) = none := rfl
  rw [List.cons_append, value?, hstring]
  simp only [items_writeStrings depth ss rest hfuel, Option.map_some]

end ServiceBootstrap.Toml
