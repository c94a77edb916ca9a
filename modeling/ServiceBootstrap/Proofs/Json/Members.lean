import Mathlib.Data.List.DropRight
import ServiceBootstrap.Proofs.Json.Document
import ServiceBootstrap.Proofs.View.Parts
import ServiceBootstrap.View.Json

/-!
Members are read as they were written: as one object, with each on a line of its own.

Arrays and objects are written by one function and read by one function, so they are seen to
together: whatever reads each part in front of a comma or a line end reads them all.
-/

namespace ServiceBootstrap

/-- What a member means in a text. -/
def Member.jsonTree : Member → Json.Tree
  | text s => .string s
  | number n => .number ⟨n.toInt, 0⟩
  | texts ss => .array (ss.map .string)

namespace Json

/-! ### Strings -/

lemma hexNumber?_codeEscape {c : Char} (h : c.toNat < 0x20) :
    Toml.hexNumber? ['0', '0', Nat.digitChar (c.toNat / 16 % 16), Nat.digitChar (c.toNat % 16)] =
      some c.toNat := by
  have hall : ∀ n : Fin 32, Toml.hexNumber? ['0', '0', Nat.digitChar (n.val / 16 % 16),
      Nat.digitChar (n.val % 16)] = some n.val := by decide
  exact hall ⟨c.toNat, h⟩

lemma stringRest_short {c x : Char} (hc : escaped? c = some x) (cs : List Char) :
    stringRest none ('\\' :: c :: cs) = Toml.prepend x (stringRest none cs) := by
  have hu : c ≠ 'u' := by
    rintro rfl
    simp [escaped?] at hc
  rw [stringRest, hc, Option.bind_some]
  simp [hu]

lemma stringRest_escape (c : Char) (cs : List Char) :
    stringRest none (escape c ++ cs) = Toml.prepend c (stringRest none cs) := by
  unfold escape
  split_ifs with hquote hslash hb ht hn hf hr hcode
  · rw [hquote]
    exact stringRest_short rfl cs
  · rw [hslash]
    exact stringRest_short rfl cs
  · rw [hb]
    exact stringRest_short rfl cs
  · rw [ht]
    exact stringRest_short rfl cs
  · rw [hn]
    exact stringRest_short rfl cs
  · rw [hf]
    exact stringRest_short rfl cs
  · rw [hr]
    exact stringRest_short rfl cs
  · have hhigh : isHighSurrogate c.toNat = false := by
      simp [isHighSurrogate]
      omega
    have hlow : isLowSurrogate c.toNat = false := by
      simp [isLowSurrogate]
      omega
    simp only [codeEscape, List.cons_append, List.nil_append]
    rw [stringRest, hexNumber?_codeEscape hcode, Option.bind_some]
    simp only [hhigh, hlow, Char.ofNat_toNat]
    rfl
  · have hplain : isPlain c = true := by
      simp [isPlain, hquote, hslash]
      omega
    rw [List.singleton_append, stringRest, if_pos hplain] <;> simp [hquote, hslash]

theorem string?_writeString (s : String) (rest : List Char) :
    string? (writeString s.toList ++ rest) = some (s, rest) := by
  have hrest : ∀ cs : List Char,
      stringRest none (cs.flatMap escape ++ '\x22' :: rest) = some (cs, rest) := by
    intro cs
    induction cs with
    | nil => rfl
    | cons c cs ih =>
      rw [List.flatMap_cons, List.append_assoc, stringRest_escape, ih]
      rfl
  have hopened : writeString s.toList ++ rest =
      '\x22' :: (s.toList.flatMap escape ++ '\x22' :: rest) := by
    simp [writeString]
  simp only [hopened, string?, hrest, Option.map_some, String.ofList_toList]

/-! ### Numbers -/

/-- Every part of an array or an object stands in front of a comma or a line end. -/
def Ends (rest : List Char) : Prop := ∃ c tail, rest = c :: tail ∧ (c = ',' ∨ c = '\n')

lemma digits?_append {ds : List Char} (hdigit : ∀ c ∈ ds, c.isDigit = true) (hne : ds ≠ [])
    {rest : List Char} (hrest : Ends rest) : digits? (ds ++ rest) = some (ds, rest) := by
  obtain ⟨c, tail, rfl, hc⟩ := hrest
  have hend : c.isDigit = false := by rcases hc with rfl | rfl <;> rfl
  have hspan : (ds ++ c :: tail).span Char.isDigit = (ds, c :: tail) := by
    refine span_append hdigit ?_
    rintro c tail ⟨⟩
    exact hend
  rw [digits?, hspan]
  match ds, hne with
  | d :: ds, _ => rfl

lemma magnitude?_of_isDecimal {ds : List Char} (h : IsDecimal ds) (negative : Bool)
    {rest : List Char} (hrest : Ends rest) :
    magnitude? negative (ds ++ rest) = some (⟨signedValue negative ds, 0⟩, rest) := by
  have hwhole : whole? (ds ++ rest) = some (ds, rest) := by
    rw [whole?, digits?_append h.digit h.ne_nil hrest]
    split
    · rename_i c cs rest' hzero
      exact absurd (Prod.mk.inj (Option.some.inj hzero)).1 (h.noLeadingZero c cs)
    · rfl
  have hfraction : fraction? rest = some ([], rest) := by
    obtain ⟨c, tail, rfl, rfl | rfl⟩ := hrest <;> rfl
  have hexponent : exponent? rest = some (0, rest) := by
    obtain ⟨c, tail, rfl, rfl | rfl⟩ := hrest <;> rfl
  rw [magnitude?, hwhole]
  simp [hfraction, hexponent, signedValue]

lemma number?_decimal (n : Int32) {rest : List Char} (hrest : Ends rest) :
    number? (decimal n ++ rest) = some (⟨n.toInt, 0⟩, rest) := by
  obtain ⟨negative, ds, hds, hdecimal, hvalue⟩ := decimal_eq n
  rw [hdecimal, List.append_assoc, ← hvalue]
  have hmagnitude := magnitude?_of_isDecimal hds negative hrest
  cases negative
  · obtain ⟨d, tail, hcons, hminus, -⟩ := hds.eq_cons
    rw [hcons] at hmagnitude ⊢
    show number? (d :: (tail ++ rest)) = _
    rw [number?]
    · exact hmagnitude
    · simp [hminus]
  · exact hmagnitude

/-! ### Arrays and objects -/

def blanks (indent : Nat) : List Char := '\n' :: List.replicate indent ' '

lemma skipBlanks_blanks (indent : Nat) (cs : List Char) :
    skipBlanks (blanks indent ++ cs) = skipBlanks cs := by
  have hblank : ∀ c ∈ blanks indent, isBlank c = true := by
    intro c hc
    rcases List.mem_cons.1 hc with rfl | hspace
    · rfl
    · rw [List.eq_of_mem_replicate hspace]
      rfl
  exact List.dropWhile_append_of_pos hblank

lemma skipBlanks_cons {c : Char} (h : isBlank c = false) (cs : List Char) :
    skipBlanks (c :: cs) = c :: cs := by
  rw [skipBlanks, List.dropWhile_cons_of_neg (by simp [h])]

section

variable {α β : Type}

/-- What is needed of a reader for the parts of an array or an object, and of the way they are
written. -/
structure ReadsParts (close : Char) (read : List Char → Reading β) (write : α → List Char)
    (value : α → β) (as : List α) : Prop where
  read : ∀ a ∈ as, ∀ {rest}, Ends rest → read (write a ++ rest) = some (value a, rest)
  head : ∀ a ∈ as, ∃ c cs, write a = c :: cs ∧ isBlank c = false ∧ c ≠ close

variable {read : List Char → Reading β} {write : α → List Char} {value : α → β} {close : Char}

/-- The text of a part stands where the parts go on. -/
lemma ReadsParts.starts {as : List α} (h : ReadsParts close read write value as) {a : α}
    (ha : a ∈ as) (rest : List Char) :
    skipBlanks (write a ++ rest) = write a ++ rest := by
  obtain ⟨c, cs, hcons, hc, -⟩ := h.head a ha
  rw [hcons]
  exact skipBlanks_cons hc _

lemma ReadsParts.tail {a : α} {as : List α} (h : ReadsParts close read write value (a :: as)) :
    ReadsParts close read write value as where
  read b hb := h.read b (List.mem_cons_of_mem a hb)
  head b hb := h.head b (List.mem_cons_of_mem a hb)

lemma parts_of_read {cs text rest tail : List Char} {b : β} {c : Char}
    (hskip : skipBlanks cs = text) (hread : read text = some (b, rest))
    (hrest : skipBlanks rest = c :: tail) (fuel : Nat) :
    parts read close (fuel + 1) cs =
      if c = ',' then (parts read close fuel tail).map fun (more, rest) => (b :: more, rest)
      else if c = close then some ([b], tail)
      else none := by
  simp only [parts, hskip, hread, hrest, Option.bind_eq_bind, Option.bind_some]

lemma parts_skipBlanks (fuel : Nat) (cs : List Char) :
    parts read close fuel (skipBlanks cs) = parts read close fuel cs := by
  have hskip : skipBlanks (skipBlanks cs) = skipBlanks cs := List.dropWhile_idempotent _ cs
  match fuel with
  | 0 => rfl
  | fuel + 1 => rw [parts, parts, hskip]

/-- What stands behind the opening bracket, if anything stands between the two. -/
def body (close : Char) (indent : Nat) (written : List (List Char)) (rest : List Char) :
    List Char :=
  blanks (indent + 2) ++
    (separated (',' :: blanks (indent + 2)) written ++ (blanks indent ++ close :: rest))

lemma body_cons (close : Char) (indent : Nat) (part next : List Char) (written : List (List Char))
    (rest : List Char) :
    body close indent (part :: next :: written) rest =
      blanks (indent + 2) ++ (part ++ ',' :: body close indent (next :: written) rest) := by
  simp [body, separated]

lemma bracketed_append {written : List (List Char)} (hne : written ≠ []) (indent : Nat)
    (first close : Char) (rest : List Char) :
    bracketed indent first close written ++ rest = first :: body close indent written rest := by
  match written, hne with
  | part :: written, _ => simp [bracketed, body, blanks]

lemma length_le_body (close : Char) (indent : Nat) (written : List (List Char))
    (rest : List Char) : written.length ≤ (body close indent written rest).length := by
  have hlength := length_le_separated ',' (blanks (indent + 2)) written
  simp only [body, blanks, List.length_append, List.length_cons] at hlength ⊢
  omega

/-- The induction is on the parts, each with the comma and the line end behind it. -/
lemma ReadsParts.parts_eq {as : List α} (h : ReadsParts close read write value as) (hne : as ≠ [])
    (hblank : isBlank close = false) (hcomma : close ≠ ',') (indent : Nat) (rest : List Char)
    {fuel : Nat} (hfuel : as.length ≤ fuel) :
    parts read close fuel (body close indent (as.map write) rest) =
      some (as.map value, rest) := by
  induction as generalizing fuel with
  | nil => exact absurd rfl hne
  | cons a as ih =>
    have ha : a ∈ a :: as := List.mem_cons_self ..
    have hskip := fun tail => (skipBlanks_blanks (indent + 2) _).trans (h.starts ha tail)
    match fuel, as with
    | fuel + 1, [] =>
      have hends : Ends (blanks indent ++ close :: rest) := ⟨_, _, rfl, .inr rfl⟩
      have hclose : skipBlanks (blanks indent ++ close :: rest) = close :: rest := by
        rw [skipBlanks_blanks, skipBlanks_cons hblank]
      show parts read close (fuel + 1) (blanks (indent + 2) ++ (write a ++ _)) = _
      rw [parts_of_read (hskip _) (h.read a ha hends) hclose, if_neg hcomma, if_pos rfl]
      rfl
    | fuel + 1, b :: as =>
      have hfuel : (b :: as).length ≤ fuel := by simpa using hfuel
      have hmore := ih h.tail (List.cons_ne_nil b as) hfuel
      have hends : Ends (',' :: body close indent ((b :: as).map write) rest) :=
        ⟨_, _, rfl, .inl rfl⟩
      have hcomma : skipBlanks (',' :: body close indent ((b :: as).map write) rest) = _ :=
        skipBlanks_cons rfl _
      rw [List.map_cons, List.map_cons, body_cons, ← List.map_cons,
        parts_of_read (hskip _) (h.read a ha hends) hcomma, if_pos rfl, hmore]
      rfl

/-- What is written between brackets is read back from behind the opening one. -/
theorem ReadsParts.bracketed?_eq {as : List α} (h : ReadsParts close read write value as)
    (hblank : isBlank close = false) (hcomma : close ≠ ',') (indent : Nat) (first : Char)
    (rest : List Char) :
    ∃ text, bracketed indent first close (as.map write) ++ rest = first :: text ∧
      bracketed? read close text = some (as.map value, rest) := by
  match as with
  | [] =>
    refine ⟨close :: rest, rfl, ?_⟩
    rw [bracketed?, skipBlanks_cons hblank]
    exact if_pos rfl
  | a :: as =>
    refine ⟨_, bracketed_append (by simp) indent first close rest, ?_⟩
    obtain ⟨c, cs, hcons, hc, hclose⟩ := h.head a (List.mem_cons_self ..)
    have hbody : ∃ tail, skipBlanks (body close indent ((a :: as).map write) rest) = c :: tail := by
      obtain ⟨tail, htail⟩ := separated_cons (',' :: blanks (indent + 2)) (write a) (as.map write)
      refine ⟨cs ++ (tail ++ (blanks indent ++ close :: rest)), ?_⟩
      rw [body, skipBlanks_blanks, List.map_cons, htail, List.append_assoc,
        h.starts (List.mem_cons_self ..), hcons, List.cons_append]
    obtain ⟨tail, htail⟩ := hbody
    have hfuel : (a :: as).length ≤ (body close indent ((a :: as).map write) rest).length := by
      simpa using length_le_body close indent ((a :: as).map write) rest
    have hparts := h.parts_eq (List.cons_ne_nil a as) hblank hcomma indent rest hfuel
    rw [← parts_skipBlanks, htail] at hparts
    rw [bracketed?, htail]
    exact (if_neg hclose).trans hparts

end

/-! ### Members -/

lemma writeString_eq_cons (cs : List Char) : ∃ tail, writeString cs = '\x22' :: tail := ⟨_, rfl⟩

/-- Whatever is neither a word nor an array nor an object is a string or a number. -/
lemma value?_scalar (depth : Nat) {c : Char} {cs : List Char}
    (hopen : c ∉ ['n', 't', 'f', '[', '\x7b']) : value? depth (c :: cs) = scalar? (c :: cs) := by
  simp only [List.mem_cons, List.not_mem_nil, not_or] at hopen
  cases depth <;> rw [value?] <;> simp [hopen]

lemma value?_writeString (depth : Nat) (s : String) (rest : List Char) :
    value? depth (writeString s.toList ++ rest) = some (.string s, rest) := by
  have hstring := string?_writeString s rest
  obtain ⟨tail, hcons⟩ := writeString_eq_cons s.toList
  rw [hcons, List.cons_append] at hstring ⊢
  rw [value?_scalar depth (by decide), scalar?, hstring]

lemma value?_decimal (depth : Nat) (n : Int32) {rest : List Char} (hrest : Ends rest) :
    value? depth (decimal n ++ rest) = some (.number ⟨n.toInt, 0⟩, rest) := by
  have hnumber := number?_decimal n hrest
  obtain ⟨c, cs, hcons, hc⟩ := decimal_eq_cons n
  simp only [foreign, List.mem_cons, not_or] at hc
  have hopen : c ∉ ['n', 't', 'f', '[', '\x7b'] := by simp [hc]
  have hstring : string? (c :: (cs ++ rest)) = none := by
    rw [string?]
    simp [hc]
  rw [hcons, List.cons_append] at hnumber ⊢
  rw [value?_scalar depth hopen, scalar?, hstring, hnumber]
  rfl

lemma value?_json (depth : Nat) (m : Member) {rest : List Char} (hrest : Ends rest) :
    value? (depth + 1) (m.json ++ rest) = some (m.jsonTree, rest) := by
  match m with
  | .text s => exact value?_writeString (depth + 1) s rest
  | .number n => exact value?_decimal (depth + 1) n hrest
  | .texts ss =>
    have hreads : ReadsParts ']' (value? depth) (fun s : String => writeString s.toList)
        Tree.string ss := by
      refine ⟨fun s _ rest _ => value?_writeString depth s rest, fun s _ => ?_⟩
      obtain ⟨tail, hcons⟩ := writeString_eq_cons s.toList
      exact ⟨_, _, hcons, rfl, by decide⟩
    obtain ⟨text, hwritten, hread⟩ := hreads.bracketed?_eq rfl (by decide) 2 '[' rest
    rw [Member.json, hwritten, value?, hread]
    rfl

lemma json_eq_cons (m : Member) : ∃ c cs, m.json = c :: cs ∧ isBlank c = false := by
  match m with
  | .text s => exact ⟨_, _, rfl, rfl⟩
  | .number n =>
    obtain ⟨c, cs, hcons, hc⟩ := decimal_eq_cons n
    simp only [foreign, List.mem_cons, not_or] at hc
    exact ⟨c, cs, hcons, by simp [isBlank, hc]⟩
  | .texts [] => exact ⟨_, _, rfl, rfl⟩
  | .texts (s :: ss) => exact ⟨_, _, rfl, rfl⟩

lemma member?_jsonLine (depth : Nat) (m : String × Member) {rest : List Char} (hrest : Ends rest) :
    member? (value? (depth + 1)) (jsonLine m ++ rest) = some ((m.1, m.2.jsonTree), rest) := by
  have hline : jsonLine m ++ rest = writeString m.1.toList ++ ':' :: ' ' :: (m.2.json ++ rest) := by
    simp [jsonLine]
  obtain ⟨c, cs, hcons, hc⟩ := json_eq_cons m.2
  have hblank : skipBlanks (' ' :: (m.2.json ++ rest)) = m.2.json ++ rest := by
    rw [hcons]
    exact skipBlanks_cons hc _
  rw [member?, hline, string?_writeString]
  show Option.map _ (value? (depth + 1) (skipBlanks (' ' :: (m.2.json ++ rest)))) = _
  rw [hblank, value?_json depth m.2 hrest]
  rfl

/-- **Round trip of objects.** Members are read back as one object that has exactly these members,
in their order, whatever their names are. -/
theorem parse?_jsonLines (ms : List (String × Member)) :
    parse? (bracketed 0 '\x7b' '\x7d' (ms.map jsonLine) ++ ['\n']) =
      some (.object (ms.map fun m => (m.1, m.2.jsonTree))) := by
  have hreads : ∀ depth, ReadsParts '\x7d' (member? (value? (depth + 1))) jsonLine
      (fun m => (m.1, m.2.jsonTree)) ms := fun depth =>
    ⟨fun m _ rest hrest => member?_jsonLine depth m hrest, fun m _ => ⟨_, _, rfl, rfl, by decide⟩⟩
  have hlong : ∃ depth,
      (bracketed 0 '\x7b' '\x7d' (ms.map jsonLine) ++ ['\n']).length = depth + 2 := by
    match ms with
    | [] => exact ⟨1, rfl⟩
    | m :: ms => exact ⟨_, rfl⟩
  obtain ⟨depth, hdepth⟩ := hlong
  obtain ⟨text, hwritten, hread⟩ :=
    (hreads depth).bracketed?_eq rfl (by decide) 0 '\x7b' ['\n']
  rw [parse?, hdepth, hwritten, skipBlanks_cons rfl, value?, hread]
  rfl

end Json

end ServiceBootstrap
