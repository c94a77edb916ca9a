import ServiceBootstrap.Proofs.Toml.Values

/-!
Members are read as they were written: a line for each, under a bare key.

The induction is on the lines. What the lines before have left behind is a table with their
entries, which takes one more entry at its end as long as no two members have one name.
-/

namespace ServiceBootstrap

open Toml

/-- What a member means in a document. -/
def Member.tree : Member → Toml.Tree
  | text s => .string s
  | number n => .integer n.toInt64
  | texts ss => .array (ss.map .string)

namespace Toml

/-- A name that stands in a document without quotes. -/
structure IsBare (name : String) : Prop where
  ne_empty : name.toList ≠ []
  key : ∀ c ∈ name.toList, isKeyChar c = true

instance (name : String) : Decidable (IsBare name) :=
  decidable_of_iff (name.toList ≠ [] ∧ name.toList.all isKeyChar = true)
    ⟨fun h => ⟨h.1, List.all_eq_true.1 h.2⟩, fun h => ⟨h.ne_empty, List.all_eq_true.2 h.key⟩⟩

/-- Blanks, quotes, and whatever else a line may start with that is no pair under a bare key. -/
def openers : List Char := [' ', '\t', '\x22', '\'', '#', '\n', '\r', '[', '\ufeff']

lemma IsBare.eq_cons {name : String} (h : IsBare name) :
    ∃ c cs, name.toList = c :: cs ∧ c ∉ openers := by
  have hopeners : openers.all (!isKeyChar ·) = true := by decide
  match hname : name.toList with
  | [] => exact absurd hname h.ne_empty
  | c :: cs =>
    refine ⟨c, cs, rfl, fun hc => ?_⟩
    have hkey := h.key c (hname ▸ List.mem_cons_self ..)
    simpa [hkey] using List.all_eq_true.1 hopeners c hc

lemma skipSpaces_cons {c : Char} (h : isSpace c = false) (cs : List Char) :
    skipSpaces (c :: cs) = c :: cs := by
  rw [skipSpaces, List.dropWhile_cons_of_neg (by simp [h])]

lemma keyPart?_bare {name : String} (h : IsBare name) (rest : List Char) :
    keyPart? (name.toList ++ ' ' :: rest) = some (name, ' ' :: rest) := by
  obtain ⟨c, cs, hname, hc⟩ := h.eq_cons
  simp only [openers, List.mem_cons, not_or] at hc
  have hquotation : quotation? (name.toList ++ ' ' :: rest) = none := by
    rw [hname, List.cons_append, quotation?] <;> simp [hc]
  have hspan : (name.toList ++ ' ' :: rest).span isKeyChar = (name.toList, ' ' :: rest) := by
    refine span_append h.key ?_
    rintro c tail ⟨⟩
    decide
  have hword : String.ofList (c :: cs) = name := by
    rw [← hname, String.ofList_toList]
  rw [keyPart?, hquotation, hspan, hname]
  show some (String.ofList (c :: cs), ' ' :: rest) = _
  rw [hword]

lemma key?_bare {name : String} (h : IsBare name) (rest : List Char) :
    key? (limit - 1) (name.toList ++ ' ' :: '=' :: rest) = some ([name], '=' :: rest) := by
  obtain ⟨c, cs, hname, hc⟩ := h.eq_cons
  simp only [openers, List.mem_cons, not_or] at hc
  have hskip : skipSpaces (name.toList ++ ' ' :: '=' :: rest) =
      name.toList ++ ' ' :: '=' :: rest := by
    rw [hname]
    exact skipSpaces_cons (by simp [isSpace, hc]) _
  rw [limit, key?, hskip, keyPart?_bare h]
  rfl

lemma value?_toml (depth : Nat) (m : Member) (rest : List Char) :
    value? (depth + 1) (m.toml ++ '\n' :: rest) = some (m.tree, '\n' :: rest) := by
  match m with
  | .text s => exact value?_writeString (depth + 1) s (by simp) (by simp)
  | .number n =>
    refine value?_decimal (depth + 1) n ?_
    rintro c tail ⟨⟩
    decide
  | .texts ss =>
    rw [Member.toml, List.append_assoc]
    exact value?_writeStrings depth ss ('\n' :: rest)

lemma skipSpaces_toml (m : Member) (rest : List Char) :
    skipSpaces (' ' :: (m.toml ++ rest)) = m.toml ++ rest := by
  have hhead : ∃ c cs, m.toml = c :: cs ∧ isSpace c = false := by
    match m with
    | .text s =>
      obtain ⟨q, tail, hcons, hquote⟩ := writeString_eq_cons s.toList
      exact ⟨q, tail, hcons, by rcases hquote with rfl | rfl <;> rfl⟩
    | .number n =>
      obtain ⟨c, cs, hcons, hc⟩ := decimal_eq_cons n
      simp only [foreign, List.mem_cons, not_or] at hc
      exact ⟨c, cs, hcons, by simp [isSpace, hc]⟩
    | .texts ss => exact ⟨_, _, rfl, rfl⟩
  obtain ⟨c, cs, hcons, hc⟩ := hhead
  rw [hcons]
  exact skipSpaces_cons hc _

lemma pair?_tomlLine (depth : Nat) (m : String × Member) (h : IsBare m.1) (rest : List Char) :
    pair? (value? (depth + 1)) (tomlLine m ++ rest) =
      some ((([], m.1), m.2.tree), '\n' :: rest) := by
  have hline : tomlLine m ++ rest =
      m.1.toList ++ ' ' :: '=' :: ' ' :: (m.2.toml ++ '\n' :: rest) := by
    simp [tomlLine]
  rw [pair?, hline, key?_bare h]
  show (value? (depth + 1) (skipSpaces (' ' :: (m.2.toml ++ '\n' :: rest)))).bind _ = _
  rw [skipSpaces_toml, value?_toml]
  rfl

lemma tomlLine_eq_cons {m : String × Member} (h : IsBare m.1) :
    ∃ c cs, tomlLine m = c :: cs ∧ c ∉ openers := by
  obtain ⟨c, cs, hname, hc⟩ := h.eq_cons
  exact ⟨c, _, by rw [tomlLine, hname]; rfl, hc⟩

/-- What a member leaves behind in the table that is being read. -/
def draft (m : String × Member) : String × Draft := (m.1, .value m.2.tree)

/-- A line that opens nothing else is a pair, which is put into the table at hand. -/
lemma line?_of_not_opener {c : Char} (hc : c ∉ openers) (cs : List Char) (done : DraftEntries) :
    line? ⟨done, []⟩ (c :: cs) =
      (pair? (value? (limit - 1)) (c :: cs)).bind fun (((path, name), t), rest) =>
        (DraftEntries.change [] (DraftEntries.insert path name (.value t)) done).bind fun root =>
          (restOfLine? rest).bind fun rest => some (⟨root, []⟩, rest) := by
  simp only [openers, List.mem_cons, not_or] at hc
  rw [line?] <;> simp [hc]

lemma line?_tomlLine (done : DraftEntries) (m : String × Member) (h : IsBare m.1)
    (hfresh : done.lookup m.1 = none) (rest : List Char) :
    line? ⟨done, []⟩ (tomlLine m ++ rest) = some (⟨done ++ [draft m], []⟩, rest) := by
  have hinsert : DraftEntries.change [] (DraftEntries.insert [] m.1 (.value m.2.tree)) done =
      some (done ++ [draft m]) := by
    simp [DraftEntries.change, DraftEntries.follow, DraftEntries.insert, hfresh, draft]
  have hpair : pair? (value? (limit - 1)) (tomlLine m ++ rest) =
      some ((([], m.1), m.2.tree), '\n' :: rest) :=
    pair?_tomlLine 78 m h rest
  obtain ⟨c, cs, hline, hc⟩ := tomlLine_eq_cons h
  rw [hline, List.cons_append, line?_of_not_opener hc, ← List.cons_append, ← hline, hpair]
  simp only [Option.bind_some, hinsert]
  rfl

lemma lines?_tomlLines (ms : List (String × Member)) (hbare : ∀ m ∈ ms, IsBare m.1)
    (hnames : (ms.map (·.1)).Nodup) (done : DraftEntries)
    (hfresh : ∀ m ∈ ms, done.lookup m.1 = none) {fuel : Nat} (hfuel : ms.length < fuel) :
    lines? fuel ⟨done, []⟩ (ms.flatMap tomlLine) = some ⟨done ++ ms.map draft, []⟩ := by
  induction ms generalizing done fuel with
  | nil =>
    match fuel with
    | fuel + 1 => simp [lines?, skipSpaces]
  | cons m ms ih =>
    match fuel with
    | fuel + 1 =>
      have hm := hbare m (List.mem_cons_self ..)
      obtain ⟨hother, hrest⟩ := List.nodup_cons.1 hnames
      have hnext : ∀ n ∈ ms, (done ++ [draft m]).lookup n.1 = none := by
        intro n hn
        have hne : n.1 ≠ m.1 := fun heq => hother (List.mem_map.2 ⟨n, hn, heq⟩)
        rw [List.lookup_append, hfresh n (List.mem_cons_of_mem _ hn)]
        simp [draft, List.lookup_cons, beq_false_of_ne hne]
      obtain ⟨c, cs, hline, hc⟩ := tomlLine_eq_cons hm
      simp only [openers, List.mem_cons, not_or] at hc
      have hskip : skipSpaces (tomlLine m ++ ms.flatMap tomlLine) =
          tomlLine m ++ ms.flatMap tomlLine := by
        rw [hline]
        exact skipSpaces_cons (by simp [isSpace, hc]) _
      have hread := line?_tomlLine done m hm (hfresh m (List.mem_cons_self ..))
        (ms.flatMap tomlLine)
      rw [List.flatMap_cons, lines?, hskip]
      split
      · simp_all
      · have hmore := ih (fun n hn => hbare n (List.mem_cons_of_mem _ hn)) hrest
          (done ++ [draft m]) hnext (by simpa using hfuel)
        rw [List.append_assoc] at hmore
        rw [hread]
        exact hmore

lemma treeEntries_drafts (ms : List (String × Member)) :
    treeEntries (ms.map draft) = ms.map fun m => (m.1, m.2.tree) := by
  induction ms with
  | nil => rfl
  | cons m ms ih =>
    rw [List.map_cons, draft, treeEntries, ih]
    rfl

lemma length_le_tomlLines (ms : List (String × Member)) :
    ms.length ≤ (ms.flatMap tomlLine).length := by
  induction ms with
  | nil => exact Nat.zero_le _
  | cons m ms ih =>
    simp only [List.flatMap_cons, List.length_append, List.length_cons, tomlLine]
    omega

/-- **Round trip of documents.** Members under distinct bare keys are read back as one table that
has exactly these entries, in their order. -/
theorem parse?_tomlLines (ms : List (String × Member)) (hbare : ∀ m ∈ ms, IsBare m.1)
    (hnames : (ms.map (·.1)).Nodup) :
    parse? (ms.flatMap tomlLine) = some (ms.map fun m => (m.1, m.2.tree)) := by
  have hmark : skipMark (ms.flatMap tomlLine) = ms.flatMap tomlLine := by
    match ms with
    | [] => rfl
    | m :: ms =>
      obtain ⟨c, cs, hline, hc⟩ := tomlLine_eq_cons (hbare m (List.mem_cons_self ..))
      simp only [openers, List.mem_cons, not_or] at hc
      rw [List.flatMap_cons, hline, List.cons_append, skipMark]
      simp [hc]
  have hlines := lines?_tomlLines ms hbare hnames [] (fun _ _ => rfl)
    (Nat.lt_succ_of_le (length_le_tomlLines ms))
  rw [parse?, hmark, hlines, Option.map_some, List.nil_append, treeEntries_drafts]

end Toml

end ServiceBootstrap
