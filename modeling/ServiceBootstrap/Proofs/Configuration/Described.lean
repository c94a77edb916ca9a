import Mathlib.Tactic.Lemma
import ServiceBootstrap.Configuration.Description
import ServiceBootstrap.Proofs.Text.Legible
import ServiceBootstrap.Proofs.Toml.Values
import ServiceBootstrap.Proofs.View.Parts

/-!
What a description tells.

The values that a description shows are text in quotes or words without a comma, a closing brace or
a quote, so each is told from its text wherever its entry ends. Hence a description tells the names
and values it was made from, whatever characters stand in them.
-/

namespace ServiceBootstrap

open Text (Legible EndsEntry entryText quotedChars)

/-- A description shows the values of these types, and of the others only the type. -/
def Value.IsShown (v : Value) : Prop :=
  v.type = .text ∨ v.type = .int32 ∨ v.type = .bool ∨ v.type = .clientAuth

/-- The values that are shown by a name. -/
def namedValues : List Value :=
  [.bool true, .bool false, .clientAuth .none, .clientAuth .optional, .clientAuth .mandatory]

/-- A value that is shown without quotes. -/
inductive Value.IsWord : Value → Prop where
  | int32 (n : Int32) : IsWord (.int32 n)
  | named {v : Value} (h : v ∈ namedValues) : IsWord v

lemma Value.IsShown.text_or_isWord {v : Value} (h : v.IsShown) : (∃ s, v = .text s) ∨ v.IsWord := by
  obtain h | h | h | h := h <;> cases v <;> cases h
  case inl.text s => exact .inl ⟨s, rfl⟩
  case inr.inl.int32 n => exact .inr (.int32 n)
  case inr.inr.inl.bool b => exact .inr (.named (by cases b <;> simp [namedValues]))
  case inr.inr.inr.clientAuth policy =>
    exact .inr (.named (by cases policy <;> simp [namedValues]))

/-! ### Words -/

def belongsToWord (c : Char) : Bool := c != ',' && c != '\x7d' && c != '\x22'

lemma belongsToWord_of_mem_decimal {n : Int32} {c : Char} (h : c ∈ decimal n) :
    belongsToWord c = true := by
  obtain rfl | hdigit := mem_decimal h
  · decide
  · have hne : ∀ d : Char, d.isDigit = false → c ≠ d := by
      rintro d hd rfl
      rw [hd] at hdigit
      cases hdigit
    simp [belongsToWord, hne ',' rfl, hne '\x7d' rfl, hne '\x22' rfl]

lemma Value.IsWord.mem_describe {v : Value} (h : v.IsWord) :
    ∀ c ∈ v.describe.toList, belongsToWord c = true := by
  cases h with
  | int32 n => exact fun c hc => belongsToWord_of_mem_decimal hc
  | named h =>
    have hall : ∀ v ∈ namedValues, v.describe.toList.all belongsToWord = true := by
      decide
    exact List.all_eq_true.1 (hall v h)

lemma Value.IsWord.ne_nil {v : Value} (h : v.IsWord) : v.describe.toList ≠ [] := by
  cases h with
  | int32 n =>
    obtain ⟨c, cs, hcons, -⟩ := decimal_eq_cons n
    exact fun hnil => List.cons_ne_nil c cs (hcons.symm.trans hnil)
  | named h =>
    have hall : ∀ v ∈ namedValues, v.describe.toList ≠ [] := by decide
    exact hall v h

/-- No name is a number. -/
lemma describe_int32_ne {n : Int32} {v : Value} (h : v ∈ namedValues) :
    (Value.int32 n).describe ≠ v.describe := by
  intro heq
  have hletter : ∀ v ∈ namedValues,
      v.describe.toList.any (fun c => !c.isDigit && c != '-') = true := by
    decide
  obtain ⟨c, hc, hother⟩ := List.any_eq_true.1 (hletter v h)
  rw [← heq] at hc
  obtain rfl | hdigit := mem_decimal (n := n) hc
  · cases hother
  · rw [hdigit] at hother
    cases hother

/-- A number is read back from its text. -/
lemma decimal_injective {m n : Int32} (h : decimal m = decimal n) : m = n := by
  have hread := Toml.wordValue?_decimal m
  rw [h, Toml.wordValue?_decimal] at hread
  have hwide : n.toInt64 = m.toInt64 := Toml.Tree.integer.inj (Option.some.inj hread)
  have hint := congrArg Int64.toInt hwide
  rw [Int32.toInt_toInt64, Int32.toInt_toInt64] at hint
  exact (Int32.toInt_inj.1 hint).symm

/-- A word is told from its characters, and its value from the word. -/
lemma Value.IsWord.describe_inj {v w : Value} (hv : v.IsWord) (hw : w.IsWord)
    (h : v.describe = w.describe) : v = w := by
  cases hv with
  | int32 m =>
    cases hw with
    | int32 n => exact congrArg _ (decimal_injective (congrArg String.toList h))
    | named hw => exact absurd h (describe_int32_ne hw)
  | named hv =>
    cases hw with
    | int32 n => exact absurd h.symm (describe_int32_ne hv)
    | named hw =>
      have hall : ∀ v ∈ namedValues, ∀ w ∈ namedValues, v.describe = w.describe → v = w := by
        decide
      exact hall v hv w hw h

/-! ### Entries -/

lemma endsEntry_not_belongsToWord {rest : List Char} (h : EndsEntry rest) (c : Char)
    (tail : List Char) (heq : rest = c :: tail) : belongsToWord c = false := by
  obtain ⟨_, rfl | rfl⟩ := h <;> cases heq <;> rfl

lemma legible_describe : Legible Value.IsShown EndsEntry (fun v => v.describe.toList) := by
  have htext : Legible (fun v => ∃ s, v = Value.text s) EndsEntry fun v => v.describe.toList := by
    rintro _ _ ⟨s, rfl⟩ ⟨t, rfl⟩ rest rest' - - heq
    simp only [Value.describe, Text.toList_quoted] at heq
    obtain ⟨rfl, hrests⟩ := Text.legible_quotedChars trivial trivial trivial trivial heq
    exact ⟨rfl, hrests⟩
  have hword : Legible Value.IsWord EndsEntry fun v => v.describe.toList :=
    .of_words (fun _ h => h.mem_describe) endsEntry_not_belongsToWord fun hv hw h =>
      hv.describe_inj hw (String.toList_inj.1 h)
  have hquote : ∀ {v w : Value}, (∃ s, v = .text s) → w.IsWord → ∀ rest rest',
      v.describe.toList ++ rest ≠ w.describe.toList ++ rest' := by
    rintro _ w ⟨s, rfl⟩ hw rest rest' heq
    obtain ⟨c, cs, hcons⟩ := List.exists_cons_of_ne_nil hw.ne_nil
    have hc := hw.mem_describe c (hcons ▸ List.mem_cons_self)
    rw [hcons] at heq
    simp only [Value.describe, Text.toList_quoted, quotedChars, List.cons_append] at heq
    rw [← (List.cons.inj heq).1] at hc
    cases hc
  exact fun v w hv hw => (htext.or hword hquote) hv.text_or_isWord hw.text_or_isWord

lemma entryText_describeProperty (e : String × Value) :
    entryText describeProperty e = quotedChars e.1.toList ++ [':', ' '] ++ e.2.describe.toList := by
  simp [entryText, describeProperty, Text.Entries.entry]

lemma legible_entry :
    Legible (fun e : String × Value => e.2.IsShown) EndsEntry (entryText describeProperty) := by
  have hpair := Text.legible_quotedChars.pair legible_describe [':', ' ']
  intro d e hd he rest rest' hrest hrest' heq
  rw [entryText_describeProperty, entryText_describeProperty] at heq
  exact hpair ⟨trivial, hd⟩ ⟨trivial, he⟩ hrest hrest' heq

/-- A list of properties is told from its text, in either layout. -/
lemma eq_of_described {l m : List (String × Value)} (hl : ∀ e ∈ l, e.2.IsShown)
    (hm : ∀ e ∈ m, e.2.IsShown)
    (h : Text.Entries.inline (l.map describeProperty) =
        Text.Entries.inline (m.map describeProperty) ∨
      Text.Entries.stacked (l.map describeProperty) =
        Text.Entries.stacked (m.map describeProperty)) : l = m := by
  obtain h | h := h
  · have hopening : ∀ (e : String × Value) (rest tail : List Char),
        entryText describeProperty e ++ rest ≠ '\x7d' :: tail := by
      intro e rest tail heq
      rw [entryText_describeProperty] at heq
      cases heq
    have htexts := congrArg (·.toList ++ []) h
    exact (Text.legible_inline legible_entry hopening hl hm trivial trivial htexts).1
  · have htexts := congrArg (·.toList ++ []) h
    exact (Text.legible_stacked legible_entry hl hm trivial trivial htexts).1

/-! ### Configurations -/

lemma isShown_of_mem_shown {c : Configuration} {e : String × Value} (h : e ∈ c.shown) :
    e.2.IsShown := by
  simp only [Configuration.shown, List.mem_cons, List.not_mem_nil, or_false] at h
  obtain rfl | rfl | rfl | rfl | rfl := h
  · exact .inl rfl
  · exact .inl rfl
  · exact .inr (.inl rfl)
  · exact .inl rfl
  · exact .inr (.inr (.inr rfl))

/-- A configuration shows the same recognized properties always, and so as many. -/
lemma shown_inj {c d : Configuration}
    (h : c.shown ++ c.unrecognized = d.shown ++ d.unrecognized) :
    (c.protocol = d.protocol ∧ c.host = d.host ∧ c.port = d.port ∧ c.rootPath = d.rootPath ∧
      c.sslClientAuthentication = d.sslClientAuthentication) ∧
        c.unrecognized = d.unrecognized := by
  obtain ⟨hshown, hunrecognized⟩ := List.append_inj h rfl
  refine ⟨?_, hunrecognized⟩
  simpa [Configuration.shown] using hshown

/-- **Names and values cannot forge a description.** Builders whose texts agree in either layout
hold the same properties, and configurations whose texts agree read the same in all that they show
and hold the same unrecognized properties. -/
theorem told_from_description :
    (∀ b d : Builder, (∀ e ∈ b.properties.entries, e.2.IsShown) →
      (∀ e ∈ d.properties.entries, e.2.IsShown) →
        b.describe = d.describe ∨ b.describeStacked = d.describeStacked →
          b.properties = d.properties) ∧
    ∀ c d : Configuration, (∀ e ∈ c.unrecognized, e.2.IsShown) →
      (∀ e ∈ d.unrecognized, e.2.IsShown) →
        c.describe = d.describe ∨ c.describeStacked = d.describeStacked →
          (c.protocol = d.protocol ∧ c.host = d.host ∧ c.port = d.port ∧
            c.rootPath = d.rootPath ∧
              c.sslClientAuthentication = d.sslClientAuthentication) ∧
            c.unrecognized = d.unrecognized := by
  constructor
  · intro b d hb hd h
    exact NameMap.eq_of_entries_eq (eq_of_described hb hd h)
  · intro c d hc hd h
    have hall : ∀ {c : Configuration}, (∀ e ∈ c.unrecognized, e.2.IsShown) →
        ∀ e ∈ c.shown ++ c.unrecognized, e.2.IsShown := by
      intro c hc e he
      obtain he | he := List.mem_append.1 he
      · exact isShown_of_mem_shown he
      · exact hc e he
    exact shown_inj (eq_of_described (hall hc) (hall hd) h)

end ServiceBootstrap
