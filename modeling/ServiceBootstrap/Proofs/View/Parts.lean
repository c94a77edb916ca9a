import Mathlib.Data.List.TakeDrop
import Mathlib.Tactic.Lemma
import Mathlib.Tactic.SplitIfs
import ServiceBootstrap.View.Toml

/-!
What both formats are made of: parts with a separator between them, and the decimal text of a
number, which is an optional minus sign and digits that do not start with a zero unless it is the
only one.
-/

namespace ServiceBootstrap

lemma separated_cons (separator part : List Char) (parts : List (List Char)) :
    ∃ tail, separated separator (part :: parts) = part ++ tail := by
  match parts with
  | [] => exact ⟨[], (List.append_nil part).symm⟩
  | next :: parts => exact ⟨_, List.append_assoc ..⟩

/-- No two parts without a separator between them, so a text bounds the number of its parts. -/
lemma length_le_separated (c : Char) (separator : List Char) (parts : List (List Char)) :
    parts.length ≤ (separated (c :: separator) parts).length + 1 := by
  induction parts with
  | nil => exact Nat.zero_le _
  | cons part parts ih =>
    match parts with
    | [] => simp
    | next :: parts =>
      have hlength : (separated (c :: separator) (part :: next :: parts)).length =
          part.length + (separator.length + 1) +
            (separated (c :: separator) (next :: parts)).length := by
        simp only [separated, List.length_append, List.length_cons]
      simp only [List.length_cons] at ih ⊢
      omega

/-- A part that is told by its characters ends in front of the first that is none of them. -/
lemma span_append {p : Char → Bool} {part rest : List Char} (hpart : ∀ c ∈ part, p c = true)
    (hrest : ∀ c tail, rest = c :: tail → p c = false) :
    (part ++ rest).span p = (part, rest) := by
  rw [List.span_eq_takeWhile_dropWhile, List.takeWhile_append_of_pos hpart,
    List.dropWhile_append_of_pos hpart]
  match rest with
  | [] => simp
  | c :: tail => simp [hrest c tail rfl]

/-- Digits that no reader of numbers refuses. -/
structure IsDecimal (ds : List Char) : Prop where
  digit : ∀ c ∈ ds, c.isDigit = true
  ne_nil : ds ≠ []
  noLeadingZero : ∀ c cs, ds ≠ '0' :: c :: cs

/-- No digit is a sign. -/
lemma IsDecimal.eq_cons {ds : List Char} (h : IsDecimal ds) :
    ∃ d tail, ds = d :: tail ∧ d ≠ '-' ∧ d ≠ '+' := by
  match ds, h.ne_nil with
  | d :: tail, _ =>
    have hd := h.digit d (List.mem_cons_self ..)
    refine ⟨d, tail, rfl, ?_, ?_⟩
    · rintro rfl
      exact absurd hd (by decide)
    · rintro rfl
      exact absurd hd (by decide)

lemma eq_zero_of_toDigits {m : Nat} {cs : List Char} (h : Nat.toDigits 10 m = '0' :: cs) :
    m = 0 := by
  induction m using Nat.strongRecOn generalizing cs with
  | ind m ih =>
    rw [Nat.toDigits_eq_if (by decide)] at h
    split_ifs at h with hlt
    · exact Nat.digitChar_eq_zero.1 (List.cons.inj h).1
    · -- The first digit is that of the tenth part, which is not zero.
      match hfront : Nat.toDigits 10 (m / 10) with
      | [] => exact absurd hfront Nat.toDigits_ne_nil
      | d :: ds =>
        rw [hfront] at h
        have hd : d = '0' := (List.cons.inj h).1
        have htenth := ih (m / 10) (by omega) (hd ▸ hfront)
        omega

lemma isDecimal_toDigits (m : Nat) : IsDecimal (Nat.toDigits 10 m) where
  digit _ hc := Nat.isDigit_of_mem_toDigits (by decide) (by decide) hc
  ne_nil := Nat.toDigits_ne_nil
  noLeadingZero c cs h := by
    rw [eq_zero_of_toDigits h, Nat.toDigits_zero] at h
    cases h

def minus (negative : Bool) : List Char := if negative then ['-'] else []

/-- The number whose digits stand behind a sign. -/
def signedValue (negative : Bool) (ds : List Char) : Int :=
  if negative then -(Nat.ofDigitChars 10 ds 0 : Int) else Nat.ofDigitChars 10 ds 0

theorem decimal_eq (n : Int32) : ∃ negative ds, IsDecimal ds ∧ decimal n = minus negative ++ ds ∧
    signedValue negative ds = n.toInt := by
  refine ⟨decide (n.toInt < 0), Nat.toDigits 10 n.toInt.natAbs, isDecimal_toDigits _, ?_, ?_⟩
  · unfold decimal minus
    rw [Int.toString_eq_repr, Int.repr_eq_if]
    by_cases hneg : n.toInt < 0
    · have habs : (-n.toInt).toNat = n.toInt.natAbs := by omega
      rw [if_neg (by omega), if_pos (by simpa using hneg), String.toList_append, Nat.toList_repr,
        habs]
      rfl
    · have habs : n.toInt.toNat = n.toInt.natAbs := by omega
      rw [if_pos (by omega), if_neg (by simpa using hneg), Nat.toList_repr, habs, List.nil_append]
  · rw [signedValue, Nat.ofDigitChars_ten_toDigits]
    simp only [decide_eq_true_eq]
    split_ifs <;> omega

lemma mem_decimal {n : Int32} {c : Char} (h : c ∈ decimal n) : c = '-' ∨ c.isDigit = true := by
  obtain ⟨negative, ds, hds, hdecimal, -⟩ := decimal_eq n
  rw [hdecimal] at h
  rcases List.mem_append.1 h with hc | hc
  · cases negative <;> simp_all [minus]
  · exact .inr (hds.digit c hc)

/-- A minus sign stands nowhere but in front. -/
lemma isDigit_of_mem_tail_decimal {n : Int32} {c : Char} (h : c ∈ (decimal n).tail) :
    c.isDigit = true := by
  obtain ⟨negative, ds, hds, hdecimal, -⟩ := decimal_eq n
  rw [hdecimal] at h
  cases negative
  · exact hds.digit c (List.mem_of_mem_tail h)
  · exact hds.digit c h

/-- What no number starts with: blanks, and what other values start with. -/
def foreign : List Char :=
  [' ', '\t', '\n', '\r', '\x22', '\'', '[', '\x7b', 't', 'f', 'n']

lemma decimal_eq_cons (n : Int32) : ∃ c cs, decimal n = c :: cs ∧ c ∉ foreign := by
  have hforeign : foreign.all (fun c => !(c = '-' ∨ c.isDigit = true)) = true := by decide
  match hdecimal : decimal n with
  | [] =>
    obtain ⟨negative, ds, hds, happend, -⟩ := decimal_eq n
    exact absurd (List.append_eq_nil_iff.1 (happend.symm.trans hdecimal)).2 hds.ne_nil
  | c :: cs =>
    have hc : c = '-' ∨ c.isDigit = true := mem_decimal (hdecimal ▸ List.mem_cons_self ..)
    exact ⟨c, cs, rfl, fun h => by simpa [hc] using List.all_eq_true.1 hforeign c h⟩

end ServiceBootstrap
