import Mathlib.Data.List.Basic
import Mathlib.Tactic.Lemma
import ServiceBootstrap.Settings

/-!
The misfits of a document.

Each entry is decoded on its own: whether it is a misfit does not depend on the settings made so
far. So decoding comes to the misfits of a document in its order and stops at the first one, and it
succeeds exactly if every setting has the form it should have.
-/

namespace ServiceBootstrap.Settings

open Toml (Tree Entries)

variable {α β σ : Type}

def misfit? : Decoded α → Option Misfit
  | .error m => some m
  | .ok _ => none

@[simp] lemma misfit?_map (f : α → β) (d : Decoded α) : misfit? (d.map f) = misfit? d := by
  cases d <;> rfl

lemma eq_error_iff {d : Decoded α} {m : Misfit} : d = .error m ↔ misfit? d = some m := by
  cases d <;> simp [misfit?]

lemma exists_ok_iff {d : Decoded α} : (∃ a, d = .ok a) ↔ misfit? d = none := by
  cases d <;> simp [misfit?]

/-- A pass over a list fails with the first misfit, if what is a misfit does not depend on what was
met before. -/
lemma misfit?_foldlM {step : σ → α → Decoded σ} {misfits : α → List Misfit}
    (hstep : ∀ s a, misfit? (step s a) = (misfits a).head?) (l : List α) (s : σ) :
    misfit? (l.foldlM step s) = (l.flatMap misfits).head? := by
  induction l generalizing s with
  | nil => rfl
  | cons a l ih =>
    have hfirst := hstep s a
    rw [List.foldlM_cons, List.flatMap_cons, List.head?_append]
    cases hresult : step s a with
    | error m =>
      rw [hresult] at hfirst
      rw [← hfirst]
      rfl
    | ok s' =>
      rw [hresult] at hfirst
      rw [← hfirst]
      exact ih s'

/-! ### Forms -/

def Field.form : Field → Form
  | port => .int32
  | _ => .string

/-- A value has a form: a table, or what counts as one, has it if each of its settings does, and an
array if each item does that stands for a field. -/
inductive Fits : Form → Tree → Prop where
  | string (s : String) : Fits .string (.string s)
  | int32 {n : Int64} (low : -2147483648 ≤ n.toInt) (high : n.toInt ≤ 2147483647) :
    Fits .int32 (.integer n)
  | table {t : Tree} {es : Entries} (counts : entries? t = some es)
    (fields : ∀ (f : Field) (v : Tree), (f.name, v) ∈ es → Fits f.form v) : Fits .server t
  | array {ts : List Tree} (items : ∀ (f : Field) (v : Tree), (f, v) ∈ Field.all.zip ts →
    Fits f.form v) : Fits .server (.array ts)
  | map {t : Tree} {es : Entries} (counts : entries? t = some es)
    (texts : ∀ e ∈ es, Fits .string e.2) : Fits .map t

/-- The misfits of a single value. -/
def Form.misfit : Form → Tree → List Misfit
  | string, .string _ => []
  | int32, .integer n =>
    if -2147483648 ≤ n.toInt ∧ n.toInt ≤ 2147483647 then [] else [.range n .int32]
  | form, t => [.type t form]

def entryMisfits (e : String × Tree) : List Misfit :=
  match Field.ofName? e.1 with
  | some f => f.form.misfit e.2
  | none => []

/-- All misfits of a value that should have a form, in the order of the document. -/
def Form.misfits : Form → Tree → List Misfit
  | server, t =>
    match entries? t, t with
    | some es, _ => es.flatMap entryMisfits
    | none, .array ts => (Field.all.zip ts).flatMap fun p => p.1.form.misfit p.2
    | none, t => [.type t .server]
  | map, t =>
    match entries? t with
    | some es => es.flatMap fun e => Form.string.misfit e.2
    | none => [.type t .map]
  | form, t => form.misfit t

/-- The form that the value under a name should have, if the name is that of a setting. -/
def formOf? (name : String) : Option Form :=
  if name = serverName then some .server
  else if name = propertiesName then some .map
  else none

/-- All misfits of a document, in its order. -/
def misfits (es : Entries) : List Misfit :=
  es.flatMap fun e => ((formOf? e.1).map (·.misfits e.2)).getD []

/-! ### The first misfit is the failure -/

lemma misfit?_decodeString (t : Tree) :
    misfit? (decodeString t) = (Form.string.misfit t).head? := by
  cases t <;> rfl

lemma misfit?_decodeInt32 (t : Tree) : misfit? (decodeInt32 t) = (Form.int32.misfit t).head? := by
  cases t with
  | integer n =>
    have hlow : Int32.minValue.toInt = -2147483648 := by decide
    have hhigh : Int32.maxValue.toInt = 2147483647 := by decide
    by_cases h : -2147483648 ≤ n.toInt ∧ n.toInt ≤ 2147483647
    · simp only [decodeInt32, Form.misfit, hlow, hhigh, if_pos h]
      rfl
    · simp only [decodeInt32, Form.misfit, hlow, hhigh, if_neg h]
      rfl
  | _ => rfl

lemma misfit?_decodeField (s : ServerSettings) (t : Tree) (f : Field) :
    misfit? (f.decode s t) = (f.form.misfit t).head? := by
  cases f <;> simp only [Field.decode, misfit?_map, misfit?_decodeString, misfit?_decodeInt32,
    Field.form]

lemma misfit?_decodeServerEntry (s : ServerSettings) (e : String × Tree) :
    misfit? (decodeServerEntry s e) = (entryMisfits e).head? := by
  unfold decodeServerEntry entryMisfits
  cases Field.ofName? e.1 with
  | none => rfl
  | some f => exact misfit?_decodeField s e.2 f

lemma misfit?_decodeServer (t : Tree) :
    misfit? (decodeServer t) = (Form.server.misfits t).head? := by
  cases t with
  | datetime | table => exact misfit?_foldlM misfit?_decodeServerEntry _ _
  | array ts => exact misfit?_foldlM (fun s p => misfit?_decodeField s p.2 p.1) _ _
  | _ => rfl

lemma misfit?_decodeProperties (t : Tree) :
    misfit? (decodeProperties t) = (Form.map.misfits t).head? := by
  cases t with
  | datetime | table =>
    exact misfit?_foldlM (fun (m : NameMap String) (e : String × Tree) =>
      (misfit?_map (m.insert e.1) _).trans (misfit?_decodeString e.2)) _ _
  | _ => rfl

lemma misfit?_decodeEntry (s : Settings) (e : String × Tree) :
    misfit? (decodeEntry s e) = (((formOf? e.1).map (·.misfits e.2)).getD []).head? := by
  unfold decodeEntry formOf?
  split_ifs
  · exact (misfit?_map _ _).trans (misfit?_decodeServer e.2)
  · exact (misfit?_map _ _).trans (misfit?_decodeProperties e.2)
  · rfl

/-- Decoding fails with the first misfit. -/
theorem misfit?_decode (es : Entries) : misfit? (decode es) = (misfits es).head? :=
  misfit?_foldlM misfit?_decodeEntry es {}

/-! ### What has no misfit -/

lemma ofName?_eq_some_iff {name : String} {f : Field} :
    Field.ofName? name = some f ↔ f.name = name := by
  constructor
  · intro h
    simpa using List.find?_some h
  · rintro rfl
    cases f <;> rfl

lemma fits_string_iff {t : Tree} : Fits .string t ↔ Form.string.misfit t = [] := by
  constructor
  · rintro ⟨s⟩
    rfl
  · intro h
    cases t with
    | string s => exact .string s
    | _ => exact absurd h (List.cons_ne_nil _ _)

lemma fits_int32_iff {t : Tree} : Fits .int32 t ↔ Form.int32.misfit t = [] := by
  constructor
  · rintro (_ | ⟨low, high⟩)
    exact if_pos ⟨low, high⟩
  · intro h
    cases t with
    | integer n =>
      by_cases hbounds : -2147483648 ≤ n.toInt ∧ n.toInt ≤ 2147483647
      · exact .int32 hbounds.1 hbounds.2
      · exact absurd ((if_neg hbounds).symm.trans h) (List.cons_ne_nil _ _)
    | _ => exact absurd h (List.cons_ne_nil _ _)

lemma fits_field_iff {f : Field} {t : Tree} : Fits f.form t ↔ f.form.misfit t = [] := by
  cases f with
  | port => exact fits_int32_iff
  | _ => exact fits_string_iff

lemma entryMisfits_eq_nil_iff {e : String × Tree} :
    entryMisfits e = [] ↔ ∀ f : Field, f.name = e.1 → Fits f.form e.2 := by
  unfold entryMisfits
  cases hname : Field.ofName? e.1 with
  | none =>
    refine iff_of_true rfl fun f hf => ?_
    rw [ofName?_eq_some_iff.2 hf] at hname
    cases hname
  | some g =>
    constructor
    · intro h f hf
      rw [ofName?_eq_some_iff.2 hf] at hname
      cases hname
      exact fits_field_iff.2 h
    · intro h
      exact fits_field_iff.1 (h g (ofName?_eq_some_iff.1 hname))

lemma fits_server_iff_of_entries {t : Tree} {es : Entries} (h : entries? t = some es) :
    Fits .server t ↔ es.flatMap entryMisfits = [] := by
  rw [List.flatMap_eq_nil_iff]
  constructor
  · rintro (_ | _ | ⟨counts, fields⟩ | _) e he
    · rw [h] at counts
      cases counts
      refine entryMisfits_eq_nil_iff.2 fun f hf => fields f e.2 ?_
      rw [hf]
      exact he
    · cases h
  · intro hnone
    exact .table h fun f v hv => entryMisfits_eq_nil_iff.1 (hnone _ hv) f rfl

lemma fits_server_array_iff {ts : List Tree} :
    Fits .server (.array ts) ↔
      (Field.all.zip ts).flatMap (fun p => p.1.form.misfit p.2) = [] := by
  rw [List.flatMap_eq_nil_iff]
  constructor
  · rintro (_ | _ | ⟨counts, _⟩ | ⟨items⟩) p hp
    · cases counts
    · exact fits_field_iff.1 (items p.1 p.2 hp)
  · intro hnone
    exact .array fun f v hv => fits_field_iff.2 (hnone _ hv)

lemma fits_map_iff_of_entries {t : Tree} {es : Entries} (h : entries? t = some es) :
    Fits .map t ↔ es.flatMap (fun e => Form.string.misfit e.2) = [] := by
  rw [List.flatMap_eq_nil_iff]
  constructor
  · rintro (_ | _ | _ | _ | ⟨counts, texts⟩) e he
    rw [h] at counts
    cases counts
    exact fits_string_iff.1 (texts e he)
  · intro hnone
    exact .map h fun e he => fits_string_iff.2 (hnone e he)

/-- A value has a form exactly if it has no misfit. -/
lemma fits_iff {form : Form} {t : Tree} : Fits form t ↔ form.misfits t = [] := by
  cases form with
  | string => exact fits_string_iff
  | int32 => exact fits_int32_iff
  | server =>
    cases t with
    | datetime | table => exact fits_server_iff_of_entries rfl
    | array ts => exact fits_server_array_iff
    | _ =>
      refine iff_of_false (fun h => ?_) (List.cons_ne_nil _ _)
      rcases h with _ | _ | ⟨counts, -⟩
      cases counts
  | map =>
    cases t with
    | datetime | table => exact fits_map_iff_of_entries rfl
    | _ =>
      refine iff_of_false (fun h => ?_) (List.cons_ne_nil _ _)
      rcases h with _ | _ | _ | _ | ⟨counts, -⟩
      cases counts

/-- Decoding succeeds exactly if every setting has its form. -/
theorem decode_eq_ok_iff {es : Entries} :
    (∃ s, decode es = .ok s) ↔
      ∀ e ∈ es, ∀ form, formOf? e.1 = some form → Fits form e.2 := by
  rw [exists_ok_iff, misfit?_decode, List.head?_eq_none_iff, misfits, List.flatMap_eq_nil_iff]
  refine forall₂_congr fun e _ => ?_
  cases formOf? e.1 with
  | none => simp
  | some form => simp [fits_iff]

end ServiceBootstrap.Settings
