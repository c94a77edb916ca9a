import Mathlib.Data.List.Basic
import Mathlib.Data.List.Nodup
import Mathlib.Tactic.Lemma
import ServiceBootstrap.Proofs.Settings.Misfits
import ServiceBootstrap.Proofs.Toml.WellFormed

/-!
What a document decodes to, told by its settings.

Only the entries that are settings count, wherever they stand: each reads as it is given, and one
that is not given reads as its default. How the settings of the server are written, as a table or
as an array, makes no difference.
-/

namespace ServiceBootstrap.Settings

open Toml (Tree Entries)

/-! ### What is no setting -/

variable {α σ : Type}

/-- A thing that a pass leaves the state as it is at may stand anywhere. -/
lemma foldlM_skip {step : σ → α → Decoded σ} {a : α} (ha : ∀ s, step s a = .ok s)
    (before after : List α) (s : σ) :
    (before ++ a :: after).foldlM step s = (before ++ after).foldlM step s := by
  rw [List.foldlM_append, List.foldlM_append]
  congr 1
  funext s'
  rw [List.foldlM_cons, ha]
  rfl

lemma foldlM_replace {step : σ → α → Decoded σ} {a a' : α} (ha : ∀ s, step s a = step s a')
    (before after : List α) (s : σ) :
    (before ++ a :: after).foldlM step s = (before ++ a' :: after).foldlM step s := by
  rw [List.foldlM_append, List.foldlM_append]
  congr 1
  funext s'
  rw [List.foldlM_cons, List.foldlM_cons, ha]

lemma decodeEntry_of_formOf?_eq_none {name : String} (h : formOf? name = none) (t : Tree)
    (s : Settings) : decodeEntry s (name, t) = .ok s := by
  unfold formOf? at h
  unfold decodeEntry
  split_ifs at h ⊢
  rfl

lemma decodeServerEntry_of_ofName?_eq_none {name : String} (h : Field.ofName? name = none)
    (t : Tree) (s : ServerSettings) : decodeServerEntry s (name, t) = .ok s := by
  unfold decodeServerEntry
  rw [h]

lemma decode_replace_server {t t' : Tree} (h : decodeServer t = decodeServer t')
    (before after : Entries) :
    decode (before ++ (serverName, t) :: after) = decode (before ++ (serverName, t') :: after) := by
  refine foldlM_replace (fun s => ?_) before after ({} : Settings)
  unfold decodeEntry
  rw [if_pos rfl, if_pos rfl, h]

/-! ### Other ways to write it -/

/-- The names that an array gives its items. -/
def fieldNames : List String := Field.all.map Field.name

lemma decodeServerEntry_name (s : ServerSettings) (f : Field) (t : Tree) :
    decodeServerEntry s (f.name, t) = f.decode s t := by
  unfold decodeServerEntry
  rw [ofName?_eq_some_iff.2 rfl]

/-- An array is the table that names its items. -/
lemma decodeServer_array (ts : List Tree) :
    decodeServer (.array ts) = decodeServer (.table (fieldNames.zip ts)) := by
  change (Field.all.zip ts).foldlM (fun s p => p.1.decode s p.2) {} =
    (fieldNames.zip ts).foldlM decodeServerEntry {}
  rw [fieldNames, List.zip_map_left, List.foldlM_map]
  simp only [Prod.map, id, decodeServerEntry_name]

/-- A date or time is the table of its single entry. -/
lemma decodeEntry_datetime (name text : String) (s : Settings) :
    decodeEntry s (name, .datetime text) =
      decodeEntry s (name, .table [(datetimeName, .string text)]) :=
  rfl

/-! ### What is given -/

lemma lookup_of_nodup_cons {e : String × α} {es : List (String × α)}
    (h : ((e :: es).map (·.1)).Nodup) : es.lookup e.1 = none := by
  rw [List.lookup_eq_none_iff]
  intro d hd
  refine bne_iff_ne.2 fun heq => (List.nodup_cons.1 h).1 ?_
  change e.1 ∈ _
  rw [heq]
  exact List.mem_map_of_mem hd

/-- What only the entry of one name sets reads, after a pass, as that entry gives it, and as before
if there is no such entry. -/
lemma read_of_foldlM {β : Type} {step : σ → String × Tree → Decoded σ} (name : String)
    (read : σ → β) (Gives : Tree → β → Prop)
    (hstep : ∀ {s s' e}, step s e = .ok s' →
      (e.1 = name → Gives e.2 (read s')) ∧ (e.1 ≠ name → read s' = read s))
    {es : Entries} (hnames : (es.map (·.1)).Nodup) {s s' : σ} (h : es.foldlM step s = .ok s') :
    (∀ t, es.lookup name = some t → Gives t (read s')) ∧
      (es.lookup name = none → read s' = read s) := by
  induction es generalizing s with
  | nil =>
    cases h
    refine ⟨fun t ht => ?_, fun _ => rfl⟩
    cases ht
  | cons e es ih =>
    rw [List.foldlM_cons] at h
    cases hfirst : step s e with
    | error =>
      rw [hfirst] at h
      cases h
    | ok s₁ =>
      rw [hfirst] at h
      have hrest := ih (List.nodup_cons.1 hnames).2 h
      -- If this entry sets what is read, no later one does, as no name is there twice.
      by_cases hname : e.1 = name
      · have hread := hrest.2 (hname ▸ lookup_of_nodup_cons hnames)
        have hlookup : (e :: es).lookup name = some e.2 := by
          rw [List.lookup_cons, hname, beq_self_eq_true]
        rw [hlookup, hread]
        refine ⟨fun t ht => ?_, fun ht => ?_⟩
        · cases ht
          exact (hstep hfirst).1 hname
        · cases ht
      · have hlookup : (e :: es).lookup name = es.lookup name := by
          rw [List.lookup_cons, beq_false_of_ne (Ne.symm hname)]
        rw [hlookup, ← (hstep hfirst).2 hname]
        exact hrest

/-! ### The server -/

/-- What a field is set to. -/
def Field.value (s : ServerSettings) : Field → Tree
  | protocol => .string s.protocol
  | host => .string s.host
  | port => .integer s.port.toInt64
  | rootPath => .string s.rootPath
  | clientAuth => .string s.clientAuth

/-- The entries with the settings of a server. -/
def fieldsOf : Tree → Entries
  | .array ts => fieldNames.zip ts
  | t => (entries? t).getD []

lemma decodeServer_eq_ok {t : Tree} {s : ServerSettings} (h : decodeServer t = .ok s) :
    (fieldsOf t).foldlM decodeServerEntry {} = .ok s := by
  cases t with
  | array ts => exact (decodeServer_array ts).symm.trans h
  | datetime | table => exact h
  | _ => cases h

lemma decodeString_eq_ok {t : Tree} {s : String} (h : decodeString t = .ok s) : t = .string s := by
  cases t with
  | string s' =>
    cases h
    rfl
  | _ => cases h

lemma decodeInt32_eq_ok {t : Tree} {n : Int32} (h : decodeInt32 t = .ok n) :
    t = .integer n.toInt64 := by
  cases t with
  | integer n' =>
    unfold decodeInt32 at h
    dsimp only at h
    split_ifs at h with hbounds
    cases h
    refine congrArg _ (Int64.toInt_inj.1 ?_)
    rw [Int32.toInt_toInt64,
      Int32.toInt_ofInt_of_le hbounds.1 (Int.lt_add_one_iff.2 hbounds.2)]
  | _ => cases h

lemma map_eq_ok {β : Type} {f : α → β} {d : Decoded α} {b : β} (h : d.map f = .ok b) :
    ∃ a, d = .ok a ∧ f a = b := by
  cases d with
  | error => cases h
  | ok a => exact ⟨a, rfl, Except.ok.inj h⟩

lemma Field.value_of_decode {f : Field} {s s' : ServerSettings} {t : Tree}
    (h : f.decode s t = .ok s') (g : Field) :
    g.value s' = if g = f then t else g.value s := by
  cases f <;> obtain ⟨v, hv, rfl⟩ := map_eq_ok h
  case port =>
    rw [decodeInt32_eq_ok hv]
    cases g <;> rfl
  all_goals
    rw [decodeString_eq_ok hv]
    cases g <;> rfl

lemma value_of_decodeServerEntry {s s' : ServerSettings} {e : String × Tree}
    (h : decodeServerEntry s e = .ok s') (f : Field) :
    (e.1 = f.name → f.value s' = e.2) ∧ (e.1 ≠ f.name → f.value s' = f.value s) := by
  unfold decodeServerEntry at h
  cases hname : Field.ofName? e.1 with
  | none =>
    rw [hname] at h
    cases h
    refine ⟨fun heq => ?_, fun _ => rfl⟩
    rw [ofName?_eq_some_iff.2 heq.symm] at hname
    cases hname
  | some g =>
    rw [hname] at h
    have hvalue := Field.value_of_decode h f
    constructor
    · intro heq
      rw [ofName?_eq_some_iff.2 heq.symm] at hname
      rw [hvalue, if_pos (Option.some.inj hname)]
    · intro hne
      rw [hvalue, if_neg]
      rintro rfl
      exact hne (ofName?_eq_some_iff.1 hname).symm

/-- A field of a server reads as it is given, or else as before. -/
lemma value_of_foldlM {es : Entries} (hnames : (es.map (·.1)).Nodup) {s s' : ServerSettings}
    (h : es.foldlM decodeServerEntry s = .ok s') (f : Field) :
    f.value s' = (es.lookup f.name).getD (f.value s) := by
  have hread := read_of_foldlM f.name f.value (fun t v => v = t)
    (fun hstep => value_of_decodeServerEntry hstep f) hnames h
  cases hlookup : es.lookup f.name with
  | none => exact hread.2 hlookup
  | some t => exact hread.1 t hlookup

/-! ### The properties -/

lemma decodeProperties_eq_ok {t : Tree} {m : NameMap String} (h : decodeProperties t = .ok m) :
    ∃ es, entries? t = some es ∧
      es.foldlM (fun m e => (decodeString e.2).map (m.insert e.1)) .empty = .ok m := by
  cases t with
  | datetime | table => exact ⟨_, rfl, h⟩
  | _ => cases h

lemma find?_of_insert {m m' : NameMap String} {e : String × Tree}
    (h : (decodeString e.2).map (m.insert e.1) = .ok m') (name : String) :
    (e.1 = name → (m'.find? name).map Tree.string = some e.2) ∧
      (e.1 ≠ name → (m'.find? name).map Tree.string = (m.find? name).map Tree.string) := by
  obtain ⟨text, htext, rfl⟩ := map_eq_ok h
  constructor
  · rintro rfl
    rw [NameMap.find?_insert_self, decodeString_eq_ok htext]
    rfl
  · intro hne
    rw [NameMap.find?_insert_of_ne _ _ (Ne.symm hne)]

/-- A property is found exactly if it is given. -/
lemma find?_of_foldlM {es : Entries} (hnames : (es.map (·.1)).Nodup) {m : NameMap String}
    (h : es.foldlM (fun m e => (decodeString e.2).map (m.insert e.1)) .empty = .ok m)
    (name : String) : (m.find? name).map Tree.string = es.lookup name := by
  have hread := read_of_foldlM name (fun m => (m.find? name).map Tree.string)
    (fun t v => v = some t) (fun hstep => find?_of_insert hstep name) hnames h
  cases hlookup : es.lookup name with
  | none => exact hread.2 hlookup
  | some t => exact hread.1 t hlookup

/-! ### The document -/

lemma nodup_entries {t : Tree} (h : t.WellFormed) {es : Entries}
    (hes : entries? t = some es) : (es.map (·.1)).Nodup := by
  cases h with
  | datetime =>
    cases hes
    exact List.nodup_singleton _
  | table hnames =>
    cases hes
    exact hnames
  | _ => cases hes

lemma map_fst_zip_sublist (ns : List String) (ts : List Tree) :
    ((ns.zip ts).map (·.1)).Sublist ns := by
  induction ns generalizing ts with
  | nil => exact .slnil
  | cons n ns ih =>
    cases ts with
    | nil => exact List.nil_sublist _
    | cons t ts => exact (ih ts).cons_cons n

lemma nodup_fieldsOf {t : Tree} (h : t.WellFormed) : ((fieldsOf t).map (·.1)).Nodup := by
  cases t with
  | array ts =>
    have hnames : fieldNames.Nodup := by decide
    exact hnames.sublist (map_fst_zip_sublist _ ts)
  | datetime | table => exact nodup_entries h rfl
  | _ => exact List.nodup_nil

lemma wellFormed_of_lookup {es : Entries} (h : (Tree.table es).WellFormed) {name : String}
    {t : Tree} (ht : es.lookup name = some t) : t.WellFormed := by
  cases h with
  | table _ hvalues =>
    obtain ⟨before, after, rfl, -⟩ := List.lookup_eq_some_iff.1 ht
    exact hvalues (name, t) (by simp)

/-- The settings of the server that a document gives. -/
def serverFields (es : Entries) : Entries := ((es.lookup serverName).map fieldsOf).getD []

/-- The properties that a document gives. -/
def propertyEntries (es : Entries) : Entries := ((es.lookup propertiesName).bind entries?).getD []

lemma server_of_decodeEntry {s s' : Settings} {e : String × Tree}
    (h : decodeEntry s e = .ok s') :
    (e.1 = serverName → decodeServer e.2 = .ok s'.server) ∧
      (e.1 ≠ serverName → s'.server = s.server) := by
  unfold decodeEntry at h
  split_ifs at h with hserver hproperties
  · obtain ⟨v, hv, rfl⟩ := map_eq_ok h
    exact ⟨fun _ => hv, fun hne => absurd hserver hne⟩
  · obtain ⟨v, -, rfl⟩ := map_eq_ok h
    exact ⟨fun heq => absurd heq hserver, fun _ => rfl⟩
  · cases h
    exact ⟨fun heq => absurd heq hserver, fun _ => rfl⟩

lemma properties_of_decodeEntry {s s' : Settings} {e : String × Tree}
    (h : decodeEntry s e = .ok s') :
    (e.1 = propertiesName → decodeProperties e.2 = .ok s'.properties) ∧
      (e.1 ≠ propertiesName → s'.properties = s.properties) := by
  have hdistinct : serverName ≠ propertiesName := by decide
  unfold decodeEntry at h
  split_ifs at h with hserver hproperties
  · obtain ⟨v, -, rfl⟩ := map_eq_ok h
    exact ⟨fun heq => absurd (hserver.symm.trans heq) hdistinct, fun _ => rfl⟩
  · obtain ⟨v, hv, rfl⟩ := map_eq_ok h
    exact ⟨fun _ => hv, fun hne => absurd hproperties hne⟩
  · cases h
    exact ⟨fun heq => absurd heq hproperties, fun _ => rfl⟩

lemma value_of_decode {es : Entries} (h : (Tree.table es).WellFormed) {s : Settings}
    (hs : decode es = .ok s) (f : Field) :
    f.value s.server = ((serverFields es).lookup f.name).getD (f.value {}) := by
  have hread := read_of_foldlM serverName Settings.server (fun t v => decodeServer t = .ok v)
    server_of_decodeEntry (nodup_entries h rfl) hs
  unfold serverFields
  cases hlookup : es.lookup serverName with
  | none =>
    rw [hread.2 hlookup]
    rfl
  | some t =>
    have hserver := decodeServer_eq_ok (hread.1 t hlookup)
    exact value_of_foldlM (nodup_fieldsOf (wellFormed_of_lookup h hlookup)) hserver f

lemma find?_of_decode {es : Entries} (h : (Tree.table es).WellFormed) {s : Settings}
    (hs : decode es = .ok s) (name : String) :
    (s.properties.find? name).map Tree.string = (propertyEntries es).lookup name := by
  have hread := read_of_foldlM propertiesName Settings.properties
    (fun t v => decodeProperties t = .ok v) properties_of_decodeEntry (nodup_entries h rfl) hs
  unfold propertyEntries
  cases hlookup : es.lookup propertiesName with
  | none =>
    rw [hread.2 hlookup]
    rfl
  | some t =>
    obtain ⟨inner, hinner, hfold⟩ := decodeProperties_eq_ok (hread.1 t hlookup)
    rw [Option.bind_some, hinner]
    exact find?_of_foldlM (nodup_entries (wellFormed_of_lookup h hlookup) hinner) hfold name

/-- **A document decodes to what its settings give.** What is no setting may stand in it anywhere
and be anything, a setting reads as it is given and else as its default, an array for the server is
the table of its items under the names of the fields, those beyond the last field left out, and a
date or time is the table of its single entry. It decodes exactly if every setting has its form, and
else fails with the first misfit in its order. -/
theorem decoded_by_settings {es : Entries} (h : (Tree.table es).WellFormed) :
    (∀ before after name t, es = before ++ after → formOf? name = none →
      decode (before ++ (name, t) :: after) = decode es) ∧
    (∀ before after inner inner' name t,
      es = before ++ (serverName, .table (inner ++ inner')) :: after →
        Field.ofName? name = none →
          decode (before ++ (serverName, .table (inner ++ (name, t) :: inner')) :: after) =
            decode es) ∧
    (∀ s, decode es = .ok s →
      (∀ f : Field, f.value s.server = ((serverFields es).lookup f.name).getD (f.value {})) ∧
        ∀ name, (s.properties.find? name).map Tree.string = (propertyEntries es).lookup name) ∧
    (∀ before after ts, es = before ++ (serverName, .array ts) :: after →
      decode es = decode (before ++ (serverName, .table (fieldNames.zip ts)) :: after)) ∧
    (∀ before after name text, es = before ++ (name, .datetime text) :: after →
      decode es =
        decode (before ++ (name, .table [(datetimeName, .string text)]) :: after)) ∧
    ((∃ s, decode es = .ok s) ↔
      ∀ e ∈ es, ∀ form, formOf? e.1 = some form → Fits form e.2) ∧
    ∀ m, decode es = .error m ↔ (misfits es).head? = some m := by
  refine ⟨?_, ?_, fun s hs => ⟨value_of_decode h hs, find?_of_decode h hs⟩, ?_, ?_,
    decode_eq_ok_iff, fun m => ?_⟩
  · rintro before after name t rfl hname
    exact foldlM_skip (decodeEntry_of_formOf?_eq_none hname t) before after _
  · rintro before after inner inner' name t rfl hname
    have hserver : decodeServer (.table (inner ++ (name, t) :: inner')) =
        decodeServer (.table (inner ++ inner')) :=
      foldlM_skip (decodeServerEntry_of_ofName?_eq_none hname t) inner inner' _
    exact decode_replace_server hserver before after
  · rintro before after ts rfl
    exact decode_replace_server (decodeServer_array ts) before after
  · rintro before after name text rfl
    exact foldlM_replace (decodeEntry_datetime name text) before after _
  · rw [eq_error_iff, misfit?_decode]

/-- A port beside something that is no setting: the port is read, and the host by default. -/
theorem decoded_by_settings_port :
    ∃ s, decode [("extra", .boolean true), ("server", .table [("port", .integer 9000)])] = .ok s ∧
      Field.value s.server .port = .integer 9000 ∧
      Field.value s.server .host = .string "localhost" := by
  have hwell : (Tree.table
      [("extra", .boolean true), ("server", .table [("port", .integer 9000)])]).WellFormed := by
    refine .table (by decide) fun e he => ?_
    simp only [List.mem_cons, List.not_mem_nil, or_false] at he
    obtain rfl | rfl := he
    · exact .boolean true
    · refine .table (by decide) fun e he => ?_
      obtain rfl := List.mem_singleton.1 he
      exact .integer 9000
  obtain ⟨-, -, hvalues, -⟩ := decoded_by_settings hwell
  refine ⟨_, rfl, ?_, ?_⟩
  · exact (hvalues _ rfl).1 .port
  · exact (hvalues _ rfl).1 .host

/-- An array for the server with more than five items is not refused. -/
theorem longer_array_decodes :
    ¬ ∀ (es : Entries) (ts : List Tree), (Tree.table es).WellFormed → (serverName, .array ts) ∈ es →
      5 < ts.length → ∃ m, decode es = .error m := by
  intro h
  obtain ⟨m, hm⟩ := h
    [("server", .array [.string "P", .string "H", .integer 9, .string "r", .string "none",
      .string "extra"])]
    [.string "P", .string "H", .integer 9, .string "r", .string "none", .string "extra"]
    (.table (by decide) fun e he => by
      obtain rfl := List.mem_singleton.1 he
      refine .array fun t ht => ?_
      simp only [List.mem_cons, List.not_mem_nil, or_false] at ht
      obtain rfl | rfl | rfl | rfl | rfl | rfl := ht
      all_goals constructor)
    (List.mem_singleton.2 rfl) (by decide)
  cases hm

end ServiceBootstrap.Settings
