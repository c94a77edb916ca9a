import Mathlib.Data.List.Nodup
import Mathlib.Tactic.Lemma
import ServiceBootstrap.Toml.Document

/-!
No table that is read has two entries of one name.

Entries are put into the tables of a draft in three ways: by the key of a value, by a header, and by
the header of an item. Each of them follows a path to a table, changes that table alone, and puts
nothing there under a name that the table has already.
-/

namespace ServiceBootstrap.Toml

/-- No table of a tree has two entries of one name. -/
inductive Tree.WellFormed : Tree → Prop where
  | string (s : String) : WellFormed (.string s)
  | integer (n : Int64) : WellFormed (.integer n)
  | float (x : Binary64) : WellFormed (.float x)
  | boolean (b : Bool) : WellFormed (.boolean b)
  | datetime (text : String) : WellFormed (.datetime text)
  | array {ts : List Tree} (items : ∀ t ∈ ts, WellFormed t) : WellFormed (.array ts)
  | table {es : Entries} (names : (es.map (·.1)).Nodup) (values : ∀ e ∈ es, WellFormed e.2) :
    WellFormed (.table es)

/-! ### Tables of a draft -/

lemma treeEntries_eq_map (es : DraftEntries) :
    treeEntries es = es.map fun e => (e.1, e.2.tree) := by
  induction es with
  | nil => rfl
  | cons e es ih => rw [treeEntries, ih, List.map_cons]

lemma treeItems_eq_map (items : List DraftEntries) :
    treeItems items = items.map fun es => .table (treeEntries es) := by
  induction items with
  | nil => rfl
  | cons es items ih => rw [treeItems, ih, List.map_cons]

/-- The table of a draft comes out well formed. -/
structure DraftEntries.Sound (es : DraftEntries) : Prop where
  names : (es.map (·.1)).Nodup
  values : ∀ e ∈ es, e.2.tree.WellFormed

namespace DraftEntries

lemma sound_iff {es : DraftEntries} : Sound es ↔ (Tree.table (treeEntries es)).WellFormed := by
  rw [treeEntries_eq_map]
  constructor
  · intro h
    refine .table (by simpa [Function.comp_def] using h.names) fun e he => ?_
    obtain ⟨d, hd, rfl⟩ := List.mem_map.1 he
    exact h.values d hd
  · rintro (_ | _ | _ | _ | _ | _ | ⟨hnames, hvalues⟩)
    exact ⟨by simpa [Function.comp_def] using hnames, fun e he =>
      hvalues (e.1, e.2.tree) (List.mem_map_of_mem (f := fun e => (e.1, e.2.tree)) he)⟩

lemma sound_tables {items : List DraftEntries} :
    (Draft.tables items).tree.WellFormed ↔ ∀ es ∈ items, Sound es := by
  rw [Draft.tree, treeItems_eq_map]
  constructor
  · rintro (_ | _ | _ | _ | _ | ⟨hitems⟩) es hes
    exact sound_iff.2 (hitems _ (List.mem_map_of_mem hes))
  · intro h
    refine .array fun t ht => ?_
    obtain ⟨es, hes, rfl⟩ := List.mem_map.1 ht
    exact sound_iff.1 (h es hes)

lemma sound_nil : Sound [] := ⟨List.nodup_nil, fun _ he => absurd he List.not_mem_nil⟩

variable {es es' : DraftEntries} {name : String} {d : Draft}

lemma not_mem_names (h : es.lookup name = none) : name ∉ es.map (·.1) := by
  intro hmem
  obtain ⟨e, he, rfl⟩ := List.mem_map.1 hmem
  exact bne_iff_ne.1 (List.lookup_eq_none_iff.1 h e he) rfl

lemma Sound.concat (h : Sound es) (hname : name ∉ es.map (·.1)) (hd : d.tree.WellFormed) :
    Sound (es ++ [(name, d)]) where
  names := by
    rw [List.map_append]
    exact h.names.append (List.nodup_singleton _) (List.disjoint_singleton.2 hname)
  values e he := by
    obtain he | he := List.mem_append.1 he
    · exact h.values e he
    · rw [List.mem_singleton.1 he]
      exact hd

lemma mem_put {e : String × Draft} (h : e ∈ put name d es) : e = (name, d) ∨ e ∈ es := by
  induction es with
  | nil => exact .inl (List.mem_singleton.1 h)
  | cons e' es ih =>
    unfold put at h
    split_ifs at h
    · obtain rfl | h := List.mem_cons.1 h
      · exact .inl rfl
      · exact .inr (List.mem_cons_of_mem _ h)
    · obtain rfl | h := List.mem_cons.1 h
      · exact .inr List.mem_cons_self
      · exact (ih h).imp_right (List.mem_cons_of_mem _)

lemma Sound.put (h : Sound es) (hd : d.tree.WellFormed) : Sound (put name d es) where
  names := by
    have hnames := h.names
    clear h
    induction es with
    | nil => exact List.nodup_singleton _
    | cons e es ih =>
      obtain ⟨hfirst, hrest⟩ := List.nodup_cons.1 hnames
      unfold DraftEntries.put
      split_ifs with hname
      · subst hname
        exact hnames
      · refine List.nodup_cons.2 ⟨fun hmem => ?_, ih hrest⟩
        obtain ⟨e', he', heq⟩ := List.mem_map.1 hmem
        obtain rfl | he' := mem_put he'
        · exact hname heq.symm
        · exact hfirst (heq ▸ List.mem_map_of_mem he')
  values e he := by
    obtain rfl | he := mem_put he
    · exact hd
    · exact h.values e he

/-- What is found in a sound table is well formed. -/
lemma Sound.lookup (h : Sound es) (hd : es.lookup name = some d) : d.tree.WellFormed := by
  obtain ⟨before, after, rfl, -⟩ := List.lookup_eq_some_iff.1 hd
  exact h.values (name, d) (by simp)

lemma mem_changeLast {α : Type} {f : α → Option α} {as as' : List α}
    (h : changeLast f as = some as') {a : α} (ha : a ∈ as') : a ∈ as ∨ ∃ b ∈ as, f b = some a := by
  induction as using changeLast.induct generalizing as' with
  | case1 => cases h
  | case2 b =>
    obtain ⟨a', ha', rfl⟩ := Option.map_eq_some_iff.1 h
    rw [List.mem_singleton.1 ha]
    exact .inr ⟨b, List.mem_cons_self, ha'⟩
  | case3 b as hne ih =>
    rw [changeLast] at h
    · obtain ⟨more, hmore, rfl⟩ := Option.map_eq_some_iff.1 h
      obtain rfl | ha := List.mem_cons.1 ha
      · exact .inl List.mem_cons_self
      · obtain ha | ⟨c, hc, hfc⟩ := ih hmore ha
        · exact .inl (List.mem_cons_of_mem _ ha)
        · exact .inr ⟨c, List.mem_cons_of_mem _ hc, hfc⟩
    · exact hne

/-- Following a path keeps a draft sound, if what is done at its end does. -/
lemma Sound.follow {way : Way} {f : Origin → DraftEntries → Option DraftEntries}
    (hf : ∀ {origin es es'}, Sound es → f origin es = some es' → Sound es')
    {path : List String} {origin : Origin} (h : Sound es)
    (hes' : follow way f path origin es = some es') : Sound es' := by
  induction path generalizing origin es es' with
  | nil => exact hf h hes'
  | cons name path ih =>
    rw [DraftEntries.follow] at hes'
    cases hlookup : es.lookup name with
    | none =>
      simp only [hlookup] at hes'
      obtain ⟨inner, hinner, hput⟩ := Option.bind_eq_some_iff.1 hes'
      cases hput
      exact h.put (sound_iff.1 (ih sound_nil hinner))
    | some d =>
      have hd := h.lookup hlookup
      simp only [hlookup] at hes'
      cases d with
      | value => cases hes'
      | table origin inner =>
        dsimp only at hes'
        split_ifs at hes'
        obtain ⟨inner', hinner, hput⟩ := Option.bind_eq_some_iff.1 hes'
        cases hput
        exact h.put (sound_iff.1 (ih (sound_iff.2 hd) hinner))
      | tables items =>
        obtain ⟨items', hitems, hput⟩ := Option.bind_eq_some_iff.1 hes'
        cases hput
        refine h.put (sound_tables.2 fun inner hinner => ?_)
        obtain hkept | ⟨last, hlast, hfollow⟩ := mem_changeLast hitems hinner
        · exact sound_tables.1 hd inner hkept
        · exact ih (sound_tables.1 hd last hlast) hfollow

lemma Sound.insert {path : List String} (h : Sound es) (hd : d.tree.WellFormed)
    (hes' : insert path name d es = some es') : Sound es' := by
  refine h.follow (fun {origin es es'} hes hstep => ?_) hes'
  split_ifs at hstep with hguard
  cases hstep
  exact hes.concat (not_mem_names (Option.isNone_iff_eq_none.1 hguard.2)) hd

lemma Sound.openTable {path : List String} (h : Sound es)
    (hes' : openTable path name es = some es') : Sound es' := by
  refine h.follow (fun {origin es es'} hes hstep => ?_) hes'
  cases hlookup : es.lookup name with
  | none =>
    simp only [hlookup] at hstep
    cases hstep
    exact hes.concat (not_mem_names hlookup) (sound_iff.1 sound_nil)
  | some d =>
    have hd := hes.lookup hlookup
    rw [hlookup] at hstep
    rcases d with _ | ⟨_ | _ | _, inner⟩ | _ <;> cases hstep
    have hothers : Sound (es.filter (·.1 != name)) :=
      ⟨hes.names.sublist (List.filter_sublist.map _),
        fun e he => hes.values e (List.mem_of_mem_filter he)⟩
    refine hothers.concat (fun hmem => ?_) hd
    obtain ⟨e, he, rfl⟩ := List.mem_map.1 hmem
    exact bne_iff_ne.1 (List.mem_filter.1 he).2 rfl

lemma Sound.openItem {path : List String} (h : Sound es)
    (hes' : openItem path name es = some es') : Sound es' := by
  refine h.follow (fun {origin es es'} hes hstep => ?_) hes'
  cases hlookup : es.lookup name with
  | none =>
    simp only [hlookup] at hstep
    cases hstep
    refine hes.concat (not_mem_names hlookup) (sound_tables.2 fun inner hinner => ?_)
    rw [List.mem_singleton.1 hinner]
    exact sound_nil
  | some d =>
    have hd := hes.lookup hlookup
    rw [hlookup] at hstep
    cases d <;> cases hstep
    refine hes.put (sound_tables.2 fun inner hinner => ?_)
    obtain hinner | hinner := List.mem_append.1 hinner
    · exact sound_tables.1 hd inner hinner
    · rw [List.mem_singleton.1 hinner]
      exact sound_nil

end DraftEntries

/-! ### Values -/

/-- Whatever is read is well formed. -/
def ReadsWellFormed (read? : List Char → Reading Tree) : Prop :=
  ∀ {cs t rest}, read? cs = some (t, rest) → t.WellFormed

variable {read? : List Char → Reading Tree}

lemma ReadsWellFormed.items (h : ReadsWellFormed read?) {fuel : Nat} {cs : List Char}
    {ts : List Tree} {rest : List Char} (hts : items read? fuel cs = some (ts, rest)) :
    ∀ t ∈ ts, t.WellFormed := by
  induction fuel generalizing cs ts rest with
  | zero => cases hts
  | succ fuel ih =>
    unfold Toml.items at hts
    split at hts
    · cases hts
      exact fun t ht => absurd ht List.not_mem_nil
    · obtain ⟨⟨item, behind⟩, hitem, hts⟩ := Option.bind_eq_some_iff.1 hts
      dsimp only at hts
      split at hts
      · obtain ⟨⟨more, behind'⟩, hmore, hts⟩ := Option.bind_eq_some_iff.1 hts
        cases hts
        exact List.forall_mem_cons.2 ⟨h hitem, ih hmore⟩
      · cases hts
        exact List.forall_mem_singleton.2 (h hitem)
      · cases hts

lemma ReadsWellFormed.pair (h : ReadsWellFormed read?) {cs : List Char}
    {key : List String × String} {t : Tree} {rest : List Char}
    (hpair : pair? read? cs = some ((key, t), rest)) : t.WellFormed := by
  unfold pair? at hpair
  obtain ⟨⟨parts, behind⟩, -, hpair⟩ := Option.bind_eq_some_iff.1 hpair
  dsimp only at hpair
  split at hpair
  · obtain ⟨⟨t', behind'⟩, hvalue, hpair⟩ := Option.bind_eq_some_iff.1 hpair
    cases hpair
    exact h hvalue
  · cases hpair

lemma ReadsWellFormed.pairs (h : ReadsWellFormed read?) {es es' : DraftEntries} {fuel : Nat}
    {cs rest : List Char} (hes : es.Sound) (hes' : pairs read? es fuel cs = some (es', rest)) :
    es'.Sound := by
  induction fuel generalizing es cs with
  | zero => cases hes'
  | succ fuel ih =>
    unfold Toml.pairs at hes'
    obtain ⟨⟨⟨⟨path, name⟩, t⟩, behind⟩, hpair, hes'⟩ := Option.bind_eq_some_iff.1 hes'
    obtain ⟨more, hmore, hes'⟩ := Option.bind_eq_some_iff.1 hes'
    have hsound : more.Sound := hes.insert (h.pair hpair) hmore
    split at hes'
    · exact ih hsound hes'
    · cases hes'
      exact hsound
    · cases hes'

lemma ReadsWellFormed.inlineTable (h : ReadsWellFormed read?) :
    ReadsWellFormed (inlineTable? read?) := by
  intro cs t rest ht
  unfold inlineTable? at ht
  split at ht
  · cases ht
    exact .table List.nodup_nil fun e he => absurd he List.not_mem_nil
  · obtain ⟨⟨es, behind⟩, hes, ht⟩ := Option.map_eq_some_iff.1 ht
    cases ht
    exact DraftEntries.sound_iff.1 (h.pairs DraftEntries.sound_nil hes)

lemma wellFormed_wordValue? {w : List Char} {t : Tree} (h : wordValue? w = some t) :
    t.WellFormed := by
  unfold wordValue? at h
  split_ifs at h
  · cases h
    exact .boolean true
  · cases h
    exact .boolean false
  · split at h
    · cases h
      exact .datetime _
    · split at h
      · cases h
        exact .integer _
      · obtain ⟨x, -, rfl⟩ := Option.map_eq_some_iff.1 h
        exact .float x

lemma readsWellFormed_value? (depth : Nat) : ReadsWellFormed (value? depth) := by
  induction depth with
  | zero =>
    intro cs t rest ht
    unfold value? at ht
    split at ht
    · cases ht
      exact .string _
    · obtain ⟨word, hword, ht⟩ := Option.map_eq_some_iff.1 ht
      cases ht
      exact wellFormed_wordValue? hword
  | succ depth ih =>
    intro cs t rest ht
    unfold value? at ht
    split at ht
    · cases ht
      exact .string _
    · split at ht
      · obtain ⟨⟨ts, behind⟩, hts, ht⟩ := Option.map_eq_some_iff.1 ht
        cases ht
        rename_i heq _
        cases heq
        exact .array (ih.items hts)
      · rename_i heq _
        cases heq
        exact ih.inlineTable ht
      · obtain ⟨word, hword, ht⟩ := Option.map_eq_some_iff.1 ht
        cases ht
        exact wellFormed_wordValue? hword

/-! ### Documents -/

lemma sound_of_header? {r r' : Reader} {isItem : Bool} {cs rest : List Char}
    (hr : r.root.Sound) (h : header? r isItem cs = some (r', rest)) : r'.root.Sound := by
  unfold header? at h
  obtain ⟨⟨parts, behind⟩, -, h⟩ := Option.bind_eq_some_iff.1 h
  dsimp only at h
  split at h
  · obtain ⟨behind, -, h⟩ := Option.bind_eq_some_iff.1 h
    obtain ⟨root, hroot, h⟩ := Option.bind_eq_some_iff.1 h
    obtain ⟨rest', -, h⟩ := Option.bind_eq_some_iff.1 h
    cases h
    exact hr.openTable hroot
  · obtain ⟨behind, -, h⟩ := Option.bind_eq_some_iff.1 h
    obtain ⟨root, hroot, h⟩ := Option.bind_eq_some_iff.1 h
    obtain ⟨rest', -, h⟩ := Option.bind_eq_some_iff.1 h
    cases h
    exact hr.openItem hroot
  · cases h

lemma sound_of_line? {r r' : Reader} {cs rest : List Char} (hr : r.root.Sound)
    (h : line? r cs = some (r', rest)) : r'.root.Sound := by
  have hsame : (restOfLine? cs).map (r, ·) = some (r', rest) → r'.root.Sound := by
    intro h
    obtain ⟨behind, -, h⟩ := Option.map_eq_some_iff.1 h
    cases h
    exact hr
  unfold line? at h
  split at h
  · cases h
  · exact hsame h
  · exact hsame h
  · exact hsame h
  · exact sound_of_header? hr h
  · exact sound_of_header? hr h
  · obtain ⟨⟨⟨⟨path, name⟩, t⟩, behind⟩, hpair, h⟩ := Option.bind_eq_some_iff.1 h
    obtain ⟨root, hroot, h⟩ := Option.bind_eq_some_iff.1 h
    obtain ⟨rest', -, h⟩ := Option.bind_eq_some_iff.1 h
    cases h
    have ht : (Draft.value t).tree.WellFormed :=
      ReadsWellFormed.pair (readsWellFormed_value? (limit - 1)) hpair
    exact hr.follow (fun hes hinsert => hes.insert ht hinsert) hroot

lemma sound_of_lines? {fuel : Nat} {r r' : Reader} {cs : List Char} (hr : r.root.Sound)
    (h : lines? fuel r cs = some r') : r'.root.Sound := by
  induction fuel generalizing r cs with
  | zero => cases h
  | succ fuel ih =>
    unfold lines? at h
    split at h
    · cases h
      exact hr
    · obtain ⟨⟨r₁, rest⟩, hline, h⟩ := Option.bind_eq_some_iff.1 h
      exact ih (sound_of_line? hr hline) h

/-- **No table of a document has two entries of one name.** -/
theorem wellFormed_of_parse? {cs : List Char} {es : Entries} (h : parse? cs = some es) :
    (Tree.table es).WellFormed := by
  obtain ⟨r, hr, rfl⟩ := Option.map_eq_some_iff.1 h
  exact DraftEntries.sound_iff.1 (sound_of_lines? DraftEntries.sound_nil hr)

end ServiceBootstrap.Toml
