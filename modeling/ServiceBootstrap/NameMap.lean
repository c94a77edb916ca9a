/-!
Finite maps from names to things, kept in ascending order of the names.

Names compare character by character by code point, which is also the order of their UTF-8 bytes.
The order is a field of the type, so a map is determined by what it finds, and listing a map needs
no sorting.
-/

namespace ServiceBootstrap

theorem name_lt_or_eq_or_gt (a b : String) : a < b ∨ a = b ∨ b < a := by
  by_cases hab : a < b
  · exact .inl hab
  by_cases hba : b < a
  · exact .inr (.inr hba)
  · exact .inr (.inl (String.le_antisymm (String.not_lt.1 hba) (String.not_lt.1 hab)))

namespace NameMap

variable {α : Type}

/-- Puts an entry where the order of names wants it, in place of one of the same name. -/
def insertEntry (name : String) (a : α) : List (String × α) → List (String × α)
  | [] => [(name, a)]
  | e :: rest =>
    if name < e.1 then (name, a) :: e :: rest
    else if name = e.1 then (name, a) :: rest
    else e :: insertEntry name a rest

theorem mem_insertEntry {name : String} {a : α} {e : String × α} {es : List (String × α)}
    (h : e ∈ insertEntry name a es) : e = (name, a) ∨ e ∈ es := by
  induction es with
  | nil => simpa [insertEntry] using h
  | cons hd tl ih => grind [insertEntry]

theorem ascending_insertEntry {name : String} {a : α} {es : List (String × α)}
    (h : es.Pairwise fun x y => x.1 < y.1) :
    (insertEntry name a es).Pairwise fun x y => x.1 < y.1 := by
  induction es with
  | nil => simp [insertEntry]
  | cons hd tl ih =>
    obtain ⟨hhd, htl⟩ := List.pairwise_cons.1 h
    unfold insertEntry
    split
    · rename_i hlt
      refine List.pairwise_cons.2 ⟨fun e he => ?_, h⟩
      rcases List.mem_cons.1 he with rfl | he
      · exact hlt
      · exact String.lt_trans hlt (hhd e he)
    · rename_i hnlt
      split
      · rename_i heq
        subst heq
        exact List.pairwise_cons.2 ⟨hhd, htl⟩
      · rename_i hne
        refine List.pairwise_cons.2 ⟨fun e he => ?_, ih htl⟩
        rcases mem_insertEntry he with rfl | he
        · exact ((name_lt_or_eq_or_gt name hd.1).resolve_left hnlt).resolve_left hne
        · exact hhd e he

theorem lookup_insertEntry_self (name : String) (a : α) (es : List (String × α)) :
    (insertEntry name a es).lookup name = some a := by
  induction es with
  | nil => simp [insertEntry]
  | cons hd tl ih =>
    unfold insertEntry
    split
    · simp
    · split
      · simp
      · rename_i hne
        rw [List.lookup_cons, beq_false_of_ne hne]
        exact ih

theorem lookup_insertEntry_of_ne {name other : String} (h : other ≠ name) (a : α)
    (es : List (String × α)) : (insertEntry name a es).lookup other = es.lookup other := by
  induction es with
  | nil => simp [insertEntry, List.lookup_cons, beq_false_of_ne h]
  | cons hd tl ih =>
    unfold insertEntry
    split
    · rw [List.lookup_cons, beq_false_of_ne h]
    · split
      · rename_i heq
        rw [List.lookup_cons, List.lookup_cons, ← heq, beq_false_of_ne h]
      · rw [List.lookup_cons, List.lookup_cons, ih]

theorem lookup_filter_of_ne {name other : String} (h : other ≠ name)
    (es : List (String × α)) : (es.filter (·.1 != name)).lookup other = es.lookup other := by
  induction es with
  | nil => rfl
  | cons hd tl ih =>
    rw [List.filter_cons]
    split
    · rw [List.lookup_cons, List.lookup_cons, ih]
    · rename_i heq
      have heq : hd.1 = name := by simpa using heq
      rw [List.lookup_cons, heq, beq_false_of_ne h, ih]

theorem lookup_filter_self (name : String) (es : List (String × α)) :
    (es.filter (·.1 != name)).lookup name = none := by
  rw [List.lookup_eq_none_iff]
  intro e he
  have hne : e.1 ≠ name := by simpa using (List.mem_filter.1 he).2
  exact bne_iff_ne.2 hne.symm

theorem isSome_lookup {name : String} {es : List (String × α)} :
    (es.lookup name).isSome ↔ name ∈ es.map (·.1) := by
  induction es with
  | nil => simp
  | cons hd tl ih =>
    rw [List.lookup_cons, List.map_cons, List.mem_cons, ← ih]
    by_cases h : name = hd.1
    · simp [h]
    · simp [h, beq_false_of_ne h]

end NameMap

structure NameMap (α : Type) where
  entries : List (String × α)
  ascending : entries.Pairwise fun x y => x.1 < y.1

namespace NameMap

variable {α : Type}

def empty : NameMap α := ⟨[], .nil⟩

instance : Inhabited (NameMap α) := ⟨empty⟩

def find? (m : NameMap α) (name : String) : Option α := m.entries.lookup name

def insert (m : NameMap α) (name : String) (a : α) : NameMap α :=
  ⟨insertEntry name a m.entries, ascending_insertEntry m.ascending⟩

def erase (m : NameMap α) (name : String) : NameMap α :=
  ⟨m.entries.filter (·.1 != name), m.ascending.filter _⟩

def contains (m : NameMap α) (name : String) : Bool := (m.find? name).isSome

/-- The names of a map, in strictly ascending order. -/
def names (m : NameMap α) : List String := m.entries.map (·.1)

def ofList (es : List (String × α)) : NameMap α :=
  es.foldl (fun m e => m.insert e.1 e.2) empty

theorem eq_of_entries_eq {m n : NameMap α} (h : m.entries = n.entries) : m = n := by
  cases m
  cases n
  cases h
  rfl

theorem ascending_names (m : NameMap α) : m.names.Pairwise (· < ·) :=
  List.pairwise_map.2 m.ascending

@[simp] theorem find?_empty (name : String) : (empty : NameMap α).find? name = none := rfl

@[simp] theorem find?_insert_self (m : NameMap α) (name : String) (a : α) :
    (m.insert name a).find? name = some a :=
  lookup_insertEntry_self name a m.entries

theorem find?_insert_of_ne (m : NameMap α) {name other : String} (a : α) (h : other ≠ name) :
    (m.insert name a).find? other = m.find? other :=
  lookup_insertEntry_of_ne h a m.entries

@[simp] theorem find?_erase_self (m : NameMap α) (name : String) :
    (m.erase name).find? name = none :=
  lookup_filter_self name m.entries

theorem find?_erase_of_ne (m : NameMap α) {name other : String} (h : other ≠ name) :
    (m.erase name).find? other = m.find? other :=
  lookup_filter_of_ne h m.entries

theorem mem_names {m : NameMap α} {name : String} :
    name ∈ m.names ↔ (m.find? name).isSome :=
  isSome_lookup.symm

end NameMap

end ServiceBootstrap
