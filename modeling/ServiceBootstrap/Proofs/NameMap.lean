import Mathlib.Data.List.Nodup
import Mathlib.Data.List.Perm.Basic
import Mathlib.Tactic.Lemma
import ServiceBootstrap.NameMap

/-!
A map from names is what it finds: its entries stand in the order of their names, each name once,
so two maps that find the same are the same.
-/

namespace ServiceBootstrap

namespace NameMap

variable {α : Type}

lemma mem_entries {m : NameMap α} {name : String} {a : α} :
    (name, a) ∈ m.entries ↔ m.find? name = some a := by
  unfold find?
  rw [List.lookup_eq_some_iff]
  constructor
  · intro h
    obtain ⟨before, after, heq⟩ := List.append_of_mem h
    refine ⟨before, after, heq, fun e he => ?_⟩
    have hascending := m.ascending
    rw [heq] at hascending
    have hlt : e.1 < name := (List.pairwise_append.1 hascending).2.2 e he _ List.mem_cons_self
    exact bne_iff_ne.2 fun hname => String.lt_irrefl e.1 (hname ▸ hlt)
  · rintro ⟨before, after, heq, -⟩
    rw [heq]
    exact List.mem_append_right _ List.mem_cons_self

lemma nodup_entries (m : NameMap α) : m.entries.Nodup := by
  refine m.ascending.imp fun {d e} hlt heq => ?_
  rw [heq] at hlt
  exact String.lt_irrefl e.1 hlt

/-- A map is determined by what it finds. -/
lemma eq_of_find?_eq {m n : NameMap α} (h : ∀ name, m.find? name = n.find? name) : m = n := by
  have hperm : m.entries.Perm n.entries :=
    (List.perm_ext_iff_of_nodup m.nodup_entries n.nodup_entries).2 fun ⟨name, a⟩ => by
      rw [mem_entries, mem_entries, h name]
  exact eq_of_entries_eq (hperm.eq_of_pairwise
    (fun _ _ _ _ hab hba => absurd hba (String.lt_asymm hab)) m.ascending n.ascending)

end NameMap

end ServiceBootstrap
