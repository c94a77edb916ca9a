import Mathlib.Data.List.DropRight
import Mathlib.Tactic.Lemma
import ServiceBootstrap.Hello.Response

/-!
Which paths lie under a root.

A path is taken apart at its slashes. Apart from the slashes at its end, a root covers the paths
that begin with its own components. Where the slashes are cut off decides nothing in between: what
is left ends in no slash, so its last component is empty only if nothing is left at all.
-/

namespace ServiceBootstrap.Hello

/-- What stands between the slashes of a path. -/
def components (path : List Char) : List (List Char) := path.splitOn '/'

lemma components_append_slash (r rest : List Char) :
    components (r ++ '/' :: rest) = components r ++ components rest :=
  List.splitOn_append_cons_self r rest

lemma intercalate_components (path : List Char) : ['/'].intercalate (components path) = path :=
  List.intercalate_splitOn '/'

lemma intercalate_append {as bs : List (List Char)} (has : as ≠ []) (hbs : bs ≠ []) :
    ['/'].intercalate (as ++ bs) = ['/'].intercalate as ++ '/' :: ['/'].intercalate bs := by
  induction as with
  | nil => exact absurd rfl has
  | cons a as ih =>
    by_cases hnil : as = []
    · subst hnil
      rw [List.singleton_append, List.intercalate_cons_of_ne_nil hbs, List.intercalate_singleton,
        List.append_assoc, List.singleton_append]
    · have hrest : as ++ bs ≠ [] := List.append_ne_nil_of_left_ne_nil hnil bs
      rw [List.cons_append, List.intercalate_cons_of_ne_nil hrest,
        List.intercalate_cons_of_ne_nil hnil, ih hnil, List.append_assoc, List.append_assoc,
        List.append_assoc]

/-- A path begins with the components of another if it is that path or goes on behind it with a
slash. -/
lemma components_isPrefix_iff {r path : List Char} :
    components r <+: components path ↔ path = r ∨ ∃ rest, path = r ++ '/' :: rest := by
  constructor
  · rintro ⟨more, hmore⟩
    have hpath : ['/'].intercalate (components r ++ more) = path := by
      rw [hmore, intercalate_components]
    by_cases hnil : more = []
    · left
      rw [← hpath, hnil, List.append_nil, intercalate_components]
    · right
      have hr : components r ≠ [] := List.splitOn_ne_nil '/' r
      refine ⟨['/'].intercalate more, ?_⟩
      rw [← hpath, intercalate_append hr hnil, intercalate_components]
  · rintro (rfl | ⟨rest, rfl⟩)
    · exact List.prefix_refl _
    · rw [components_append_slash]
      exact List.prefix_append _ _

/-! ### Slashes at the end -/

lemma trimSlashes_eq_rdropWhile (root : List Char) :
    trimSlashes root = root.rdropWhile (· = '/') := rfl

lemma exists_slashes (root : List Char) :
    ∃ n, root = trimSlashes root ++ List.replicate n '/' := by
  have hslashes : ∀ c ∈ root.rtakeWhile (· = '/'), c = '/' := fun c hc => by
    simpa using List.mem_rtakeWhile_imp hc
  refine ⟨(root.rtakeWhile (· = '/')).length, ?_⟩
  rw [← List.eq_replicate_of_mem hslashes, trimSlashes_eq_rdropWhile,
    List.rdropWhile_append_rtakeWhile]

lemma getLast?_trimSlashes (root : List Char) : (trimSlashes root).getLast? ≠ some '/' := by
  intro hlast
  have hne : trimSlashes root ≠ [] := by
    rintro hnil
    simp [hnil] at hlast
  have hnot := List.rdropWhile_last_not (fun c => decide (c = '/')) root hne
  rw [List.getLast?_eq_some_getLast hne] at hlast
  exact hnot (decide_eq_true (Option.some.inj hlast))

lemma trimSlashes_append_slashes (root : List Char) (n : Nat) :
    trimSlashes (root ++ List.replicate n '/') = trimSlashes root := by
  induction n with
  | zero => simp
  | succ n ih =>
    rw [List.replicate_succ', ← List.append_assoc, trimSlashes_eq_rdropWhile,
      List.rdropWhile_concat_pos _ _ _ (by simp)]
    exact ih

lemma trimSlashes_eq_self {r : List Char} (h : r.getLast? ≠ some '/') : trimSlashes r = r := by
  rw [trimSlashes_eq_rdropWhile, List.rdropWhile_eq_self_iff]
  intro hne hslash
  have hlast : r.getLast hne = '/' := by simpa using hslash
  exact h (by rw [List.getLast?_eq_some_getLast hne, hlast])

/-- What is cut off behind a slash is all of it, or leaves the slash. -/
lemma trimSlashes_append_slash {r : List Char} (h : r.getLast? ≠ some '/') (rest : List Char) :
    trimSlashes (r ++ '/' :: rest) = r ∨
      ∃ left, trimSlashes (r ++ '/' :: rest) = r ++ '/' :: left := by
  obtain ⟨n, hrest⟩ := exists_slashes rest
  have hsplit : r ++ '/' :: rest =
      (r ++ '/' :: trimSlashes rest) ++ List.replicate n '/' := by
    conv_lhs => rw [hrest]
    simp
  rw [hsplit, trimSlashes_append_slashes]
  by_cases hnil : trimSlashes rest = []
  · left
    have honly : r ++ '/' :: trimSlashes rest = r ++ List.replicate 1 '/' := by simp [hnil]
    rw [honly, trimSlashes_append_slashes, trimSlashes_eq_self h]
  · right
    refine ⟨trimSlashes rest, trimSlashes_eq_self ?_⟩
    have hlast : (r ++ '/' :: trimSlashes rest).getLast? = (trimSlashes rest).getLast? := by
      rw [List.getLast?_append_of_ne_nil _ (by simp), List.getLast?_cons_of_ne_nil hnil]
    rw [hlast]
    exact getLast?_trimSlashes rest

/-! ### Under a root -/

lemma coveredBy_iff (root path : List Char) :
    coveredBy root path ↔
      trimSlashes root = [] ∨ components (trimSlashes root) <+: components path := by
  unfold coveredBy
  cases htrim : trimSlashes root with
  | nil => simp
  | cons c cs =>
    have hrest : ((after? (c :: cs) path).bind List.head? = some '/') ↔
        ∃ rest, path = c :: cs ++ '/' :: rest := by
      constructor
      · intro h
        obtain ⟨rest, hafter, hhead⟩ := Option.bind_eq_some_iff.1 h
        obtain ⟨tail, rfl⟩ := List.head?_eq_some_iff.1 hhead
        exact ⟨tail, after?_eq_some.1 hafter⟩
      · rintro ⟨rest, hpath⟩
        rw [after?_eq_some.2 hpath]
        rfl
    rw [components_isPrefix_iff, Bool.or_eq_true, decide_eq_true_eq, decide_eq_true_eq, hrest]
    simp

lemma coveredBy_refl (path : List Char) : coveredBy path path := by
  obtain ⟨n, hpath⟩ := exists_slashes path
  rw [coveredBy_iff, components_isPrefix_iff]
  right
  cases n with
  | zero => exact .inl (by simpa using hpath)
  | succ n => exact .inr ⟨List.replicate n '/', by simpa [List.replicate_succ] using hpath⟩

/-- What begins with the components of a root begins with them also without the slashes at its
end. -/
lemma components_isPrefix_trimSlashes {r path : List Char} (hr : r.getLast? ≠ some '/')
    (h : components r <+: components path) :
    components r <+: components (trimSlashes path) := by
  rw [components_isPrefix_iff] at h ⊢
  rcases h with rfl | ⟨rest, rfl⟩
  · exact .inl (trimSlashes_eq_self hr)
  · exact trimSlashes_append_slash hr rest

lemma coveredBy_trans {path root above : List Char} (h : coveredBy root path)
    (habove : coveredBy above root) : coveredBy above path := by
  rw [coveredBy_iff] at *
  rcases habove with hnil | hprefix
  · exact .inl hnil
  · have hlast := getLast?_trimSlashes above
    have hroot := components_isPrefix_trimSlashes hlast hprefix
    rcases h with hnil | h
    · -- nothing but slashes begins with the components of nothing only
      left
      rw [hnil, components_isPrefix_iff] at hroot
      rcases hroot with hroot | ⟨rest, hroot⟩
      · exact hroot.symm
      · simp at hroot
    · exact .inr (hroot.trans h)

lemma normalizeRoot_of_head? {root : String} (h : root.toList.head? = some '/') :
    normalizeRoot root = root := if_pos h

lemma head?_normalizeRoot (root : String) : (normalizeRoot root).toList.head? = some '/' := by
  unfold normalizeRoot
  split
  · assumption
  · rw [String.toList_append]
    rfl

lemma respond_of_underRoot {path root : String} (h : underRoot path root) :
    respond path root = found := if_pos h

/-- **The check for the root compares components.** With the slashes at its end cut off, a root
covers a path if nothing is left of it or its components are the first of the path. So the check is
reflexive and transitive, slashes at the end of a root change nothing, and a longer last component
is another one. A root that is made to start with a slash stays as it is, and it and all that goes
on behind it with a slash are answered with the greeting. -/
theorem underRoot_compares_components (path root : String) :
    (underRoot path root ↔ trimSlashes root.toList = [] ∨
      components (trimSlashes root.toList) <+: components path.toList) ∧
    (∃ n, root.toList = trimSlashes root.toList ++ List.replicate n '/') ∧
    (trimSlashes root.toList).getLast? ≠ some '/' ∧
    underRoot path path ∧
    (∀ above, underRoot path root → underRoot root above → underRoot path above) ∧
    (∀ n, underRoot path (root ++ String.ofList (List.replicate n '/')) = underRoot path root) ∧
    (∀ more : List Char, trimSlashes root.toList ≠ [] → more ≠ [] → more.head? ≠ some '/' →
      ¬ underRoot (String.ofList (trimSlashes root.toList ++ more)) root) ∧
    let normal := normalizeRoot root
    normalizeRoot normal = normal ∧ respond normal normal = found ∧
      ∀ more, respond (normal ++ "/" ++ more) normal = found := by
  refine ⟨coveredBy_iff _ _, exists_slashes root.toList, getLast?_trimSlashes root.toList,
    coveredBy_refl _, fun above h habove => coveredBy_trans h habove, fun n => ?_,
    fun more hr hmore hhead hunder => ?_, ?_⟩
  · unfold underRoot coveredBy
    rw [String.toList_append, String.toList_ofList, trimSlashes_append_slashes]
  · unfold underRoot at hunder
    rw [String.toList_ofList, coveredBy_iff, components_isPrefix_iff] at hunder
    rcases hunder with hnil | hsame | ⟨rest, hbehind⟩
    · exact hr hnil
    · exact hmore (List.append_right_eq_self.1 hsame)
    · have hrest : more = '/' :: rest := List.append_cancel_left hbehind
      exact hhead (by rw [hrest]; rfl)
  · intro normal
    have hbehind : ∀ more : String, underRoot (normal ++ "/" ++ more) normal := by
      intro more
      have htext : (normal ++ "/" ++ more).toList = normal.toList ++ '/' :: more.toList := by
        rw [String.toList_append, String.toList_append, List.append_assoc]
        rfl
      have hprefix : components normal.toList <+: components (normal ++ "/" ++ more).toList :=
        components_isPrefix_iff.2 (.inr ⟨more.toList, htext⟩)
      have hself : coveredBy normal.toList normal.toList := coveredBy_refl _
      refine (coveredBy_iff _ _).2 ?_
      exact ((coveredBy_iff _ _).1 hself).imp id fun h => h.trans hprefix
    exact ⟨normalizeRoot_of_head? (head?_normalizeRoot root),
      respond_of_underRoot (coveredBy_refl _), fun more => respond_of_underRoot (hbehind more)⟩

example : underRoot "/a/b" "/a//" ∧ ¬ underRoot "/ab" "/a" ∧ underRoot "x" "//" := by decide

end ServiceBootstrap.Hello
