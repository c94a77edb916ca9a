import Mathlib.Tactic.Lemma
import Mathlib.Tactic.SplitIfs
import ServiceBootstrap.CommandLine

/-!
The commands read the options of the configuration alike.

A command goes through its arguments with its own options beside the shared ones. What it finds
depends only on the options that are given, so arguments that give shared options alone mean the
same to every command.
-/

namespace ServiceBootstrap.CommandLine

/-- An argument is taken in: it completes the option that waits for its value, or it is an option
itself. -/
inductive Takes (specs : List Spec) :
    Option Spec → Given → String → Option Spec → Given → Prop where
  | value {spec : Spec} {given : Given} {arg : String} {next : Given} (hshape : shape arg = .word)
      (htake : take? spec arg given = some next) : Takes specs (some spec) given arg none next
  | joined {given : Given} {arg name value : String} {spec : Spec} {next : Given}
      (hshape : shape arg = .long name (some value))
      (hfind : specs.find? (·.name == name) = some spec)
      (htake : take? spec value given = some next) : Takes specs none given arg none next
  | opened {given : Given} {arg name : String} {spec : Spec} (hshape : shape arg = .long name none)
      (hhelp : isHelp (shape arg) = false) (hfind : specs.find? (·.name == name) = some spec)
      (hkind : spec.kind ≠ .nothing) : Takes specs none given arg (some spec) given
  | switch {given : Given} {arg name : String} {spec : Spec} (hshape : shape arg = .long name none)
      (hhelp : isHelp (shape arg) = false) (hfind : specs.find? (·.name == name) = some spec)
      (hkind : spec.kind = .nothing) (hfresh : (given.lookup name).isNone) :
      Takes specs none given arg none ((name, "") :: given)

variable {specs specs' : List Spec} {pending? pending'? : Option Spec} {given given' result : Given}
  {arg : String} {args : List String}

lemma Takes.scan (h : Takes specs pending? given arg pending'? given') (args : List String) :
    scan specs pending? given (arg :: args) = CommandLine.scan specs pending'? given' args := by
  cases h with
  | value hshape htake => simp [CommandLine.scan, hshape, htake]
  | joined hshape hfind htake => simp [CommandLine.scan, hshape, hfind, htake, isHelp]
  | opened hshape hhelp hfind hkind =>
    rw [hshape] at hhelp
    simp [CommandLine.scan, hshape, hhelp, hfind, hkind]
  | switch hshape hhelp hfind hkind hfresh =>
    rw [hshape] at hhelp
    simp only [CommandLine.scan, hshape, hhelp, hfind, hkind, hfresh]
    rfl

lemma scan_cons (h : scan specs pending? given (arg :: args) = .finished result) :
    (pending? = none ∧ shape arg = .stop ∧ args = [] ∧ result = given) ∨
      ∃ pending'? given', Takes specs pending? given arg pending'? given' := by
  cases pending? with
  | some spec =>
    rw [scan] at h
    split at h
    · exact .inr ⟨_, _, .value ‹_› ‹_›⟩
    · cases h
  | none =>
    rw [scan] at h
    by_cases hhelp : isHelp (shape arg) = true
    · rw [if_pos hhelp] at h
      cases h
    have hhelp' : isHelp (shape arg) = false := by simpa using hhelp
    rw [if_neg hhelp] at h
    split at h
    · split_ifs at h with hlast
      cases h
      exact .inl ⟨rfl, ‹_›, List.isEmpty_iff.1 hlast, rfl⟩
    · cases h
    · cases h
    · rename_i name value? hshape
      split at h
      · cases h
      · split at h
        · exact .inr ⟨_, _, .joined hshape ‹_› ‹_›⟩
        · cases h
      · split at h
        · exact .inr ⟨_, _, .opened hshape hhelp' ‹_› ‹_›⟩
        · rename_i hkind
          split at h
          · exact .inr ⟨_, _, .switch hshape hhelp' ‹_› (Decidable.not_not.1 hkind) ‹_›⟩
          · cases h

/-- The options that have been named: those with a value, and the one that waits for it. -/
def Named (pending? : Option Spec) (given : Given) (name : String) : Prop :=
  (given.lookup name).isSome ∨ ∃ spec, pending? = some spec ∧ spec.name = name

lemma named_cons {name value other : String} :
    Named none ((name, value) :: given) other ↔ other = name ∨ (given.lookup other).isSome := by
  simp only [Named, List.lookup_cons]
  by_cases h : other = name
  · simp [h]
  · simp [h, beq_false_of_ne h]

lemma take?_eq_some {spec : Spec} {value : String} (h : take? spec value given = some given') :
    given' = (spec.name, value) :: given := by
  unfold take? at h
  split_ifs at h
  exact (Option.some.inj h).symm

lemma name_of_find? {name : String} {spec : Spec}
    (h : specs.find? (·.name == name) = some spec) : spec.name = name := by
  simpa using List.find?_some h

/-- What has been named stays named. -/
lemma Takes.named (h : Takes specs pending? given arg pending'? given') {name : String}
    (hname : Named pending? given name) : Named pending'? given' name := by
  cases h with
  | value hshape htake =>
    rw [take?_eq_some htake, named_cons]
    rcases hname with hgiven | ⟨spec, hspec, rfl⟩
    · exact .inr hgiven
    · cases hspec
      exact .inl rfl
  | joined hshape hfind htake =>
    rw [take?_eq_some htake, named_cons]
    exact .inr (hname.resolve_right (by simp))
  | opened hshape hhelp hfind hkind => exact .inl (hname.resolve_right (by simp))
  | switch hshape hhelp hfind hkind hfresh =>
    rw [named_cons]
    exact .inr (hname.resolve_right (by simp))

/-- What is named newly is an option of the command. -/
lemma Takes.known (h : Takes specs pending? given arg pending'? given') {name : String}
    (hname : Named pending'? given' name) :
    Named pending? given name ∨ (specs.find? (·.name == name)).isSome := by
  cases h with
  | value hshape htake =>
    rw [take?_eq_some htake, named_cons] at hname
    rcases hname with rfl | hgiven
    · exact .inl (.inr ⟨_, rfl, rfl⟩)
    · exact .inl (.inl hgiven)
  | joined hshape hfind htake =>
    rw [take?_eq_some htake, named_cons, name_of_find? hfind] at hname
    rcases hname with rfl | hgiven
    · exact .inr (hfind ▸ rfl)
    · exact .inl (.inl hgiven)
  | opened hshape hhelp hfind hkind =>
    rcases hname with hgiven | ⟨spec, hspec, rfl⟩
    · exact .inl (.inl hgiven)
    · cases hspec
      rw [name_of_find? hfind]
      exact .inr (hfind ▸ rfl)
  | switch hshape hhelp hfind hkind hfresh =>
    rw [named_cons] at hname
    rcases hname with rfl | hgiven
    · exact .inr (hfind ▸ rfl)
    · exact .inl (.inl hgiven)

/-- An argument means the same to all commands that have the options it names. -/
lemma Takes.congr (h : Takes specs pending? given arg pending'? given')
    (hsame : ∀ name, Named pending'? given' name →
      specs.find? (·.name == name) = specs'.find? (·.name == name)) :
    Takes specs' pending? given arg pending'? given' := by
  cases h with
  | value hshape htake => exact .value hshape htake
  | joined hshape hfind htake =>
    refine .joined hshape ((hsame _ ?_).symm.trans hfind) htake
    rw [take?_eq_some htake, named_cons, name_of_find? hfind]
    exact .inl rfl
  | opened hshape hhelp hfind hkind =>
    have hname := hsame _ (.inr ⟨_, rfl, name_of_find? hfind⟩)
    exact .opened hshape hhelp (hname.symm.trans hfind) hkind
  | switch hshape hhelp hfind hkind hfresh =>
    have hname := hsame _ (named_cons.2 (.inl rfl))
    exact .switch hshape hhelp (hname.symm.trans hfind) hkind hfresh

lemma scan_nil (h : scan specs pending? given [] = .finished result) :
    pending? = none ∧ result = given := by
  cases pending? with
  | some spec => cases h
  | none =>
    cases h
    exact ⟨rfl, rfl⟩

lemma named_of_scan (h : scan specs pending? given args = .finished result) {name : String}
    (hname : Named pending? given name) : Named none result name := by
  induction args generalizing pending? given with
  | nil =>
    obtain ⟨rfl, rfl⟩ := scan_nil h
    exact hname
  | cons arg args ih =>
    obtain ⟨rfl, -, -, rfl⟩ | ⟨pending'?, given', htakes⟩ := scan_cons h
    · exact hname
    · rw [htakes.scan] at h
      exact ih h (htakes.named hname)

lemma known_of_scan (h : scan specs pending? given args = .finished result) {name : String}
    (hname : Named none result name) :
    Named pending? given name ∨ (specs.find? (·.name == name)).isSome := by
  induction args generalizing pending? given with
  | nil =>
    obtain ⟨rfl, rfl⟩ := scan_nil h
    exact .inl hname
  | cons arg args ih =>
    obtain ⟨rfl, -, -, rfl⟩ | ⟨pending'?, given', htakes⟩ := scan_cons h
    · exact .inl hname
    · rw [htakes.scan] at h
      exact (ih h).elim htakes.known .inr

/-- Arguments mean the same to all commands that have the options that are given. -/
lemma scan_congr (h : scan specs pending? given args = .finished result)
    (hsame : ∀ name, Named none result name →
      specs.find? (·.name == name) = specs'.find? (·.name == name)) :
    scan specs' pending? given args = .finished result := by
  induction args generalizing pending? given with
  | nil =>
    obtain ⟨rfl, rfl⟩ := scan_nil h
    rfl
  | cons arg args ih =>
    obtain ⟨rfl, hshape, rfl, rfl⟩ | ⟨pending'?, given', htakes⟩ := scan_cons h
    · simp [scan, hshape, isHelp]
    · rw [htakes.scan] at h
      have htakes' := htakes.congr fun name hname => hsame name (named_of_scan h hname)
      rw [htakes'.scan]
      exact ih h

lemma parse_serve (flags : List String) :
    parse ("serve" :: flags) = parseCommand [exitAfter] (fun given =>
      .serve (options given) ((given.lookup exitAfter.name).bind seconds?)) flags := rfl

lemma parse_showConfig (flags : List String) :
    parse ("show-config" :: flags) = parseCommand [json] (fun given =>
      .showConfig (options given) (given.lookup json.name).isSome) flags := rfl

/-- Without an option of its own, each command takes the same options from the same arguments. -/
theorem parse_serve_of_showConfig {flags : List String} {o : Options}
    (h : parse ("show-config" :: flags) = .run (.showConfig o false)) :
    parse ("serve" :: flags) = .run (.serve o none) := by
  rw [parse_showConfig, parseCommand] at h
  split at h
  · rename_i given hscan
    obtain ⟨rfl, hjson⟩ : options given = o ∧ (given.lookup json.name).isSome = false := by
      simpa using h
    have hknown : ∀ name, Named none given name →
        ((configurationSpecs ++ [json]).find? (·.name == name)).isSome := fun name hname =>
      (known_of_scan hscan hname).resolve_left (by simp [Named])
    have hsame : ∀ name, Named none given name →
        (configurationSpecs ++ [json]).find? (·.name == name) =
          (configurationSpecs ++ [exitAfter]).find? (·.name == name) := by
      intro name hname
      have hshared := hknown name hname
      rw [List.find?_append] at hshared
      rw [List.find?_append, List.find?_append]
      cases hfind : configurationSpecs.find? (·.name == name) with
      | some spec => rfl
      | none =>
        rw [hfind] at hshared
        have hown : json.name = name := by simpa using hshared
        have hgiven := hname.resolve_right (by simp)
        rw [← hown, hjson] at hgiven
        cases hgiven
    have hexit : given.lookup exitAfter.name = none := by
      match hlookup : given.lookup exitAfter.name with
      | none => rfl
      | some value =>
        have hexit := hknown exitAfter.name (.inl (by rw [hlookup]; rfl))
        exact absurd hexit (by decide)
    rw [parse_serve, parseCommand, scan_congr hscan hsame]
    simp [hexit]
  · cases h
  · cases h
  · cases h

end ServiceBootstrap.CommandLine
