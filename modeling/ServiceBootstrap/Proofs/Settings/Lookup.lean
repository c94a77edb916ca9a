import Mathlib.Tactic.Lemma
import ServiceBootstrap.Files.Directory
import ServiceBootstrap.Settings.Load

/-!
Which file settles the settings.

At most one path decides: the explicit one, or else the first candidate that is a regular file. What
it comes to is told by its bytes alone, from the failure to read them down to the settings they
stand for, and there is no way back from any of these failures to a later candidate. So no other
file can make a difference, except by being there in front.
-/

namespace ServiceBootstrap.Settings

variable {files other : Files} {userDirectory? explicit? : Option String} {path : String}

def userFile (directory : String) : String :=
  Files.join (Files.join directory "bootwire") "bootwire.toml"

/-- A path decides: it was named, or it is the first candidate to be a regular file. -/
inductive Decides (files : Files) (userDirectory? : Option String) :
    Option String → String → Prop where
  | named (path : String) : Decides files userDirectory? (some path) path
  | working (file : files.isFile "bootwire.toml") :
    Decides files userDirectory? none "bootwire.toml"
  | user {directory : String} (given : userDirectory? = some directory)
    (skipped : ¬ files.isFile "bootwire.toml") (file : files.isFile (userFile directory)) :
    Decides files userDirectory? none (userFile directory)

/-- What looking for settings comes to if a path decides. -/
inductive ComesTo (files : Files) (path : String) :
    Except LoadFailure (Settings × Source) → Prop where
  | unreadable {cause : IoFailure} (read : files.read path = .error cause) :
    ComesTo files path (.error (.read path cause))
  | notText {bytes : List UInt8} (read : files.read path = .ok bytes)
    (text : Text.Utf8.strict? bytes = none) :
    ComesTo files path (.error (.read path Files.notText))
  | malformed {bytes : List UInt8} {cs : List Char} (read : files.read path = .ok bytes)
    (text : Text.Utf8.strict? bytes = some cs) (parse : Toml.parse? cs = none) :
    ComesTo files path (.error (.malformed path))
  | misfit {bytes : List UInt8} {cs : List Char} {es : Toml.Entries} {m : Misfit}
    (read : files.read path = .ok bytes) (text : Text.Utf8.strict? bytes = some cs)
    (parse : Toml.parse? cs = some es) (decode : decode es = .error m) :
    ComesTo files path (.error (.misfit path m))
  | settings {bytes : List UInt8} {cs : List Char} {es : Toml.Entries} {s : Settings}
    (read : files.read path = .ok bytes) (text : Text.Utf8.strict? bytes = some cs)
    (parse : Toml.parse? cs = some es) (decode : decode es = .ok s) :
    ComesTo files path (.ok (s, .file path))

lemma comesTo_ofFile (files : Files) (path : String) :
    ComesTo files path ((ofFile files path).map (·, .file path)) := by
  unfold ofFile Files.readText
  cases hread : files.read path with
  | error cause => exact .unreadable hread
  | ok bytes =>
    dsimp only
    cases htext : Text.Utf8.strict? bytes with
    | none => exact .notText hread htext
    | some cs =>
      dsimp only
      cases hparse : Toml.parse? cs with
      | none => exact .malformed hread htext hparse
      | some es =>
        dsimp only
        cases hdecode : decode es with
        | error m => exact .misfit hread htext hparse hdecode
        | ok s => exact .settings hread htext hparse hdecode

lemma ofFile_congr (h : other.read path = files.read path) :
    ofFile other path = ofFile files path := by
  unfold ofFile Files.readText
  rw [h]

/-- The first candidate that is a regular file decides, unless a path is named. -/
lemma decides_iff : Decides files userDirectory? explicit? path ↔
    explicit?.or ((candidates userDirectory?).find? files.isFile) = some path := by
  constructor
  · rintro (_ | hfile | ⟨rfl, hskipped, hfile⟩)
    · rfl
    · exact List.find?_cons_of_pos hfile
    · exact (List.find?_cons_of_neg hskipped).trans (List.find?_cons_of_pos hfile)
  · intro h
    cases explicit? with
    | some _ =>
      cases h
      exact .named path
    | none =>
      rw [Option.none_or, candidates] at h
      by_cases hworking : files.isFile fileName
      · rw [List.find?_cons_of_pos hworking] at h
        cases h
        exact .working hworking
      · rw [List.find?_cons_of_neg hworking] at h
        cases userDirectory? with
        | none => cases h
        | some directory =>
          have hfile := List.find?_some h
          cases List.mem_singleton.1 (List.mem_of_find?_eq_some h)
          exact .user rfl hworking hfile

lemma discover_of_decides (h : Decides files userDirectory? explicit? path) :
    discover files userDirectory? explicit? = (ofFile files path).map (·, .file path) := by
  rw [discover, decides_iff.1 h]

lemma discover_of_none (h : ∀ path, ¬ Decides files userDirectory? explicit? path) :
    discover files userDirectory? explicit? = .ok ({}, .defaults) := by
  have hnone : explicit?.or ((candidates userDirectory?).find? files.isFile) = none :=
    Option.eq_none_iff_forall_ne_some.2 fun path hpath => h path (decides_iff.2 hpath)
  rw [discover, hnone]

/-- Whether the candidates are regular files settles which path decides. -/
lemma Decides.congr (h : Decides files userDirectory? explicit? path)
    (hkinds : explicit? = none →
      ∀ path ∈ candidates userDirectory?, other.isFile path = files.isFile path) :
    Decides other userDirectory? explicit? path := by
  have hworking : fileName ∈ candidates userDirectory? := List.mem_cons_self
  cases h with
  | named => exact .named path
  | working hfile => exact .working ((hkinds rfl _ hworking).trans hfile)
  | user hgiven hskipped hfile =>
    subst hgiven
    have hfirst : other.isFile "bootwire.toml" = files.isFile "bootwire.toml" :=
      hkinds rfl _ hworking
    have huser := hkinds rfl _ (List.mem_cons_of_mem _ List.mem_cons_self)
    exact .user rfl (by rwa [hfirst]) (huser.trans hfile)

/-- **One file settles the settings.** A path that decides, and there is at most one, settles them
with its own content or its own failure; if no path is named and neither candidate is a regular
file, the defaults hold. Another disk gives the same if its candidates are regular files where these
are and it has the same to read at the path that decides; nothing else that it holds matters. In a
directory, missing entries and directories are never taken for regular files, and nothing but a
failure is read of them. -/
theorem one_file_decides (files : Files) (userDirectory? explicit? : Option String) :
    (∀ path, Decides files userDirectory? explicit? path →
      ComesTo files path (discover files userDirectory? explicit?)) ∧
    (∀ path path', Decides files userDirectory? explicit? path →
      Decides files userDirectory? explicit? path' → path' = path) ∧
    (explicit? = none → ¬ files.isFile "bootwire.toml" →
      (∀ directory, userDirectory? = some directory → ¬ files.isFile (userFile directory)) →
      discover files userDirectory? explicit? = .ok ({}, .defaults)) ∧
    (∀ other : Files,
      (explicit? = none →
        ∀ path ∈ candidates userDirectory?, other.isFile path = files.isFile path) →
      (∀ path, Decides files userDirectory? explicit? path →
        other.read path = files.read path) →
      discover other userDirectory? explicit? = discover files userDirectory? explicit?) ∧
    ∀ d : Directory, files = d.files → ∀ path,
      (∀ bytes, d.resolve path = .ok (.file bytes) →
        files.isFile path ∧ files.read path = .ok bytes) ∧
      (d.resolve path = .ok .directory →
        ¬ files.isFile path ∧ files.read path = .error Files.isADirectory) ∧
      ∀ cause, d.resolve path = .error cause →
        ¬ files.isFile path ∧ files.read path = .error cause := by
  refine ⟨fun path hpath => ?_, fun path path' hpath hpath' => ?_,
    fun hexplicit hworking huser => discover_of_none fun path hpath => ?_,
    fun other hkinds hread => ?_, ?_⟩
  · rw [discover_of_decides hpath]
    exact comesTo_ofFile files path
  · exact Option.some.inj ((decides_iff.1 hpath').symm.trans (decides_iff.1 hpath))
  · cases hpath with
    | named => cases hexplicit
    | working hfile => exact hworking hfile
    | user hgiven _ hfile => exact huser _ hgiven hfile
  · by_cases hdecided : ∃ path, Decides files userDirectory? explicit? path
    · obtain ⟨path, hpath⟩ := hdecided
      rw [discover_of_decides hpath, discover_of_decides (hpath.congr hkinds),
        ofFile_congr (hread path hpath)]
    · have hnone := not_exists.1 hdecided
      rw [discover_of_none hnone, discover_of_none fun path hpath => hnone path
        (hpath.congr fun hexplicit path hmem => (hkinds hexplicit path hmem).symm)]
  · rintro d rfl path
    refine ⟨fun bytes h => ?_, fun h => ?_, fun cause h => ?_⟩ <;> simp [Directory.files, h]

end ServiceBootstrap.Settings
