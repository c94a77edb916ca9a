import Mathlib.Data.List.Forall2
import ServiceBootstrap.Proofs.Configuration.Typed
import ServiceBootstrap.Proofs.NameMap
import ServiceBootstrap.Settings.Load

/-!
What settings and overrides come to when they are put together.

Everything passes through the one setter of the builder: first the free properties, each as a text,
then the settings of the server over them. A text under a name that wants something else is lost,
and one under a name that wants a text is overwritten, so a recognized name takes its value from the
server alone and an unrecognized one from the properties alone.
-/

namespace ServiceBootstrap

/-! ### The word for a policy -/

namespace ClientAuth

def smallLetters : ClientAuth → List Char
  | none => ['n', 'o', 'n', 'e']
  | optional => ['o', 'p', 't', 'i', 'o', 'n', 'a', 'l']
  | mandatory => ['m', 'a', 'n', 'd', 'a', 't', 'o', 'r', 'y']

/-- A character is the small letter, or its capital. -/
def IsLetter (c small : Char) : Prop := c = small ∨ c.toNat + 32 = small.toNat

/-- A word spells the name of a policy, in letters of any case. -/
def Spelled (word : String) (policy : ClientAuth) : Prop :=
  List.Forall₂ IsLetter word.toList policy.smallLetters

lemma toNat_toUpper (c : Char) :
    c.toUpper.toNat = if 97 ≤ c.toNat ∧ c.toNat ≤ 122 then c.toNat - 32 else c.toNat := by
  have hsmall : ('a'.val ≤ c.val ∧ c.val ≤ 'z'.val) ↔ (97 ≤ c.toNat ∧ c.toNat ≤ 122) := by
    rw [UInt32.le_iff_toNat_le, UInt32.le_iff_toNat_le]
    rfl
  unfold Char.toUpper
  by_cases h : 97 ≤ c.toNat ∧ c.toNat ≤ 122
  · rw [dif_pos (hsmall.2 h), if_pos h]
    change (c.val + ('A'.val - 'a'.val)).toNat = c.toNat - 32
    rw [UInt32.toNat_add]
    -- going down by 32 is going up by as much as is missing to the whole word
    change (c.toNat + 4294967264) % 4294967296 = c.toNat - 32
    omega
  · rw [dif_neg (mt hsmall.1 h), if_neg h]

lemma toUpper_eq_iff {c small : Char} (h : 97 ≤ small.toNat ∧ small.toNat ≤ 122) :
    c.toUpper = small.toUpper ↔ IsLetter c small := by
  have hnat : c.toUpper = small.toUpper ↔ c.toUpper.toNat = small.toUpper.toNat :=
    ⟨congrArg Char.toNat, fun h => Char.ext (UInt32.toNat_inj.1 h)⟩
  have hsame : c = small ↔ c.toNat = small.toNat :=
    ⟨congrArg Char.toNat, fun h => Char.ext (UInt32.toNat_inj.1 h)⟩
  rw [hnat, toNat_toUpper, toNat_toUpper, if_pos h, IsLetter, hsame]
  split <;> omega

lemma map_toUpper_eq_iff {smalls : List Char}
    (h : ∀ c ∈ smalls, 97 ≤ c.toNat ∧ c.toNat ≤ 122) (cs : List Char) :
    cs.map Char.toUpper = smalls.map Char.toUpper ↔ List.Forall₂ IsLetter cs smalls := by
  induction smalls generalizing cs with
  | nil => cases cs <;> simp
  | cons small smalls ih =>
    obtain ⟨hsmall, hsmalls⟩ := List.forall_mem_cons.1 h
    cases cs with
    | nil => simp
    | cons c cs =>
      rw [List.map_cons, List.map_cons, List.cons.injEq, toUpper_eq_iff hsmall, ih hsmalls,
        List.forall₂_cons]

lemma word_eq_toUpper_iff {word : String} {policy : ClientAuth} :
    policy.word = word.toUpper ↔ Spelled word policy := by
  have hletters : ∀ c ∈ policy.smallLetters, 97 ≤ c.toNat ∧ c.toNat ≤ 122 := by
    cases policy <;> simp [smallLetters]
  have hword : policy.word.toList = policy.smallLetters.map Char.toUpper := by
    cases policy <;> decide
  rw [Spelled, ← map_toUpper_eq_iff hletters, ← hword, ← String.toList_inj, String.toUpper,
    String.toList_map, eq_comm]

lemma find?_word_eq_some_iff {text : String} {policy : ClientAuth} :
    all.find? (·.word == text) = some policy ↔ policy.word = text := by
  constructor
  · intro h
    simpa using List.find?_some h
  · rintro rfl
    cases policy <;> rfl

/-- A word is read as the policy whose name it spells. -/
lemma ofWord_eq_ok_iff {word : String} {policy : ClientAuth} :
    ofWord word = .ok policy ↔ Spelled word policy := by
  rw [← word_eq_toUpper_iff, ← find?_word_eq_some_iff]
  unfold ofWord
  cases all.find? (·.word == word.toUpper) <;> simp

lemma ofWord_eq_error {word : String} {e : UnknownWord} (h : ofWord word = .error e) :
    e = ⟨word⟩ ∧ ∀ policy, ¬ Spelled word policy := by
  have hword : e = ⟨word⟩ := by
    unfold ofWord at h
    cases hfind : all.find? (·.word == word.toUpper) with
    | none => rw [hfind] at h; exact (Except.error.inj h).symm
    | some policy => rw [hfind] at h; cases h
  refine ⟨hword, fun policy hspelled => ?_⟩
  rw [ofWord_eq_ok_iff.2 hspelled] at h
  cases h

end ClientAuth

/-! ### One setter for everything -/

/-- A name is recognized. -/
def Key.Names (name : String) : Prop := ∃ k : Key, k.name = name

namespace Builder

lemma find?_set (b : Builder) {k : Key} {v : Value} (h : v.type = k.type) (name : String) :
    (b.property k.name (some v)).properties.find? name =
      if k.name = name then some v else b.properties.find? name := by
  have heffective : Change.Effective ⟨k.name, some v⟩ := by
    intro k' _ hk'
    have hkey : some k' = some k := by rw [← Key.ofName?_name k', hk', Key.ofName?_name]
    rw [h, Option.some.inj hkey]
  have happly : (b.property k.name (some v)).properties.find? name = _ :=
    find?_apply b ⟨k.name, some v⟩ name
  rw [happly]
  simp [heffective]

/-- Texts are set one after the other. -/
def withTexts (b : Builder) (entries : List (String × String)) : Builder :=
  entries.foldl (fun b e => b.property e.1 (some (.text e.2))) b

/-- A text can be kept under a name. -/
def TakesText (name : String) : Prop := ∀ k ∈ Key.all, k.name = name → k.type = .text

instance (name : String) : Decidable (TakesText name) :=
  inferInstanceAs (Decidable (∀ k ∈ Key.all, k.name = name → k.type = .text))

lemma find?_withTexts {entries : List (String × String)}
    (hascending : entries.Pairwise fun x y => x.1 < y.1) (b : Builder) (name : String) :
    (b.withTexts entries).properties.find? name =
      if TakesText name then ((entries.lookup name).map .text).or (b.properties.find? name)
      else b.properties.find? name := by
  induction entries generalizing b with
  | nil => simp [withTexts]
  | cons e entries ih =>
    obtain ⟨hfirst, hrest⟩ := List.pairwise_cons.1 hascending
    have hset : (b.property e.1 (some (.text e.2))).properties.find? name =
        if e.1 = name ∧ TakesText e.1 then some (.text e.2) else b.properties.find? name := by
      have hchange : Change.Effective ⟨e.1, some (.text e.2)⟩ ↔ TakesText e.1 :=
        forall₃_congr fun k _ _ => eq_comm
      have happly := find?_apply b ⟨e.1, some (.text e.2)⟩ name
      simp only [hchange] at happly
      exact happly
    have hlater : (b.withTexts (e :: entries)).properties.find? name = _ :=
      ih hrest (b.property e.1 (some (.text e.2)))
    rw [hlater, hset, List.lookup_cons]
    by_cases hname : e.1 = name
    · -- a name stands in a map once
      have hnone : entries.lookup name = none := by
        rw [List.lookup_eq_none_iff]
        intro d hd
        have hlt : name < d.1 := hname ▸ hfirst d hd
        exact bne_iff_ne.2 fun hsame => String.lt_irrefl name (hsame ▸ hlt)
      subst hname
      by_cases htakes : TakesText e.1 <;> simp [hnone, htakes]
    · have hother : ¬ (e.1 = name ∧ TakesText e.1) := fun h => hname h.1
      rw [if_neg hother, beq_false_of_ne (Ne.symm hname)]

end Builder

namespace Settings

variable (s : Settings) (o : Overrides)

/-- What the server and the overrides give a recognized name. -/
def given (policy : ClientAuth) : Key → Option Value
  | .protocol => some (.text (o.protocol?.getD s.server.protocol))
  | .host => some (.text (o.host?.getD s.server.host))
  | .port => some (.int32 (o.port?.getD s.server.port))
  | .rootPath => some (.text (Hello.normalizeRoot (o.rootPath?.getD s.server.rootPath)))
  | .sslContext => none
  | .sslClientAuthentication => some (.clientAuth policy)

variable {s : Settings} {o : Overrides} {b : Builder}

lemma toBuilder_eq_error {e : LoadFailure} (h : s.toBuilder o = .error e) :
    e = .unknownPolicy ⟨s.server.clientAuth⟩ ∧
      ∀ policy, ¬ ClientAuth.Spelled s.server.clientAuth policy := by
  unfold toBuilder at h
  cases hword : ClientAuth.ofWord s.server.clientAuth with
  | error unknown =>
    rw [hword] at h
    obtain ⟨rfl, hnone⟩ := ClientAuth.ofWord_eq_error hword
    exact ⟨(Except.error.inj h).symm, hnone⟩
  | ok policy =>
    rw [hword] at h
    cases h

/-- What a builder holds under any name, the last to be set first. -/
lemma find?_toBuilder (h : s.toBuilder o = .ok b) :
    ∃ policy, ClientAuth.Spelled s.server.clientAuth policy ∧
      (∀ k : Key, b.properties.find? k.name = given s o policy k) ∧
      ∀ name, ¬ Key.Names name →
        b.properties.find? name = (s.properties.find? name).map .text := by
  unfold toBuilder at h
  cases hword : ClientAuth.ofWord s.server.clientAuth with
  | error unknown =>
    rw [hword] at h
    cases h
  | ok policy =>
    rw [hword] at h
    have hset : ∀ name, b.properties.find? name =
        if Key.sslClientAuthentication.name = name then some (.clientAuth policy)
        else if Key.rootPath.name = name then given s o policy .rootPath
        else if Key.port.name = name then given s o policy .port
        else if Key.host.name = name then given s o policy .host
        else if Key.protocol.name = name then given s o policy .protocol
        else (Builder.new.withTexts s.properties.entries).properties.find? name := by
      intro name
      obtain rfl := Except.ok.inj h
      dsimp only [Builder.sslClientAuthentication, Builder.rootPath, Builder.port, Builder.host,
        Builder.protocol]
      rw [Builder.find?_set _ rfl, Builder.find?_set _ rfl, Builder.find?_set _ rfl,
        Builder.find?_set _ rfl, Builder.find?_set _ rfl]
      rfl
    have htexts : ∀ name, (Builder.new.withTexts s.properties.entries).properties.find? name =
        if Builder.TakesText name then (s.properties.find? name).map .text else none := by
      intro name
      have hnew : Builder.new.properties.find? name = none := rfl
      rw [Builder.find?_withTexts s.properties.ascending, hnew, Option.or_none]
      rfl
    refine ⟨policy, ClientAuth.ofWord_eq_ok_iff.1 hword, fun k => ?_, fun name hname => ?_⟩
    · rw [hset]
      cases k with
      | sslContext =>
        -- nobody sets it, and a text is not kept under it
        have hrefused : ¬ Builder.TakesText Key.sslContext.name := by decide
        rw [htexts, if_neg hrefused]
        rfl
      | _ => rfl
    · have hother : ∀ k : Key, k.name ≠ name := fun k hk => hname ⟨k, hk⟩
      have htakes : Builder.TakesText name := fun k _ hk => absurd hk (hother k)
      rw [hset, if_neg (hother _), if_neg (hother _), if_neg (hother _), if_neg (hother _),
        if_neg (hother _), htexts, if_pos htakes]

/-- The names that are always set. -/
def settledNames : List String :=
  ["protocol", "host", "port", "rootPath", "sslClientAuthentication"]

lemma mem_names_toBuilder (h : s.toBuilder o = .ok b) (name : String) :
    name ∈ b.build.names ↔
      name ∈ settledNames ∨ name ∈ s.properties.names ∧ name ≠ "sslContext" := by
  obtain ⟨policy, -, hkeys, hothers⟩ := find?_toBuilder h
  have hnames : name ∈ b.build.names ↔ (b.properties.find? name).isSome := NameMap.mem_names
  rw [hnames, NameMap.mem_names]
  by_cases hname : Key.Names name
  · obtain ⟨k, rfl⟩ := hname
    rw [hkeys k]
    cases k <;> simp [given, settledNames, Key.name]
  · have hsettled : name ∉ settledNames := by
      intro hmem
      have hall : ∀ n ∈ settledNames, ∃ k ∈ Key.all, k.name = n := by decide
      obtain ⟨k, -, hk⟩ := hall name hmem
      exact hname ⟨k, hk⟩
    have hcontext : name ≠ "sslContext" := fun heq => hname ⟨.sslContext, heq.symm⟩
    rw [hothers name hname, Option.isSome_map]
    simp [hsettled, hcontext]

/-- Properties under recognized names are of no consequence. -/
lemma toBuilder_congr {t : Settings} (hserver : t.server = s.server)
    (hproperties : ∀ name, ¬ Key.Names name →
      t.properties.find? name = s.properties.find? name)
    (h : s.toBuilder o = .ok b) : t.toBuilder o = .ok b := by
  cases ht : t.toBuilder o with
  | error e =>
    obtain ⟨policy, hspelled, -⟩ := find?_toBuilder h
    have hnone := (toBuilder_eq_error ht).2 policy
    rw [hserver] at hnone
    exact absurd hspelled hnone
  | ok d =>
    obtain ⟨policy, hspelled, hkeys, hothers⟩ := find?_toBuilder h
    obtain ⟨policy', hspelled', hkeys', hothers'⟩ := find?_toBuilder ht
    have hpolicy : policy' = policy := by
      rw [hserver, ← ClientAuth.ofWord_eq_ok_iff] at hspelled'
      rw [← ClientAuth.ofWord_eq_ok_iff, hspelled'] at hspelled
      exact Except.ok.inj hspelled
    have hgiven : given t o policy' = given s o policy := by
      funext k
      cases k <;> simp [given, hserver, hpolicy]
    have hfind : ∀ name, d.properties.find? name = b.properties.find? name := by
      intro name
      by_cases hname : Key.Names name
      · obtain ⟨k, rfl⟩ := hname
        rw [hkeys', hkeys, hgiven]
      · rw [hothers' name hname, hothers name hname, hproperties name hname]
    have hsame : d.properties = b.properties := NameMap.eq_of_find?_eq hfind
    exact congrArg (fun properties => Except.ok (Builder.mk properties)) hsame

/-- **Overrides go before the file, and both before the properties.** A builder is refused just for
a word that spells no policy, whatever the overrides are. Otherwise each accessor returns the
override if there is one and else the setting of the server, the root with a slash in front of it.
The names are those five and the names of the properties, but for that of the context, which stays
the platform's own. Properties under other names are kept as they are; those under recognized names
make no difference at all. -/
theorem toBuilder_precedence (s : Settings) (o : Overrides) :
    ((∃ e, s.toBuilder o = .error e) ↔
      ∀ policy, ¬ ClientAuth.Spelled s.server.clientAuth policy) ∧
    (∀ e, s.toBuilder o = .error e → e = .unknownPolicy ⟨s.server.clientAuth⟩) ∧
    ∀ b, s.toBuilder o = .ok b →
      let c := b.build
      let root := o.rootPath?.getD s.server.rootPath
      c.protocol = o.protocol?.getD s.server.protocol ∧
      c.host = o.host?.getD s.server.host ∧
      c.port = o.port?.getD s.server.port ∧
      c.rootPath = (if root.toList.head? = some '/' then root else "/" ++ root) ∧
      ClientAuth.Spelled s.server.clientAuth c.sslClientAuthentication ∧
      c.sslContext = .platformDefault ∧
      c.names.Pairwise (fun a b => Text.bytes a < Text.bytes b) ∧
      (∀ name, name ∈ c.names ↔
        name ∈ settledNames ∨ name ∈ s.properties.names ∧ name ≠ "sslContext") ∧
      (∀ name, ¬ Key.Names name →
        c.property name = (s.properties.find? name).map .text ∧
        ∀ text, s.properties.find? name = some text →
          c.get name .text = .ok (some (.text text))) ∧
      ∀ t : Settings, t.server = s.server →
        (∀ name, ¬ Key.Names name → t.properties.find? name = s.properties.find? name) →
        t.toBuilder o = .ok b := by
  refine ⟨⟨fun ⟨e, he⟩ => (toBuilder_eq_error he).2, fun hnone => ?_⟩,
    fun e he => (toBuilder_eq_error he).1, fun b hb => ?_⟩
  · cases hresult : s.toBuilder o with
    | error e => exact ⟨e, rfl⟩
    | ok b =>
      obtain ⟨policy, hspelled, -⟩ := find?_toBuilder hresult
      exact absurd hspelled (hnone policy)
  · intro c root
    obtain ⟨policy, hspelled, hkeys, hothers⟩ := find?_toBuilder hb
    have hset : ∀ {k : Key} {v : Value}, given s o policy k = some v → v.type = k.type →
        c.accessor k = v := fun hgiven htype =>
      Configuration.accessor_of_set ((hkeys _).trans hgiven) htype
    have hprotocol := hset (k := .protocol) rfl rfl
    have hhost := hset (k := .host) rfl rfl
    have hport := hset (k := .port) rfl rfl
    have hroot := hset (k := .rootPath) rfl rfl
    have hpolicy := hset (k := .sslClientAuthentication) rfl rfl
    have hcontext : c.accessor .sslContext = Key.sslContext.default :=
      Configuration.accessor_of_unset (hkeys .sslContext)
    have hproperty : ∀ name, ¬ Key.Names name →
        c.property name = (s.properties.find? name).map .text := fun name hname =>
      (Configuration.property_of_unrecognized fun k hk => hname ⟨k, hk⟩).trans (hothers name hname)
    refine ⟨Value.text.inj hprotocol, Value.text.inj hhost, Value.int32.inj hport,
      Value.text.inj hroot, ?_, Value.sslContext.inj hcontext, ?_, mem_names_toBuilder hb,
      fun name hname => ⟨hproperty name hname, fun text htext => ?_⟩,
      fun t hserver hproperties => toBuilder_congr hserver hproperties hb⟩
    · rw [Value.clientAuth.inj hpolicy]
      exact hspelled
    · exact (NameMap.ascending_names _).imp Text.lt_iff_bytes_lt.1
    · have hvalue : c.property name = some (.text text) := by rw [hproperty name hname, htext]; rfl
      have htype : (Value.text text).type = .text := rfl
      rw [Configuration.get_of_property hvalue, if_pos htype]

/-- A text is overwritten under one name, lost under two others and kept under the last. -/
example :
    let s : Settings :=
      { server := { clientAuth := "Optional" }
        properties := .ofList [("host", "x"), ("port", "9"), ("sslContext", "y"), ("z", "1")] }
    (s.toBuilder {}).toOption.map (fun b => (b.build.names, b.build.host, b.build.port)) =
      some (["host", "port", "protocol", "rootPath", "sslClientAuthentication", "z"],
        "localhost", -1) := by
  decide +kernel

end Settings

end ServiceBootstrap
