import ServiceBootstrap.Proofs.Configuration.History

/-!
Typed access to a configuration.

The accessor of a recognized name reads through the type that is declared for it and falls back to
the default without a word, while the generic access has a look at whatever is stored. They agree
because nothing of another type is ever stored under a recognized name, and because the declared
types, the defaults and the accessors fit each other.
-/

namespace ServiceBootstrap

namespace Configuration

/-- What the accessor of a recognized name returns, as a value. -/
def accessor (c : Configuration) : Key → Value
  | .protocol => .text c.protocol
  | .host => .text c.host
  | .port => .int32 c.port
  | .rootPath => .text c.rootPath
  | .sslContext => .sslContext c.sslContext
  | .sslClientAuthentication => .clientAuth c.sslClientAuthentication

/-- Whatever is stored under a recognized name has the type that is declared for it. -/
def WellTyped (c : Configuration) : Prop :=
  ∀ (k : Key) v, c.properties.find? k.name = some v → v.type = k.type

variable {c : Configuration}

lemma accessor_of_unset {k : Key} (h : c.properties.find? k.name = none) :
    c.accessor k = k.default := by
  cases k <;> simp [accessor, protocol, host, port, rootPath, text, sslContext,
    sslClientAuthentication, h, Key.default]

lemma accessor_of_set {k : Key} {v : Value} (h : c.properties.find? k.name = some v)
    (htype : v.type = k.type) : c.accessor k = v := by
  cases k <;> cases v <;> simp [Value.type, Key.type] at htype <;>
    simp [accessor, protocol, host, port, rootPath, text, sslContext, sslClientAuthentication, h]

lemma get_of_property {name : String} {v : Value} (h : c.property name = some v) (t : ValueType) :
    c.get name t = if v.type = t then .ok (some v) else .error (.typeMismatch name t v.type) := by
  unfold get Value.cast
  rw [h]
  by_cases htype : v.type = t <;> simp [htype, Except.map]

lemma get_of_property_none {name : String} (h : c.property name = none) (t : ValueType) :
    c.get name t = .ok none := by
  unfold get
  rw [h]

/-- The generic access to a recognized name is the accessor's. -/
lemma WellTyped.property_eq (h : c.WellTyped) (k : Key) :
    c.property k.name = some (c.accessor k) := by
  unfold property
  rw [Key.ofName?_name]
  cases hfind : c.properties.find? k.name with
  | none => simp [accessor_of_unset hfind]
  | some v => simp [accessor_of_set hfind (h k v hfind)]

lemma type_accessor (c : Configuration) (k : Key) : (c.accessor k).type = k.type := by
  cases k <;> rfl

/-- A recognized name that is set reads as what is stored, and one that is not as its default. -/
lemma WellTyped.accessor_cases (h : c.WellTyped) (k : Key) :
    (k.name ∈ c.names → c.properties.find? k.name = some (c.accessor k)) ∧
    (k.name ∉ c.names → c.accessor k = k.default) := by
  have hnames : k.name ∈ c.names ↔ (c.properties.find? k.name).isSome := NameMap.mem_names
  rw [hnames]
  cases hfind : c.properties.find? k.name with
  | none => simp [accessor_of_unset hfind]
  | some v => simp [accessor_of_set hfind (h k v hfind)]

/-- Under an unrecognized name there is what was stored, and no default. -/
lemma property_of_unrecognized {name : String} (h : ∀ k : Key, k.name ≠ name) :
    c.property name = c.properties.find? name := by
  have hkey : Key.ofName? name = none := by
    cases hkey : Key.ofName? name with
    | none => rfl
    | some k => exact absurd (Key.name_of_ofName? hkey) (h k)
  unfold property
  rw [hkey, Option.map_none, Option.or_none]

end Configuration

namespace Session

/-- **The accessors and the generic access never disagree.** In every configuration that a history
leaves in a slot, a recognized name reads as its declared type and as nothing else, and what it
reads as is what its accessor returns: the stored value, or the default while it is not set. An
unrecognized name reads as the value last stored, if that is of the type asked for. -/
theorem typed_access_agrees (history : List ConfigurationCommand) {c : Slot} {it : Configuration}
    (h : (State.after history).configurations.get c = some it) :
    (∀ (k : Key) v, it.properties.find? k.name = some v → v.type = k.type) ∧
    (∀ k : Key,
      it.property k.name = some (it.accessor k) ∧
      it.get k.name k.type = .ok (some (it.accessor k)) ∧
      (k.name ∈ it.names → it.properties.find? k.name = some (it.accessor k)) ∧
      (k.name ∉ it.names → it.accessor k = k.default) ∧
      (∀ t, t ≠ k.type → it.get k.name t = .error (.typeMismatch k.name t k.type)) ∧
      ∀ t, (it.property k.name).map (·.type == t) = some true ↔ t = k.type) ∧
    ∃ changes, (lineages history).get (.configuration c) = some changes ∧
      ∀ name, (∀ k : Key, k.name ≠ name) → ∀ t,
        (it.get name t = .ok none ↔ name ∉ it.names) ∧
        (name ∉ it.names ↔ Change.stored? name changes = none) ∧
        (∀ v, it.get name t = .ok (some v) ↔ Change.stored? name changes = some v ∧ v.type = t) ∧
        ∀ v, Change.stored? name changes = some v → v.type ≠ t →
          it.get name t = .error (.typeMismatch name t v.type) := by
  obtain ⟨changes, rfl, hlineage⟩ :
      ∃ changes, (Builder.made changes).build = it ∧
        (lineages history).get (.configuration c) = some changes := by
    rcases (follows_after history).configuration c with ⟨hnone, -⟩ | ⟨changes, hsome, hlineage⟩
    · rw [h] at hnone
      cases hnone
    · exact ⟨changes, Option.some.inj (hsome.symm.trans h), hlineage⟩
  have htyped : (Builder.made changes).build.WellTyped := fun k v hv =>
    Change.type_of_stored? ((Builder.find?_made changes k.name).symm.trans hv)
  refine ⟨htyped, fun k => ?_, changes, hlineage, fun name hname t => ?_⟩
  · have hproperty := htyped.property_eq k
    have htype := Configuration.type_accessor (Builder.made changes).build k
    obtain ⟨hset, hunset⟩ := htyped.accessor_cases k
    refine ⟨hproperty, ?_, hset, hunset, fun t ht => ?_, fun t => ?_⟩
    · rw [Configuration.get_of_property hproperty, if_pos htype]
    · rw [Configuration.get_of_property hproperty, htype, if_neg (Ne.symm ht)]
    · rw [hproperty, Option.map_some, Option.some_inj, htype, beq_iff_eq, eq_comm]
  · have hfind : (Builder.made changes).build.property name = Change.stored? name changes :=
      (Configuration.property_of_unrecognized hname).trans (Builder.find?_made changes name)
    have hnames :
        name ∈ (Builder.made changes).build.names ↔ (Change.stored? name changes).isSome := by
      rw [← Builder.find?_made]
      exact NameMap.mem_names
    rw [hnames]
    cases hstored : Change.stored? name changes with
    | none =>
      rw [Configuration.get_of_property_none (hfind.trans hstored)]
      simp
    | some v =>
      rw [Configuration.get_of_property (hfind.trans hstored)]
      by_cases hv : v.type = t
      · simp [hv, eq_comm]
      · simp [hv]

/-- A port, what is set in its place but is no port, and a value of somebody else's type. -/
theorem typed_access_agrees_port :
    let history : List ConfigurationCommand :=
      [.new "b", .set "b" (.port 8080), .set "b" (.property "port" (some (.text "none"))),
        .set "b" (.property "limit" (some (.foreign 1 "u64" 10))), .build "b" "c"]
    ∃ it, (State.after history).configurations.get "c" = some it ∧
      it.get "port" .int32 = .ok (some (.int32 8080)) ∧
      it.get "port" .text = .error (.typeMismatch "port" .text .int32) ∧
      it.get "limit" .int32 = .error (.typeMismatch "limit" .int32 (.foreign 1 "u64")) := by
  intro history
  let it : Configuration :=
    ⟨⟨[("limit", .foreign 1 "u64" 10), ("port", .int32 8080)], by decide⟩⟩
  have hit : (State.after history).configurations.get "c" = some it := rfl
  obtain ⟨-, hkeys, changes, hlineage, hothers⟩ := typed_access_agrees history hit
  obtain ⟨-, hport, -, -, hmismatch, -⟩ := hkeys .port
  refine ⟨it, hit, hport, hmismatch .text (by decide), ?_⟩
  obtain ⟨-, -, -, hforeign⟩ := hothers "limit" (by rintro ⟨⟩ <;> decide) .int32
  cases hlineage
  exact hforeign (.foreign 1 "u64" 10) rfl (by decide)

end Session

end ServiceBootstrap
