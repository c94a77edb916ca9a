import Mathlib.Data.List.Induction
import ServiceBootstrap.Proofs.Text.ByteOrder
import ServiceBootstrap.Session.Run

/-!
What builders and configurations hold, told by their histories.

A history is any list of commands on any number of slots. Whatever is in a slot has a lineage: the
changes it has been through itself, behind those of what it was copied, built or seeded from, up to
that moment. An object is what a new builder becomes by its lineage alone, and under each name it
holds what the last change in the lineage that has an effect on the name has left there.
-/

namespace ServiceBootstrap

lemma Key.mem_all (k : Key) : k ∈ Key.all := by cases k <;> decide

/-- A property is set, or reset. -/
structure Change where
  name : String
  value? : Option Value

namespace Change

/-- A reset has an effect, and so has a value of the type that is declared for its name, if there is
one. -/
def Effective : Change → Prop
  | ⟨_, none⟩ => True
  | ⟨name, some v⟩ => ∀ k ∈ Key.all, k.name = name → v.type = k.type

instance : DecidablePred Effective
  | ⟨_, none⟩ => inferInstanceAs (Decidable True)
  | ⟨name, some v⟩ => inferInstanceAs (Decidable (∀ k ∈ Key.all, k.name = name → v.type = k.type))

lemma admits_iff_effective {name : String} {v : Value} :
    admits name v ↔ Effective ⟨name, some v⟩ := by
  unfold admits Effective
  cases hkey : Key.ofName? name with
  | none =>
    refine iff_of_true rfl fun k _ hk => ?_
    rw [← hk, Key.ofName?_name] at hkey
    cases hkey
  | some k =>
    have hname : k.name = name := Key.name_of_ofName? hkey
    refine ⟨fun h k' _ hk' => ?_, fun h => ?_⟩
    · rw [← hk', Key.ofName?_name] at hkey
      cases hkey
      exact eq_of_beq h
    · exact beq_iff_eq.2 (h k k.mem_all hname)

/-- The last change that has an effect on a name. -/
def lastEffective? (name : String) (changes : List Change) : Option Change :=
  (changes.filter fun change => change.name = name ∧ change.Effective).getLast?

/-- What is stored under a name behind a list of changes. -/
def stored? (name : String) (changes : List Change) : Option Value :=
  (lastEffective? name changes).bind value?

lemma type_of_stored? {k : Key} {changes : List Change} {v : Value}
    (h : stored? k.name changes = some v) : v.type = k.type := by
  obtain ⟨⟨name, v?⟩, hlast, rfl⟩ := Option.bind_eq_some_iff.1 h
  obtain ⟨-, hchange⟩ := List.mem_filter.1 (List.mem_of_getLast? hlast)
  obtain ⟨hname, heffective⟩ := of_decide_eq_true hchange
  exact heffective k k.mem_all hname.symm

end Change

namespace Builder

def apply (b : Builder) (change : Change) : Builder := b.property change.name change.value?

/-- What a new builder becomes by a list of changes. -/
def made (changes : List Change) : Builder := changes.foldl apply new

lemma made_concat (changes : List Change) (change : Change) :
    made (changes ++ [change]) = (made changes).apply change := by
  simp [made]

lemma find?_apply (b : Builder) (change : Change) (name : String) :
    (b.apply change).properties.find? name =
      if change.name = name ∧ change.Effective then change.value? else b.properties.find? name := by
  obtain ⟨changed, v?⟩ := change
  cases v? with
  | none =>
    change (b.properties.erase changed).find? name = _
    by_cases hname : changed = name
    · simp [hname, Change.Effective]
    · rw [if_neg (fun h => hname h.1), NameMap.find?_erase_of_ne _ (Ne.symm hname)]
  | some v =>
    have happly : b.apply ⟨changed, some v⟩ =
        if admits changed v then ⟨b.properties.insert changed v⟩ else b := rfl
    rw [happly]
    by_cases heffective : Change.Effective ⟨changed, some v⟩
    · rw [if_pos (Change.admits_iff_effective.2 heffective)]
      by_cases hname : changed = name
      · subst hname
        simp [heffective]
      · rw [if_neg (fun h => hname h.1), NameMap.find?_insert_of_ne _ _ (Ne.symm hname)]
    · rw [if_neg (fun h => heffective (Change.admits_iff_effective.1 h)),
        if_neg (fun h => heffective h.2)]

lemma find?_made (changes : List Change) (name : String) :
    (made changes).properties.find? name = Change.stored? name changes := by
  induction changes using List.reverseRecOn with
  | nil => rfl
  | append_singleton changes change ih =>
    rw [made_concat, find?_apply, ih, Change.stored?, Change.stored?, Change.lastEffective?,
      Change.lastEffective?, List.filter_append, List.getLast?_append]
    split
    · next h => simp [h]
    · next h => simp [h]

end Builder

namespace Session

/-! ### Lineages -/

/-- A slot for a builder or for a configuration. -/
inductive Object where
  | builder (b : Slot)
  | configuration (c : Slot)
  deriving DecidableEq

/-- What is stored explicitly in an object. -/
def State.properties? (s : State) : Object → Option (NameMap Value)
  | .builder b => (s.builders.get b).map (·.properties)
  | .configuration c => (s.configurations.get c).map (·.properties)

def Setting.change : Setting → Change
  | property name v? => ⟨name, v?⟩
  | protocol s => ⟨Key.protocol.name, some (.text s)⟩
  | host s => ⟨Key.host.name, some (.text s)⟩
  | port n => ⟨Key.port.name, some (.int32 n)⟩
  | rootPath s => ⟨Key.rootPath.name, some (.text s)⟩
  | sslContext context => ⟨Key.sslContext.name, some (.sslContext context)⟩
  | sslClientAuthentication policy => ⟨Key.sslClientAuthentication.name, some (.clientAuth policy)⟩

/-- An object is made from another one or from nothing, by changes. -/
structure Making where
  target : Object
  source? : Option Object := none
  changes : List Change := []

/-- What a command makes, if its source is there. -/
def ConfigurationCommand.making? : ConfigurationCommand → Option Making
  | new b => some { target := .builder b }
  | set b setting =>
    some { target := .builder b, source? := some (.builder b), changes := [setting.change] }
  | copyBuilder b target => some { target := .builder target, source? := some (.builder b) }
  | copyConfiguration c target =>
    some { target := .configuration target, source? := some (.configuration c) }
  | build b c => some { target := .configuration c, source? := some (.builder b) }
  | defaultConfiguration c => some { target := .configuration c }
  | toBuilder c b => some { target := .builder b, source? := some (.configuration c) }
  | describeBuilder _ | describe _ | accessors _ | property .. | get .. | hasType .. | material ..
  | cast .. => none

/-- The changes that every object has been through. -/
abbrev Lineages := Table Object (Option (List Change))

def Making.record (m : Making) (t : Lineages) : Lineages :=
  match m.source? with
  | none => t.set m.target (some m.changes)
  | some source =>
    match t.get source with
    | some changes => t.set m.target (some (changes ++ m.changes))
    | none => t

def ConfigurationCommand.record (command : ConfigurationCommand) (t : Lineages) : Lineages :=
  match command.making? with
  | some m => m.record t
  | none => t

def lineages (history : List ConfigurationCommand) : Lineages :=
  history.foldl (fun t command => command.record t) (.const none)

/-- A session in which nothing but the commands of a history has happened. -/
def State.after (history : List ConfigurationCommand) : State :=
  history.foldl (fun s command => (command.run s).2) {}

/-- Every object is what a new builder becomes by the changes in its lineage. -/
def Follows (s : State) (t : Lineages) : Prop :=
  ∀ o, s.properties? o = (t.get o).map fun changes => (Builder.made changes).properties

/-! ### One command -/

lemma withSlot_of_none {α : Type} {table : Table Slot (Option α)} {slot : Slot}
    (h : table.get slot = none) (s : State) (f : α → Reply × State) :
    withSlot table slot s f = (.gone, s) := by
  unfold withSlot
  rw [h]

lemma withSlot_of_some {α : Type} {table : Table Slot (Option α)} {slot : Slot} {a : α}
    (h : table.get slot = some a) (s : State) (f : α → Reply × State) :
    withSlot table slot s f = f a := by
  unfold withSlot
  rw [h]

/-- A command that only looks at what is in a slot. -/
lemma withSlot_look {α : Type} (table : Table Slot (Option α)) (slot : Slot) (s : State)
    (f : α → Reply) : (withSlot table slot s fun a => (f a, s)).2 = s := by
  unfold withSlot
  cases table.get slot <;> rfl

lemma apply_setting (setting : Setting) (b : Builder) (stage : Stage Script) :
    (setting.apply b stage).1 = b.apply setting.change := by
  cases setting <;> rfl

variable {s : State} {t : Lineages}

lemma Follows.builder (h : Follows s t) (b : Slot) :
    s.builders.get b = none ∧ t.get (.builder b) = none ∨
    ∃ changes, s.builders.get b = some (Builder.made changes) ∧
      t.get (.builder b) = some changes := by
  have hb : (s.builders.get b).map (·.properties) = _ := h (.builder b)
  cases ht : t.get (.builder b) with
  | none => exact .inl ⟨by simpa [ht] using hb, rfl⟩
  | some changes =>
    obtain ⟨builder, hbuilder, hproperties⟩ := Option.map_eq_some_iff.1 (by simpa [ht] using hb)
    refine .inr ⟨changes, ?_, rfl⟩
    rw [hbuilder]
    exact congrArg (fun p => some (Builder.mk p)) hproperties

lemma Follows.configuration (h : Follows s t) (c : Slot) :
    s.configurations.get c = none ∧ t.get (.configuration c) = none ∨
    ∃ changes, s.configurations.get c = some (Builder.made changes).build ∧
      t.get (.configuration c) = some changes := by
  have hc : (s.configurations.get c).map (·.properties) = _ := h (.configuration c)
  cases ht : t.get (.configuration c) with
  | none => exact .inl ⟨by simpa [ht] using hc, rfl⟩
  | some changes =>
    obtain ⟨it, hit, hproperties⟩ := Option.map_eq_some_iff.1 (by simpa [ht] using hc)
    refine .inr ⟨changes, ?_, rfl⟩
    rw [hit]
    exact congrArg (fun p => some (Configuration.mk p)) hproperties

lemma Follows.putBuilder (h : Follows s t) (b : Slot) (changes : List Change) :
    Follows (s.putBuilder b (.made changes)) (t.set (.builder b) (some changes)) := by
  rintro (b' | c)
  · by_cases hb : b' = b
    · subst hb
      simp [State.properties?, State.putBuilder]
    · have ho := h (.builder b')
      simp [State.properties?] at ho
      simp [State.properties?, State.putBuilder, Table.get_set, hb, ho]
  · have ho := h (.configuration c)
    simpa [State.properties?, State.putBuilder, Table.get_set] using ho

lemma Follows.putConfiguration (h : Follows s t) (c : Slot) (changes : List Change) :
    Follows (s.putConfiguration c (Builder.made changes).build)
      (t.set (.configuration c) (some changes)) := by
  rintro (b | c')
  · have ho := h (.builder b)
    simpa [State.properties?, State.putConfiguration, Table.get_set] using ho
  · by_cases hc : c' = c
    · subst hc
      simp [State.properties?, State.putConfiguration, Builder.build]
    · have ho := h (.configuration c')
      simp [State.properties?] at ho
      simp [State.properties?, State.putConfiguration, Table.get_set, hc, ho]

variable {command : ConfigurationCommand} {target : Object} {later : List Change}

/-- A command makes something of what is in a slot for builders. -/
lemma Follows.ofBuilder (h : Follows s t) {b : Slot} {f : Builder → Reply × State}
    (hm : command.making? = some ⟨target, some (.builder b), later⟩)
    (hrun : command.run s = withSlot s.builders b s f)
    (hf : ∀ changes, Follows (f (.made changes)).2 (t.set target (some (changes ++ later)))) :
    Follows (command.run s).2 (command.record t) := by
  unfold ConfigurationCommand.record
  rw [hm, hrun]
  rcases h.builder b with ⟨hs, ht⟩ | ⟨changes, hs, ht⟩
  · simpa only [Making.record, withSlot_of_none hs, ht] using h
  · simpa only [Making.record, withSlot_of_some hs, ht] using hf changes

/-- A command makes something of what is in a slot for configurations. -/
lemma Follows.ofConfiguration (h : Follows s t) {c : Slot} {f : Configuration → Reply × State}
    (hm : command.making? = some ⟨target, some (.configuration c), later⟩)
    (hrun : command.run s = withSlot s.configurations c s f)
    (hf : ∀ changes, Follows (f (Builder.made changes).build).2
      (t.set target (some (changes ++ later)))) :
    Follows (command.run s).2 (command.record t) := by
  unfold ConfigurationCommand.record
  rw [hm, hrun]
  rcases h.configuration c with ⟨hs, ht⟩ | ⟨changes, hs, ht⟩
  · simpa only [Making.record, withSlot_of_none hs, ht] using h
  · simpa only [Making.record, withSlot_of_some hs, ht] using hf changes

lemma run_of_making?_eq_none (h : command.making? = none)
    (s : State) : (command.run s).2 = s := by
  cases command with
  | describeBuilder b => exact withSlot_look ..
  | describe c => exact withSlot_look ..
  | accessors c => exact withSlot_look ..
  | property c name => exact withSlot_look ..
  | get c name type => exact withSlot_look ..
  | hasType c name type => exact withSlot_look ..
  | material c type => exact withSlot_look ..
  | cast v type name => rfl
  | _ => cases h

lemma Follows.run (h : Follows s t) (command : ConfigurationCommand) :
    Follows (command.run s).2 (command.record t) := by
  cases command with
  | new b => exact h.putBuilder b []
  | defaultConfiguration c => exact h.putConfiguration c []
  | set b setting =>
    refine h.ofBuilder rfl rfl fun changes => ?_
    have hstage : Follows (s.withStage (setting.apply (.made changes) s.stage).2) t := by
      rintro (b' | c)
      · exact h (.builder b')
      · exact h (.configuration c)
    have hput := hstage.putBuilder b (changes ++ [setting.change])
    rwa [Builder.made_concat, ← apply_setting setting _ s.stage] at hput
  | copyBuilder b target =>
    refine h.ofBuilder rfl rfl fun changes => ?_
    rw [List.append_nil]
    exact h.putBuilder target changes
  | copyConfiguration c target =>
    refine h.ofConfiguration rfl rfl fun changes => ?_
    rw [List.append_nil]
    exact h.putConfiguration target changes
  | build b c =>
    refine h.ofBuilder rfl rfl fun changes => ?_
    rw [List.append_nil]
    exact h.putConfiguration c changes
  | toBuilder c b =>
    refine h.ofConfiguration rfl rfl fun changes => ?_
    rw [List.append_nil]
    exact h.putBuilder b changes
  | _ =>
    rw [run_of_making?_eq_none rfl]
    exact h

/-! ### Whole histories -/

lemma Follows.runs (h : Follows s t) (history : List ConfigurationCommand) :
    Follows (history.foldl (fun s command => (command.run s).2) s)
      (history.foldl (fun t command => command.record t) t) := by
  induction history generalizing s t with
  | nil => exact h
  | cons command history ih => exact ih (h.run command)

lemma follows_after (history : List ConfigurationCommand) :
    Follows (State.after history) (lineages history) := by
  have hstart : Follows {} (.const none) := by rintro (b | c) <;> rfl
  exact hstart.runs history

/-- A command leaves the lineage of everything else as it is. -/
lemma get_record_of_ne {o : Object} (h : ∀ m, command.making? = some m → m.target ≠ o)
    (t : Lineages) : (command.record t).get o = t.get o := by
  unfold ConfigurationCommand.record
  cases hm : command.making? with
  | none => rfl
  | some m =>
    have hne : o ≠ m.target := (h m hm).symm
    change (m.record t).get o = t.get o
    unfold Making.record
    split
    · exact Table.get_set_of_ne t hne _
    · split
      · exact Table.get_set_of_ne t hne _
      · rfl

lemma get_lineages_append {o : Object} {more : List ConfigurationCommand}
    (h : ∀ command ∈ more, ∀ m, command.making? = some m → m.target ≠ o)
    (history : List ConfigurationCommand) :
    (lineages (history ++ more)).get o = (lineages history).get o := by
  unfold lineages
  rw [List.foldl_append]
  generalize history.foldl (fun t command => command.record t) (.const none) = t
  induction more generalizing t with
  | nil => rfl
  | cons command more ih =>
    rw [List.foldl_cons, ih fun c hc => h c (List.mem_cons_of_mem _ hc)]
    exact get_record_of_ne (h command List.mem_cons_self) t

/-- **Builders and snapshots replay exactly their own history.** An object is there if it has a
lineage, and what it holds under a name is decided by the last change in that lineage that has an
effect on the name. The names of a configuration are those under which this has left a value, each
once and in the order of their bytes. Commands that make something else change nothing. -/
theorem own_history_replayed (history : List ConfigurationCommand) :
    let s := State.after history
    (∀ o, (s.properties? o).isSome ↔ ((lineages history).get o).isSome) ∧
    (∀ b builder, s.builders.get b = some builder →
      ∃ changes, (lineages history).get (.builder b) = some changes ∧
        ∀ name, builder.properties.find? name = Change.stored? name changes) ∧
    (∀ c it, s.configurations.get c = some it →
      ∃ changes, (lineages history).get (.configuration c) = some changes ∧
        (∀ name, it.properties.find? name = Change.stored? name changes) ∧
        it.names.Pairwise (fun a b => Text.bytes a < Text.bytes b) ∧
        ∀ name, name ∈ it.names ↔ ∃ v, Change.stored? name changes = some v) ∧
    ∀ o more, (∀ command ∈ more, ∀ m, command.making? = some m → m.target ≠ o) →
      (State.after (history ++ more)).properties? o = s.properties? o := by
  intro s
  have hs : Follows s (lineages history) := follows_after history
  refine ⟨fun o => ?_, fun b builder hb => ?_, fun c it hc => ?_, fun o more hmore => ?_⟩
  · rw [hs o, Option.isSome_map]
  · rcases hs.builder b with ⟨hnone, -⟩ | ⟨changes, hsome, hlineage⟩
    · rw [hb] at hnone
      cases hnone
    · rw [hb] at hsome
      cases hsome
      exact ⟨changes, hlineage, Builder.find?_made changes⟩
  · rcases hs.configuration c with ⟨hnone, -⟩ | ⟨changes, hsome, hlineage⟩
    · rw [hc] at hnone
      cases hnone
    · rw [hc] at hsome
      cases hsome
      refine ⟨changes, hlineage, Builder.find?_made changes, ?_, fun name => ?_⟩
      · exact (NameMap.ascending_names _).imp Text.lt_iff_bytes_lt.1
      · rw [← Builder.find?_made, ← Option.isSome_iff_exists]
        exact NameMap.mem_names
  · rw [hs o, follows_after (history ++ more) o, get_lineages_append hmore]

/-- A snapshot has what its builder had, without what was ignored, and without what came later. -/
theorem own_history_replayed_snapshot :
    let history : List ConfigurationCommand :=
      [.new "b", .set "b" (.property "x" (some (.text "old"))),
        .set "b" (.property "port" (some (.text "none"))), .build "b" "c",
        .set "b" (.property "x" none), .set "b" (.port 80)]
    ∃ it, (State.after history).configurations.get "c" = some it ∧
      it.properties.find? "x" = some (.text "old") ∧ it.properties.find? "port" = none := by
  intro history
  let it : Configuration := ⟨⟨[("x", .text "old")], by decide⟩⟩
  have hit : (State.after history).configurations.get "c" = some it := rfl
  obtain ⟨-, -, hconfigurations, -⟩ := own_history_replayed history
  obtain ⟨changes, hlineage, hstored, -⟩ := hconfigurations "c" it hit
  cases hlineage
  exact ⟨it, hit, hstored "x", hstored "port"⟩

end Session

end ServiceBootstrap
