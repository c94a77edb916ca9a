import Mathlib.Tactic.Lemma
import ServiceBootstrap.Program
import ServiceBootstrap.Proofs.Json.Members
import ServiceBootstrap.Proofs.Text.ByteOrder
import ServiceBootstrap.Proofs.Toml.Members

/-!
What is shown of a configuration means that configuration, in both formats.
-/

namespace ServiceBootstrap

lemma View.parse?_toml (v : View) :
    Toml.parse? v.toml = some (v.members.map fun m => (m.1, m.2.tree)) := by
  have hnames : v.members.map (·.1) = ["source", "protocol", "host", "port", "root_path",
      "ssl_client_authentication", "ssl_context", "properties"] := rfl
  have hbare : ∀ name ∈ v.members.map (·.1), Toml.IsBare name := by
    rw [hnames]
    decide
  have hdistinct : (v.members.map (·.1)).Nodup := by
    rw [hnames]
    decide
  exact Toml.parse?_tomlLines v.members (fun m hm => hbare _ (List.mem_map.2 ⟨m, hm, rfl⟩))
    hdistinct

lemma View.parse?_json (v : View) :
    Json.parse? v.json = some (.object (v.members.map fun m => (m.1, m.2.jsonTree))) :=
  Json.parse?_jsonLines v.members

namespace Program

/-- **What is shown is what holds.** Whenever the configuration can be loaded, the program prints a
text that reads as one table of eight entries with the effective values: as a TOML document, or as
JSON if that was asked for. The names among them are those that were set, strictly ascending by
their bytes. -/
theorem showConfig_reads_back (s : Surroundings) (args : List String) (o : CommandLine.Options)
    (json : Bool) (c : Configuration) (source : Settings.Source)
    (hargs : CommandLine.parse args = .run (.showConfig o json))
    (hload : load s o = .ok (c, source)) :
    ∃ text, run s args = succeeded text ∧
      (if json then
        Json.parse? text.toList = some (.object [
          ("source", .string source.text),
          ("protocol", .string c.protocol),
          ("host", .string c.host),
          ("port", .number ⟨c.port.toInt, 0⟩),
          ("root_path", .string c.rootPath),
          ("ssl_client_authentication", .string c.sslClientAuthentication.word),
          ("ssl_context", .string c.sslContext.name),
          ("properties", .array (c.names.map .string))])
      else
        Toml.parse? text.toList = some [
          ("source", .string source.text),
          ("protocol", .string c.protocol),
          ("host", .string c.host),
          ("port", .integer c.port.toInt64),
          ("root_path", .string c.rootPath),
          ("ssl_client_authentication", .string c.sslClientAuthentication.word),
          ("ssl_context", .string c.sslContext.name),
          ("properties", .array (c.names.map .string))]) ∧
      c.names.Pairwise (fun a b => Text.bytes a < Text.bytes b) ∧
      ∀ name, name ∈ c.names ↔ (c.properties.find? name).isSome := by
  let view := View.ofConfiguration c source
  have hrun : run s args = succeeded (String.ofList (if json then view.json else view.toml)) := by
    rw [run, runOn, hargs]
    show showConfig s o json = _
    rw [showConfig, hload]
  refine ⟨_, hrun, ?_, ?_, fun name => NameMap.mem_names⟩
  · rw [String.toList_ofList]
    cases json
    · exact view.parse?_toml
    · exact view.parse?_json
  · exact (NameMap.ascending_names _).imp Text.lt_iff_bytes_lt.1

/-- The host is one that no form holds as it is, and a property is named by a quote and a
backslash. -/
theorem showConfig_reads_back_quotes :
    let document := "[properties]\n'\"\\' = ''\n".toList.map fun c => UInt8.ofNat c.toNat
    let files : Files := ⟨(· = "bootwire.toml"), fun _ => .ok document⟩
    ∃ text, run ⟨files, none, {}⟩ ["show-config", "--host", "'''\"\"\"\\\n\t'"] = succeeded text ∧
      Toml.parse? text.toList = some [
        ("source", .string "bootwire.toml"),
        ("protocol", .string "HTTP"),
        ("host", .string "'''\"\"\"\\\n\t'"),
        ("port", .integer (-1)),
        ("root_path", .string "/"),
        ("ssl_client_authentication", .string "NONE"),
        ("ssl_context", .string "platform-default"),
        ("properties", .array [.string "\"\\", .string "host", .string "port",
          .string "protocol", .string "rootPath", .string "sslClientAuthentication"])] := by
  intro document files
  let o : CommandLine.Options := { overrides := { host? := some "'''\"\"\"\\\n\t'" } }
  let view : View := ⟨"bootwire.toml", "HTTP", "'''\"\"\"\\\n\t'", -1, "/", "NONE",
    "platform-default",
    ["\"\\", "host", "port", "protocol", "rootPath", "sslClientAuthentication"]⟩
  have hview : (load ⟨files, none, {}⟩ o).toOption.map (fun l => View.ofConfiguration l.1 l.2) =
      some view := by
    decide +kernel
  match hload : load ⟨files, none, {}⟩ o with
  | .error e =>
    rw [hload] at hview
    cases hview
  | .ok (c, source) =>
    obtain ⟨text, hrun, hread, -⟩ := showConfig_reads_back ⟨files, none, {}⟩
      ["show-config", "--host", "'''\"\"\"\\\n\t'"] o false c source rfl hload
    rw [hload] at hview
    have hmembers : (View.ofConfiguration c source).members = view.members :=
      congrArg View.members (Option.some.inj hview)
    refine ⟨text, hrun, hread.trans ?_⟩
    exact congrArg (fun ms => some (ms.map fun m => (m.1, m.2.tree))) hmembers

end Program

end ServiceBootstrap
