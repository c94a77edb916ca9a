import ServiceBootstrap.Configuration.Key
import ServiceBootstrap.NameMap
import ServiceBootstrap.Text.Quoted
import ServiceBootstrap.Toml.Tree

/-!
The settings a file can make: those of the server, and free properties.

A document is decoded entry by entry, in its own order, starting from the defaults: an entry that
is a setting replaces the default, one that is not is passed over, and the first setting that has
not the form it should have is the failure. The settings of the server may also be given as an
array, in the order of the fields; items beyond the last field are passed over. A date or time
counts as a table with one entry.
-/

namespace ServiceBootstrap

structure ServerSettings where
  protocol : String := Key.defaultProtocol
  host : String := Key.defaultHost
  port : Int32 := Key.defaultPort
  rootPath : String := Key.defaultRootPath
  /-- The word for the policy on client certificates, not yet read. -/
  clientAuth : String := "none"
  deriving DecidableEq, Repr, Inhabited

structure Settings where
  server : ServerSettings := {}
  properties : NameMap String := .empty
  deriving Inhabited

namespace Settings

open Toml (Tree)

/-- What a setting should have been. -/
inductive Form where
  | string
  | int32
  | server
  | map
  deriving DecidableEq, Repr

def Form.text : Form → String
  | string => "a string"
  | int32 => "i32"
  | server => "struct ServerConfig"
  | map => "a map"

/-- A setting that has not the form it should have. -/
inductive Misfit where
  | type (found : Tree) (expected : Form)
  | range (found : Int64) (expected : Form)
  deriving Repr

/-- How a value is named that has not the right form. -/
def describe : Tree → String
  | .string s => "string " ++ Text.quoted s
  | .integer n => "integer `" ++ toString n.toInt ++ "`"
  | .float x => "floating point `" ++ x.shown ++ "`"
  | .boolean b => "boolean `" ++ toString b ++ "`"
  | .array _ => "sequence"
  | .datetime _ | .table _ => "map"

def Misfit.message : Misfit → String
  | type found expected => "invalid type: " ++ describe found ++ ", expected " ++ expected.text
  | range found expected =>
    "invalid value: " ++ describe (.integer found) ++ ", expected " ++ expected.text

abbrev Decoded (α : Type) := Except Misfit α

def decodeString : Tree → Decoded String
  | .string s => .ok s
  | t => .error (.type t .string)

def decodeInt32 : Tree → Decoded Int32
  | .integer n =>
    if Int32.minValue.toInt ≤ n.toInt ∧ n.toInt ≤ Int32.maxValue.toInt then
      .ok (Int32.ofInt n.toInt)
    else .error (.range n .int32)
  | t => .error (.type t .int32)

/-- The name of the single entry that a date or time counts as. -/
def datetimeName : String := "$__toml_private_datetime"

/-- The entries of whatever counts as a table. -/
def entries? : Tree → Option Toml.Entries
  | .table es => some es
  | .datetime text => some [(datetimeName, .string text)]
  | _ => none

inductive Field where
  | protocol
  | host
  | port
  | rootPath
  | clientAuth
  deriving DecidableEq, Repr

namespace Field

def name : Field → String
  | protocol => "protocol"
  | host => "host"
  | port => "port"
  | rootPath => "root_path"
  | clientAuth => "ssl_client_authentication"

/-- All fields, in the order in which an array gives them. -/
def all : List Field := [protocol, host, port, rootPath, clientAuth]

def ofName? (s : String) : Option Field := all.find? (·.name == s)

def decode (s : ServerSettings) (t : Tree) : Field → Decoded ServerSettings
  | protocol => (decodeString t).map fun v => { s with protocol := v }
  | host => (decodeString t).map fun v => { s with host := v }
  | port => (decodeInt32 t).map fun v => { s with port := v }
  | rootPath => (decodeString t).map fun v => { s with rootPath := v }
  | clientAuth => (decodeString t).map fun v => { s with clientAuth := v }

end Field

def decodeServerEntry (s : ServerSettings) (e : String × Tree) : Decoded ServerSettings :=
  match Field.ofName? e.1 with
  | some f => f.decode s e.2
  | none => .ok s

def decodeServer (t : Tree) : Decoded ServerSettings :=
  match entries? t, t with
  | some es, _ => es.foldlM decodeServerEntry {}
  | none, .array ts => (Field.all.zip ts).foldlM (fun s (f, t) => f.decode s t) {}
  | none, t => .error (.type t .server)

def decodeProperties (t : Tree) : Decoded (NameMap String) :=
  match entries? t with
  | some es => es.foldlM (fun m e => (decodeString e.2).map (m.insert e.1)) .empty
  | none => .error (.type t .map)

def serverName : String := "server"
def propertiesName : String := "properties"

def decodeEntry (s : Settings) (e : String × Tree) : Decoded Settings :=
  if e.1 = serverName then (decodeServer e.2).map fun v => { s with server := v }
  else if e.1 = propertiesName then (decodeProperties e.2).map fun v => { s with properties := v }
  else .ok s

/-- Decodes a document. -/
def decode (es : Toml.Entries) : Decoded Settings := es.foldlM decodeEntry {}

end Settings

end ServiceBootstrap
