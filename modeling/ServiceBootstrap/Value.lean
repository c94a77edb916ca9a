import ServiceBootstrap.Failure
import ServiceBootstrap.Server.Handle
import ServiceBootstrap.Value.ClientAuth

/-!
Values of configuration properties and native handles.

The type of a value is fixed when it is made. Reading a value as another type is a failure that
names both types, never a conversion.
-/

namespace ServiceBootstrap

mutual

inductive Value where
  | text (s : String)
  | bool (b : Bool)
  | int32 (n : Int32)
  | int64 (n : Int64)
  | uint16 (n : UInt16)
  | uint8 (n : UInt8)
  /-- A floating point number, by its bits. -/
  | float64 (bits : UInt64)
  | bytes (bs : List UInt8)
  | unit
  | clientAuth (policy : ClientAuth)
  | sslContext (context : SslContext)
  | serverHandle (handle : ServerHandle)
  | shutdownReport (report : ShutdownReport)
  /-- A value of any other type, which nothing here looks into. -/
  | foreign (typeNumber : Nat) (typeName : String) (number : Nat)

/-- Material for secure connections, handed through to the provider untouched. The platform's own
context carries none. -/
inductive SslContext where
  | platformDefault
  | keyed (name : String) (material : Value)

end

deriving instance DecidableEq for Value, SslContext
deriving instance Repr for Value, SslContext

instance : Inhabited Value := ⟨.unit⟩
instance : Inhabited SslContext := ⟨.platformDefault⟩

namespace Value

def type : Value → ValueType
  | text _ => .text
  | bool _ => .bool
  | int32 _ => .int32
  | int64 _ => .int64
  | uint16 _ => .uint16
  | uint8 _ => .uint8
  | float64 _ => .float64
  | bytes _ => .bytes
  | unit => .unit
  | clientAuth _ => .clientAuth
  | sslContext _ => .sslContext
  | serverHandle _ => .serverHandle
  | shutdownReport _ => .shutdownReport
  | foreign typeNumber typeName _ => .foreign typeNumber typeName

/-- The value itself, if it is of type `expected`; `name` says in the failure what was read. -/
def cast (v : Value) (expected : ValueType) (name : String) : Outcome Value :=
  if v.type = expected then .ok v else .error (.typeMismatch name expected v.type)

/-- How a value is shown inside a description. -/
def describe (v : Value) : String :=
  match v with
  | text s => Text.quoted s
  | int32 n => toString n.toInt
  | bool b => if b then "true" else "false"
  | clientAuth policy => policy.name
  | v => "<" ++ v.type.name ++ ">"

end Value

namespace SslContext

def name : SslContext → String
  | platformDefault => "platform-default"
  | keyed name _ => name

def isPlatformDefault : SslContext → Bool
  | platformDefault => true
  | keyed .. => false

def material? : SslContext → Option Value
  | platformDefault => none
  | keyed _ material => some material

/-- The material as a value of type `expected`; nothing if there is no material. -/
def material (c : SslContext) (expected : ValueType) : Outcome (Option Value) :=
  match c.material? with
  | some v => (v.cast expected "sslContext").map some
  | none => .ok none

def describe (c : SslContext) : String :=
  let shown := match c.material? with
    | some v => "Some(" ++ Text.quoted v.type.name ++ ")"
    | none => "None"
  "SslContext \x7b name: " ++ Text.quoted c.name ++ ", material: " ++ shown ++ " \x7d"

end SslContext

end ServiceBootstrap
