/-!
The types a value can have, and the names they go by in messages.
-/

namespace ServiceBootstrap

inductive ValueType where
  | text
  | bool
  | int32
  | int64
  | uint16
  | uint8
  | float64
  | bytes
  | unit
  | clientAuth
  | sslContext
  | serverHandle
  | shutdownReport
  /-- Any other type; the number tells types apart that go by the same name. -/
  | foreign (number : Nat) (name : String)
  deriving DecidableEq, Repr, Inhabited

namespace ValueType

/-- The full name of a type, as messages and descriptions give it. -/
def name : ValueType → String
  | text => "alloc::string::String"
  | bool => "bool"
  | int32 => "i32"
  | int64 => "i64"
  | uint16 => "u16"
  | uint8 => "u8"
  | float64 => "f64"
  | bytes => "alloc::vec::Vec<u8>"
  | unit => "()"
  | clientAuth => "bootwire_core::configuration::SslClientAuth"
  | sslContext => "bootwire_core::configuration::SslContext"
  | serverHandle => "bootwire_tokio::handle::ServerHandle"
  | shutdownReport => "bootwire_tokio::handle::ShutdownReport"
  | foreign _ name => name

end ValueType

end ServiceBootstrap
