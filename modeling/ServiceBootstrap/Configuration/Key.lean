import ServiceBootstrap.Value

/-!
The recognized properties of a configuration: their names, the type each is declared with, and
what each reads as while it is not set.
-/

namespace ServiceBootstrap

inductive Key where
  | protocol
  | host
  | port
  | rootPath
  | sslContext
  | sslClientAuthentication
  deriving DecidableEq, Repr, Inhabited

namespace Key

def name : Key → String
  | protocol => "protocol"
  | host => "host"
  | port => "port"
  | rootPath => "rootPath"
  | sslContext => "sslContext"
  | sslClientAuthentication => "sslClientAuthentication"

def all : List Key := [protocol, host, port, rootPath, sslContext, sslClientAuthentication]

def ofName? (s : String) : Option Key := all.find? (·.name == s)

def type : Key → ValueType
  | protocol | host | rootPath => .text
  | port => .int32
  | sslContext => .sslContext
  | sslClientAuthentication => .clientAuth

/-- The short name of the declared type. -/
def typeWord : Key → String
  | protocol | host | rootPath => "String"
  | port => "i32"
  | sslContext => "SslContext"
  | sslClientAuthentication => "SslClientAuth"

def defaultProtocol : String := "HTTP"
def defaultHost : String := "localhost"
/-- Leaves the choice of a port to the provider. -/
def defaultPort : Int32 := -1
def defaultRootPath : String := "/"

def default : Key → Value
  | protocol => .text defaultProtocol
  | host => .text defaultHost
  | port => .int32 defaultPort
  | rootPath => .text defaultRootPath
  | sslContext => .sslContext .platformDefault
  | sslClientAuthentication => .clientAuth .none

@[simp] theorem type_default (k : Key) : k.default.type = k.type := by cases k <;> rfl

@[simp] theorem ofName?_name (k : Key) : ofName? k.name = some k := by cases k <;> rfl

theorem name_of_ofName? {s : String} {k : Key} (h : ofName? s = some k) : k.name = s := by
  simpa using List.find?_some (show all.find? (·.name == s) = some k from h)

end Key

end ServiceBootstrap
