import ServiceBootstrap.Settings.Load

/-!
What a program shows of the configuration it would run with, as a list of named members.
-/

namespace ServiceBootstrap

inductive Member where
  | text (s : String)
  | number (n : Int32)
  | texts (ss : List String)
  deriving DecidableEq, Repr

structure View where
  source : String
  protocol : String
  host : String
  port : Int32
  rootPath : String
  clientAuth : String
  sslContext : String
  properties : List String
  deriving DecidableEq, Repr

namespace View

def ofConfiguration (c : Configuration) (source : Settings.Source) : View where
  source := source.text
  protocol := c.protocol
  host := c.host
  port := c.port
  rootPath := c.rootPath
  clientAuth := c.sslClientAuthentication.word
  sslContext := c.sslContext.name
  properties := c.names

def members (v : View) : List (String × Member) := [
  ("source", .text v.source),
  ("protocol", .text v.protocol),
  ("host", .text v.host),
  ("port", .number v.port),
  ("root_path", .text v.rootPath),
  ("ssl_client_authentication", .text v.clientAuth),
  ("ssl_context", .text v.sslContext),
  ("properties", .texts v.properties)]

end View

end ServiceBootstrap
