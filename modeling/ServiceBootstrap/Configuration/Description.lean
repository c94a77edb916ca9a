import ServiceBootstrap.Configuration
import ServiceBootstrap.Text.Entries

/-!
Descriptions of builders and configurations.

A builder shows what was set. A configuration shows the recognized properties in a fixed order,
set or not, and the unrecognized ones behind them; the secure-socket material never appears.
-/

namespace ServiceBootstrap

open Text (quoted Entries)

def describeProperty (e : String × Value) : String × String := (quoted e.1, e.2.describe)

def Builder.entries (b : Builder) : Entries := b.properties.entries.map describeProperty

def Builder.describe (b : Builder) : String := b.entries.inline

def Builder.describeStacked (b : Builder) : String := b.entries.stacked

namespace Configuration

/-- The recognized properties of a description, with the values the accessors give. -/
def shown (c : Configuration) : List (String × Value) := [
  (Key.protocol.name, .text c.protocol),
  (Key.host.name, .text c.host),
  (Key.port.name, .int32 c.port),
  (Key.rootPath.name, .text c.rootPath),
  (Key.sslClientAuthentication.name, .clientAuth c.sslClientAuthentication)]

def unrecognized (c : Configuration) : List (String × Value) :=
  c.properties.entries.filter fun e => (Key.ofName? e.1).isNone

def entries (c : Configuration) : Entries := (c.shown ++ c.unrecognized).map describeProperty

def describe (c : Configuration) : String := c.entries.inline

def describeStacked (c : Configuration) : String := c.entries.stacked

end Configuration

end ServiceBootstrap
