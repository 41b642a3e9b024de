import VisitBooking.Reference.Codec
import VisitBooking.Event.Basic
import VisitBooking.Zone.Database

/-!
# Settings

The settings of a server as they are read from a configuration. All of them have defaults.

## Main definitions

* `Settings`, `Settings.decode`.
* `EventSettings.notifier?`: whether, where and in which zone events are published.
* `expandHome`: a path with the home directory in the place of a tilde.
-/

namespace VisitBooking

open Json Reference

/-! ### Codec settings -/

namespace Reference.Config

/-- The settings of a codec as an object. -/
def toJson (c : Config) : Value := .object
  [ ("alphabet", .text c.alphabet),
    ("min_length", .int c.minLength),
    ("chunk_size", .int c.chunkSize),
    ("delimiter", .text c.delimiter) ]

/-- A natural number of 64 bits. -/
def decodeSize : Decoder Nat := decodeNumber (Number.natBelow? UInt64.size)

/-- Read the settings of a codec; what is missing is as in the built-in ones. -/
def decode : Decoder Config := Record.decode <|
  let standard : Config := {}
  (Record.defaulted "alphabet" decodeText standard.alphabet).map Config.mk
    |>.and (Record.defaulted "min_length" decodeSize standard.minLength)
    |>.and (Record.defaulted "chunk_size" decodeSize standard.chunkSize)
    |>.and (Record.defaulted "delimiter" decodeText standard.delimiter)

end Reference.Config

/-! ### Event settings -/

/-- Settings for the publication of events. -/
structure EventSettings where
  enabled : Bool := true
  topic : String := defaultTopic
  /-- Where the transport is reached; without it nothing is published. -/
  endpoint : Option String := none
  /-- The name of the zone of visit times and events. -/
  zone : String := defaultZoneName
deriving DecidableEq, Repr, Inhabited

namespace EventSettings

/-- Event settings as an object. -/
def toJson (e : EventSettings) : Value := .object
  [ ("enabled", .bool e.enabled),
    ("topic", .text e.topic),
    ("endpoint", .ofOption .text e.endpoint),
    ("zone", .text e.zone) ]

/-- Read event settings. -/
def decode : Decoder EventSettings := Record.decode <|
  (Record.defaulted "enabled" decodeBool true).map EventSettings.mk
    |>.and (Record.defaulted "topic" decodeText defaultTopic)
    |>.and (Record.defaulted "endpoint" (decodeOption decodeText) none)
    |>.and (Record.defaulted "zone" decodeText defaultZoneName)

/-- The notifier that is asked for, if there is such a zone. -/
def notifier? (e : EventSettings) : Option Notifier :=
  (Zone.named? e.zone).map fun zone => ⟨e.enabled && e.endpoint.isSome, e.topic, zone⟩

end EventSettings

/-! ### Server settings -/

/-- The settings of a server. -/
structure Settings where
  host : String := "127.0.0.1"
  port : Nat := 8080
  storePath : String := "~/.local/share/visits/visits.db"
  reference : Config := {}
  events : EventSettings := {}
deriving DecidableEq, Repr, Inhabited

namespace Settings

/-- Read the settings of a server. -/
def decode : Decoder Settings := Record.decode <|
  let standard : Settings := {}
  (Record.defaulted "host" decodeText standard.host).map Settings.mk
    |>.and (Record.defaulted "port" (decodeNumber (Number.natBelow? UInt16.size)) standard.port)
    |>.and (Record.defaulted "store_path" decodeText standard.storePath)
    |>.and (Record.defaulted "reference" Config.decode standard.reference)
    |>.and (Record.defaulted "events" EventSettings.decode standard.events)

end Settings

/-! ### Paths -/

/-- A path below a directory. One that begins at the root stands for itself. -/
def below (directory path : List Char) : List Char :=
  if path.head? = some '/' ∨ directory = [] then path
  else if directory.getLast? = some '/' then directory ++ path
  else directory ++ '/' :: path

/-- A path with the home directory, if it is known, in the place of a tilde before a slash. -/
def expandHome (home : Option String) (path : String) : String :=
  match path.toList, home with
  | '~' :: '/' :: rest, some home => String.ofList (below home.toList rest)
  | _, _ => path

end VisitBooking
