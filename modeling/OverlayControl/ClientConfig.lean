import OverlayControl.Toml.Reader
import OverlayControl.World

/-!
# Client configuration

The client is configured by a document and by environment variables; a variable goes before the
document, and the document before the default. A variable that does not hold a value of its setting
is passed over. A document that is not there counts as an empty one, but one that is there and
cannot be read is an error.

* `ClientConfig`, as data and from data;
* `ClientConfig.override` — the configuration with the variables of an environment;
* `ClientConfig.location?` — which document is read;
* `ClientConfig.load` — the configuration of a client.
-/

namespace OverlayControl

/-- How the service is reached. -/
structure ServiceConfig where
  /-- The transport. -/
  transport : Transport := .socket
  /-- The address of the socket; an `@` at its start makes it an abstract name. -/
  socket : String := "@murasaki"
  /-- The program that opens a root shell. -/
  suPath : Path := .ofString "su"
  /-- The engine's command line program, which the root shell runs. -/
  engineCli : String := "hymod"
  /-- How long a call may take, in seconds. -/
  timeoutSecs : Nat := 10
  deriving DecidableEq

/-- How long a call may take, in seconds; at least one. -/
def ServiceConfig.timeout (c : ServiceConfig) : Nat := max c.timeoutSecs 1

/-- The files of the device. -/
structure PathsConfig where
  /-- The document of the declared settings. -/
  engineConfig : Path := .ofString "/data/adb/hymo/config.toml"
  /-- The document of the declared strategies. -/
  moduleModes : Path := .ofString "/data/adb/hymo/module_mode.toml"
  /-- The mount table. -/
  mountinfo : Path := .ofString "/proc/self/mountinfo"
  deriving DecidableEq

/-- The configuration of a client. -/
structure ClientConfig where
  /-- How the service is reached. -/
  service : ServiceConfig := {}
  /-- The files of the device. -/
  paths : PathsConfig := {}
  /-- The filter of the log. -/
  logLevel : String := "info"
  deriving DecidableEq

/-- An environment: the values of its variables. -/
abbrev Environment := String → Option String

/-- Why there is no configuration: the message, and what caused it, outermost first. -/
structure ConfigFault where
  /-- The message. -/
  what : String
  /-- The causes. -/
  causes : List String := []
  deriving DecidableEq

namespace ServiceConfig

/-- Reads the way to the service. -/
def ofData (format : Format) (d : Data) : Option ServiceConfig := do
  let c : ServiceConfig := {}
  match ← d.record format
      [["transport"], ["socket"], ["su_path"], ["engine_cli"], ["timeout_secs"]] with
  | [transport, socket, suPath, engineCli, timeoutSecs] =>
    some {
      transport := ← Data.field c.transport (Data.choice format Transport.ofName) transport
      socket := ← Data.field c.socket Data.asText socket
      suPath := ← Data.field c.suPath (fun d => d.asText.map Path.ofString) suPath
      engineCli := ← Data.field c.engineCli Data.asText engineCli
      timeoutSecs := ← Data.field c.timeoutSecs (Data.asNat (UInt64.size - 1)) timeoutSecs }
  | _ => none

/-- The way to the service as data; absent when a path is not UTF-8. -/
def toData (c : ServiceConfig) : Option Data :=
  c.suPath.text?.map fun su =>
    .table [("transport", .text c.transport.name), ("socket", .text c.socket), ("su_path", .text su),
      ("engine_cli", .text c.engineCli), ("timeout_secs", .int c.timeoutSecs)]

end ServiceConfig

namespace PathsConfig

/-- Reads the files of the device. -/
def ofData (format : Format) (d : Data) : Option PathsConfig := do
  let c : PathsConfig := {}
  let path (d : Data) := d.asText.map Path.ofString
  match ← d.record format [["engine_config"], ["module_modes"], ["mountinfo"]] with
  | [engineConfig, moduleModes, mountinfo] =>
    some {
      engineConfig := ← Data.field c.engineConfig path engineConfig
      moduleModes := ← Data.field c.moduleModes path moduleModes
      mountinfo := ← Data.field c.mountinfo path mountinfo }
  | _ => none

/-- The files of the device as data; absent when a path is not UTF-8. -/
def toData (c : PathsConfig) : Option Data := do
  let engineConfig ← c.engineConfig.text?
  let moduleModes ← c.moduleModes.text?
  let mountinfo ← c.mountinfo.text?
  some (.table [("engine_config", .text engineConfig), ("module_modes", .text moduleModes),
    ("mountinfo", .text mountinfo)])

end PathsConfig

namespace ClientConfig

/-- Reads the filter of the log. -/
def logLevelOf (format : Format) (d : Data) : Option String := do
  match ← d.record format [["level"]] with
  | [level] => Data.field "info" Data.asText level
  | _ => none

/-- Reads a configuration. -/
def ofData (format : Format) (d : Data) : Option ClientConfig := do
  match ← d.record format [["service"], ["paths"], ["logging"]] with
  | [service, paths, logging] =>
    some {
      service := ← Data.field {} (ServiceConfig.ofData format) service
      paths := ← Data.field {} (PathsConfig.ofData format) paths
      logLevel := ← Data.field "info" (logLevelOf format) logging }
  | _ => none

/-- A configuration as data; absent when a path is not UTF-8. -/
def toData (c : ClientConfig) : Option Data := do
  let service ← c.service.toData
  let paths ← c.paths.toData
  some (.table [("service", service), ("paths", paths),
    ("logging", .table [("level", .text c.logLevel)])])

/-- The configuration that a document holds. -/
def ofToml (text : String) : Except ConfigFault ClientConfig :=
  match (Toml.read text).bind (ofData .toml) with
  | some c => .ok c
  | none => .error { what := "failed to parse config TOML", causes := ["<toml error>"] }

/-- The value of a variable, if it is set and holds a value of its setting; else a given value. -/
def overriding {α : Type} (env : Environment) (name : String) (read : String → Option α)
    (otherwise : α) : α :=
  ((env name).bind read).getD otherwise

/-- The configuration with the variables of an environment. -/
def override (env : Environment) (c : ClientConfig) : ClientConfig :=
  { c with
    service := {
      transport := overriding env "HYMOCTL_TRANSPORT" (fun s => (Transport.parse s).toOption)
        c.service.transport
      socket := overriding env "HYMOCTL_SOCKET" some c.service.socket
      suPath := overriding env "HYMOCTL_SU" (fun s => some (.ofString s)) c.service.suPath
      engineCli := overriding env "HYMOCTL_ENGINE_CLI" some c.service.engineCli
      timeoutSecs := overriding env "HYMOCTL_TIMEOUT_SECS"
        (fun s => (Text.readLongNat s).toOption) c.service.timeoutSecs }
    paths := { c.paths with
      engineConfig := overriding env "HYMOCTL_ENGINE_CONFIG" (fun s => some (.ofString s))
        c.paths.engineConfig } }

/-- Which document is read: the one that the client was started with, else the one that a variable
names, else the one in the home directory. -/
def location? (explicit : Option Path) (env : Environment) (home : Option Path) : Option Path :=
  match explicit with
  | some p => some p
  | none =>
    match env "HYMOCTL_CONFIG" with
    | some p => some (.ofString p)
    | none => home.map fun h => (h.join ".hymoctl").join "config.toml"

/-- The configuration that a file holds. -/
def ofFile (p : Path) : Except FileFault String → Except ConfigFault ClientConfig
  | .ok text =>
    match ofToml text with
    | .ok c => .ok c
    | .error e =>
      .error { what := s!"failed to parse config at {p.display}", causes := e.what :: e.causes }
  -- Only a file that is not there stands for defaults.
  | .error .notFound => .ok {}
  | .error e => .error { what := s!"failed to read config at {p.display}: {e.message}" }

/-- The configuration of a client. -/
def load {φ : Type} (files : Storage φ) (st : φ) (explicit : Option Path) (env : Environment)
    (home : Option Path) : Except ConfigFault ClientConfig :=
  match location? explicit env home with
  | none => .error { what := "cannot determine home directory" }
  | some p => (ofFile p (files.readText p st)).map (override env)

end ClientConfig

end OverlayControl
