import HostWatch.OsError
import HostWatch.Settings.Objection
import HostWatch.Text.Utf8
import HostWatch.Toml.Document

/-!
# The file of settings

Settings come from a TOML file. A file that is missing when the daemon starts stands for the
standard settings; later it is an error, and the settings in force stay as they are.
-/

namespace HostWatch

/-- What the file system makes of reading a file: its bytes, or an error. -/
abbrev FileContent := Except OsError (List UInt8)

/-- Why there are no settings. -/
inductive SettingsError where
  | unreadable (path : String) (cause : OsError)
  | notToml
  | invalid (objection : Objection)

/-- The error in words. What is wrong with the TOML is not said. -/
def SettingsError.message : SettingsError → String
  | .unreadable path cause => "failed to read " ++ path ++ ": " ++ cause.message
  | .notToml => "failed to parse config: "
  | .invalid o => "invalid config: " ++ o.message

namespace Settings

/-- Settings with the home directory put into their paths. -/
def expandPaths (home : Option String) (s : Settings) : Settings :=
  { s with
    server := { s.server with socketPath := Path.expandHome home s.server.socketPath }
    alerts := { s.alerts with databasePath := Path.expandHome home s.alerts.databasePath } }

/-- The valid settings that a text writes. -/
def ofText (home : Option String) (text : String) : Except SettingsError Settings :=
  match Toml.read text with
  | none => .error .notToml
  | some document =>
    match shape.ofJson Toml.source document with
    | .error _ => .error .notToml
    | .ok s => ((s.expandPaths home).validated).mapError .invalid

/-- The settings in a file that has to be there. -/
def ofFile (home : Option String) (path : String) (content : FileContent) :
    Except SettingsError Settings :=
  match content with
  | .error cause => .error (.unreadable path cause)
  | .ok bytes =>
    match Text.decode? bytes with
    | none => .error (.unreadable path .invalidText)
    | some text => ofText home text

/-- The settings in a file, or the standard ones if there is none. -/
def load (home : Option String) (path : String) (content : FileContent) :
    Except SettingsError Settings :=
  match content with
  | .error .notFound => .ok (expandPaths home {})
  | content => ofFile home path content

end Settings

/-- The settings in force, and the file they are read from again. -/
structure SettingsSource where
  home : Option String
  path : Option String
  current : Settings

namespace SettingsSource

/-- The settings of a file. -/
def ofFile (home : Option String) (path : String) (content : FileContent) :
    Except SettingsError SettingsSource :=
  (Settings.load home path content).map fun s => ⟨home, some path, s⟩

/-- Settings that come from no file. -/
def fixed (s : Settings) : SettingsSource := ⟨none, none, s⟩

/-- Reads the file again. Settings that come from no file stay as they are. -/
def fresh (source : SettingsSource) (content : FileContent) : Except SettingsError Settings :=
  match source.path with
  | none => .ok source.current
  | some path => Settings.ofFile source.home path content

/-- Reads the file again and puts its settings in force, unless there is an error. -/
def reload (source : SettingsSource) (content : FileContent) :
    Except SettingsError Settings × SettingsSource :=
  match source.fresh content with
  | .error e => (.error e, source)
  | .ok s => (.ok s, { source with current := s })

end SettingsSource

end HostWatch
