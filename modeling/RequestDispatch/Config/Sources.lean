import RequestDispatch.Config.Check
import RequestDispatch.Config.Profile
import RequestDispatch.Config.Reading
import RequestDispatch.Toml.Document

/-!
# Layered sources

A configuration is put together from layers, each over the one before: the standard values, a base
file, the overlay of the profile beside it, the environment, and whole configurations that the
caller adds. The base file is the one in the first searched directory that has one; a file that is
asked for by its path takes the place of the base file and the overlay, and must be there.
-/

namespace RequestDispatch

/-- What an application finds on the machine it is started on. -/
structure Host where
  files : FileSystem
  environment : Environment

namespace Host

/-- The directory that holds the configurations of a user. -/
def userDir? (s : Host) : Option String :=
  let base :=
    match s.environment.get? "XDG_CONFIG_HOME" with
    | some dir => if Text.startsWith dir "/" then some dir else none
    | none => none
  let home :=
    ((s.environment.get? "HOME").filter (· != "")).map (FilePath.join · ".config")
  (base.or home).map (FilePath.join · "conduit")

/-- The current directory. -/
def currentDir (s : Host) : String := "/" ++ "/".intercalate s.files.current

end Host

/-- Where a configuration is to be taken from. -/
structure ConfigSources where
  /-- The profile, if it is not the environment that selects it. -/
  profile? : Option Profile := none
  /-- The directories to search, the first one first; with none, the current one and the user's. -/
  search : List String := []
  /-- The file to read instead of searching. -/
  file? : Option String := none
  /-- Whether variables of the environment are read. -/
  environment : Bool := true
  /-- Configurations over all other layers, the lowest one first. -/
  upper : List Config := []

namespace ConfigSources

/-- The profile in force. -/
def profile (s : ConfigSources) (host : Host) : Profile :=
  s.profile?.getD (Profile.ofEnvironment host.environment)

/-- The file that is asked for. -/
def explicitFile? (s : ConfigSources) (host : Host) : Option String :=
  s.file?.or (if s.environment then host.environment.get? "CONDUIT_CONFIG" else none)

/-- The directories that are searched. -/
def directories (s : ConfigSources) (host : Host) : List String :=
  if s.search.isEmpty then host.currentDir :: host.userDir?.toList else s.search

/-- The layer that a file makes; a directory makes an empty one. -/
def fileLayer (files : FileSystem) (path : String) : Except ConfigFault Setting :=
  match files.read path with
  | .error _ => .ok (.table [])
  | .ok contents =>
    match (Utf8.decode? contents).bind Toml.parse with
    | some layer => .ok layer
    | none => .error .unreadable

/-- The layers of the base file in a directory and of the overlay beside it. -/
def layersIn (files : FileSystem) (profile : Profile) (dir : String) :
    Except ConfigFault (List Setting) := do
  let base ← fileLayer files (FilePath.join dir "conduit.toml")
  let overlay := FilePath.join dir ("conduit." ++ profile.name ++ ".toml")
  if files.exists? overlay then return [base, ← fileLayer files overlay] else return [base]

/-- The layers that files make. -/
def fileLayers (s : ConfigSources) (host : Host) :
    Except ConfigFault (List Setting) :=
  match s.explicitFile? host with
  | some path =>
    if host.files.exists? path then
      let ext := (FilePath.extension? path).getD ""
      if ext = "toml" then (fileLayer host.files path).map fun layer => [layer]
      else .error (.unknownFormat ext)
    else .error (.fileNotFound path)
  | none =>
    match (s.directories host).find? fun dir =>
      host.files.exists? (FilePath.join dir "conduit.toml") with
    | some dir => layersIn host.files (s.profile host) dir
    | none => .ok []

/-- All layers, the lowest one first. -/
def layers (s : ConfigSources) (host : Host) : Except ConfigFault (List Setting) := do
  let files ← s.fileLayers host
  let environment := if s.environment then [Environment.layer host.environment] else []
  return [Config.setting {}] ++ files ++ environment ++ s.upper.map Config.setting

/-- The configuration that the sources make together. -/
def load (s : ConfigSources) (host : Host) : Except ConfigFault Config := do
  match Config.ofSetting? ((← s.layers host).foldl Setting.merge (.table [])) with
  | some config => .ok config
  | none => .error .unreadable

end ConfigSources

end RequestDispatch
