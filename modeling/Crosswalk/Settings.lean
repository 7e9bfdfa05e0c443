import Crosswalk.Diagnostic
import Crosswalk.Files.Tree

/-! The settings of a request, from values given by the caller and from the environment. A value of the
wrong kind is a problem of its setting; all problems are told together, in the order of the settings. -/

namespace Crosswalk

inductive Resolver
  | registry
  | fileSystem
  deriving DecidableEq, Repr

structure Settings where
  rootDir : Option Files.Path := none
  sourceDir : String := "src"
  rootMarker : String := "crate"
  resolver : Resolver := .registry
  logLevel : String := "WARNING"
  deriving Repr

def Resolver.text : Resolver → String
  | registry => "registry"
  | fileSystem => "filesystem"

namespace Settings

/-- A value as it is given for a setting: a text, or something else. -/
inductive Value
  | text (s : String)
  | other
  deriving DecidableEq, Repr

inductive Problem
  | notText
  | tooShort
  | notResolver
  | notPath
  deriving DecidableEq, Repr

def Problem.message : Problem → String
  | notText => "Input should be a valid string"
  | tooShort => "String should have at least 1 character"
  | notResolver => "Input should be 'registry' or 'filesystem'"
  | notPath => "Input is not a valid path for <class 'pathlib.Path'>"

/-- A setting that was refused, by name. -/
structure Invalid where
  problems : List (String × Problem)
  deriving DecidableEq, Repr

def Invalid.message (e : Invalid) : String :=
  "Invalid configuration: " ++
    "; ".intercalate (e.problems.map fun (name, p) => name ++ ": " ++ p.message)

def textValue (fallback : String) : Option Value → Except Problem String
  | none => .ok fallback
  | some (.text s) => .ok s
  | some .other => .error .notText

def markerValue (fallback : String) (v : Option Value) : Except Problem String := do
  let s ← textValue fallback v
  if s.isEmpty then .error .tooShort else return s

def pathValue : Option Value → Except Problem (Option Files.Path)
  | none => .ok none
  | some (.text s) => .ok (some (.ofString s))
  | some .other => .error .notPath

def resolverValue : Option Value → Except Problem Resolver
  | none => .ok .registry
  | some (.text s) =>
    if s = Resolver.registry.text then .ok .registry
    else if s = Resolver.fileSystem.text then .ok .fileSystem
    else .error .notResolver
  | some .other => .error .notResolver

def problem? {α : Type} (name : String) : Except Problem α → List (String × Problem)
  | .ok _ => []
  | .error p => [(name, p)]

/-- Reads the settings from a look-up of their values by name. -/
def ofValues (value? : String → Option Value) : Except Invalid Settings :=
  let rootDir := pathValue (value? "root_dir")
  let sourceDir := textValue "src" (value? "source_dir")
  let rootMarker := markerValue "crate" (value? "root_marker")
  let resolver := resolverValue (value? "resolver")
  let logLevel := textValue "WARNING" (value? "log_level")
  match rootDir, sourceDir, rootMarker, resolver, logLevel with
  | .ok rootDir, .ok sourceDir, .ok rootMarker, .ok resolver, .ok logLevel =>
    .ok { rootDir, sourceDir, rootMarker, resolver, logLevel }
  | _, _, _, _, _ =>
    .error ⟨problem? "root_dir" rootDir ++ problem? "source_dir" sourceDir ++
      problem? "root_marker" rootMarker ++ problem? "resolver" resolver ++
      problem? "log_level" logLevel⟩

def environmentName (name : String) : String := "inter_struct_" ++ name

/-- Given values win over the environment, whose names are read without regard to case. -/
def load (given : List (String × Value)) (environment : List (String × String)) :
    Except Invalid Settings :=
  ofValues fun name =>
    match given.lookup name with
    | some v => some v
    | none =>
      let matching := environment.filter fun (n, _) => n.toLower == environmentName name
      matching.getLast?.map fun (_, v) => .text v

end Settings

/-- The directory of the sources, which has to be there. -/
inductive RootProblem
  | unset
  | missingRoot (root : Files.Path)
  | missingSources (sources : Files.Path)
  deriving DecidableEq, Repr

def RootProblem.message : RootProblem → String
  | unset => "Couldn't read the project root: set INTER_STRUCT_ROOT_DIR "
      ++ "or pass a root directory."
  | missingRoot root => "Project root path doesn't exist: " ++ Text.quoted root.toString
  | missingSources sources =>
    "inter_struct expects the sources to be located in " ++ Text.quoted sources.toString ++
      ", which doesn't exist."

def sourceRoot (files : Files.System) (s : Settings) :
    Except Files.PathFault (Except RootProblem Files.Path) :=
  match s.rootDir with
  | none => .ok (.error .unset)
  | some root => do
    if ← Files.exists? files root then
      let sources := root.append (.ofString s.sourceDir)
      if ← Files.isDirectory? files sources then return .ok sources
      else return .error (.missingSources sources)
    else return .error (.missingRoot root)

end Crosswalk
