import Crosswalk.Diagnostics
import Crosswalk.Emission
import Crosswalk.Locator
import Crosswalk.Request

/-! All mappings that one class requests. Its file is read, its requests are taken from its decorators,
each target is found and planned, and whatever is wrong on the way is collected; a target that is not
found is left out and the others are not. -/

namespace Crosswalk

structure Expansion where
  source : Option Schema
  plans : List Plan := []
  diagnostics : Diagnostics := .empty

inductive ExpandError
  | stopped (fault : Fault)
  | unknownMode (reason : UnknownMode)
  deriving DecidableEq, Repr

/-- No plan of a mode is known by a name. -/
structure NoPlan where
  mode : Mode
  target : String
  deriving DecidableEq, Repr

def NoPlan.message (e : NoPlan) : String :=
  "No " ++ e.mode.title ++ " plan for " ++ Text.quoted e.target

namespace Expansion

/-! Planning -/

/-- The plans of one target, and what is wrong with them. -/
def planTarget (source : Schema) (request : Request) (path : TargetPath) (target : Schema) :
    List Plan × List Diagnostic :=
  let plans := (Variant.ofMode request.mode).map fun v =>
    Plan.synthesize source target v (some path) (some request.location)
  (plans, plans.flatMap fun p => p.errors ++ p.completeness (some request.location))

def planPath (resolve : TargetPath → Location → Except Failure Schema) (source : Schema)
    (request : Request) (path : TargetPath) : Except Fault (List Plan × List Diagnostic) :=
  match resolve path request.location with
  | .ok target => .ok (planTarget source request path target)
  | .error (.reported d) => .ok ([], [d])
  | .error (.stopped fault) => .error fault

def planRequest (resolve : TargetPath → Location → Except Failure Schema) (source : Schema)
    (request : Request) : Except Fault (List (List Plan × List Diagnostic)) :=
  request.paths.mapM (planPath resolve source request)

/-- The modes to plan: those asked for, or else all that are requested, each once. -/
def wantedModes (modes : Option (List String)) (requests : List Request) :
    Except UnknownMode (List Mode) :=
  match modes with
  | some names => names.mapM Mode.parse
  | none => .ok (requests.map (·.mode)).eraseDups

def missingRequest (source : Schema) (mode : Mode) : Diagnostic :=
  ⟨.configuration, mode.title ++ " requires the '" ++ mode.word ++ "' annotation.",
    source.location⟩

/-- The modes asked for that no decorator requests. -/
def missingRequests (source : Schema) (requests : List Request) (wanted : List Mode) :
    List Diagnostic :=
  (wanted.filter fun m => !(requests.map (·.mode)).contains m).map (missingRequest source)

def ofRequests (resolve : TargetPath → Location → Except Failure Schema) (source : Schema)
    (modes : Option (List String)) : Except ExpandError Expansion :=
  let (requests, problems) := source.requests
  match wantedModes modes requests with
  | .error reason => .error (.unknownMode reason)
  | .ok wanted =>
    let chosen := requests.filter fun r => wanted.contains r.mode
    match chosen.mapM (planRequest resolve source) with
    | .error fault => .error (.stopped fault)
    | .ok found =>
      let outcomes := found.flatten
      .ok {
        source := some source
        plans := outcomes.flatMap (·.1)
        diagnostics := Diagnostics.ofList (problems ++ missingRequests source requests wanted ++
          outcomes.flatMap (·.2)) }

/-! Reading the source -/

def failed (source : Option Schema) (d : Diagnostic) : Expansion :=
  { source, diagnostics := Diagnostics.ofList [d] }

/-- The class to expand. The file is named in messages as it was given. -/
def findSource (host : Host) (file shown className : String) :
    Except Failure Schema := do
  let path := Files.Path.ofString file
  let u ← SourceUnit.load host path {} .configuration
  match ← ofTextFault (u.find? host.interpreter className) with
  | some schema => return schema
  | none =>
    .error (.reported ⟨.configuration,
      "Didn't find class " ++ className ++ " in file " ++ Text.quoted shown,
      { file := some path }⟩)

/-- The locator given, or one built for the source root. -/
def chooseLocator (host : Host) (settings : Settings) (location : Location) :
    Option Locator → Except Failure Locator
  | some l => .ok l
  | none => do
    match ← ofPathFault (sourceRoot host settings) with
    | .error problem => .error (.reported ⟨.configuration, problem.message, location⟩)
    | .ok root => (Locator.ofSettings host settings root).mapError .stopped

def run (host : Host) (file shown className : String) (modes : Option (List String))
    (settings : Settings) (locator : Option Locator := none) : Except ExpandError Expansion :=
  match findSource host file shown className with
  | .error (.stopped fault) => .error (.stopped fault)
  | .error (.reported d) => .ok (failed none d)
  | .ok source =>
    match chooseLocator host settings source.location locator with
    | .error (.stopped fault) => .error (.stopped fault)
    | .error (.reported d) => .ok (failed (some source) d)
    | .ok l => ofRequests (fun path location => l.resolve host path location) source modes

/-! Using an expansion -/

def hasErrors (e : Expansion) : Bool := e.diagnostics.hasErrors

def plansFor (e : Expansion) (mode : Mode) (soft : Bool) : List Plan :=
  e.plans.filter fun p => p.mode = mode && p.soft == soft

/-- Whether a text is the path or the name of a plan's target. A plan that is made without a path goes by the
text `None` in its place. -/
def isTargetOf (target : String) (p : Plan) : Bool :=
  (p.targetPath.map TargetPath.toString).getD "None" == target || p.target.identifier == target

/-- The first plan of a mode whose target has a path or a name. -/
def plan (e : Expansion) (target : String) (mode : Mode) (soft : Bool := false) :
    Except NoPlan Plan :=
  match (e.plansFor mode soft).find? (isTargetOf target) with
  | some p => .ok p
  | none => .error ⟨mode, target⟩

def render (e : Expansion) : String := Emission.renderModule e.plans

end Expansion
end Crosswalk
