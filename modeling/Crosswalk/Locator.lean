import Crosswalk.Registry
import Crosswalk.Settings

/-! The two ways to find schemas, a walk for every path and a registry of all, behind one question. -/

namespace Crosswalk

inductive Locator
  | walk (w : Walk)
  | registry (r : Registry)

namespace Locator

def resolve (host : Host) (l : Locator) (path : TargetPath) (location : Location := {}) :
    Except Failure Schema :=
  match l with
  | walk w => w.resolve host path location
  | registry r => r.resolve path location

def ofSettings (host : Host) (s : Settings) (root : Files.Path) : Except Fault Locator :=
  match s.resolver with
  | .fileSystem => .ok (walk ⟨root, s.rootMarker⟩)
  | .registry => registry <$> Registry.ofSourceRoot host root s.rootMarker

end Locator
end Crosswalk
