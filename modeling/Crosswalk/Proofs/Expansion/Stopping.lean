import Crosswalk.Proofs.Expansion.Resolvers
import Crosswalk.Proofs.Locality
import Crosswalk.Proofs.Registry.Stopping

/-! What stops an expansion. Besides modes that are unknown there are three things: a path that is too long,
a text that exhausts the interpreter, and a class that cannot be told. A walk meets only the files and the
classes it is asked for, but a registry meets every class of its tree. -/

namespace Crosswalk

open Code (ClassDeclaration)
open Files (Node treeAt)
open Registry (under under_append under_nil)

/-! Single answers -/

/-- An answer that no diagnostic tells. -/
def Stopped {α : Type} (x : Except Failure α) : Prop := ∃ fault, x = .error (.stopped fault)

/-- The class that a file declares by a name: the first of that name. -/
def Declares (host : Host) (file : Files.Path) (name : String) (d : ClassDeclaration) : Prop :=
  ∃ u, SourceUnit.read host file = .ok (.ok u) ∧ u.classes.find? (·.name == name) = some d

section

variable (host : Host)

end

/-! Walks -/

section

variable (host : Host) (root : Files.Path) (marker : String) (path : TargetPath) (location : Location)
  (hroot : Files.isDirectory? host root = .ok true)

include hroot

end

/-! Registries -/

namespace Expansion

/-! The search for targets -/

section

variable (host : Host) (settings : Settings) (root : Files.Path) (wanted : List (Request × TargetPath))
  (hroot : Files.isDirectory? host root = .ok true)

include hroot

end

/-! Whole expansions -/

theorem faulty_planAsked_iff (resolve : TargetPath → Location → Except Failure Schema) (source : Schema)
    (a : Request × TargetPath) :
    Faulty (planAsked resolve source a) ↔ Stopped (resolve a.2 a.1.location) := by
  unfold planAsked planPath
  cases resolve a.2 a.1.location with
  | ok target => exact iff_of_false (not_faulty_ok _) fun ⟨_, h⟩ => nomatch h
  | error failure =>
    cases failure with
    | reported d => exact iff_of_false (not_faulty_ok _) fun ⟨_, h⟩ => nomatch h
    | stopped fault => exact iff_of_true (faulty_error _) ⟨fault, rfl⟩

theorem faulty_ofRequests_iff (resolve : TargetPath → Location → Except Failure Schema) (source : Schema)
    (modes : Option (List String)) (wanted : List Mode)
    (hwanted : wantedModes modes source.requests.1 = .ok wanted) :
    Faulty (ofRequests resolve source modes) ↔
      ∃ a ∈ asked source wanted, Stopped (resolve a.2 a.1.location) := by
  have hall := faulty_mapM_iff (planAsked resolve source) (asked source wanted)
  simp only [faulty_planAsked_iff] at hall
  rw [ofRequests_eq resolve source modes wanted hwanted, ← hall]
  cases (asked source wanted).mapM (planAsked resolve source) <;> simp

section

variable (host : Host) (file shown className : String) (modes : Option (List String))
  (settings : Settings)

end

/-! Locators of two trees -/

end Expansion
end Crosswalk
