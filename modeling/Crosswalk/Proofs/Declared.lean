import Crosswalk.Expansion
import Crosswalk.Proofs.Expansion.Outcomes
import Crosswalk.Proofs.Registry.Reading

/-! All schemas are read off classes, if none is registered by hand: those a walk finds, those a registry reads
from a tree, and so those that an expansion plans for. What holds of the schemas of all classes, and of those
that are registered, holds of all of these. -/

namespace Crosswalk

/-! Units and walks -/

theorem SourceUnit.declared_of_find? (i : Code.Interpreter) (u : SourceUnit) (identifier : String)
    (schema : Schema) (h : u.find? i identifier = .ok (some schema)) : schema.Declared := by
  unfold SourceUnit.find? at h
  split at h
  · rename_i d hd
    obtain ⟨found, hclass, heq⟩ := exists_of_map_ok _ _ _ h
    cases heq
    exact ⟨i, d, some u.path, hclass⟩
  · cases h

theorem declared_of_ofTextFault (i : Code.Interpreter) (u : SourceUnit) (identifier : String)
    (schema : Schema) (h : ofTextFault (u.find? i identifier) = .ok (some schema)) : schema.Declared := by
  cases hfind : u.find? i identifier with
  | error reason =>
    rw [hfind] at h
    cases h
  | ok found =>
    rw [hfind] at h
    cases h
    exact u.declared_of_find? i identifier schema hfind

theorem Walk.declared_of_resolve (w : Walk) (host : Host) (path : TargetPath)
    (location : Location) (schema : Schema) (h : w.resolve host path location = .ok schema) :
    schema.Declared := by
  unfold Walk.resolve at h
  split at h
  · cases h
  · obtain ⟨file, -, h⟩ := exists_of_bind_ok _ _ _ h
    obtain ⟨u, -, h⟩ := exists_of_bind_ok _ _ _ h
    obtain ⟨found, hfound, h⟩ := exists_of_bind_ok _ _ _ h
    cases found with
    | none => cases h
    | some schema' =>
      cases h
      exact declared_of_ofTextFault _ u path.identifier schema hfound

theorem Expansion.declared_of_findSource (host : Host) (file shown className : String)
    (schema : Schema) (h : findSource host file shown className = .ok schema) : schema.Declared := by
  unfold findSource at h
  obtain ⟨u, -, h⟩ := exists_of_bind_ok _ _ _ h
  obtain ⟨found, hfound, h⟩ := exists_of_bind_ok _ _ _ h
  cases found with
  | none => cases h
  | some schema' =>
    cases h
    exact declared_of_ofTextFault _ u className schema hfound

/-! Registries -/

variable {P : Schema → Prop}

namespace Registry

/-- All schemas that are stored have a property. -/
def AllSchemas (P : Schema → Prop) (r : Registry) : Prop :=
  ∀ key schema, r.schemas.get? key = some schema → P schema

theorem allSchemas_empty (marker : String) : (empty marker).AllSchemas P := fun _ _ h => nomatch h

theorem allSchemas_addFile (hP : ∀ s : Schema, s.Declared → P s) (host : Host) (r : Registry)
    (module : String) (file : Files.Path) (h : r.AllSchemas P) :
    (addFile host r module file).1.AllSchemas P := by
  obtain ⟨-, -, -, -, hschemas⟩ := addFile_spec host r module file
  intro key schema hget
  rw [hschemas key] at hget
  rcases Option.or_eq_some_iff.mp hget with hold | ⟨-, hnew⟩
  · exact h key schema hold
  · exact hP schema (declared_of_mem_schemasOf host file schema (List.mem_of_find?_eq_some hnew))

theorem allSchemas_addFiles (hP : ∀ s : Schema, s.Declared → P s) (host : Host)
    (l : List (String × Files.Path)) (r : Registry) (h : r.AllSchemas P) :
    (addFiles host r l).1.AllSchemas P := by
  induction l generalizing r with
  | nil => exact h
  | cons e rest ih =>
    obtain ⟨module, file⟩ := e
    have hfirst := allSchemas_addFile hP host r module file h
    unfold addFiles
    split
    · rename_i next hnext
      rw [hnext] at hfirst
      exact ih next hfirst
    · rename_i next fault hnext
      rw [hnext] at hfirst
      exact hfirst

theorem allSchemas_ingest (hP : ∀ s : Schema, s.Declared → P s) (host : Host)
    (root : Files.Path) (r : Registry) (h : r.AllSchemas P) : (ingest host root r).1.AllSchemas P := by
  unfold ingest
  split
  · exact h
  · exact allSchemas_addFiles hP host _ r h

theorem allSchemas_register (r : Registry) (path : TargetPath) (schema : Schema)
    (h : r.AllSchemas P) (hschema : P schema) : (r.register path schema).AllSchemas P := by
  intro key found hget
  unfold register at hget
  rw [OrderedMap.get?_insert] at hget
  split at hget
  · cases hget
    exact hschema
  · exact h key found hget

theorem schema_of_resolve (r : Registry) (h : r.AllSchemas P) (path : TargetPath)
    (location : Location) (schema : Schema) (hresolve : r.resolve path location = .ok schema) :
    P schema := by
  unfold resolve at hresolve
  dsimp only at hresolve
  split at hresolve
  · cases hresolve
  split at hresolve
  · cases hresolve
  split at hresolve
  · cases hresolve
  split at hresolve
  · rename_i found hfound
    cases hresolve
    exact h _ schema hfound
  · cases hresolve

end Registry

/-! Locators -/

namespace Locator

/-- All schemas that are registered have a property. -/
def AllSchemas (P : Schema → Prop) : Locator → Prop
  | walk _ => True
  | registry r => r.AllSchemas P

theorem schema_of_resolve (hP : ∀ s : Schema, s.Declared → P s) (l : Locator) (h : l.AllSchemas P)
    (host : Host) (path : TargetPath) (location : Location) (schema : Schema)
    (hresolve : l.resolve host path location = .ok schema) : P schema := by
  cases l with
  | walk w => exact hP schema (w.declared_of_resolve host path location schema hresolve)
  | registry r => exact r.schema_of_resolve h path location schema hresolve

theorem allSchemas_ofSettings (hP : ∀ s : Schema, s.Declared → P s) (host : Host)
    (s : Settings) (root : Files.Path) (l : Locator) (h : ofSettings host s root = .ok l) :
    l.AllSchemas P := by
  unfold ofSettings at h
  split at h
  · cases h
    trivial
  · obtain ⟨r, hr, rfl⟩ := exists_of_map_ok _ _ _ h
    unfold Registry.ofSourceRoot at hr
    have hread := Registry.allSchemas_ingest hP host root _ (Registry.allSchemas_empty s.rootMarker)
    split at hr
    · rename_i r' hr'
      cases hr
      rw [hr'] at hread
      exact hread
    · cases hr

end Locator

/-! Plans and expansions -/

/-- A plan that is made of two schemas with a property. -/
inductive Plan.MadeOf (P : Schema → Prop) : Plan → Prop
  | of (source target : Schema) (hsource : P source) (htarget : P target) (v : Variant)
      (path : Option TargetPath) (location : Option Location) :
    MadeOf P (Plan.synthesize source target v path location)

namespace Expansion

theorem allSchemas_of_chooseLocator (hP : ∀ s : Schema, s.Declared → P s) (host : Host)
    (settings : Settings) (location : Location) (locator : Option Locator)
    (hlocator : ∀ l ∈ locator, l.AllSchemas P) (l : Locator)
    (h : chooseLocator host settings location locator = .ok l) : l.AllSchemas P := by
  cases locator with
  | some given =>
    cases h
    exact hlocator l rfl
  | none =>
    unfold chooseLocator at h
    obtain ⟨found, -, h⟩ := exists_of_bind_ok _ _ _ h
    cases found with
    | error problem => cases h
    | ok root =>
      dsimp only at h
      cases hsettings : Locator.ofSettings host settings root with
      | error fault =>
        rw [hsettings] at h
        cases h
      | ok l' =>
        rw [hsettings] at h
        cases h
        exact Locator.allSchemas_ofSettings hP host settings root l hsettings

/-- Every plan of an expansion is made of schemas of classes, and of registered ones. -/
theorem madeOf_of_mem_plans (hP : ∀ s : Schema, s.Declared → P s) (host : Host)
    (file shown className : String) (modes : Option (List String)) (settings : Settings)
    (locator : Option Locator) (hlocator : ∀ l ∈ locator, l.AllSchemas P) (e : Expansion)
    (h : run host file shown className modes settings locator = .ok e) (p : Plan) (hp : p ∈ e.plans) :
    p.MadeOf P := by
  obtain ⟨source, l, a, target, v, hsource, hl, hfound, rfl⟩ := exists_planOf host file shown className
    modes settings locator e h p hp
  refine .of source target ?_ ?_ v (some a.2) (some a.1.location)
  · exact hP source (declared_of_findSource host file shown className source hsource)
  · have hschemas :=
      allSchemas_of_chooseLocator hP host settings source.location locator hlocator l hl
    exact l.schema_of_resolve hP hschemas host a.2 _ target hfound

end Expansion
end Crosswalk
