import Mathlib.Data.List.Find
import Crosswalk.Proofs.Registry.Units
import Crosswalk.Proofs.SourceUnit
import Crosswalk.Proofs.Text.Names

/-! Reading the units of a tree. A reading that comes to its end knows every unit, why it is broken if it
is, and else the first schema of every name in it. -/

namespace Crosswalk.Registry

open Code (ClassDeclaration)

/-! What a unit gives -/

def problemOf? (host : Host) (file : Files.Path) : Option Diagnostic :=
  match SourceUnit.load host file with
  | .error (.reported d) => some d
  | _ => none

def schemasOf (host : Host) (file : Files.Path) : List Schema :=
  match SourceUnit.load host file with
  | .ok u => (u.schemas host.interpreter).toOption.getD []
  | .error _ => []

/-- A file that is read to its end: it has a problem, or all its classes have schemas. -/
def Readable (host : Host) (file : Files.Path) : Prop :=
  (∃ d, SourceUnit.load host file = .error (.reported d)) ∨
    ∃ u schemas, SourceUnit.load host file = .ok u ∧ u.schemas host.interpreter = .ok schemas

theorem not_readable_of_stopped (host : Host) (file : Files.Path) (fault : Fault)
    (h : SourceUnit.load host file = .error (.stopped fault)) : ¬ Readable host file := by
  rintro (⟨d, hd⟩ | ⟨u, -, hu, -⟩)
  · rw [h] at hd
    cases hd
  · rw [h] at hu
    cases hu

theorem schemasOf_eq_nil (host : Host) (file : Files.Path) (d : Diagnostic)
    (h : problemOf? host file = some d) : schemasOf host file = [] := by
  unfold problemOf? at h
  unfold schemasOf
  cases hload : SourceUnit.load host file with
  | error failure => rfl
  | ok u =>
    rw [hload] at h
    cases h

def schemaKey (module : String) (schema : Schema) : String := module ++ "." ++ schema.identifier

/-! One unit -/

theorem foldl_addSchema (module : String) (schemas : List Schema) (r : Registry) :
    (schemas.foldl (addSchema module) r).marker = r.marker ∧
      (schemas.foldl (addSchema module) r).units = r.units ∧
      (schemas.foldl (addSchema module) r).broken = r.broken ∧
      ∀ key, (schemas.foldl (addSchema module) r).schemas.get? key =
        (r.schemas.get? key).or (schemas.find? (schemaKey module · == key)) := by
  induction schemas generalizing r with
  | nil => exact ⟨rfl, rfl, rfl, fun key => by simp⟩
  | cons schema rest ih =>
    obtain ⟨hmarker, hunits, hbroken, hschemas⟩ := ih (addSchema module r schema)
    refine ⟨hmarker, hunits, hbroken, fun key => ?_⟩
    rw [List.foldl_cons, hschemas key, show (addSchema module r schema).schemas =
      r.schemas.insertNew (schemaKey module schema) schema from rfl, OrderedMap.get?_insertNew]
    by_cases hkey : schemaKey module schema = key
    · have hfind : (schemaKey module schema == key) = true := beq_iff_eq.mpr hkey
      rw [if_pos hkey, List.find?_cons, hfind]
      cases r.schemas.get? key <;> rfl
    · have hfind : (schemaKey module schema == key) = false := beq_eq_false_iff_ne.mpr hkey
      rw [if_neg hkey, List.find?_cons, hfind]

/-- What one file adds, also where it stops the reading. -/
theorem addFile_spec (host : Host) (r : Registry) (module : String) (file : Files.Path) :
    ((addFile host r module file).2 = none ↔ Readable host file) ∧
      (addFile host r module file).1.marker = r.marker ∧
      (addFile host r module file).1.units = r.units.insert module (some file) ∧
      (∀ key, (addFile host r module file).1.broken.get? key =
        if module = key then (problemOf? host file).or (r.broken.get? key) else r.broken.get? key) ∧
      ∀ key, (addFile host r module file).1.schemas.get? key =
        (r.schemas.get? key).or ((schemasOf host file).find? (schemaKey module · == key)) := by
  unfold addFile problemOf? schemasOf Readable
  cases hload : SourceUnit.load host file with
  | error failure =>
    cases failure with
    | stopped fault => simp
    | reported d =>
      refine ⟨by simp, rfl, rfl, fun key => ?_, fun key => by simp⟩
      exact OrderedMap.get?_insert _ _ _ _
  | ok u =>
    cases hschemas : u.schemas host.interpreter with
    | error reason => simp [hschemas, Except.toOption]
    | ok schemas =>
      obtain ⟨hmarker, hunits, hbroken, hget⟩ := foldl_addSchema module schemas
        { r with units := r.units.insert module (some file) }
      dsimp only
      rw [hschemas]
      refine ⟨by simp [hschemas], hmarker, hunits, fun key => ?_, fun key => ?_⟩
      · rw [hbroken]
        simp
      · rw [hget key]
        rfl

theorem addFile_cases (host : Host) (r r' : Registry) (module : String) (file : Files.Path)
    (h : addFile host r module file = (r', none)) :
    Readable host file ∧ r'.marker = r.marker ∧ r'.units = r.units.insert module (some file) ∧
      (∀ key, r'.broken.get? key =
        if module = key then (problemOf? host file).or (r.broken.get? key) else r.broken.get? key) ∧
      ∀ key, r'.schemas.get? key =
        (r.schemas.get? key).or ((schemasOf host file).find? (schemaKey module · == key)) := by
  obtain ⟨hreadable, hadded⟩ := addFile_spec host r module file
  rw [h] at hreadable hadded
  exact ⟨hreadable.mp rfl, hadded⟩

/-! All units -/

/-- How a reading of units leads from one registry to another. -/
structure Reads (host : Host) (l : List (String × Files.Path)) (r r' : Registry) : Prop where
  readable : ∀ e ∈ l, Readable host e.2
  marker : r'.marker = r.marker
  units : ∀ key, r'.units.get? key = ((OrderedMap.find l key).map some).or (r.units.get? key)
  broken : ∀ key, r'.broken.get? key =
    ((OrderedMap.find l key).bind (problemOf? host)).or (r.broken.get? key)
  schemas : ∀ key, r'.schemas.get? key = (r.schemas.get? key).or
    (l.findSome? fun e => (schemasOf host e.2).find? (schemaKey e.1 · == key))

/-- A reading that is not stopped. -/
theorem reads_addFiles (host : Host) (l : List (String × Files.Path))
    (hnodup : (l.map (·.1)).Nodup) (r r' : Registry) (h : addFiles host r l = (r', none)) :
    Reads host l r r' := by
  induction l generalizing r with
  | nil =>
    cases h
    exact ⟨by simp, rfl, fun key => rfl, fun key => rfl, fun key => by simp⟩
  | cons e rest ih =>
    obtain ⟨module, file⟩ := e
    obtain ⟨hfresh, hrest⟩ := List.nodup_cons.mp hnodup
    unfold addFiles at h
    split at h
    · rename_i next hnext
      obtain ⟨hreadable, hmarker, hunits, hbroken, hschemas⟩ :=
        addFile_cases host r next module file hnext
      have hreads := ih hrest next h
      have hnone := OrderedMap.find_eq_none rest module hfresh
      refine ⟨?_, hreads.marker.trans hmarker, fun key => ?_, fun key => ?_, fun key => ?_⟩
      · intro e he
        rcases List.mem_cons.mp he with rfl | he
        · exact hreadable
        · exact hreads.readable e he
      · rw [hreads.units key, hunits, OrderedMap.get?_insert, OrderedMap.find]
        by_cases hkey : module = key
        · subst hkey
          simp [hnone]
        · simp [hkey]
      · rw [hreads.broken key, hbroken key, OrderedMap.find]
        by_cases hkey : module = key
        · subst hkey
          simp [hnone]
        · simp [hkey]
      · rw [hreads.schemas key, hschemas key, List.findSome?_cons, Option.or_assoc]
        cases (schemasOf host file).find? (schemaKey module · == key) <;> rfl
    · cases h

/-! Schemas by their paths -/

theorem findSome?_eq_bind_find (l : List (String × Files.Path)) (hnodup : (l.map (·.1)).Nodup)
    (f : String × Files.Path → Option Schema) (key : String)
    (hother : ∀ e ∈ l, e.1 ≠ key → f e = none) :
    l.findSome? f = (OrderedMap.find l key).bind fun file => f (key, file) := by
  induction l with
  | nil => rfl
  | cons e rest ih =>
    obtain ⟨module, file⟩ := e
    obtain ⟨hfresh, hrest⟩ := List.nodup_cons.mp hnodup
    have ih := ih hrest fun e he => hother e (List.mem_cons_of_mem _ he)
    rw [List.findSome?_cons, OrderedMap.find]
    by_cases hkey : module = key
    · subst hkey
      rw [ih, OrderedMap.find_eq_none rest module hfresh, if_pos rfl, Option.bind_some]
      cases f (module, file) <;> rfl
    · rw [hother (module, file) List.mem_cons_self hkey, ih, if_neg hkey]

theorem declared_of_mem_schemasOf (host : Host) (file : Files.Path) (schema : Schema)
    (h : schema ∈ schemasOf host file) : schema.Declared := by
  unfold schemasOf at h
  split at h
  · rename_i u hload
    cases hschemas : u.schemas host.interpreter with
    | error reason =>
      rw [hschemas] at h
      cases h
    | ok schemas =>
      rw [hschemas] at h
      obtain ⟨d, -, hclass⟩ := exists_of_mem_mapM _ u.classes schemas hschemas schema h
      exact ⟨_, d, _, hclass⟩
  · cases h

/-- The name of a class has no dot. -/
theorem dotless_of_declared (schema : Schema) (h : schema.Declared) : Dotless schema.identifier := by
  obtain ⟨_, d, file, hclass⟩ := h
  rw [identifier_of_ofClass d file schema hclass]
  exact Code.not_mem_of_isName d.name _ d.named (by decide)

theorem dotless_of_mem_schemasOf (host : Host) (file : Files.Path) (schema : Schema)
    (h : schema ∈ schemasOf host file) : Dotless schema.identifier :=
  dotless_of_declared schema (declared_of_mem_schemasOf host file schema h)

/-- The path of a schema tells the unit and the name. -/
theorem schemaKey_eq_iff (marker first : String) (module modules : List String) (schema : Schema)
    (identifier : String) (hmarker : Dotless marker) (hmodule : AllSegments module)
    (hschema : Dotless schema.identifier) (hfirst : Dotless first) (hmodules : AllSegments modules)
    (hidentifier : Dotless identifier) :
    schemaKey (TargetPath.dotted (marker :: module)) schema =
        TargetPath.dotted (first :: modules ++ [identifier]) ↔
      marker = first ∧ module = modules ∧ schema.identifier = identifier := by
  have hdotless : ∀ (a : String) (names : List String) (b : String), Dotless a → AllSegments names →
      Dotless b → ∀ s ∈ a :: names ++ [b], Dotless s := by
    intro a names b ha hnames hb s hs
    rcases List.mem_append.mp hs with hs | hs
    · exact TargetPath.dotless_cons a names ha hnames s hs
    · rw [List.mem_singleton.mp hs]
      exact hb
  unfold schemaKey
  rw [← TargetPath.dotted_append _ _ (List.cons_ne_nil _ _)]
  constructor
  · intro h
    have hnames := TargetPath.dotted_injective _ _ (by simp) (by simp)
      (hdotless marker module _ hmarker hmodule hschema)
      (hdotless first modules _ hfirst hmodules hidentifier) h
    obtain ⟨hfront, hname⟩ := List.append_inj' hnames rfl
    rw [List.cons.injEq] at hfront hname
    exact ⟨hfront.1, hfront.2, hname.1⟩
  · rintro ⟨rfl, rfl, rfl⟩
    rfl

theorem find?_schemaKey (host : Host) (file : Files.Path) (marker first : String)
    (module modules : List String) (identifier : String) (hmarker : Dotless marker)
    (hmodule : AllSegments module) (hfirst : Dotless first) (hmodules : AllSegments modules)
    (hidentifier : Dotless identifier) :
    (schemasOf host file).find? (schemaKey (TargetPath.dotted (marker :: module)) · ==
        TargetPath.dotted (first :: modules ++ [identifier])) =
      if marker = first ∧ module = modules then
        (schemasOf host file).find? (·.identifier == identifier)
      else none := by
  have hkey := fun schema (hschema : schema ∈ schemasOf host file) =>
    schemaKey_eq_iff marker first module modules schema identifier hmarker hmodule
      (dotless_of_mem_schemasOf host file schema hschema) hfirst hmodules hidentifier
  split
  · rename_i hunit
    refine List.find?_congr fun schema hschema => ?_
    rw [Bool.eq_iff_iff, beq_iff_eq, beq_iff_eq, hkey schema hschema]
    exact ⟨fun h => h.2.2, fun h => ⟨hunit.1, hunit.2, h⟩⟩
  · rename_i hunit
    rw [List.find?_eq_none]
    intro schema hschema heq
    rw [beq_iff_eq, hkey schema hschema] at heq
    exact hunit ⟨heq.1, heq.2.1⟩

/-! The registry of a tree -/

/-- A registry made of units, each with a name of its own. -/
structure Ingested (host : Host) (root : Files.Path) (marker : String)
    (units : OrderedMap String Files.Path) (r : Registry) : Prop where
  below : unitsBelow host root marker = .ok units
  keyed : Keyed marker units
  reads : Reads host units.toList (empty marker) r

theorem exists_ingested (host : Host) (root : Files.Path) (marker : String) (r : Registry)
    (hroot : Files.isDirectory? host root = .ok true) (h : ofSourceRoot host root marker = .ok r) :
    ∃ units, Ingested host root marker units r := by
  unfold ofSourceRoot ingest at h
  cases hbelow : unitsBelow host root marker with
  | error reason =>
    rw [show (empty marker).marker = marker from rfl, hbelow] at h
    cases h
  | ok units =>
    have hkeyed := keyed_unitsBelow host root marker hroot units hbelow
    rw [show (empty marker).marker = marker from rfl, hbelow] at h
    dsimp only at h
    split at h
    · rename_i read hread
      cases h
      exact ⟨units, hbelow, hkeyed, reads_addFiles host units.toList hkeyed.1 _ _ hread⟩
    · cases h

section

variable (host : Host) (root : Files.Path) (marker : String)
  (units : OrderedMap String Files.Path) (r : Registry) (h : Ingested host root marker units r)

include h

theorem marker_of_ingested : r.marker = marker := h.reads.marker

theorem get?_units (key : String) : r.units.get? key = (units.get? key).map some := by
  rw [h.reads.units key, show (empty marker).units.get? key = none from rfl, Option.or_none]
  rfl

theorem get?_broken (key : String) :
    r.broken.get? key = (units.get? key).bind (problemOf? host) := by
  rw [h.reads.broken key, show (empty marker).broken.get? key = none from rfl, Option.or_none]
  rfl

theorem readable_of_get? (key : String) (file : Files.Path) (hfile : units.get? key = some file) :
    Readable host file :=
  h.reads.readable (key, file) (OrderedMap.mem_of_find units.toList key file hfile)

/-- The schema at a path is the first of its name in its unit. -/
theorem get?_schemas (path : TargetPath) (hmarker : Dotless marker) :
    r.schemas.get? path.toString =
      if path.root = marker then
        (units.get? path.modulePath).bind fun file =>
          (schemasOf host file).find? (·.identifier == path.identifier)
      else none := by
  have hroot := path.dotless_root
  have hidentifier := path.dotless_identifier
  have hmodules := path.allSegments_modules
  rw [h.reads.schemas, show (empty marker).schemas.get? path.toString = none from rfl, Option.none_or]
  have hunit : ∀ e ∈ units.toList,
      (schemasOf host e.2).find? (schemaKey e.1 · == path.toString) =
        if path.root = marker ∧ e.1 = path.modulePath then
          (schemasOf host e.2).find? (·.identifier == path.identifier)
        else none := by
    rintro ⟨key, file⟩ he
    obtain ⟨module, hmodule, hkey⟩ := h.keyed.2 key (List.mem_map_of_mem he)
    dsimp only at hkey ⊢
    rw [hkey, path.toString_eq, path.modulePath_eq, find?_schemaKey host file marker path.root module
      path.modules path.identifier hmarker hmodule hroot hmodules hidentifier]
    have hiff := TargetPath.dotted_cons_inj marker path.root module path.modules hmarker hroot
      hmodule hmodules
    refine if_congr ?_ rfl rfl
    constructor
    · rintro ⟨hfirst, hrest⟩
      exact ⟨hfirst.symm, hiff.mpr ⟨hfirst, hrest⟩⟩
    · rintro ⟨-, hdotted⟩
      exact hiff.mp hdotted
  by_cases hpath : path.root = marker
  · rw [if_pos hpath, findSome?_eq_bind_find units.toList h.keyed.1 _ path.modulePath]
    · unfold OrderedMap.get?
      cases hfile : OrderedMap.find units.toList path.modulePath with
      | none => rfl
      | some file =>
        have hmem := OrderedMap.mem_of_find units.toList path.modulePath file hfile
        rw [Option.bind_some, Option.bind_some, hunit _ hmem, if_pos ⟨hpath, rfl⟩]
    · intro e he hne
      rw [hunit e he, if_neg fun hboth => hne hboth.2]
  · rw [if_neg hpath, List.findSome?_eq_none_iff]
    intro e he
    rw [hunit e he, if_neg fun hboth => hpath hboth.1]

/-- What the registry of a tree answers to a path below its marker. -/
theorem resolve_ingested (path : TargetPath) (hpath : path.root = marker) (location : Location) :
    r.resolve path location =
      match units.get? path.modulePath with
      | none =>
        .error ((ResolutionProblem.noUnit path.modulePath path).failure location)
      | some file =>
        match problemOf? host file with
        | some d => .error (.reported { d with location })
        | none =>
          match (schemasOf host file).find? (·.identifier == path.identifier) with
          | some schema => .ok schema
          | none =>
            .error ((ResolutionProblem.noSchema path.identifier file.toString).failure location) := by
  have hmarker : Dotless marker := by
    rw [← hpath]
    exact path.dotless_root
  unfold resolve
  rw [marker_of_ingested host root marker units r h, if_neg (not_not_intro hpath)]
  dsimp only
  rw [get?_broken host root marker units r h, get?_units host root marker units r h,
    get?_schemas host root marker units r h path hmarker, if_pos hpath]
  cases units.get? path.modulePath with
  | none => rfl
  | some file =>
    rw [Option.bind_some, Option.bind_some, Option.map_some]
    dsimp only
    cases problemOf? host file with
    | some d => rfl
    | none => cases (schemasOf host file).find? (·.identifier == path.identifier) <;> rfl

/-- A path is known where the registry answers it with a schema. -/
theorem contains_ingested (path : TargetPath) (hmarker : Dotless marker) (location : Location) :
    r.contains path = true ↔ ∃ schema, r.resolve path location = .ok schema := by
  unfold contains OrderedMap.contains
  rw [get?_schemas host root marker units r h path hmarker]
  by_cases hpath : path.root = marker
  · rw [if_pos hpath, resolve_ingested host root marker units r h path hpath location]
    cases units.get? path.modulePath with
    | none => simp [ResolutionProblem.failure]
    | some file =>
      rw [Option.bind_some]
      dsimp only
      cases hproblem : problemOf? host file with
      | some d => simp [schemasOf_eq_nil host file d hproblem]
      | none =>
        cases (schemasOf host file).find? (·.identifier == path.identifier) <;>
          simp [ResolutionProblem.failure]
  · rw [if_neg hpath]
    unfold resolve
    rw [marker_of_ingested host root marker units r h, if_pos hpath]
    simp [ResolutionProblem.failure]

end

end Crosswalk.Registry
