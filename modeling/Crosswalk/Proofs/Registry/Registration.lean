import Crosswalk.Proofs.Registry.History

/-! What registering a schema changes. Its path is found from then on; paths of other units are answered as
before. A unit that was unknown or broken is taken for one that is known, so its other paths are answered by
what is stored for them. -/

namespace Crosswalk.Registry

/-! Paths -/

section

variable (r : Registry) (path : TargetPath) (schema : Schema)

theorem get?_schemas_register (q : TargetPath) :
    (r.register path schema).schemas.get? q.toString =
      if path = q then some schema else r.schemas.get? q.toString := by
  have hinsert := OrderedMap.get?_insert r.schemas path.toString q.toString schema
  by_cases hq : path = q
  · rw [if_pos hq]
    rwa [if_pos (congrArg TargetPath.toString hq)] at hinsert
  · rw [if_neg hq]
    rwa [if_neg fun hkey => hq (TargetPath.toString_injective path q hkey)] at hinsert

theorem paths_register :
    (r.register path schema).paths =
      if path.toString ∈ r.paths then r.paths else r.paths ++ [path.toString] :=
  OrderedMap.keys_insert ..

theorem others_register :
    (r.register path schema).paths.filter (· ≠ path.toString) =
      r.paths.filter (· ≠ path.toString) := by
  rw [paths_register]
  split
  · rfl
  · simp

/-! Answers -/

/-- Where a registry says that it has looked for the schemas of a unit. -/
def placeOf (module : String) : String :=
  (((r.units.get? module).getD none).map Files.Path.toString).getD module

section

variable (q : TargetPath) (location : Location) (hroot : q.root = r.marker)

include hroot

theorem resolve_of_broken (d : Diagnostic) (hbroken : r.broken.get? q.modulePath = some d) :
    r.resolve q location = .error (.reported { d with location }) := by
  unfold resolve
  rw [if_neg (not_not_intro hroot)]
  dsimp only
  rw [hbroken]

variable (hbroken : r.broken.get? q.modulePath = none)

include hbroken

theorem resolve_of_unknown (hunit : r.units.get? q.modulePath = none) :
    r.resolve q location =
      .error ((ResolutionProblem.noUnit q.modulePath q).failure location) := by
  unfold resolve
  rw [if_neg (not_not_intro hroot)]
  dsimp only
  rw [hbroken, hunit]

/-- A unit that is known and not broken gives what is stored. -/
theorem resolve_of_known (hunit : r.units.contains q.modulePath = true) :
    r.resolve q location =
      match r.schemas.get? q.toString with
      | some found => .ok found
      | none =>
        .error ((ResolutionProblem.noSchema q.identifier (r.placeOf q.modulePath)).failure
          location) := by
  obtain ⟨file, hfile⟩ := Option.isSome_iff_exists.mp hunit
  unfold resolve placeOf
  rw [if_neg (not_not_intro hroot)]
  dsimp only
  rw [hbroken, hfile]
  rfl

end

/-- Paths of other units are answered as before. -/
theorem resolve_register_of_ne (q : TargetPath) (location : Location)
    (hmodule : q.modulePath ≠ path.modulePath) :
    (r.register path schema).resolve q location = r.resolve q location := by
  have hq : path ≠ q := fun h => hmodule (congrArg TargetPath.modulePath h.symm)
  unfold resolve
  dsimp only
  rw [get?_schemas_register, get?_units_register, get?_broken_register, if_neg hq,
    if_neg (Ne.symm hmodule), if_neg (Ne.symm hmodule)]
  rfl

/-- In the unit itself, what is stored is found. -/
theorem resolve_register_of_eq (q : TargetPath) (location : Location) (hroot : q.root = r.marker)
    (hmodule : q.modulePath = path.modulePath) :
    (r.register path schema).resolve q location =
      match (r.register path schema).schemas.get? q.toString with
      | some found => .ok found
      | none =>
        .error ((ResolutionProblem.noSchema q.identifier
          ((r.register path schema).placeOf q.modulePath)).failure location) := by
  refine resolve_of_known _ q location hroot ?_ ?_
  · rw [get?_broken_register, if_pos hmodule.symm]
  · exact (contains_units_register r path schema _).mpr (.inl hmodule.symm)

/-- A unit that was known keeps its place. -/
theorem placeOf_register (module : String) (hunit : r.units.contains module = true) :
    (r.register path schema).placeOf module = r.placeOf module := by
  obtain ⟨file, hfile⟩ := Option.isSome_iff_exists.mp hunit
  unfold placeOf
  rw [get?_units_register, hfile]
  simp

end

theorem root_eq_of_modulePath (p q : TargetPath) (h : p.modulePath = q.modulePath) :
    p.root = q.root := by
  rw [p.modulePath_eq, q.modulePath_eq] at h
  exact ((TargetPath.dotted_cons_inj _ _ _ _ p.dotless_root q.dotless_root p.allSegments_modules
    q.allSegments_modules).mp h).1

/-! The effect -/

/-- How the answer to another path of the unit turns. The schema that was found is found, and the lack of one
is told as before. A problem of the unit as a whole gives way to what is stored for the path. -/
inductive Turns (r : Registry) (q : TargetPath) (location : Location) (place : String) :
    Except Failure Schema → Except Failure Schema → Prop
  | found (schema : Schema) (hstored : r.schemas.get? q.toString = some schema) :
    Turns r q location place (.ok schema) (.ok schema)
  | missing (hnone : r.schemas.get? q.toString = none) :
    Turns r q location place (.error ((ResolutionProblem.noSchema q.identifier place).failure location))
      (.error ((ResolutionProblem.noSchema q.identifier place).failure location))
  | known (hnone : r.schemas.get? q.toString = none) :
    Turns r q location place (.error ((ResolutionProblem.noUnit q.modulePath q).failure location))
      (.error ((ResolutionProblem.noSchema q.identifier place).failure location))
  | mended (d : Diagnostic) (hbroken : r.broken.get? q.modulePath = some d) (schema : Schema)
    (hstored : r.schemas.get? q.toString = some schema) :
    Turns r q location place (.error (.reported { d with location })) (.ok schema)
  | emptied (d : Diagnostic) (hbroken : r.broken.get? q.modulePath = some d)
    (hnone : r.schemas.get? q.toString = none) :
    Turns r q location place (.error (.reported { d with location }))
      (.error ((ResolutionProblem.noSchema q.identifier place).failure location))

/-- What registering a schema does to a registry. -/
structure Registers (r : Registry) (path : TargetPath) (schema : Schema) (r' : Registry) : Prop where
  contained : r'.contains path = true
  resolved : ∀ location, r'.resolve path location = .ok schema
  stored : ∀ q, q ≠ path → r'.schemas.get? q.toString = r.schemas.get? q.toString
  listed : r'.paths = if path.toString ∈ r.paths then r.paths else r.paths ++ [path.toString]
  order : r'.paths.filter (· ≠ path.toString) = r.paths.filter (· ≠ path.toString)
  elsewhere : ∀ q location, q.modulePath ≠ path.modulePath →
    r'.resolve q location = r.resolve q location
  beside : ∀ q location, q ≠ path → q.modulePath = path.modulePath →
    Turns r q location (r'.placeOf q.modulePath) (r.resolve q location) (r'.resolve q location)

/-- Nothing is stored in a unit that is unknown. -/
theorem get?_schemas_of_unknown (marker : String) (events : List Event) (r : Registry)
    (h : Recalls marker events r) (q : TargetPath) (hunit : r.units.get? q.modulePath = none) :
    r.schemas.get? q.toString = none := by
  cases hstored : r.schemas.get? q.toString with
  | none => rfl
  | some schema =>
    have hcontains : r.schemas.contains q.toString = true := by
      rw [OrderedMap.contains, hstored]
      rfl
    obtain ⟨module, identifier, heq, hdotless, hknown⟩ := h.schemas q.toString hcontains
    rw [toString_eq_modulePath] at heq
    rw [← append_dot_inj _ _ _ _ q.dotless_identifier hdotless heq, OrderedMap.contains, hunit]
      at hknown
    cases hknown

theorem turns_register (marker : String) (events : List Event) (r : Registry)
    (h : Recalls marker events r) (path q : TargetPath) (schema : Schema) (location : Location)
    (hroot : path.root = marker) (hq : q ≠ path) (hmodule : q.modulePath = path.modulePath) :
    Turns r q location ((r.register path schema).placeOf q.modulePath) (r.resolve q location)
      ((r.register path schema).resolve q location) := by
  have hqroot : q.root = r.marker := by
    rw [root_eq_of_modulePath q path hmodule, hroot, h.marker_eq]
  rw [resolve_register_of_eq r path schema q location hqroot hmodule, get?_schemas_register,
    if_neg (Ne.symm hq)]
  cases hunit : r.units.get? q.modulePath with
  | none =>
    have hnone := get?_schemas_of_unknown marker events r h q hunit
    rw [hnone]
    cases hbroken : r.broken.get? q.modulePath with
    | none =>
      rw [resolve_of_unknown r q location hqroot hbroken hunit]
      exact .known hnone
    | some d =>
      rw [resolve_of_broken r q location hqroot d hbroken]
      exact .emptied d hbroken hnone
  | some file =>
    have hknown : r.units.contains q.modulePath = true := by
      rw [OrderedMap.contains, hunit]
      rfl
    cases hbroken : r.broken.get? q.modulePath with
    | none =>
      rw [resolve_of_known r q location hqroot hbroken hknown, placeOf_register r path schema _ hknown]
      cases hstored : r.schemas.get? q.toString with
      | none => exact .missing hstored
      | some found => exact .found found hstored
    | some d =>
      rw [resolve_of_broken r q location hqroot d hbroken]
      cases hstored : r.schemas.get? q.toString with
      | none => exact .emptied d hbroken hstored
      | some found => exact .mended d hbroken found hstored

/-- Whatever a registry has gone through, a schema that is registered in it is found at its path, all other
paths keep their order and what is stored for them, and answers change in the unit of the path alone. -/
theorem registers_after (marker : String) (events : List Event) (path : TargetPath) (schema : Schema)
    (hroot : path.root = marker) :
    Registers (after marker events) path schema ((after marker events).register path schema) := by
  have hrecalls := recalls_after marker events
  generalize after marker events = r at hrecalls
  refine ⟨?_, fun location => ?_, fun q hq => ?_, paths_register r path schema,
    others_register r path schema, resolve_register_of_ne r path schema, ?_⟩
  · rw [contains, OrderedMap.contains, get?_schemas_register, if_pos rfl]
    rfl
  · rw [resolve_register_of_eq r path schema path location (hroot.trans hrecalls.marker_eq.symm) rfl,
      get?_schemas_register, if_pos rfl]
  · rw [get?_schemas_register, if_neg (Ne.symm hq)]
  · intro q location hq hmodule
    exact turns_register marker events r hrecalls path q schema location hroot hq hmodule

def besidePath : TargetPath := ⟨["crate", "a", "B"], by decide, by decide⟩

/-- A schema that was registered and lost with its unit is found again when another one is registered. -/
theorem registers_after_torn :
    besidePath.root = "crate" ∧
      (¬ ∃ schema, (after "crate" tornHistory).resolve shelvedPath = .ok schema) ∧
      ((after "crate" tornHistory).register besidePath shelvedSchema).resolve besidePath =
        .ok shelvedSchema ∧
      ∃ schema, ((after "crate" tornHistory).register besidePath shelvedSchema).resolve shelvedPath =
        .ok schema := by
  have heffect := registers_after "crate" tornHistory besidePath shelvedSchema rfl
  have hstored : ((after "crate" tornHistory).schemas.get? shelvedPath.toString).isSome = true := by
    decide +kernel
  have hlost : ((after "crate" tornHistory).resolve shelvedPath).isOk = false := by decide +kernel
  have hturns := heffect.beside shelvedPath {} (by decide) (by decide +kernel)
  refine ⟨rfl, ?_, heffect.resolved {}, ?_⟩
  · rintro ⟨schema, hfound⟩
    rw [hfound] at hlost
    cases hlost
  · generalize (after "crate" tornHistory).resolve shelvedPath = before at hturns
    generalize ((after "crate" tornHistory).register besidePath shelvedSchema).resolve shelvedPath =
      answer at hturns ⊢
    cases hturns with
    | found schema => exact ⟨schema, rfl⟩
    | mended d _ schema => exact ⟨schema, rfl⟩
    | missing hnone | known hnone | emptied _ _ hnone =>
      rw [hnone] at hstored
      cases hstored

end Crosswalk.Registry
