import Crosswalk.Proofs.Resolution

/-! Histories of a registry. Trees are read into it and schemas are registered in it any number of times.
A unit that a reading finds broken is lost until something is registered in it; no later reading brings it
back, though it may add the schemas of the unit. What the registry contains of other units resolves. -/

namespace Crosswalk.Registry

/-! Events -/

inductive Event
  | ingest (host : Host) (root : Files.Path)
  | register (path : TargetPath) (schema : Schema)

/-- A reading that is stopped keeps what it has read. -/
def Event.apply (r : Registry) : Event → Registry
  | ingest host root => (Registry.ingest host root r).1
  | register path schema => r.register path schema

def after (marker : String) (events : List Event) : Registry :=
  events.foldl Event.apply (empty marker)

/-! What a reading finds -/

/-- A reading of files comes to a file if none before it stops the reading. -/
inductive Reached (host : Host) : List (String × Files.Path) → String → Files.Path → Prop
  | here (module : String) (file : Files.Path) (rest : List (String × Files.Path)) :
    Reached host ((module, file) :: rest) module file
  | later (first : String × Files.Path) (rest : List (String × Files.Path)) (module : String)
      (file : Files.Path) (hreadable : Readable host first.2) (h : Reached host rest module file) :
    Reached host (first :: rest) module file

/-- A reading of files finds a problem of a unit. -/
def Found (host : Host) (l : List (String × Files.Path)) (module : String) (d : Diagnostic) :
    Prop :=
  ∃ file, Reached host l module file ∧ problemOf? host file = some d

section

variable (host : Host)

theorem found_cons (first : String × Files.Path) (rest : List (String × Files.Path))
    (module : String) (d : Diagnostic) :
    Found host (first :: rest) module d ↔
      first.1 = module ∧ problemOf? host first.2 = some d ∨
        Readable host first.2 ∧ Found host rest module d := by
  constructor
  · rintro ⟨file, hreached, hproblem⟩
    cases hreached with
    | here => exact .inl ⟨rfl, hproblem⟩
    | later _ _ _ _ hreadable hreached => exact .inr ⟨hreadable, file, hreached, hproblem⟩
  · rintro (⟨rfl, hproblem⟩ | ⟨hreadable, file, hreached, hproblem⟩)
    · exact ⟨first.2, .here first.1 first.2 rest, hproblem⟩
    · exact ⟨file, .later first rest module file hreadable hreached, hproblem⟩

theorem mem_of_reached (l : List (String × Files.Path)) (module : String) (file : Files.Path)
    (h : Reached host l module file) : module ∈ l.map (·.1) := by
  induction h with
  | here => exact List.mem_cons_self
  | later _ _ _ _ _ _ ih => exact List.mem_cons_of_mem _ ih

theorem readable_of_problem (file : Files.Path) (d : Diagnostic)
    (h : problemOf? host file = some d) : Readable host file := by
  unfold problemOf? at h
  split at h
  · rename_i found hload
    exact .inl ⟨found, hload⟩
  · cases h

/-- What a reading of files adds to a registry, whether or not it comes to its end. -/
structure Adds (l : List (String × Files.Path)) (r r' : Registry) : Prop where
  marker : r'.marker = r.marker
  units : ∀ module, r.units.contains module = true → r'.units.contains module = true
  broken : ∀ module d, r'.broken.get? module = some d ↔
    Found host l module d ∨ r.broken.get? module = some d ∧ ∀ d', ¬ Found host l module d'
  schemas : ∀ key, r'.schemas.contains key = true → r.schemas.contains key = true ∨
    ∃ module identifier, key = module ++ "." ++ identifier ∧ Dotless identifier ∧
      r'.units.contains module = true

theorem units_addFile (r : Registry) (module : String) (file : Files.Path) (key : String) :
    (addFile host r module file).1.units.contains key = true ↔
      module = key ∨ r.units.contains key = true := by
  obtain ⟨-, -, hunits, -, -⟩ := addFile_spec host r module file
  rw [hunits]
  exact OrderedMap.contains_insert _ _ _ _

/-- The schemas a file adds are schemas of its unit. -/
theorem schemas_addFile (r : Registry) (module : String) (file : Files.Path) (key : String)
    (h : (addFile host r module file).1.schemas.contains key = true) :
    r.schemas.contains key = true ∨
      ∃ identifier, key = module ++ "." ++ identifier ∧ Dotless identifier := by
  obtain ⟨-, -, -, -, hschemas⟩ := addFile_spec host r module file
  unfold OrderedMap.contains at h ⊢
  rw [hschemas key] at h
  cases hold : r.schemas.get? key with
  | some schema => exact .inl rfl
  | none =>
    rw [hold, Option.none_or, List.find?_isSome] at h
    obtain ⟨schema, hmem, hkey⟩ := h
    exact .inr ⟨schema.identifier, (beq_iff_eq.mp hkey).symm,
      dotless_of_mem_schemasOf host file schema hmem⟩

theorem broken_addFile (r : Registry) (module : String) (file : Files.Path) (key : String)
    (d : Diagnostic) :
    (addFile host r module file).1.broken.get? key = some d ↔
      module = key ∧ problemOf? host file = some d ∨
        r.broken.get? key = some d ∧ ∀ d', ¬ (module = key ∧ problemOf? host file = some d') := by
  obtain ⟨-, -, -, hbroken, -⟩ := addFile_spec host r module file
  rw [hbroken key]
  by_cases hkey : module = key
  · rw [if_pos hkey]
    cases problemOf? host file <;> simp [hkey]
  · rw [if_neg hkey]
    simp [hkey]

theorem adds_addFiles (l : List (String × Files.Path)) (hnodup : (l.map (·.1)).Nodup)
    (r : Registry) : Adds host l r (addFiles host r l).1 := by
  induction l generalizing r with
  | nil =>
    have hnone : ∀ module d, ¬ Found host [] module d := by
      rintro module d ⟨file, hreached, -⟩
      cases hreached
    exact ⟨rfl, fun _ h => h, fun module d => by simp [hnone, addFiles], fun _ h => .inl h⟩
  | cons first rest ih =>
    obtain ⟨module, file⟩ := first
    obtain ⟨hfresh, hrest⟩ := List.nodup_cons.mp hnodup
    obtain ⟨hreadable, hmarker, -, -, -⟩ := addFile_spec host r module file
    have hunits := units_addFile host r module file
    have hschemas := schemas_addFile host r module file
    have hbroken := broken_addFile host r module file
    cases hadd : addFile host r module file with
    | mk next stop =>
    rw [hadd] at hreadable hmarker hunits hschemas hbroken
    dsimp only at hreadable hmarker hunits hschemas hbroken
    cases stop with
    | none =>
      have hfiles : addFiles host r ((module, file) :: rest) = addFiles host next rest := by
        rw [addFiles, hadd]
      have hadds := ih hrest next
      rw [hfiles]
      refine ⟨hadds.marker.trans hmarker, fun key hkey => ?_, fun key d => ?_, fun key hkey => ?_⟩
      · exact hadds.units key ((hunits key).mpr (.inr hkey))
      · have hfound := fun d => found_cons host (module, file) rest key d
        simp only [hreadable.mp rfl, true_and] at hfound
        simp only [hadds.broken key d, hbroken key d, hfound]
        by_cases hmodule : module = key
        · -- The unit comes once in a reading.
          have hother : ∀ d, ¬ Found host rest key d := by
            rintro d ⟨file', hreached, -⟩
            rw [← hmodule] at hreached
            exact hfresh (mem_of_reached host rest module file' hreached)
          simp [hother]
        · simp [hmodule]
      · rcases hadds.schemas key hkey with hnext | hnew
        · rcases hschemas key hnext with hold | ⟨identifier, heq, hdotless⟩
          · exact .inl hold
          · exact .inr ⟨module, identifier, heq, hdotless,
              hadds.units module ((hunits module).mpr (.inl rfl))⟩
        · exact .inr hnew
    | some fault =>
      have hfiles : addFiles host r ((module, file) :: rest) = (next, some fault) := by
        rw [addFiles, hadd]
      have hstops : ¬ Readable host file := by
        intro h
        cases hreadable.mpr h
      have hgood : ∀ d, problemOf? host file ≠ some d :=
        fun d h => hstops (readable_of_problem host file d h)
      rw [hfiles]
      refine ⟨hmarker, fun key hkey => (hunits key).mpr (.inr hkey), fun key d => ?_,
        fun key hkey => ?_⟩
      · simp [hbroken key d, found_cons, hstops, hgood]
      · rcases hschemas key hkey with hold | ⟨identifier, heq, hdotless⟩
        · exact .inl hold
        · exact .inr ⟨module, identifier, heq, hdotless, (hunits module).mpr (.inl rfl)⟩

end

theorem nodup_unitsBelow (host : Host) (root : Files.Path) (marker : String)
    (units : OrderedMap String Files.Path) (h : unitsBelow host root marker = .ok units) :
    units.keys.Nodup := by
  have hempty : Keyed marker .empty := ⟨List.nodup_nil, fun key hkey => nomatch hkey⟩
  unfold unitsBelow at h
  obtain ⟨place, -, h⟩ := exists_of_bind_ok _ _ _ h
  split at h
  · obtain ⟨-, -, h⟩ := exists_of_bind_ok _ _ _ h
    exact (keyed_foldlM_addUnit host root marker _ .empty units hempty h).1
  · cases h
    exact hempty.1

/-! What a history leaves -/

/-- An event reads a tree and finds a problem of a unit. -/
inductive Finds (marker module : String) (d : Diagnostic) : Event → Prop
  | ingest (host : Host) (root : Files.Path) (units : OrderedMap String Files.Path)
      (hunits : unitsBelow host root marker = .ok units) (h : Found host units.toList module d) :
    Finds marker module d (.ingest host root)

/-- An event neither finds a problem of a unit nor registers a schema in it. -/
structure Passes (marker module : String) (e : Event) : Prop where
  finds : ∀ d, ¬ Finds marker module d e
  register : ∀ path schema, e = .register path schema → path.modulePath ≠ module

/-- A problem of a unit was found, and every event since has passed it by. -/
def Lost (marker : String) (events : List Event) (module : String) (d : Diagnostic) : Prop :=
  ∃ before e later, events = before ++ e :: later ∧ Finds marker module d e ∧
    ∀ e' ∈ later, Passes marker module e'

theorem lost_append (marker : String) (events : List Event) (e : Event) (module : String)
    (d : Diagnostic) :
    Lost marker (events ++ [e]) module d ↔
      Finds marker module d e ∨ Lost marker events module d ∧ Passes marker module e := by
  constructor
  · rintro ⟨before, e', later, heq, hfinds, hpasses⟩
    rcases List.eq_nil_or_concat later with rfl | ⟨front, last, rfl⟩
    · obtain ⟨-, hlast⟩ := List.append_inj' heq rfl
      rw [List.cons.injEq] at hlast
      exact .inl (hlast.1 ▸ hfinds)
    · rw [List.concat_eq_append] at heq hpasses
      rw [show before ++ e' :: (front ++ [last]) = (before ++ e' :: front) ++ [last] by simp] at heq
      obtain ⟨hevents, hlast⟩ := List.append_inj' heq rfl
      rw [List.cons.injEq] at hlast
      refine .inr ⟨⟨before, e', front, hevents, hfinds, fun x hx => ?_⟩, ?_⟩
      · exact hpasses x (List.mem_append_left _ hx)
      · rw [hlast.1]
        exact hpasses last (by simp)
  · rintro (hfinds | ⟨⟨before, e', later, rfl, hfinds, hpasses⟩, hpass⟩)
    · exact ⟨events, e, [], rfl, hfinds, fun x hx => nomatch hx⟩
    · refine ⟨before, e', later ++ [e], by simp, hfinds, fun x hx => ?_⟩
      rcases List.mem_append.mp hx with hx | hx
      · exact hpasses x hx
      · rw [List.mem_singleton.mp hx]
        exact hpass

/-- What a registry has to do with its history: every unit it holds broken was lost, and every schema it
contains has a unit it knows. -/
structure Recalls (marker : String) (events : List Event) (r : Registry) : Prop where
  marker_eq : r.marker = marker
  broken : ∀ module d, r.broken.get? module = some d ↔ Lost marker events module d
  schemas : ∀ key, r.schemas.contains key = true →
    ∃ module identifier, key = module ++ "." ++ identifier ∧ Dotless identifier ∧
      r.units.contains module = true

theorem toString_eq_modulePath (path : TargetPath) :
    path.toString = path.modulePath ++ "." ++ path.identifier := by
  rw [path.toString_eq, path.modulePath_eq, TargetPath.dotted_append _ _ (List.cons_ne_nil _ _)]

section

variable (r : Registry) (path : TargetPath) (schema : Schema) (module : String)

theorem get?_units_register :
    (r.register path schema).units.get? module =
      if path.modulePath = module then some ((r.units.get? module).getD schema.file)
      else r.units.get? module := OrderedMap.get?_insertNew ..

theorem contains_units_register :
    (r.register path schema).units.contains module = true ↔
      path.modulePath = module ∨ r.units.contains module = true := by
  rw [OrderedMap.contains, get?_units_register]
  by_cases hmodule : path.modulePath = module <;> simp [hmodule, OrderedMap.contains]

theorem get?_broken_register :
    (r.register path schema).broken.get? module =
      if path.modulePath = module then none else r.broken.get? module := OrderedMap.get?_erase ..

end

section

variable (marker : String) (events : List Event) (r : Registry) (h : Recalls marker events r)

include h

theorem recalls_ingest (host : Host) (root : Files.Path) :
    Recalls marker (events ++ [.ingest host root]) (ingest host root r).1 := by
  unfold ingest
  rw [h.marker_eq]
  cases hunits : unitsBelow host root marker with
  | error reason =>
    have hpasses : ∀ module, Passes marker module (.ingest host root) := by
      refine fun module => ⟨?_, fun path schema heq => nomatch heq⟩
      rintro d ⟨host, root, units, hunits', -⟩
      rw [hunits] at hunits'
      cases hunits'
    refine ⟨h.marker_eq, fun module d => ?_, h.schemas⟩
    rw [lost_append, h.broken module d]
    simp [hpasses module, (hpasses module).finds d]
  | ok units =>
    have hadds := adds_addFiles host units.toList (nodup_unitsBelow host root marker units hunits) r
    have hfinds : ∀ module d, Finds marker module d (.ingest host root) ↔
        Found host units.toList module d := by
      intro module d
      constructor
      · rintro ⟨host, root, units', hunits', hfound⟩
        rw [hunits] at hunits'
        cases hunits'
        exact hfound
      · exact .ingest host root units hunits
    have hpasses : ∀ module, Passes marker module (.ingest host root) ↔
        ∀ d, ¬ Found host units.toList module d := by
      intro module
      simp only [← hfinds]
      exact ⟨fun hpass => hpass.finds, fun hnone => ⟨hnone, fun path schema heq => nomatch heq⟩⟩
    refine ⟨hadds.marker.trans h.marker_eq, fun module d => ?_, fun key hkey => ?_⟩
    · rw [lost_append, hadds.broken module d, h.broken module d, hfinds, hpasses]
    · rcases hadds.schemas key hkey with hold | hnew
      · obtain ⟨module, identifier, heq, hdotless, hunit⟩ := h.schemas key hold
        exact ⟨module, identifier, heq, hdotless, hadds.units module hunit⟩
      · exact hnew

theorem recalls_register (path : TargetPath) (schema : Schema) :
    Recalls marker (events ++ [.register path schema]) (r.register path schema) := by
  have hunits := contains_units_register r path schema
  have hpasses : ∀ module, Passes marker module (.register path schema) ↔ path.modulePath ≠ module := by
    intro module
    constructor
    · exact fun hpass => hpass.register path schema rfl
    · intro hmodule
      refine ⟨fun d hfinds => ?_, fun path' schema' heq => ?_⟩
      · cases hfinds
      · cases heq
        exact hmodule
  have hfinds : ∀ module d, ¬ Finds marker module d (.register path schema) := by
    intro module d h
    cases h
  refine ⟨h.marker_eq, fun module d => ?_, fun key hkey => ?_⟩
  · rw [lost_append, hpasses, ← h.broken module d, get?_broken_register]
    by_cases hmodule : path.modulePath = module <;> simp [hmodule, hfinds]
  · rcases (OrderedMap.contains_insert _ _ _ _).mp hkey with rfl | hold
    · exact ⟨path.modulePath, path.identifier, toString_eq_modulePath path, path.dotless_identifier,
        (hunits _).mpr (.inl rfl)⟩
    · obtain ⟨module, identifier, heq, hdotless, hunit⟩ := h.schemas key hold
      exact ⟨module, identifier, heq, hdotless, (hunits module).mpr (.inr hunit)⟩

end

theorem recalls_after (marker : String) (events : List Event) :
    Recalls marker events (after marker events) := by
  induction events using List.reverseRecOn with
  | nil =>
    refine ⟨rfl, fun module d => ?_, fun key hkey => nomatch hkey⟩
    constructor
    · intro hbroken
      cases hbroken
    · rintro ⟨before, e, later, heq, -⟩
      simp at heq
  | append_singleton events e ih =>
    have hafter : after marker (events ++ [e]) = e.apply (after marker events) := by
      simp [after]
    rw [hafter]
    cases e with
    | ingest host root => exact recalls_ingest marker events _ ih host root
    | register path schema => exact recalls_register marker events _ ih path schema

/-! What is contained -/

/-- The unit of a schema is told by its key. -/
theorem append_dot_inj (a b x y : String) (hx : Dotless x) (hy : Dotless y)
    (h : a ++ "." ++ x = b ++ "." ++ y) : a = b := by
  have hlist := congrArg String.toList h
  simp only [String.toList_append, show ".".toList = ['.'] from rfl, List.append_assoc,
    List.singleton_append] at hlist
  exact String.toList_inj.mp (Text.last_cut_unique '.' _ _ _ _ hx hy hlist).1

/-- A path that a registry contains resolves to what is stored for it, unless its unit is lost; then the
problem is told that was last found in it. -/
theorem resolve_contained (marker : String) (events : List Event) (path : TargetPath)
    (location : Location) (hpath : path.root = marker)
    (hcontains : (after marker events).contains path = true) :
    (∀ d, Lost marker events path.modulePath d →
      (after marker events).resolve path location = .error (.reported { d with location })) ∧
    ((∀ d, ¬ Lost marker events path.modulePath d) →
      ∃ schema, (after marker events).schemas.get? path.toString = some schema ∧
        (after marker events).resolve path location = .ok schema) := by
  have hrecalls := recalls_after marker events
  generalize after marker events = r at hrecalls hcontains
  obtain ⟨schema, hschema⟩ := Option.isSome_iff_exists.mp hcontains
  unfold resolve
  rw [hrecalls.marker_eq, if_neg (not_not_intro hpath)]
  dsimp only
  constructor
  · intro d hlost
    rw [(hrecalls.broken _ d).mpr hlost]
  · intro hkept
    obtain ⟨module, identifier, heq, hdotless, hunit⟩ := hrecalls.schemas path.toString hcontains
    have hmodule : path.modulePath = module := by
      rw [toString_eq_modulePath] at heq
      exact append_dot_inj _ _ _ _ path.dotless_identifier hdotless heq
    obtain ⟨file, hfile⟩ := Option.isSome_iff_exists.mp hunit
    have hbroken : r.broken.get? path.modulePath = none := by
      rw [Option.eq_none_iff_forall_ne_some]
      exact fun d hd => hkept d ((hrecalls.broken _ d).mp hd)
    refine ⟨schema, hschema, ?_⟩
    rw [hbroken, hmodule, hfile, hschema]

/-- The shelf before its unit was repaired. -/
def tornShelf : Files.Node :=
  .directory [("src", .directory [("a.py", .file (Files.bytesOf "class A(:\n    x: int\n"))])]

def shelvedSchema : Schema := { identifier := "A", fields := [] }

/-- The unit is read before it is repaired, and again afterwards. -/
def repairedHistory : List Event := [.ingest tornShelf shelfRoot, .ingest shelf shelfRoot]

/-- A schema is registered, and its unit is read before it is repaired. -/
def tornHistory : List Event := [.register shelvedPath shelvedSchema, .ingest tornShelf shelfRoot]

/-- The unit is read before it is repaired, and a schema of it is registered. -/
def mendedHistory : List Event := [.ingest tornShelf shelfRoot, .register shelvedPath shelvedSchema]

theorem exists_lost (events : List Event)
    (h : ((after "crate" events).broken.get? shelvedPath.modulePath).isSome = true) :
    ∃ d, Lost "crate" events shelvedPath.modulePath d := by
  obtain ⟨d, hd⟩ := Option.isSome_iff_exists.mp h
  exact ⟨d, ((recalls_after "crate" events).broken _ d).mp hd⟩

theorem resolve_contained_shelf :
    ((after "crate" repairedHistory).contains shelvedPath = true ∧
      ∃ d : Diagnostic, (after "crate" repairedHistory).resolve shelvedPath =
        .error (.reported { d with location := {} })) ∧
    ((after "crate" tornHistory).contains shelvedPath = true ∧
      ∃ d : Diagnostic, (after "crate" tornHistory).resolve shelvedPath =
        .error (.reported { d with location := {} })) ∧
    ∃ schema, (after "crate" mendedHistory).resolve shelvedPath = .ok schema := by
  have hrepaired : (after "crate" repairedHistory).contains shelvedPath = true := by decide +kernel
  have htorn : (after "crate" tornHistory).contains shelvedPath = true := by decide +kernel
  have hmended : (after "crate" mendedHistory).contains shelvedPath = true := by decide +kernel
  obtain ⟨d, hd⟩ := exists_lost repairedHistory (by decide +kernel)
  obtain ⟨d', hd'⟩ := exists_lost tornHistory (by decide +kernel)
  have hkept : ∀ d, ¬ Lost "crate" mendedHistory shelvedPath.modulePath d := by
    intro d hlost
    have hbroken : ((after "crate" mendedHistory).broken.get? shelvedPath.modulePath).isNone = true := by
      decide +kernel
    rw [((recalls_after "crate" mendedHistory).broken _ d).mpr hlost] at hbroken
    cases hbroken
  obtain ⟨schema, -, hresolve⟩ :=
    (resolve_contained "crate" mendedHistory shelvedPath {} rfl hmended).2 hkept
  exact ⟨⟨hrepaired, d, (resolve_contained "crate" repairedHistory shelvedPath {} rfl hrepaired).1 d hd⟩,
    ⟨htorn, d', (resolve_contained "crate" tornHistory shelvedPath {} rfl htorn).1 d' hd'⟩,
    schema, hresolve⟩

end Crosswalk.Registry
