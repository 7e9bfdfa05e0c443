import Crosswalk.Proofs.Registry.Registration

/-! What reading a tree adds to a registry. All that is stored stays where it is, and behind it comes what the
registry of the tree alone has besides, in its order. The units of the tree are known from then on as the tree
has them, so that reading it again finds all as it was. -/

namespace Crosswalk

namespace OrderedMap

variable {α β : Type} [DecidableEq α] (old new : OrderedMap α β)

/-- A map with the entries of another one behind its own, as far as their keys are new. -/
def union : OrderedMap α β := ⟨old.toList ++ new.toList.filter fun e => e.1 ∉ old.keys⟩

theorem union_empty : old.union .empty = old := by
  simp [union, empty]

theorem keys_union : (old.union new).keys = old.keys ++ new.keys.filter (· ∉ old.keys) := by
  rw [keys, union, List.map_append, keys, keys, List.filter_map]
  rfl

/-- It makes no difference whether an entry is put in before the entries are put behind others or then. -/
theorem union_insertNew (key : α) (value : β) :
    old.union (new.insertNew key value) = (old.union new).insertNew key value := by
  have hkeys : key ∈ (old.union new).keys ↔ key ∈ old.keys ∨ key ∈ new.keys := by
    rw [keys_union, List.mem_append, List.mem_filter]
    by_cases hold : key ∈ old.keys <;> simp [hold]
  refine congrArg OrderedMap.mk (?_ : (old.union (new.insertNew key value)).toList =
    ((old.union new).insertNew key value).toList)
  rw [toList_insertNew, union, toList_insertNew]
  simp only [hkeys]
  by_cases hold : key ∈ old.keys <;> by_cases hnew : key ∈ new.keys <;> simp [hold, hnew, union]

theorem get?_union_of_some (key : α) (value : β) (h : old.get? key = some value) :
    (old.union new).get? key = some value := by
  have happend : ∀ l l' : List (α × β), find l key = some value → find (l ++ l') key = some value := by
    intro l l' hl
    induction l with
    | nil => cases hl
    | cons e rest ih =>
      rw [List.cons_append]
      unfold find at hl ⊢
      split
      · rwa [if_pos (by assumption)] at hl
      · rw [if_neg (by assumption)] at hl
        exact ih hl
  exact happend old.toList _ h

end OrderedMap

namespace Registry

variable (host : Host)

/-! Beside another registry -/

section

variable (old : OrderedMap String Schema)

theorem schemas_foldl_addSchema (module : String) (schemas : List Schema) (fresh r : Registry)
    (h : r.schemas = old.union fresh.schemas) :
    (schemas.foldl (addSchema module) r).schemas =
      old.union (schemas.foldl (addSchema module) fresh).schemas := by
  induction schemas generalizing fresh r with
  | nil => exact h
  | cons schema rest ih =>
    refine ih (addSchema module fresh schema) (addSchema module r schema) ?_
    unfold addSchema
    rw [h, OrderedMap.union_insertNew]

/-- A file adds the same schemas behind others as it adds alone, and stops the reading the same. -/
theorem addFile_union (module : String) (file : Files.Path) (fresh r : Registry)
    (h : r.schemas = old.union fresh.schemas) :
    (addFile host r module file).1.schemas = old.union (addFile host fresh module file).1.schemas ∧
      (addFile host r module file).2 = (addFile host fresh module file).2 := by
  unfold addFile
  cases SourceUnit.load host file with
  | error failure => cases failure <;> exact ⟨h, rfl⟩
  | ok u =>
    dsimp only
    cases u.schemas host.interpreter with
    | error reason => exact ⟨h, rfl⟩
    | ok schemas =>
      exact ⟨schemas_foldl_addSchema old module schemas
        { fresh with units := fresh.units.insert module (some file) }
        { r with units := r.units.insert module (some file) } h, rfl⟩

theorem addFiles_union (l : List (String × Files.Path)) (fresh r : Registry)
    (h : r.schemas = old.union fresh.schemas) :
    (addFiles host r l).1.schemas = old.union (addFiles host fresh l).1.schemas ∧
      (addFiles host r l).2 = (addFiles host fresh l).2 := by
  induction l generalizing fresh r with
  | nil => exact ⟨h, rfl⟩
  | cons first rest ih =>
    obtain ⟨module, file⟩ := first
    obtain ⟨hschemas, hstop⟩ := addFile_union host old module file fresh r h
    unfold addFiles
    generalize addFile host r module file = next at hschemas hstop
    generalize addFile host fresh module file = next' at hschemas hstop
    obtain ⟨r, stop⟩ := next
    obtain ⟨fresh, stop'⟩ := next'
    cases (hstop : stop = stop')
    cases stop with
    | none => exact ih fresh r hschemas
    | some fault => exact ⟨hschemas, rfl⟩

end

/-! Reading again -/

/-- A registry knows a file as the file is: as the unit of its module, with its problem if it has one, and with
something stored for each of its schemas. -/
structure Knows (r : Registry) (module : String) (file : Files.Path) : Prop where
  readable : Readable host file
  unit : r.units.get? module = some (some file)
  broken : ∀ d, problemOf? host file = some d → r.broken.get? module = some d
  schemas : ∀ schema ∈ schemasOf host file, r.schemas.contains (schemaKey module schema) = true

theorem foldl_addSchema_of_contains (r : Registry) (module : String) (schemas : List Schema)
    (h : ∀ schema ∈ schemas, r.schemas.contains (schemaKey module schema) = true) :
    schemas.foldl (addSchema module) r = r := by
  induction schemas with
  | nil => rfl
  | cons schema rest ih =>
    have hadd : addSchema module r schema = r := by
      have hnew : r.schemas.insertNew (schemaKey module schema) schema = r.schemas :=
        if_pos (h schema List.mem_cons_self)
      exact congrArg (fun schemas => { r with schemas }) hnew
    rw [List.foldl_cons, hadd]
    exact ih fun s hs => h s (List.mem_cons_of_mem schema hs)

theorem addFile_of_knows (r : Registry) (module : String) (file : Files.Path)
    (h : r.Knows host module file) : addFile host r module file = (r, none) := by
  obtain ⟨hreadable, hunit, hbroken, hschemas⟩ := h
  unfold Readable at hreadable
  unfold problemOf? at hbroken
  unfold schemasOf at hschemas
  have hunits : r.units.insert module (some file) = r.units := r.units.insert_of_get? module _ hunit
  unfold addFile
  rw [hunits]
  cases hload : SourceUnit.load host file with
  | error failure =>
    cases failure with
    | stopped fault => simp [hload] at hreadable
    | reported d =>
      rw [hload] at hbroken
      have hsame := r.broken.insert_of_get? module d (hbroken d rfl)
      exact congrArg (fun broken => ({ r with broken }, none)) hsame
  | ok u =>
    cases hread : u.schemas host.interpreter with
    | error reason => simp [hload, hread] at hreadable
    | ok schemas =>
      simp only [hload, hread, Except.toOption, Option.getD_some] at hschemas
      simp only [hread]
      rw [foldl_addSchema_of_contains r module schemas hschemas]

theorem addFiles_of_knows (r : Registry) (l : List (String × Files.Path))
    (h : ∀ e ∈ l, r.Knows host e.1 e.2) : addFiles host r l = (r, none) := by
  induction l with
  | nil => rfl
  | cons first rest ih =>
    obtain ⟨module, file⟩ := first
    have hfirst := addFile_of_knows host r module file (h _ List.mem_cons_self)
    unfold addFiles
    rw [hfirst]
    exact ih fun e he => h e (List.mem_cons_of_mem _ he)

/-- What has been read is known. -/
theorem knows_of_reads (l : List (String × Files.Path)) (hnodup : (l.map (·.1)).Nodup)
    (r r' : Registry) (h : Reads host l r r') : ∀ e ∈ l, r'.Knows host e.1 e.2 := by
  rintro ⟨module, file⟩ he
  have hfind := OrderedMap.find_of_mem l hnodup module file he
  refine ⟨h.readable _ he, ?_, fun d hd => ?_, fun schema hschema => ?_⟩
  · rw [h.units module, hfind]
    rfl
  · rw [h.broken module, hfind, Option.bind_some, hd]
    rfl
  · rw [OrderedMap.contains, h.schemas, Option.isSome_or, Bool.or_eq_true,
      List.findSome?_isSome_iff]
    refine .inr ⟨(module, file), he, ?_⟩
    rw [List.find?_isSome]
    exact ⟨schema, hschema, beq_self_eq_true _⟩

/-! The effect -/

/-- What reading a tree to its end makes of a registry, beside the registry of the tree alone. -/
structure Grows (host : Host) (root : Files.Path) (r fresh r' : Registry) : Prop where
  /-- What is stored stays, with its schema and in its place. -/
  kept : r.schemas.toList <+: r'.schemas.toList
  stored : ∀ key schema, r.schemas.get? key = some schema → r'.schemas.get? key = some schema
  /-- What comes behind it is what the tree has besides, in its order. -/
  added : r'.schemas = r.schemas.union fresh.schemas
  listed : r'.paths = r.paths ++ fresh.paths.filter (· ∉ r.paths)
  units : ∀ module, r'.units.get? module = (fresh.units.get? module).or (r.units.get? module)
  broken : ∀ module, r'.broken.get? module = (fresh.broken.get? module).or (r.broken.get? module)
  /-- The tree has nothing more to add. -/
  again : ingest host root r' = (r', none)

/-- Whatever a registry holds, reading a tree to its end only adds to it: all paths keep their schemas and
their order, and behind them come those of the tree that are new. Reading the tree again, as it is, leaves
the whole registry as it is. -/
theorem ingest_grows (host : Host) (root : Files.Path) (r r' : Registry)
    (h : ingest host root r = (r', none)) :
    ∃ fresh, ofSourceRoot host root r.marker = .ok fresh ∧ Grows host root r fresh r' := by
  unfold ingest at h
  cases hunits : unitsBelow host root r.marker with
  | error reason =>
    rw [hunits] at h
    cases h
  | ok units =>
    rw [hunits] at h
    change addFiles host r units.toList = (r', none) at h
    have hnodup := nodup_unitsBelow host root r.marker units hunits
    have hreads := reads_addFiles host units.toList hnodup r r' h
    obtain ⟨hschemas, hstop⟩ := addFiles_union host r.schemas units.toList (empty r.marker) r
      (OrderedMap.union_empty r.schemas).symm
    rw [h] at hschemas hstop
    cases hfresh : addFiles host (empty r.marker) units.toList with
    | mk fresh stop =>
    rw [hfresh] at hschemas hstop
    cases hstop
    have halone := reads_addFiles host units.toList hnodup _ fresh hfresh
    have hsource : ofSourceRoot host root r.marker = .ok fresh := by
      unfold ofSourceRoot ingest
      rw [show (empty r.marker).marker = r.marker from rfl, hunits]
      dsimp only
      rw [hfresh]
    have hagain : ingest host root r' = (r', none) := by
      unfold ingest
      rw [hreads.marker, hunits]
      exact addFiles_of_knows host r' units.toList (knows_of_reads host units.toList hnodup r r' hreads)
    refine ⟨fresh, hsource, ?_, fun key schema hkey => ?_, hschemas, ?_, fun module => ?_,
      fun module => ?_, hagain⟩
    · rw [hschemas]
      exact List.prefix_append _ _
    · rw [hschemas]
      exact OrderedMap.get?_union_of_some _ _ key schema hkey
    · rw [paths, hschemas]
      exact OrderedMap.keys_union _ _
    · rw [hreads.units, halone.units]
      exact congrArg (Option.or · _) (Option.or_none).symm
    · rw [hreads.broken, halone.broken]
      exact congrArg (Option.or · _) (Option.or_none).symm

/-- The shelf comes behind the schema that was registered in its unit. -/
theorem ingest_grows_shelf :
    ∃ r', ingest shelf shelfRoot (after "crate" [.register besidePath shelvedSchema]) = (r', none) ∧
      r'.paths = [besidePath.toString, shelvedPath.toString] ∧
      ingest shelf shelfRoot r' = (r', none) := by
  obtain ⟨r', hread⟩ :
      ∃ r', ingest shelf shelfRoot (after "crate" [.register besidePath shelvedSchema]) = (r', none) := by
    have hstop : (ingest shelf shelfRoot
        (after "crate" [.register besidePath shelvedSchema])).2.isNone = true := by decide +kernel
    exact ⟨_, Prod.ext rfl (Option.isNone_iff_eq_none.mp hstop)⟩
  obtain ⟨fresh, hfresh, hgrows⟩ := ingest_grows shelf shelfRoot _ r' hread
  refine ⟨r', hread, ?_, hgrows.again⟩
  have hpaths : (ofSourceRoot shelf shelfRoot "crate").map (·.paths) = .ok [shelvedPath.toString] := by
    decide +kernel
  rw [show (after "crate" [.register besidePath shelvedSchema]).marker = "crate" from rfl] at hfresh
  rw [hfresh] at hpaths
  have hlisted : fresh.paths = [shelvedPath.toString] := Except.ok.inj hpaths
  rw [hgrows.listed, hlisted]
  decide +kernel

end Registry
end Crosswalk
