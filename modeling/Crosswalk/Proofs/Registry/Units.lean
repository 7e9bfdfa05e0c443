import Mathlib.Data.List.Induction
import Crosswalk.Proofs.Files.Lookup
import Crosswalk.Proofs.TargetPath
import Crosswalk.Registry

/-! The units of a tree. A module has the entry file of its directory if there is one, and else the file
of its name if no directory has that name. Going through the files one by one keeps this. -/

namespace Crosswalk.Registry

/-! Names of files -/

theorem endsWith_py_iff (name : String) : name.endsWith ".py" = true ↔ ∃ s, name = unitName s := by
  have hslice : name.endsWith ".py" = name.toSlice.endsWith ".py" := rfl
  rw [hslice, String.Slice.endsWith_string_iff, String.copy_toSlice]
  constructor
  · rintro ⟨front, hfront⟩
    refine ⟨String.ofList front, ?_⟩
    rw [← String.toList_inj, unitName, String.toList_append, String.toList_ofList]
    exact hfront.symm
  · rintro ⟨s, rfl⟩
    exact ⟨s.toList, by simp [unitName]⟩

theorem unitName_injective (s t : String) (h : unitName s = unitName t) : s = t := by
  have hlist := congrArg String.toList h
  simp only [unitName, String.toList_append] at hlist
  exact String.toList_inj.mp (List.append_cancel_right hlist)

theorem stem_unitName (s : String) (hs : s ≠ "") : stem (unitName s) = s := by
  have hne : unitName "" ≠ unitName s := fun h => hs (unitName_injective _ _ h).symm
  have hend : (unitName s).endsWith ".py" = true := (endsWith_py_iff _).mpr ⟨s, rfl⟩
  have hdrop : (unitName s).toList.dropLast.dropLast.dropLast = s.toList := by
    rw [unitName, String.toList_append, show ".py".toList = ['.'] ++ ['p'] ++ ['y'] from rfl,
      ← List.append_assoc, List.dropLast_concat, ← List.append_assoc, List.dropLast_concat,
      List.dropLast_concat]
  rw [stem, if_neg hne, if_pos hend, hdrop, String.ofList_toList]

theorem stem_py : stem (unitName "") = unitName "" := by
  rw [stem, if_pos rfl]

theorem lastName_append (front : List String) (name : String) : lastName (front ++ [name]) = name := by
  simp [lastName]

theorem stemmed_append (front : List String) (name : String) :
    stemmed (front ++ [name]) = front ++ [stem name] := by
  simp [stemmed, lastName_append]

/-- A file makes a module of its directory if it is an entry file, and one of its own name if not. -/
theorem modulePath?_unit (marker : String) (front : List String) (s : String) :
    modulePath? marker (front ++ [unitName s]) =
      if AllSegments (if s = "__init__" then front else front ++ [s]) then
        some (TargetPath.dotted (marker :: if s = "__init__" then front else front ++ [s]))
      else none := by
  have hall : ∀ parts : List String,
      (parts.all fun p => isSegment (Text.codePoints p)) = decide (AllSegments parts) := by
    intro parts
    rw [Bool.eq_iff_iff, List.all_eq_true, decide_eq_true_eq]
    rfl
  unfold modulePath?
  dsimp only
  rw [stemmed_append, lastName_append, hall]
  simp only [decide_eq_true_eq]
  by_cases hempty : s = ""
  · subst hempty
    have hbad : ∀ t, isSegment (Text.codePoints t) = false → ¬ AllSegments (front ++ [t]) := by
      intro t ht h
      rw [h t (by simp)] at ht
      cases ht
    rw [stem_py, if_neg (show unitName "" ≠ "__init__" by decide), if_neg (hbad _ (by decide)),
      if_neg (show ("" : String) ≠ "__init__" by decide), if_neg (hbad "" (by decide))]
  · rw [stem_unitName s hempty, List.dropLast_concat]

theorem modulePath?_eq_some_iff (marker : String) (hmarker : Dotless marker) (module : List String)
    (hmodule : AllSegments module) (front : List String) (s : String) :
    modulePath? marker (front ++ [unitName s]) = some (TargetPath.dotted (marker :: module)) ↔
      module = if s = "__init__" then front else front ++ [s] := by
  rw [modulePath?_unit]
  generalize (if s = "__init__" then front else front ++ [s]) = parts
  constructor
  · intro h
    split at h
    · rename_i hparts
      have hdotted := (TargetPath.dotted_cons_inj marker marker parts module hmarker hmarker hparts
        hmodule).mp (Option.some.inj h)
      exact hdotted.2.symm
    · cases h
  · rintro rfl
    rw [if_pos hmodule]

/-! Choosing the file of a module -/

theorem under_nil (root : Files.Path) : under root [] = root := by
  simp [under]

theorem under_append (root : Files.Path) (names : List String) (name : String) :
    under root (names ++ [name]) = (under root names).child name := by
  simp [under, Files.Path.child]

theorem name_under (root : Files.Path) (names : List String) (name : String) :
    (under root (names ++ [name])).name = name := by
  simp [under, Files.Path.name]

/-- The names of the file of a module that is no directory. -/
def fileNames (module : List String) : List String :=
  module.dropLast ++ [unitName (module.getLast?.getD "")]

theorem fileNames_append (front : List String) (s : String) :
    fileNames (front ++ [s]) = front ++ [unitName s] := by
  simp [fileNames]

/-- The file of a module among those of a list. -/
def fileOf (host : Host) (root : Files.Path) (module : List String) (l : List (List String)) :
    Option Files.Path :=
  if module ++ [packageEntry] ∈ l then some (under root (module ++ [packageEntry]))
  else if fileNames module ∈ l ∧ Files.isDirectory? host (under root module) ≠ .ok true then
    some (under root (fileNames module))
  else none

theorem unitName_ne_packageEntry (s : String) (hs : s ≠ "__init__") : unitName s ≠ packageEntry :=
  fun h => hs (unitName_injective s "__init__" h)

theorem fileNames_ne (module names : List String) (hlast : module.getLast? ≠ some "__init__") :
    fileNames module ≠ names ++ [packageEntry] := by
  intro h
  have hentry := (List.append_inj' h rfl).2
  rw [List.cons.injEq] at hentry
  refine unitName_ne_packageEntry _ ?_ hentry.1
  cases hmodule : module.getLast? with
  | none => decide
  | some s =>
    rintro rfl
    exact hlast hmodule

/-- Whether the file of a module is an entry file tells which of the two it is. -/
theorem name_fileOf (host : Host) (root : Files.Path) (module : List String)
    (l : List (List String)) (hlast : module.getLast? ≠ some "__init__") :
    ((fileOf host root module l).any fun file => file.name = packageEntry) = true ↔
      module ++ [packageEntry] ∈ l := by
  unfold fileOf
  split
  · rename_i hentry
    simp [hentry, name_under]
  · rename_i hentry
    split
    · have hname : (under root (fileNames module)).name ≠ packageEntry := by
        intro h
        unfold fileNames at h
        rw [name_under] at h
        exact fileNames_ne module module.dropLast hlast (by rw [fileNames, h])
      simp [hentry, hname]
    · simp [hentry]

theorem exists_unit (names : List String) (hpy : (lastName names).endsWith ".py" = true) :
    ∃ front s, names = front ++ [unitName s] := by
  rcases List.eq_nil_or_concat names with rfl | ⟨front, name, rfl⟩
  · exact absurd hpy (by decide)
  · rw [List.concat_eq_append, lastName_append] at hpy
    obtain ⟨s, rfl⟩ := (endsWith_py_iff name).mp hpy
    exact ⟨front, s, List.concat_eq_append⟩

section

variable (host : Host) (root : Files.Path) (marker : String) (module : List String)

theorem modulePath?_eq_key_iff (hmarker : Dotless marker) (hmodule : AllSegments module)
    (hlast : module.getLast? ≠ some "__init__") (names : List String)
    (hpy : (lastName names).endsWith ".py" = true) :
    modulePath? marker names = some (TargetPath.dotted (marker :: module)) ↔
      names = module ++ [packageEntry] ∨ module ≠ [] ∧ names = fileNames module := by
  obtain ⟨front, s, rfl⟩ := exists_unit names hpy
  rw [modulePath?_eq_some_iff marker hmarker module hmodule]
  by_cases hs : s = "__init__"
  · subst hs
    have hne : front ++ [unitName "__init__"] ≠ fileNames module :=
      fun h => fileNames_ne module front hlast h.symm
    rw [if_pos rfl]
    constructor
    · rintro rfl
      exact .inl rfl
    · rintro (h | ⟨-, h⟩)
      · exact (List.append_inj_left' h rfl).symm
      · exact absurd h hne
  · rw [if_neg hs]
    constructor
    · rintro rfl
      exact .inr ⟨by simp, (fileNames_append front s).symm⟩
    · rintro (h | ⟨hne, h⟩)
      · have hentry := (List.append_inj' h rfl).2
        rw [List.cons.injEq] at hentry
        exact absurd hentry.1 (unitName_ne_packageEntry s hs)
      · obtain ⟨front', s', rfl⟩ := List.eq_nil_or_concat module |>.resolve_left hne
        rw [List.concat_eq_append, fileNames_append] at h
        obtain ⟨hfront, hunit⟩ := List.append_inj' h rfl
        rw [List.cons.injEq] at hunit
        rw [List.concat_eq_append, hfront, unitName_injective _ _ hunit.1]

/-- A file of another module leaves the choice as it was. -/
theorem fileOf_append_of_ne (l : List (List String)) (names : List String)
    (hentry : names ≠ module ++ [packageEntry])
    (hfile : names ≠ fileNames module ∨ Files.isDirectory? host (under root module) = .ok true) :
    fileOf host root module (l ++ [names]) = fileOf host root module l := by
  have hentries : module ++ [packageEntry] ∈ l ++ [names] ↔ module ++ [packageEntry] ∈ l := by
    simp [hentry.symm]
  have hfiles : (fileNames module ∈ l ++ [names] ∧
        Files.isDirectory? host (under root module) ≠ .ok true) ↔
      fileNames module ∈ l ∧ Files.isDirectory? host (under root module) ≠ .ok true := by
    rcases hfile with hne | hdir
    · simp [hne.symm]
    · simp [hdir]
  unfold fileOf
  simp only [hentries, hfiles]

theorem addUnit_eq (units : OrderedMap String Files.Path) (names : List String) (key : String)
    (hpath : modulePath? marker names = some key) :
    addUnit host root marker units names =
      (if lastName names = packageEntry then .ok false
        else Files.isDirectory? host (under root (stemmed names))).map fun shadowed =>
          if shadowed || (units.get? key).any fun file => file.name = packageEntry then units
          else units.insert key (under root names) := by
  unfold addUnit
  rw [hpath]
  dsimp only
  split
  · rfl
  · cases Files.isDirectory? host (under root (stemmed names)) <;> rfl

theorem get?_addUnit_of_ne (units units' : OrderedMap String Files.Path) (names : List String)
    (key : String) (hpath : modulePath? marker names ≠ some key)
    (h : addUnit host root marker units names = .ok units') : units'.get? key = units.get? key := by
  cases hother : modulePath? marker names with
  | none =>
    unfold addUnit at h
    rw [hother] at h
    cases h
    rfl
  | some other =>
    have hne : other ≠ key := fun heq => hpath (by rw [hother, heq])
    rw [addUnit_eq host root marker units names other hother] at h
    obtain ⟨shadowed, -, hshadowed⟩ := exists_of_map_ok _ _ _ h
    split at hshadowed
    · rw [← hshadowed]
    · rw [← hshadowed, OrderedMap.get?_insert_of_ne _ _ _ _ hne]

/-- An entry file is chosen over a file of the name. -/
theorem get?_addUnit_entry (hlast : module.getLast? ≠ some "__init__") (l : List (List String))
    (units units' : OrderedMap String Files.Path) (key : String)
    (hpath : modulePath? marker (module ++ [packageEntry]) = some key)
    (hunits : units.get? key = fileOf host root module l)
    (h : addUnit host root marker units (module ++ [packageEntry]) = .ok units') :
    units'.get? key = fileOf host root module (l ++ [module ++ [packageEntry]]) := by
  rw [addUnit_eq host root marker units _ key hpath, lastName_append, if_pos rfl] at h
  have hchosen : fileOf host root module (l ++ [module ++ [packageEntry]]) =
      some (under root (module ++ [packageEntry])) := if_pos (by simp)
  rw [hchosen]
  obtain ⟨shadowed, hshadowed, hadded⟩ := exists_of_map_ok _ _ _ h
  cases hshadowed
  rw [Bool.false_or, hunits] at hadded
  split at hadded
  · rename_i hentered
    rw [← hadded, hunits]
    exact if_pos ((name_fileOf host root module l hlast).mp hentered)
  · rw [← hadded, OrderedMap.get?_insert_self]

/-- A file of the name is chosen if nothing stands above it. -/
theorem get?_addUnit_file (hlast : module.getLast? ≠ some "__init__") (hmodule : AllSegments module)
    (hne : module ≠ []) (l : List (List String)) (units units' : OrderedMap String Files.Path)
    (key : String) (hpath : modulePath? marker (fileNames module) = some key)
    (hunits : units.get? key = fileOf host root module l)
    (h : addUnit host root marker units (fileNames module) = .ok units') :
    units'.get? key = fileOf host root module (l ++ [fileNames module]) := by
  obtain ⟨front, s, hfront⟩ := (List.eq_nil_or_concat module).resolve_left hne
  rw [List.concat_eq_append] at hfront
  have hs : s ≠ "" := by
    refine ne_empty_of_isSegment s (hmodule s ?_)
    rw [hfront]
    simp
  have hstemmed : stemmed (fileNames module) = module := by
    rw [hfront, fileNames_append, stemmed_append, stem_unitName s hs]
  have hname : lastName (fileNames module) ≠ packageEntry := by
    intro h
    refine fileNames_ne module module.dropLast hlast ?_
    rw [← h, fileNames, lastName_append]
  rw [addUnit_eq host root marker units _ key hpath, if_neg hname, hstemmed] at h
  obtain ⟨shadowed, hshadowed, hadded⟩ := exists_of_map_ok _ _ _ h
  have hother : fileNames module ≠ module ++ [packageEntry] := fileNames_ne module module hlast
  cases shadowed with
  | true =>
    rw [Bool.true_or, if_pos rfl] at hadded
    rw [← hadded, hunits, fileOf_append_of_ne host root module l _ hother (.inr hshadowed)]
  | false =>
    rw [Bool.false_or, hunits] at hadded
    by_cases hentry : module ++ [packageEntry] ∈ l
    · rw [if_pos ((name_fileOf host root module l hlast).mpr hentry)] at hadded
      rw [← hadded, hunits, fileOf, fileOf, if_pos hentry,
        if_pos (List.mem_append_left _ hentry)]
    · have hentry' : module ++ [packageEntry] ∉ l ++ [fileNames module] := by
        simp [hentry, hother.symm]
      rw [if_neg fun hentered => hentry ((name_fileOf host root module l hlast).mp hentered)] at hadded
      rw [← hadded, OrderedMap.get?_insert_self, fileOf, if_neg hentry', if_pos]
      exact ⟨by simp, by simp [hshadowed]⟩

/-- One file more. -/
theorem get?_addUnit (hmarker : Dotless marker) (hmodule : AllSegments module)
    (hlast : module.getLast? ≠ some "__init__") (hroot : Files.isDirectory? host root = .ok true)
    (l : List (List String)) (names : List String)
    (hpy : (lastName names).endsWith ".py" = true) (units units' : OrderedMap String Files.Path)
    (hunits : units.get? (TargetPath.dotted (marker :: module)) = fileOf host root module l)
    (h : addUnit host root marker units names = .ok units') :
    units'.get? (TargetPath.dotted (marker :: module)) = fileOf host root module (l ++ [names]) := by
  have hkey := modulePath?_eq_key_iff marker module hmarker hmodule hlast names hpy
  -- The file added is the module's entry file, the file of its name, or of another module.
  by_cases hpath : modulePath? marker names = some (TargetPath.dotted (marker :: module))
  · rcases hkey.mp hpath with rfl | ⟨hne, rfl⟩
    · exact get?_addUnit_entry host root marker module hlast l units units' _ hpath hunits h
    · exact get?_addUnit_file host root marker module hlast hmodule hne l units units' _ hpath hunits h
  · rw [get?_addUnit_of_ne host root marker units units' names _ hpath h, hunits]
    rw [hkey, not_or, not_and_or, not_not] at hpath
    refine (fileOf_append_of_ne host root module l names hpath.1 ?_).symm
    rcases hpath.2 with rfl | hne
    · rw [under_nil]
      exact .inr hroot
    · exact .inl hne

/-- All files. -/
theorem get?_foldlM_addUnit (hmarker : Dotless marker) (hmodule : AllSegments module)
    (hlast : module.getLast? ≠ some "__init__") (hroot : Files.isDirectory? host root = .ok true)
    (l : List (List String)) (hpy : ∀ names ∈ l, (lastName names).endsWith ".py" = true)
    (units : OrderedMap String Files.Path)
    (h : l.foldlM (addUnit host root marker) .empty = .ok units) :
    units.get? (TargetPath.dotted (marker :: module)) = fileOf host root module l := by
  induction l using List.reverseRecOn generalizing units with
  | nil =>
    cases h
    simp [fileOf, OrderedMap.get?, OrderedMap.empty, OrderedMap.find]
  | append_singleton l names ih =>
    rw [List.foldlM_append] at h
    obtain ⟨before, hbefore, hadd⟩ := exists_of_bind_ok _ _ _ h
    rw [List.foldlM_cons] at hadd
    obtain ⟨after, hafter, hnil⟩ := exists_of_bind_ok _ _ _ hadd
    cases hnil
    refine get?_addUnit host root marker module hmarker hmodule hlast hroot l names
      (hpy names (by simp)) before units ?_ hafter
    exact ih (fun other hother => hpy other (List.mem_append_left _ hother)) before hbefore

end

/-! Names of units -/

/-- Each unit has one name, made of the marker and segments. -/
def Keyed (marker : String) (units : OrderedMap String Files.Path) : Prop :=
  units.keys.Nodup ∧
    ∀ key ∈ units.keys, ∃ module, AllSegments module ∧ key = TargetPath.dotted (marker :: module)

theorem exists_of_modulePath? (marker : String) (names : List String) (key : String)
    (h : modulePath? marker names = some key) :
    ∃ module, AllSegments module ∧ key = TargetPath.dotted (marker :: module) := by
  unfold modulePath? at h
  dsimp only at h
  generalize (if lastName (stemmed names) = "__init__" then (stemmed names).dropLast
    else stemmed names) = module at h
  split at h
  · rename_i hall
    cases h
    exact ⟨module, List.all_eq_true.mp hall, rfl⟩
  · cases h

theorem keyed_addUnit (host : Host) (root : Files.Path) (marker : String)
    (units units' : OrderedMap String Files.Path) (names : List String) (hunits : Keyed marker units)
    (h : addUnit host root marker units names = .ok units') : Keyed marker units' := by
  cases hpath : modulePath? marker names with
  | none =>
    unfold addUnit at h
    rw [hpath] at h
    cases h
    exact hunits
  | some key =>
    rw [addUnit_eq host root marker units names key hpath] at h
    obtain ⟨shadowed, -, rfl⟩ := exists_of_map_ok _ _ _ h
    split
    · exact hunits
    · refine ⟨OrderedMap.nodup_keys_insert _ _ _ hunits.1, ?_⟩
      intro other hother
      rw [OrderedMap.keys_insert] at hother
      split at hother
      · exact hunits.2 other hother
      · rcases List.mem_append.mp hother with hother | hother
        · exact hunits.2 other hother
        · rw [List.mem_singleton.mp hother]
          exact exists_of_modulePath? marker names key hpath

theorem keyed_foldlM_addUnit (host : Host) (root : Files.Path) (marker : String)
    (l : List (List String)) (units units' : OrderedMap String Files.Path)
    (hunits : Keyed marker units) (h : l.foldlM (addUnit host root marker) units = .ok units') :
    Keyed marker units' := by
  induction l generalizing units with
  | nil =>
    cases h
    exact hunits
  | cons names rest ih =>
    rw [List.foldlM_cons] at h
    obtain ⟨next, hnext, hrest⟩ := exists_of_bind_ok _ _ _ h
    exact ih next (keyed_addUnit host root marker units next names hunits hnext) hrest

/-! Files below a root -/

theorem mem_candidates (n : Files.Node) (hn : n.Distinct) (names : List String) :
    names ∈ candidates n ↔
      (lastName names).endsWith ".py" = true ∧ (Files.Node.at? names n).isSome = true := by
  unfold candidates
  rw [List.mem_mergeSort, List.mem_filter, Files.Node.mem_descendants n hn names]
  constructor
  · rintro ⟨⟨-, hsome⟩, hpy⟩
    exact ⟨hpy, hsome⟩
  · rintro ⟨hpy, hsome⟩
    refine ⟨⟨?_, hsome⟩, hpy⟩
    rintro rfl
    exact absurd hpy (by decide)

/-- Files that are found in order are the source files. -/
theorem candidates_of_pairwise (n : Files.Node) (l : List (List String))
    (hfound : (n.descendants.filter fun names => (lastName names).endsWith ".py") = l)
    (hordered : l.Pairwise fun a b => namesLe a b = true) : candidates n = l := by
  unfold candidates
  rw [hfound]
  exact List.mergeSort_of_pairwise hordered

/-- What is found by its path is found by its names. -/
theorem at?_of_locate (files : Files.System) (root : Files.Path) (top : Files.Node)
    (htop : Files.locate files root = .ok top) (names : List String) (hup : ∀ s ∈ names, s ≠ "..")
    (place : Files.Node) (hplace : Files.locate files (under root names) = .ok place) :
    Files.Node.at? names top = some place := by
  induction names using List.reverseRecOn generalizing place with
  | nil =>
    rw [under_nil, htop] at hplace
    cases hplace
    rfl
  | append_singleton names name ih =>
    have hname : name ≠ ".." := hup name (by simp)
    rw [under_append] at hplace
    obtain ⟨before, hbefore, hdir⟩ := Files.directory_of_locate_child files _ name place hplace
    have hnames := ih (fun s hs => hup s (List.mem_append_left _ hs)) before hbefore
    rw [Files.locate_child files _ name before hbefore hdir hname] at hplace
    split at hplace
    · cases hplace
    · rw [Files.at?_append, hnames, Option.bind_some, Files.at?_singleton]
      cases hentry : before.entry? name with
      | none =>
        rw [hentry] at hplace
        cases hplace
      | some m =>
        rw [hentry] at hplace
        cases hplace
        rfl

theorem unitsBelow_eq (host : Host) (root : Files.Path) (marker : String) (top : Files.Node)
    (hnull : Files.hasNull root = false) (htop : Files.locate host root = .ok top) :
    unitsBelow host root marker = (scan host root top).bind fun _ =>
      (candidates top).foldlM (addUnit host root marker) .empty := by
  have hplace : Files.node? host root = .ok (some top) := by
    unfold Files.node?
    rw [hnull, htop]
    rfl
  unfold unitsBelow
  rw [hplace]
  rfl

theorem foldlM_of_unitsBelow (host : Host) (root : Files.Path) (marker : String)
    (top : Files.Node) (hnull : Files.hasNull root = false) (htop : Files.locate host root = .ok top)
    (units : OrderedMap String Files.Path) (h : unitsBelow host root marker = .ok units) :
    (candidates top).foldlM (addUnit host root marker) .empty = .ok units := by
  rw [unitsBelow_eq host root marker top hnull htop] at h
  obtain ⟨-, -, h⟩ := exists_of_bind_ok _ _ _ h
  exact h

theorem endsWith_of_mem_candidates (n : Files.Node) (names : List String)
    (h : names ∈ candidates n) : (lastName names).endsWith ".py" = true := by
  unfold candidates at h
  rw [List.mem_mergeSort, List.mem_filter] at h
  exact h.2

/-- The units below a root are the files chosen for their modules. -/
theorem get?_unitsBelow (host : Host) (root : Files.Path) (marker : String)
    (module : List String) (hmarker : Dotless marker) (hmodule : AllSegments module)
    (hlast : module.getLast? ≠ some "__init__") (hroot : Files.isDirectory? host root = .ok true)
    (top : Files.Node) (htop : Files.locate host root = .ok top)
    (units : OrderedMap String Files.Path) (hunits : unitsBelow host root marker = .ok units) :
    units.get? (TargetPath.dotted (marker :: module)) =
      fileOf host root module (candidates top) := by
  have hnull := ((Files.isDirectory?_eq_true_iff host root).mp hroot).1
  have hunits := foldlM_of_unitsBelow host root marker top hnull htop units hunits
  exact get?_foldlM_addUnit host root marker module hmarker hmodule hlast hroot _
    (endsWith_of_mem_candidates top) units hunits

theorem keyed_unitsBelow (host : Host) (root : Files.Path) (marker : String)
    (hroot : Files.isDirectory? host root = .ok true) (units : OrderedMap String Files.Path)
    (hunits : unitsBelow host root marker = .ok units) : Keyed marker units := by
  obtain ⟨hnull, top, htop, -⟩ := (Files.isDirectory?_eq_true_iff host root).mp hroot
  have hunits := foldlM_of_unitsBelow host root marker top hnull htop units hunits
  refine keyed_foldlM_addUnit host root marker _ .empty units ⟨List.nodup_nil, ?_⟩ hunits
  intro key hkey
  cases hkey

end Crosswalk.Registry
