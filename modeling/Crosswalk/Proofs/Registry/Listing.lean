import Crosswalk.Proofs.Registry.History
import Crosswalk.Proofs.TargetPath.RoundTrip

/-! What a registry lists of a tree. The text of every entry is made of the marker, segments and the name of a
class, and is the text of a path just where that name is an ASCII one. -/

namespace Crosswalk

open Text (codePoints)

/-- A name is a segment if it is in ASCII: it holds no line feed. -/
theorem isSegment_iff_of_isName (name : String) (h : Code.IsName name) :
    isSegment (codePoints name) = true ↔ isAsciiIdentifier (codePoints name) = true := by
  have hfeed : 0xa ∉ codePoints name := by
    intro hmem
    obtain ⟨c, hc, hpoint⟩ := List.mem_map.mp hmem
    have hlow : Text.IsLow c := by
      rw [Text.IsLow, show c.toNat = 0xa from hpoint]
      decide
    exact Code.not_mem_of_isName name c h hlow hc
  rw [isSegment_iff, isAsciiIdentifier_iff]
  constructor
  · rintro (hname | ⟨front, -, heq⟩)
    · exact hname
    · exact absurd (heq ▸ List.mem_append_right front List.mem_cons_self) hfeed
  · exact .inl

namespace Registry

/-! A root with entries -/

theorem unitsBelow_eq_empty (host : Host) (root : Files.Path) (marker : String)
    (hroot : Files.isDirectory? host root ≠ .ok true) (units : OrderedMap String Files.Path)
    (h : unitsBelow host root marker = .ok units) : units = .empty := by
  unfold unitsBelow at h
  unfold Files.isDirectory? at hroot
  obtain ⟨place, hplace, h⟩ := exists_of_bind_ok _ _ _ h
  rw [hplace] at hroot
  match place with
  | none =>
    cases h
    rfl
  | some (.directory entries) => exact absurd rfl hroot
  | some (.file bytes) =>
    have hnone : candidates (.file bytes) = [] := by
      simp [candidates, Files.Node.descendants]
    obtain ⟨-, -, h⟩ := exists_of_bind_ok _ _ _ h
    rw [hnone] at h
    cases h
    rfl

theorem isDirectory?_of_mem_paths (host : Host) (root : Files.Path) (marker : String)
    (r : Registry) (h : ofSourceRoot host root marker = .ok r) (text : String) (htext : text ∈ r.paths) :
    Files.isDirectory? host root = .ok true := by
  by_contra hroot
  unfold ofSourceRoot ingest at h
  cases hunits : unitsBelow host root marker with
  | error reason =>
    rw [show (empty marker).marker = marker from rfl, hunits] at h
    cases h
  | ok units =>
    rw [show (empty marker).marker = marker from rfl, hunits,
      unitsBelow_eq_empty host root marker hroot units hunits] at h
    cases h
    cases htext

/-! Entries -/

section

variable (host : Host) (root : Files.Path) (marker : String)
  (units : OrderedMap String Files.Path) (r : Registry) (h : Ingested host root marker units r)

include h

theorem exists_of_mem_paths (text : String) (htext : text ∈ r.paths) :
    ∃ module schema, AllSegments module ∧ Code.IsName schema.identifier ∧
      text = TargetPath.dotted (marker :: module ++ [schema.identifier]) ∧
      r.schemas.get? text = some schema := by
  obtain ⟨schema, hschema⟩ :=
    Option.isSome_iff_exists.mp ((OrderedMap.contains_iff_mem_keys r.schemas text).mpr htext)
  have hread := hschema
  rw [h.reads.schemas, show (empty marker).schemas.get? text = none from rfl, Option.none_or] at hread
  obtain ⟨⟨key, file⟩, hunit, hfind⟩ := List.exists_of_findSome?_eq_some hread
  have hkey : (schemaKey key schema == text) = true :=
    List.find?_some (p := fun schema => schemaKey key schema == text) hfind
  obtain ⟨_, d, owner, hclass⟩ :=
    declared_of_mem_schemasOf host file schema (List.mem_of_find?_eq_some hfind)
  obtain ⟨module, hmodule, rfl⟩ := h.keyed.2 key (List.mem_map_of_mem hunit)
  refine ⟨module, schema, hmodule, ?_, ?_, hschema⟩
  · rw [identifier_of_ofClass d owner schema hclass]
    exact d.named
  · rw [← beq_iff_eq.mp hkey, TargetPath.dotted_append _ _ (List.cons_ne_nil _ _)]
    rfl

/-- What the registry of a tree holds is found. -/
theorem resolve_of_get? (path : TargetPath) (schema : Schema) (hpath : path.root = marker)
    (hschema : r.schemas.get? path.toString = some schema) (location : Location) :
    r.resolve path location = .ok schema := by
  have hmarker : Dotless marker := by
    rw [← hpath]
    exact path.dotless_root
  rw [get?_schemas host root marker units r h path hmarker, if_pos hpath] at hschema
  obtain ⟨file, hfile, hfind⟩ := Option.bind_eq_some_iff.mp hschema
  rw [resolve_ingested host root marker units r h path hpath location, hfile]
  dsimp only
  cases hproblem : problemOf? host file with
  | some d =>
    rw [schemasOf_eq_nil host file d hproblem] at hfind
    cases hfind
  | none => rw [hfind]

end

/-- An entry can be asked for by its text: the text is read as a path, and the path leads to the schema. -/
structure Addressed (r : Registry) (text : String) (path : TargetPath) (schema : Schema) : Prop where
  accepted : TargetPath.parse (codePoints text) = .ok path
  spelt : path.toString = text
  contained : r.contains path = true
  resolved : ∀ location, r.resolve path location = .ok schema
  named : schema.identifier = path.identifier

/-- Whatever a registry lists of a tree is the name of a class behind the marker and segments. If that name is
in ASCII, the text is read as a path, which the registry contains and resolves to a schema of that name. A
class with another name is listed as well, but no path has its text. -/
theorem listed_addressed (host : Host) (root : Files.Path) (marker : String) (r : Registry)
    (hmarker : isAsciiIdentifier (codePoints marker) = true)
    (h : ofSourceRoot host root marker = .ok r) (text : String) (htext : text ∈ r.paths) :
    ∃ module schema, AllSegments module ∧ Code.IsName schema.identifier ∧
      text = TargetPath.dotted (marker :: module ++ [schema.identifier]) ∧
      r.schemas.get? text = some schema ∧
      (isAsciiIdentifier (codePoints schema.identifier) = true →
        ∃ path, Addressed r text path schema) ∧
      (isAsciiIdentifier (codePoints schema.identifier) = false →
        ∀ path : TargetPath, path.toString ≠ text) := by
  have hroot := isDirectory?_of_mem_paths host root marker r h text htext
  obtain ⟨units, hingested⟩ := exists_ingested host root marker r hroot h
  obtain ⟨module, schema, hmodule, hname, rfl, hschema⟩ :=
    exists_of_mem_paths host root marker units r hingested text htext
  have hsegment := isSegment_iff_of_isName schema.identifier hname
  have hfirst : isSegment (codePoints marker) = true := by
    unfold isSegment
    rw [hmarker]
    rfl
  refine ⟨module, schema, hmodule, hname, rfl, hschema, fun hascii => ?_, fun hforeign path heq => ?_⟩
  · have hvalid : ∀ s ∈ marker :: module ++ [schema.identifier],
        isSegment (codePoints s) = true := by
      intro s hs
      simp only [List.cons_append, List.mem_cons, List.mem_append, List.not_mem_nil, or_false] at hs
      rcases hs with rfl | hs | rfl
      · exact hfirst
      · exact hmodule s hs
      · exact hsegment.mpr hascii
    let path : TargetPath := ⟨marker :: module ++ [schema.identifier], by simp, hvalid⟩
    have hidentifier : schema.identifier = path.identifier := by
      rw [TargetPath.identifier, List.getLast?_concat]
      rfl
    refine ⟨path, TargetPath.parse_of_pathName path ?_, rfl, ?_, fun location => ?_, hidentifier⟩
    · rw [← hidentifier, ← isAsciiIdentifier_iff]
      exact hascii
    · exact (OrderedMap.contains_iff_mem_keys _ _).mpr htext
    · exact resolve_of_get? host root marker units r hingested path schema rfl hschema location
  · -- A path of that text would have the name for a segment.
    have hdotless : ∀ s ∈ marker :: module ++ [schema.identifier], Dotless s := by
      intro s hs
      rcases List.mem_append.mp hs with hs | hs
      · exact TargetPath.dotless_cons marker module (dotless_of_isSegment _ hfirst) hmodule s hs
      · rw [List.mem_singleton.mp hs]
        exact Code.not_mem_of_isName _ _ hname (by decide)
    have hsegments := TargetPath.dotted_injective path.segments _
      (List.ne_nil_of_length_pos (Nat.zero_lt_of_lt path.two)) (by simp)
      (fun s hs => dotless_of_isSegment s (path.valid s hs)) hdotless heq
    have hmem : schema.identifier ∈ path.segments := by
      rw [hsegments]
      simp
    rw [hsegment.mp (path.valid _ hmem)] at hforeign
    cases hforeign

theorem listed_addressed_shelf :
    ∃ r schema, ofSourceRoot shelf shelfRoot "crate" = .ok r ∧ r.paths = [shelvedPath.toString] ∧
      Addressed r shelvedPath.toString shelvedPath schema := by
  obtain ⟨r, hr⟩ : ∃ r, ofSourceRoot shelf shelfRoot "crate" = .ok r :=
    exists_of_isOk _ (by decide +kernel)
  have hpaths : (ofSourceRoot shelf shelfRoot "crate").map (·.paths) = .ok [shelvedPath.toString] := by
    decide +kernel
  rw [hr] at hpaths
  have hlisted : r.paths = [shelvedPath.toString] := Except.ok.inj hpaths
  obtain ⟨module, schema, -, -, -, -, haddressed, hforeign⟩ :=
    listed_addressed shelf shelfRoot "crate" r (by decide) hr shelvedPath.toString (by simp [hlisted])
  refine ⟨r, schema, hr, hlisted, ?_⟩
  cases hascii : isAsciiIdentifier (codePoints schema.identifier) with
  | false => exact absurd rfl (hforeign hascii shelvedPath)
  | true =>
    obtain ⟨path, hpath⟩ := haddressed hascii
    rwa [TargetPath.toString_injective path shelvedPath hpath.spelt] at hpath

/-- What is listed of a class `Ü` is no path. -/
example : TargetPath.parse (codePoints "crate.a.Ü") =
    .error (.badSegment (codePoints "Ü") (codePoints "crate.a.Ü")) := by
  decide +kernel

end Registry
end Crosswalk
