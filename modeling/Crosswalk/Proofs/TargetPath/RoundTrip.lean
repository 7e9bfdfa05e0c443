import Crosswalk.Proofs.Registry.Registration
import Crosswalk.Proofs.TargetPath.Grammar

/-! Paths and their texts. The text of a path is what it was read from, stripped and with a dot for every two
colons, and is read as the same path. So a path is told by its text, and a registry that goes by the texts
keeps one entry for every path. -/

namespace Crosswalk

open Text (CodePoint codePoints strip)

namespace Text

theorem map_glue {α β : Type} (f : α → β) (sep : α) (ps : List (List α)) :
    (glue sep ps).map f = glue (f sep) (ps.map (List.map f)) := by
  induction ps with
  | nil => rfl
  | cons p rest ih =>
    cases rest with
    | nil => rfl
    | cons q rest =>
      rw [List.map_cons] at ih
      rw [List.map_cons, List.map_cons, glue, glue, List.map_append, List.map_cons, ih]

end Text

namespace TargetPath

theorem codePoints_dotted (names : List String) :
    codePoints (dotted names) = Text.glue 0x2e (names.map codePoints) := by
  rw [codePoints, dotted, Text.toList_intercalate "." '.' rfl, Text.map_glue, List.map_map]
  rfl

/-- Names that are glued with dots spell what they have spelt. -/
theorem dotColons_glue (segments : List (List CodePoint)) (hloose : ∀ s ∈ segments, LooseName s) :
    dotColons (Text.glue 0x2e segments) = Text.glue 0x2e segments := by
  have hfree : 0x3a ∉ Text.glue 0x2e segments := by
    rw [Text.mem_glue_iff _ _ (by decide)]
    rintro ⟨s, hs, hcolon⟩
    exact ((hloose s hs).bounds _ hcolon).2.2 rfl
  have hsame := dotColons_append _ [] hfree
  rwa [List.append_nil, dotColons, List.append_nil] at hsame

theorem Spells.glued {text : List CodePoint} {segments : List (List CodePoint)}
    (h : Spells text segments) : Spells (Text.glue 0x2e segments) segments where
  two := h.two
  inner := h.inner
  last := h.last
  joined := by
    refine ⟨[], Text.glue 0x2e segments, [], (List.append_nil _).symm, nofun, nofun, ?_⟩
    exact (joined_iff _ _ h.strip_joined.ne_nil h.loose).mpr (dotColons_glue segments h.loose).symm

theorem looseName_of_mem (path : TargetPath) (s : List CodePoint)
    (hs : s ∈ path.segments.map codePoints) : LooseName s := by
  obtain ⟨name, hname, rfl⟩ := List.mem_map.mp hs
  exact (isSegment_iff _).mp (path.valid name hname)

/-- A path is read from its own text unless a line feed ends it. -/
theorem parse_of_pathName (path : TargetPath) (hname : PathName (codePoints path.identifier)) :
    parse (codePoints path.toString) = .ok path := by
  have hloose := looseName_of_mem path
  have hlast : ∀ s ∈ (path.segments.map codePoints).getLast?, PathName s := by
    intro s hs
    rw [path.segments_eq, List.map_append, List.map_singleton, List.getLast?_concat] at hs
    rw [← Option.some_inj.mp hs]
    exact hname
  have hne : path.segments.map codePoints ≠ [] := by
    rw [path.segments_eq]
    simp
  have hjoined := (joined_iff (Text.glue 0x2e (path.segments.map codePoints)) _ hne hloose).mpr
    (dotColons_glue _ hloose).symm
  rw [toString, codePoints_dotted]
  refine (parse_eq_iff _ _).mpr (.path ⟨?_, fun s hs => hloose s (List.dropLast_subset _ hs), hlast,
    [], _, [], (List.append_nil _).symm, List.forall_mem_nil _, List.forall_mem_nil _, hjoined⟩)
  rw [List.length_map]
  exact path.two

section

variable (text : List CodePoint) (path : TargetPath) (h : parse text = .ok path)

include h

theorem spells_of_parse : Spells text (path.segments.map codePoints) := by
  cases (parse_eq_iff text _).mp h with
  | path hspelt => exact hspelt

theorem codePoints_toString_of_parse : codePoints path.toString = dotColons (strip text) := by
  have hcut := ((spells_iff _ _).mp (spells_of_parse text path h)).1
  rw [toString, codePoints_dotted, ← hcut, glue_segmentsOf]

theorem parse_toString : parse (codePoints path.toString) = .ok path := by
  rw [toString, codePoints_dotted]
  exact (parse_eq_iff _ _).mpr (.path (spells_of_parse text path h).glued)

/-- Texts are read as one path if they are the same once they are stripped and have dots for colons. -/
theorem eq_iff_of_parse (text' : List CodePoint) (path' : TargetPath) (h' : parse text' = .ok path') :
    path = path' ↔ dotColons (strip text) = dotColons (strip text') := by
  rw [← codePoints_toString_of_parse text path h, ← codePoints_toString_of_parse text' path' h']
  constructor
  · rintro rfl
    rfl
  · intro hsame
    exact toString_injective path path' (Text.codePoints_injective _ _ hsame)

end

/-- The text of a path is read as the path, and made of its parts. Two texts give one path if they differ only
in what is stripped and in colons for dots. Paths with the same text are the same, so what is registered
under one of them is found under this one only. -/
theorem toString_round_trip (text : List CodePoint) (path : TargetPath)
    (h : parse text = .ok path) :
    parse (codePoints path.toString) = .ok path ∧
    codePoints path.toString = dotColons (strip text) ∧
    path.segments = path.root :: path.modules ++ [path.identifier] ∧
    path.toString = path.modulePath ++ "." ++ path.identifier ∧
    ∀ (text' : List CodePoint) (path' : TargetPath), parse text' = .ok path' →
      (path = path' ↔ dotColons (strip text) = dotColons (strip text')) ∧
      (path.toString = path'.toString → path = path') ∧
      ∀ (r : Registry) (schema : Schema),
        (r.register path schema).schemas.get? path'.toString =
            (if path = path' then some schema else r.schemas.get? path'.toString) ∧
          ((r.register path schema).contains path' = true ↔
            path = path' ∨ r.contains path' = true) := by
  refine ⟨parse_toString text path h, codePoints_toString_of_parse text path h, path.segments_eq,
    Registry.toString_eq_modulePath path, ?_⟩
  intro text' path' h'
  refine ⟨eq_iff_of_parse text path h text' path' h', toString_injective path path', ?_⟩
  intro r schema
  have hentry := Registry.get?_schemas_register r path schema path'
  refine ⟨hentry, ?_⟩
  rw [Registry.contains, OrderedMap.contains, hentry]
  by_cases hpath : path = path'
  · simp [hpath]
  · simp [hpath, Registry.contains, OrderedMap.contains]

def feedPath : TargetPath := ⟨["crate", "t\n", "T"], by decide, by decide⟩

/-- A path with a line feed, in two spellings. -/
theorem toString_round_trip_feed :
    parse (codePoints " crate::t\n.T ") = .ok feedPath ∧
    parse (codePoints "crate.t\n::T\n") = .ok feedPath ∧
    parse (codePoints feedPath.toString) = .ok feedPath ∧
    dotColons (strip (codePoints " crate::t\n.T ")) = dotColons (strip (codePoints "crate.t\n::T\n")) := by
  have hfirst : parse (codePoints " crate::t\n.T ") = .ok feedPath := by decide
  have hsecond : parse (codePoints "crate.t\n::T\n") = .ok feedPath := by decide
  obtain ⟨hagain, -, -, -, htexts⟩ := toString_round_trip _ feedPath hfirst
  exact ⟨hfirst, hsecond, hagain, (htexts _ feedPath hsecond).1.mp rfl⟩

end TargetPath
end Crosswalk
