import Crosswalk.Proofs.Code.Printing
import Crosswalk.Proofs.Plan.Synthesis
import Crosswalk.Proofs.SourceUnit
import Crosswalk.Proofs.TargetPath
import Crosswalk.Proofs.Text.Lines

/-! The texts of plans and lines. The names in a plan are those of classes and of their fields, which are on one
line. What a plan says of itself and of its errors is on one line if the paths, files and types in it are. -/

namespace Crosswalk

open Text

/-! Names -/

/-- The names of a schema are on one line, as those of a class are. -/
structure Schema.NamesOneLine (s : Schema) : Prop where
  identifier : OneLine s.identifier
  fields : ∀ name ∈ s.fieldNames, OneLine name
  empty : ∀ identifier, s.problem = some (.noFields identifier) → OneLine identifier

theorem isName_of_ofDeclaration (i : Code.Interpreter) (file : Option Files.Path)
    (d : Code.FieldDeclaration) (f : Field) (h : Member.ofDeclaration i file d = .ok (.field f)) :
    Code.IsName f.name := by
  unfold Member.ofDeclaration at h
  split at h
  · rename_i p id htarget
    obtain ⟨ty, -, h⟩ := exists_of_bind_ok _ _ _ h
    cases h
    exact id.isName
  · obtain ⟨text, -, h⟩ := exists_of_bind_ok _ _ _ h
    cases h

theorem Schema.namesOneLine_of_declared (s : Schema) (h : s.Declared) : s.NamesOneLine := by
  obtain ⟨i, d, file, hclass⟩ := h
  unfold Schema.ofClass at hclass
  obtain ⟨members, hmembers, hclass⟩ := exists_of_bind_ok _ _ _ hclass
  cases hclass
  have hname := oneLine_of_isName _ d.named
  refine ⟨hname, fun name hfields => ?_, fun identifier hproblem => ?_⟩
  · obtain ⟨f, hf, rfl⟩ := List.mem_map.mp hfields
    obtain ⟨member, hmember, hfield⟩ := List.mem_filterMap.mp hf
    obtain ⟨declaration, -, hdeclaration⟩ :=
      exists_of_mem_mapM _ d.fields members hmembers member hmember
    cases member with
    | unnamed text => cases hfield
    | field g =>
      cases hfield
      exact oneLine_of_isName _ (isName_of_ofDeclaration i file declaration f hdeclaration)
  · dsimp only [problemOf] at hproblem
    split at hproblem
    · cases hproblem
    · split at hproblem
      · cases hproblem
        exact hname
      · cases hproblem

/-! What is told -/

/-- What stands in the place of a field's name is on one line. -/
def ShapeProblem.Legible : ShapeProblem → Prop
  | noFields _ => True
  | unnamedField target => OneLine target

instance : (p : ShapeProblem) → Decidable p.Legible
  | .noFields _ => isTrue trivial
  | .unnamedField target => inferInstanceAs (Decidable (OneLine target))

/-- All texts in a schema that are no names are on one line. Of types, only those are in doubt that have a
string with a line end in a hole of an interpolated string. -/
structure Schema.Legible (s : Schema) : Prop where
  types : ∀ f ∈ s.fields, f.type.expr.isBroken false = true → OneLine f.type.text
  problem : ∀ p ∈ s.problem, p.Legible

instance (s : Schema) : Decidable s.Legible :=
  decidable_of_iff ((∀ f ∈ s.fields, f.type.expr.isBroken false = true → OneLine f.type.text) ∧
      ∀ p ∈ s.problem, p.Legible)
    ⟨fun h => ⟨h.1, h.2⟩, fun h => ⟨h.types, h.problem⟩⟩

theorem Schema.Legible.oneLine_type (s : Schema) (h : s.Legible) (f : Field) (hf : f ∈ s.fields) :
    OneLine f.type.text := by
  cases hbroken : f.type.expr.isBroken false with
  | true => exact h.types f hf hbroken
  | false => exact Code.oneLine_text f.type.expr f.type.text hbroken f.type.text_eq

/-- A plan whose path is made of identifiers, and whose files and schemas are told on one line. -/
structure Plan.Legible (p : Plan) : Prop where
  path : ∀ path ∈ p.targetPath, ∀ s ∈ path.segments, isAsciiIdentifier (codePoints s) = true
  files : ∀ d ∈ p.errors, ∀ file ∈ d.location.file, OneLine file.toString
  source : p.source.Legible
  target : p.target.Legible

instance (p : Plan) : Decidable p.Legible :=
  decidable_of_iff
    ((∀ path ∈ p.targetPath, ∀ s ∈ path.segments, isAsciiIdentifier (codePoints s) = true) ∧
      (∀ d ∈ p.errors, ∀ file ∈ d.location.file, OneLine file.toString) ∧
      p.source.Legible ∧ p.target.Legible)
    ⟨fun h => ⟨h.1, h.2.1, h.2.2.1, h.2.2.2⟩, fun h => ⟨h.path, h.files, h.source, h.target⟩⟩

theorem oneLine_of_isAsciiIdentifier (s : String) (h : isAsciiIdentifier (codePoints s) = true) :
    OneLine s := by
  have hpoint : ∀ c ∈ s.toList, c.toNat ≠ 0xa ∧ c.toNat ≠ 0xd := by
    intro c hc
    have hkind := mem_of_isAsciiIdentifier _ h c.toNat (List.mem_map_of_mem hc)
    generalize c.toNat = n at hkind
    simp only [isAsciiLetter, isAsciiDigit, CodePoint, Bool.or_eq_true, Bool.and_eq_true,
      decide_eq_true_eq] at hkind
    omega
  intro c hc
  constructor
  · rintro rfl
    exact (hpoint _ hc).1 rfl
  · rintro rfl
    exact (hpoint _ hc).2 rfl

theorem oneLine_dotted (names : List String) (h : ∀ s ∈ names, OneLine s) :
    OneLine (TargetPath.dotted names) := oneLine_intercalate "." names (by decide) h

theorem oneLine_title (mode : Mode) : OneLine mode.title := by cases mode <;> decide

theorem oneLine_location (l : Location) (h : ∀ file ∈ l.file, OneLine file.toString) :
    OneLine l.toString := by
  have hcolon : OneLine ":" := by decide
  unfold Location.toString
  simp only [oneLine_append]
  refine ⟨⟨⟨⟨?_, hcolon⟩, oneLine_intRepr _⟩, hcolon⟩, oneLine_intRepr _⟩
  split
  · exact h _ (by assumption)
  · decide

theorem oneLine_diagnostic (d : Diagnostic) (hmessage : OneLine d.message)
    (hfile : ∀ file ∈ d.location.file, OneLine file.toString) : OneLine d.toString := by
  have hkind : OneLine d.kind.text := by cases d.kind <;> decide
  unfold Diagnostic.toString
  simp only [oneLine_append]
  exact ⟨⟨⟨⟨oneLine_location _ hfile, by decide⟩, hkind⟩, by decide⟩, hmessage⟩

/-! Messages -/

theorem Schema.oneLine_problem (s : Schema) (hnames : s.NamesOneLine) (hlegible : s.Legible)
    (p : ShapeProblem) (h : s.problem = some p) : OneLine p.message := by
  cases p with
  | noFields identifier =>
    exact (oneLine_append _ _).mpr ⟨hnames.empty identifier h, by decide⟩
  | unnamedField target =>
    have htarget : OneLine target := hlegible.problem _ h
    unfold ShapeProblem.message
    simp only [oneLine_append]
    exact ⟨⟨by decide, htarget⟩, by decide⟩

theorem oneLine_typeProblem (p : TypeProblem) (text : String) (htext : OneLine text)
    (h : p = .missingArgument ∨ p = .badArgument ∨ p = .unsupported text) : OneLine p.message := by
  rcases h with rfl | rfl | rfl
  · decide
  · decide
  · unfold TypeProblem.message
    simp only [oneLine_append]
    exact ⟨⟨by decide, htext⟩, by decide⟩

namespace FieldPair

variable (pair : FieldPair) (v : Variant)

/-- A pair of which all texts are on one line. -/
structure Legible : Prop where
  sourceName : OneLine pair.source.name
  targetName : OneLine pair.target.name
  sourceType : OneLine pair.source.type.text
  targetType : OneLine pair.target.type.text

theorem oneLine_verb (mode : Mode) : OneLine (verb mode) := by
  unfold verb
  split <;> decide

theorem oneLine_complaint (h : pair.Legible) (d : Diagnostic) (hd : Complaint pair v d) :
    OneLine d.message := by
  obtain ⟨hsource, htarget, hsourceType, htargetType⟩ := h
  cases hd with
  | type field hfield p hp =>
    refine oneLine_typeProblem p field.type.text ?_ hp
    rcases hfield with rfl | rfl
    · exact hsourceType
    · exact htargetType
  | mismatch =>
    have hverb := oneLine_verb v.mode
    simp only [oneLine_append, report, hsourceType, htarget, htargetType, hverb, and_true]
    decide
  | downgrade =>
    have htitle := oneLine_title v.mode
    simp only [oneLine_append, report, hsource, hsourceType, htarget, htargetType, htitle, and_true]
    decide

end FieldPair

/-! Plans -/

namespace Plan

/-- All that a plan is written with is on one line. -/
structure AllOneLine (p : Plan) : Prop where
  description : OneLine p.toString
  errors : ∀ d ∈ p.errors, OneLine d.toString
  identifier : OneLine p.target.identifier
  actions : ∀ a ∈ p.actions, OneLine a.source ∧ OneLine a.target
  uncovered : ∀ name ∈ p.uncovered, OneLine name

theorem oneLine_toString (p : Plan) (hsource : OneLine p.source.identifier)
    (htarget : OneLine p.target.identifier)
    (hpath : ∀ path ∈ p.targetPath, OneLine path.toString) : OneLine p.toString := by
  have htext : OneLine p.targetText := by
    unfold targetText
    split
    · exact hpath _ (by assumption)
    · exact htarget
  have htitle := oneLine_title p.mode
  have hsoft : OneLine (if p.soft then " (soft)" else "") := by split <;> decide
  unfold toString
  simp only [oneLine_append, hsource, htext, htitle, hsoft, and_true, true_and]
  decide

section

variable (source target : Schema) (hsource : source.NamesOneLine) (htarget : target.NamesOneLine)
  (hsourceLegible : source.Legible) (htargetLegible : target.Legible) (v : Variant)
  (path : Option TargetPath) (location : Option Location)

include hsource htarget hsourceLegible htargetLegible

theorem legible_of_matched (pair : FieldPair) (h : pair ∈ matchFields source target) :
    pair.Legible := by
  have hfield := ((mem_matchFields source target pair).mp h).1
  have hfield' := target_mem_of_matched source target pair h
  exact ⟨hsource.fields _ (List.mem_map_of_mem hfield), htarget.fields _ (List.mem_map_of_mem hfield'),
    hsourceLegible.oneLine_type _ _ hfield, htargetLegible.oneLine_type _ _ hfield'⟩

theorem oneLine_message (d : Diagnostic)
    (h : d ∈ (synthesize source target v path location).errors) : OneLine d.message := by
  cases hs : shapeError source target location with
  | some error =>
    have herror : d = error := by simpa [synthesize, hs] using h
    obtain ⟨s, p, hschema, hproblem, -, hmessage⟩ :=
      problem_of_shapeError source target location error hs
    rw [herror, hmessage]
    rcases hschema with rfl | rfl
    · exact s.oneLine_problem hsource hsourceLegible p hproblem
    · exact s.oneLine_problem htarget htargetLegible p hproblem
  | none =>
    rw [errors_synthesize source target v path location hs] at h
    obtain ⟨pair, hpair, hd⟩ := List.mem_flatMap.mp h
    have hlegible :=
      legible_of_matched source target hsource htarget hsourceLegible htargetLegible pair hpair
    exact pair.oneLine_complaint v hlegible d (FieldPair.complaint_of_map pair v d hd)

end

theorem allOneLine_synthesize (source target : Schema) (v : Variant) (path : Option TargetPath)
    (location : Option Location) (hsource : source.NamesOneLine) (htarget : target.NamesOneLine)
    (h : (synthesize source target v path location).Legible) :
    (synthesize source target v path location).AllOneLine := by
  obtain ⟨hpath, hfiles, hsourceLegible, htargetLegible⟩ := h
  rw [source_synthesize] at hsourceLegible
  rw [target_synthesize] at htargetLegible
  have hmessage := oneLine_message source target hsource htarget hsourceLegible htargetLegible v path
    location
  refine ⟨oneLine_toString _ ?_ ?_ ?_, ?_, ?_, ?_, ?_⟩
  · rw [source_synthesize]
    exact hsource.identifier
  · rw [target_synthesize]
    exact htarget.identifier
  · exact fun path' hp => oneLine_dotted _ fun s hs => oneLine_of_isAsciiIdentifier s (hpath path' hp s hs)
  · exact fun d hd => oneLine_diagnostic d (hmessage d hd) (hfiles d hd)
  · rw [target_synthesize]
    exact htarget.identifier
  · intro a ha
    obtain ⟨-, hread, hwritten⟩ := action_fields source target v path location a ha
    exact ⟨hsource.fields _ hread, htarget.fields _ hwritten⟩
  · intro name hname
    cases hs : shapeError source target location with
    | some error => simp [synthesize, hs] at hname
    | none =>
      have hmem := (mem_uncovered source target v path location hs name).mp hname
      exact htarget.fields name hmem.1

end Plan
end Crosswalk
