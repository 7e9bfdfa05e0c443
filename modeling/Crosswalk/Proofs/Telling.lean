import Crosswalk.Proofs.Resolution
import Crosswalk.Proofs.Text.Quoting

/-! What the text of a failure tells. A text that ends in a path tells the path. A text about a file that
cannot be opened tells the module, be it the entry file of its directory or the file of its name. The two
kinds of text cannot be taken for each other, nor can texts of different classes. -/

namespace Crosswalk

open Registry (under fileNames)

/-! Plain names -/

theorem plain_of_isSegment (s : String) (h : isSegment (Text.codePoints s) = true) : Text.Plain s := by
  intro c hc
  have hpart := mem_of_isSegment _ h c hc
  unfold Text.isAsciiLetter Text.isAsciiDigit at hpart
  simp only [Bool.or_eq_true, Bool.and_eq_true, decide_eq_true_eq] at hpart
  unfold Text.CodePoint at hpart
  unfold Text.IsPlain
  omega

theorem slash_not_mem_of_isSegment (s : String) (h : isSegment (Text.codePoints s) = true) :
    '/' ∉ s.toList :=
  not_mem_of_isSegment s h '/' (by decide) (by decide) (by decide) (by decide)

theorem plain_path (path : TargetPath) : Text.Plain path.toString :=
  Text.plain_intercalate "." path.segments (by decide) fun s hs =>
    plain_of_isSegment s (path.valid s hs)

/-! Names of files -/

/-- The names of a file that can stand for a module. -/
def UnitNames (modules names : List String) : Prop :=
  names = modules ++ [packageEntry] ∨ names = fileNames modules

section

variable (modules names : List String) (hmodules : AllSegments modules)
  (hnames : UnitNames modules names)

include hnames

theorem unitNames_ne_nil : names ≠ [] := by
  rcases hnames with rfl | rfl <;> simp [fileNames]

include hmodules

theorem mem_unitNames (s : String) (hs : s ∈ names) : Text.Plain s ∧ '/' ∉ s.toList := by
  have hmodule : ∀ t ∈ modules, Text.Plain t ∧ '/' ∉ t.toList := fun t ht =>
    ⟨plain_of_isSegment t (hmodules t ht), slash_not_mem_of_isSegment t (hmodules t ht)⟩
  rcases hnames with rfl | rfl
  · rcases List.mem_append.mp hs with hs | hs
    · exact hmodule s hs
    · rw [List.mem_singleton.mp hs]
      decide
  · unfold fileNames at hs
    rcases List.mem_append.mp hs with hs | hs
    · exact hmodule s (List.dropLast_subset modules hs)
    · rw [List.mem_singleton.mp hs, unitName]
      have hlast : Text.Plain (modules.getLast?.getD "") ∧ '/' ∉ (modules.getLast?.getD "").toList := by
        cases hlast : modules.getLast? with
        | none => decide
        | some last => exact hmodule last (List.mem_of_getLast? hlast)
      refine ⟨Text.plain_append _ _ hlast.1 (by decide), ?_⟩
      rw [String.toList_append, List.mem_append, not_or]
      exact ⟨hlast.2, by decide⟩

end

theorem fileNames_injective (modules modules' : List String) (hmodules : AllSegments modules)
    (hmodules' : AllSegments modules') (h : fileNames modules = fileNames modules') :
    modules = modules' := by
  obtain ⟨hfronts, hunits⟩ := List.append_inj' h rfl
  rw [List.cons.injEq] at hunits
  have hlasts := Registry.unitName_injective _ _ hunits.1
  have hsegment : ∀ (front : List String) (last : String), AllSegments (front ++ [last]) → last ≠ "" :=
    fun front last hall => ne_empty_of_isSegment last (hall last (by simp))
  rcases List.eq_nil_or_concat modules with rfl | ⟨front, last, rfl⟩ <;>
    rcases List.eq_nil_or_concat modules' with rfl | ⟨front', last', rfl⟩
  · rfl
  · rw [List.concat_eq_append] at hmodules' hlasts
    exact absurd (by simpa using hlasts.symm) (hsegment front' last' hmodules')
  · rw [List.concat_eq_append] at hmodules hlasts
    exact absurd (by simpa using hlasts) (hsegment front last hmodules)
  · simp only [List.concat_eq_append, List.dropLast_concat] at hfronts
    simp only [List.concat_eq_append, List.getLast?_concat, Option.getD_some] at hlasts
    rw [hfronts, hlasts]

/-- A module is told by a file that can stand for it. -/
theorem unitNames_injective (modules modules' names : List String)
    (hmodules : AllSegments modules) (hmodules' : AllSegments modules')
    (hlast : modules.getLast? ≠ some "__init__") (hlast' : modules'.getLast? ≠ some "__init__")
    (h : UnitNames modules names) (h' : UnitNames modules' names) : modules = modules' := by
  rcases h with rfl | rfl
  · rcases h' with heq | heq
    · exact (List.append_inj' heq rfl).1
    · exact absurd heq.symm (Registry.fileNames_ne modules' modules hlast')
  · rcases h' with heq | heq
    · exact absurd heq (Registry.fileNames_ne modules modules' hlast)
    · exact fileNames_injective modules modules' hmodules hmodules' heq

/-- The text of a path below a directory starts with the text that leads into it. -/
theorem toString_under (root : Files.Path) (names : List String) (hne : names ≠ []) :
    (under root names).toString = root.lead ++ "/".intercalate names := by
  have hparts : ¬ ((root.parts ++ names).isEmpty = true ∧ root.anchor = "") := by
    simp [hne]
  unfold under Files.Path.toString Files.Path.lead
  rw [if_neg hparts]
  cases hroot : root.parts with
  | nil => rfl
  | cons first rest =>
    rw [String.intercalate_append_of_ne_nil (List.cons_ne_nil _ _) hne]
    simp [String.append_assoc]

/-! Texts -/

/-- A text of a unit that cannot be opened and ends in the path that was asked for. -/
def TellsPath (message : String) (path : TargetPath) : Prop :=
  FailureClass.unopened.Opens message ∧ ∃ front, message = front ++ Text.quoted path.toString

/-- A text of a unit that cannot be opened and names a file of a module. -/
def TellsUnit (root : Files.Path) (message : String) (modules : List String) : Prop :=
  ∃ reason names, UnitNames modules names ∧
    message = (UnitProblem.unopened reason).message (under root names)

theorem tellsPath_noFile (file : Files.Path) (path : TargetPath) :
    TellsPath (ResolutionProblem.noFile file path).message path :=
  ⟨opens_message (.noFile file path), _, rfl⟩

theorem tellsPath_noUnit (module : String) (path : TargetPath) :
    TellsPath (ResolutionProblem.noUnit module path).message path :=
  ⟨opens_message (.noUnit module path), _, rfl⟩

theorem path_of_tellsPath (message : String) (p q : TargetPath) (hp : TellsPath message p)
    (hq : TellsPath message q) : p = q := by
  obtain ⟨-, front, hfront⟩ := hp
  obtain ⟨-, front', hfront'⟩ := hq
  exact TargetPath.toString_injective p q (Text.append_quoted_inj front front' _ _ (plain_path p) (plain_path q)
    (hfront.symm.trans hfront'))

theorem not_tellsUnit_of_tellsPath (root : Files.Path) (message : String) (path : TargetPath)
    (modules : List String) (hpath : TellsPath message path) : ¬ TellsUnit root message modules := by
  rintro ⟨reason, names, -, hmessage⟩
  obtain ⟨-, front, hfront⟩ := hpath
  exact Text.append_quoted_ne front _ _ (plain_path path) (hfront.symm.trans hmessage)

theorem opens_of_tellsUnit (root : Files.Path) (message : String) (modules : List String)
    (h : TellsUnit root message modules) : FailureClass.unopened.Opens message := by
  obtain ⟨reason, names, -, rfl⟩ := h
  exact opens_unitMessage (.unopened reason) _

theorem modules_of_tellsUnit (root : Files.Path) (message : String) (modules modules' : List String)
    (hmodules : AllSegments modules) (hmodules' : AllSegments modules')
    (hlast : modules.getLast? ≠ some "__init__") (hlast' : modules'.getLast? ≠ some "__init__")
    (h : TellsUnit root message modules) (h' : TellsUnit root message modules') :
    modules = modules' := by
  obtain ⟨reason, names, hnames, hmessage⟩ := h
  obtain ⟨reason', names', hnames', hmessage'⟩ := h'
  have hne := unitNames_ne_nil modules names hnames
  have hne' := unitNames_ne_nil modules' names' hnames'
  have hmem := mem_unitNames modules names hmodules hnames
  have hmem' := mem_unitNames modules' names' hmodules' hnames'
  have htexts : "/".intercalate names = "/".intercalate names' := by
    have htext := hmessage.symm.trans hmessage'
    unfold UnitProblem.message at htext
    dsimp only at htext
    rw [toString_under root names hne, toString_under root names' hne'] at htext
    simp only [String.append_assoc] at htext
    exact Text.quoted_append_inj root.lead _ _ _ _
      (Text.plain_intercalate "/" names (by decide) fun s hs => (hmem s hs).1)
      (Text.plain_intercalate "/" names' (by decide) fun s hs => (hmem' s hs).1)
      ((String.append_right_inj _).mp htext)
  have heq := Text.intercalate_injective "/" '/' rfl names names' hne hne'
    (fun s hs => (hmem s hs).2) (fun s hs => (hmem' s hs).2) htexts
  rw [← heq] at hnames'
  exact unitNames_injective modules modules' names hmodules hmodules' hlast hlast' hnames hnames'

/-- A text belongs to one class. -/
theorem class_of_opens (c c' : FailureClass) (message : String) (h : c.Opens message)
    (h' : c'.Opens message) : c = c' := by
  obtain ⟨rest, hrest⟩ := h
  obtain ⟨rest', hrest'⟩ := h'
  have hlist := congrArg (fun s => s.toList.take 11) (hrest.symm.trans hrest')
  simp only [String.toList_append] at hlist
  cases c <;> cases c' <;> first | rfl | exact absurd hlist (by simp [FailureClass.opening])

end Crosswalk
