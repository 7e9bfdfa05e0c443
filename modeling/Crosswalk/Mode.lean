import Crosswalk.Text.Blank
import Crosswalk.Text.Lowercase
import Crosswalk.Text.Quoted

/-! What is done with a source value: a new target is built from it, with or without the target's
defaults, or a target is updated in place, with or without copying. A variant is a mode together with
softness, which only updates can have. -/

namespace Crosswalk

inductive Mode
  | into
  | intoDefault
  | merge
  | mergeRef
  deriving DecidableEq, Repr

structure UnknownMode where
  name : String
  deriving DecidableEq, Repr

namespace Mode

def all : List Mode := [into, intoDefault, merge, mergeRef]

/-- The name of a mode, also that of the decorator that requests it. -/
def word : Mode → String
  | into => "into"
  | intoDefault => "into_default"
  | merge => "merge"
  | mergeRef => "merge_ref"

def title : Mode → String
  | into => "Into"
  | intoDefault => "IntoDefault"
  | merge => "Merge"
  | mergeRef => "MergeRef"

def isMerge : Mode → Bool
  | merge | mergeRef => true
  | into | intoDefault => false

def clones (m : Mode) : Bool := m = mergeRef

def ofWord? (name : String) : Option Mode := all.find? (·.word == name)

/-- A name as it is compared: stripped, with underscores for hyphens, in lower case. -/
def normalized (name : String) : String :=
  let stripped := Text.ofCodePoints (Text.strip (Text.codePoints name))
  Text.lowercase (stripped.map fun c => if c = '-' then '_' else c)

def parse (name : String) : Except UnknownMode Mode :=
  let found := all.find? fun m =>
    normalized name == m.word || normalized name == Text.lowercase m.title
  match found with
  | some m => .ok m
  | none => .error ⟨name⟩

end Mode

def UnknownMode.message (e : UnknownMode) : String :=
  "Unknown mode " ++ Text.quoted e.name ++ ", expected one of: " ++
    ", ".intercalate (Mode.all.map (·.word))

structure Variant where
  mode : Mode
  soft : Bool := false
  allowed : soft = true → mode.isMerge = true := by decide
  deriving DecidableEq, Repr

/-- A mode that builds a new target was asked to be soft. -/
structure NoSoftVariant where
  mode : Mode
  deriving DecidableEq, Repr

def NoSoftVariant.message (e : NoSoftVariant) : String := e.mode.title ++ " has no soft variant"

namespace Variant

def of (mode : Mode) (soft : Bool) : Except NoSoftVariant Variant :=
  if h : soft = true → mode.isMerge = true then .ok ⟨mode, soft, h⟩ else .error ⟨mode⟩

def hard (mode : Mode) : Variant := ⟨mode, false, by simp⟩

/-- All variants, hard before soft. -/
def all : List Variant :=
  [hard .into, hard .intoDefault, hard .merge, ⟨.merge, true, by decide⟩, hard .mergeRef,
   ⟨.mergeRef, true, by decide⟩]

theorem mem_all (v : Variant) : v ∈ all := by
  obtain ⟨mode, soft, hallowed⟩ := v
  cases soft with
  | false => cases mode <;> simp [all, hard]
  | true =>
    have hmerge := hallowed rfl
    cases mode with
    | into | intoDefault => exact absurd hmerge (by decide)
    | merge | mergeRef => simp [all]

/-- The variants made for a target of one mode. -/
def ofMode (mode : Mode) : List Variant :=
  if h : mode.isMerge = true then [hard mode, ⟨mode, true, fun _ => h⟩] else [hard mode]

theorem mode_of_mem_ofMode (v : Variant) (mode : Mode) (h : v ∈ ofMode mode) : v.mode = mode := by
  unfold ofMode at h
  split at h
  · rcases List.mem_cons.mp h with rfl | h
    · rfl
    · rw [List.mem_singleton.mp h]
  · rw [List.mem_singleton.mp h]
    rfl

end Variant
end Crosswalk
