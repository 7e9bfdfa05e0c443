import Crosswalk.Text.Blank
import Crosswalk.Text.IdentifierChars
import Crosswalk.Text.Quoted

/-! Dotted paths of schemas: a root, the modules below it, and the identifier of a class. Double colons
are read as dots. -/

namespace Crosswalk

open Text (CodePoint)

def isAsciiIdentifier (t : List CodePoint) : Bool :=
  match t with
  | [] => false
  | c :: rest =>
    (Text.isAsciiLetter c || c == 0x5f) &&
      rest.all fun c => Text.isAsciiLetter c || Text.isAsciiDigit c || c == 0x5f

/-- A segment is an identifier; a line feed may end it. -/
def isSegment (t : List CodePoint) : Bool :=
  isAsciiIdentifier t || (t.getLast? == some 0xa && isAsciiIdentifier t.dropLast)

structure TargetPath where
  segments : List String
  two : 2 ≤ segments.length
  valid : ∀ s ∈ segments, isSegment (Text.codePoints s) = true
  deriving DecidableEq, Repr

inductive PathError
  | empty
  | badSegment (segment path : List CodePoint)
  | tooShort (path : List CodePoint)
  deriving DecidableEq, Repr

def PathError.message : PathError → String
  | empty => "Empty path"
  | badSegment segment path =>
    "Invalid path segment " ++ Text.Quoted.encode segment ++ " in " ++ Text.Quoted.encode path
  | tooShort path =>
    "Path " ++ Text.Quoted.encode path ++ " needs a root segment and a schema identifier"

namespace TargetPath

def root (p : TargetPath) : String := p.segments.headD ""

def modules (p : TargetPath) : List String := p.segments.dropLast.drop 1

def identifier (p : TargetPath) : String := p.segments.getLast?.getD ""

def dotted (names : List String) : String := ".".intercalate names

/-- The path of the unit that holds the schema. -/
def modulePath (p : TargetPath) : String := dotted p.segments.dropLast

def toString (p : TargetPath) : String := dotted p.segments

/-- Every two colons in a row, from the left, become a dot. -/
def dotColons : List CodePoint → List CodePoint
  | 0x3a :: 0x3a :: rest => 0x2e :: dotColons rest
  | c :: rest => c :: dotColons rest
  | [] => []

/-- The text between the dots of a path. -/
def segmentsOf (text : List CodePoint) : List (List CodePoint) :=
  Text.pieces (· == 0x2e) (dotColons (Text.strip text))

def parse (text : List CodePoint) : Except PathError TargetPath :=
  let segments := segmentsOf text
  if (Text.strip text).isEmpty then .error .empty
  else match segments.find? (!isSegment ·) with
    | some segment => .error (.badSegment segment text)
    | none =>
      let names := segments.map Text.ofCodePoints
      if h : 2 ≤ names.length ∧ ∀ s ∈ names, isSegment (Text.codePoints s) = true then
        .ok ⟨names, h.1, h.2⟩
      else .error (.tooShort text)

end TargetPath
end Crosswalk
