import Crosswalk.Code.Token
import Crosswalk.Files.Path

/-! Where something was found: a file, a line and a column counted from one, and a field. What has no
place in a text is at line and column zero. -/

namespace Crosswalk

structure Location where
  file : Option Files.Path := none
  line : Int := 0
  column : Int := 0
  field : Option String := none
  deriving DecidableEq, Repr

namespace Location

def ofPosition (p : Code.Position) (file : Option Files.Path := none)
    (field : Option String := none) : Location :=
  ⟨file, p.line, p.column, field⟩

def toString (l : Location) : String :=
  let file := match l.file with
    | some path => path.toString
    | none => "<unknown>"
  file ++ ":" ++ l.line.repr ++ ":" ++ l.column.repr

end Location
end Crosswalk
