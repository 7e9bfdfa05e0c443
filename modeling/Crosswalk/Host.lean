import Crosswalk.Code.Interpreter
import Crosswalk.Files.Tree

/-! Where requests are made: the files of a computer as seen from a working directory, and the interpreter
that reads and prints source text there. -/

namespace Crosswalk

structure Host extends Files.System where
  interpreter : Code.Interpreter := {}

namespace Host

instance : Coe Host Files.System := ⟨Host.toSystem⟩

/-- Files alone stand for a host whose working directory holds them, with nothing above it. -/
instance : Coe Files.Node Host := ⟨fun root => { root }⟩

end Host
end Crosswalk
