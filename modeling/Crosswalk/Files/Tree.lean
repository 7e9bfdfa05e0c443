import Crosswalk.Files.Path
import Crosswalk.Text.Quoted

/-! Directories and files below a root directory, as seen from a working directory; there are no links and
no permissions. A look-up walks a path name by name, and fails at the first name that is not there, is
below a file or is too long. -/

namespace Crosswalk.Files

inductive Node
  | file (bytes : List UInt8)
  | directory (entries : List (String × Node))

inductive FileError
  | notFound
  | notDirectory
  | isDirectory
  | nameTooLong
  deriving DecidableEq, Repr

def FileError.code : FileError → Nat
  | notFound => 2
  | notDirectory => 20
  | isDirectory => 21
  | nameTooLong => 36

def FileError.text : FileError → String
  | notFound => "No such file or directory"
  | notDirectory => "Not a directory"
  | isDirectory => "Is a directory"
  | nameTooLong => "File name too long"

/-- An error of the file system as it is told of a path. -/
def FileError.message (e : FileError) (p : Path) : String :=
  "[Errno " ++ e.code.repr ++ "] " ++ e.text ++ ": " ++ Text.quoted p.toString

namespace Node

def emptyDirectory : Node := directory []

def entries : Node → List (String × Node)
  | file _ => []
  | directory entries => entries

def entry? (n : Node) (name : String) : Option Node := n.entries.lookup name

def isFile : Node → Bool
  | file _ => true
  | directory _ => false

def isDirectory (n : Node) : Bool := !n.isFile

/-- The entries with one put in, in place of what had its name. -/
def putEntry (name : String) (n : Node) : List (String × Node) → List (String × Node)
  | [] => [(name, n)]
  | (k, old) :: rest => if k = name then (k, n) :: rest else (k, old) :: putEntry name n rest

/-- Puts a node at the end of a chain of names, making the directories on the way. -/
def put (n : Node) : List String → Node → Node
  | [], _ => n
  | name :: rest, here =>
    let below := (here.entry? name).getD emptyDirectory
    directory (putEntry name (put n rest below) here.entries)

def remove : List String → Node → Node
  | [], n => n
  | [name], n => directory (n.entries.filter (·.1 ≠ name))
  | name :: rest, n =>
    match n.entry? name with
    | some below => directory (putEntry name (remove rest below) n.entries)
    | none => n

end Node

/-- The root directory, and the names that lead from it to the working directory. -/
structure System where
  root : Node
  home : List String := []

/-- The names from the root directory to where a path leads. -/
def System.names (s : System) (p : Path) : List String :=
  if p.anchor = "" then s.home ++ p.parts else p.parts

/-- The longest name of an entry, and of a whole path, in bytes. -/
def nameLimit : Nat := 255
def pathLimit : Nat := 4095

/-- Walks on from a node below others, the nearest first. Above the root there is only the root itself. -/
def walk (n : Node) (above : List Node) : List String → Except FileError Node
  | [] => .ok n
  | name :: rest =>
    if n.isFile then .error .notDirectory
    else if name = ".." then walk (above.headD n) above.tail rest
    else if nameLimit < name.utf8ByteSize then .error .nameTooLong
    else match n.entry? name with
      | some m => walk m (n :: above) rest
      | none => .error .notFound

/-- Where a path leads. -/
def locate (s : System) (p : Path) : Except FileError Node :=
  if pathLimit < p.toString.utf8ByteSize then .error .nameTooLong
  else walk s.root [] (s.names p)

/-! What a request may ask of a path. A path with a null character names nothing. -/

/-- What keeps a question about a path from being answered. -/
inductive PathFault
  | nameTooLong
  | embeddedNull
  deriving DecidableEq, Repr

def hasNull (p : Path) : Bool := p.parts.any fun n => n.toList.contains '\x00'

/-- Where a path leads, or none if nothing is there. -/
def node? (s : System) (p : Path) : Except PathFault (Option Node) :=
  if hasNull p then .ok none
  else match locate s p with
    | .ok n => .ok (some n)
    | .error .nameTooLong => .error .nameTooLong
    | .error _ => .ok none

def exists? (s : System) (p : Path) : Except PathFault Bool :=
  (node? s p).map Option.isSome

def isDirectory? (s : System) (p : Path) : Except PathFault Bool :=
  (node? s p).map fun found => found.any Node.isDirectory

def isFile? (s : System) (p : Path) : Except PathFault Bool :=
  (node? s p).map fun found => found.any Node.isFile

/-- The bytes of a file; nothing is told of a path with a null character. -/
def read (s : System) (p : Path) : Except PathFault (Except FileError (List UInt8)) :=
  if hasNull p then .error .embeddedNull
  else match locate s p with
    | .error e => .ok (.error e)
    | .ok (.file bytes) => .ok (.ok bytes)
    | .ok (.directory _) => .ok (.error .isDirectory)

/-- Names with the double dots taken back. -/
def resolveDots (names : List String) : List String :=
  (names.foldl (fun l n => if n = ".." then l.drop 1 else n :: l) []).reverse

/-- Puts bytes into a file, which is made if its directory is there. -/
def write (s : System) (p : Path) (bytes : List UInt8) :
    Except PathFault (Except FileError System) :=
  let written : System := { s with root := Node.put (.file bytes) (resolveDots (s.names p)) s.root }
  if hasNull p then .error .embeddedNull
  else match locate s p, locate s p.parent with
    | .ok (.file _), _ | .error .notFound, .ok _ => .ok (.ok written)
    | .ok (.directory _), _ => .ok (.error .isDirectory)
    | .error e, _ => .ok (.error e)

def bytesOf (s : String) : List UInt8 := s.toUTF8.data.toList

/-! All paths below a node -/

/-- The node that names lead to. -/
def Node.at? : List String → Node → Option Node
  | [], n => some n
  | name :: rest, n => (n.entry? name).bind (Node.at? rest)

mutual

/-- The paths of all nodes below a directory, as names from it. -/
def Node.descendants : Node → List (List String)
  | .file _ => []
  | .directory entries => Node.entryDescendants entries

def Node.entryDescendants : List (String × Node) → List (List String)
  | [] => []
  | (name, n) :: rest => ([name] :: (Node.descendants n).map (name :: ·)) ++ Node.entryDescendants rest

end

end Crosswalk.Files
