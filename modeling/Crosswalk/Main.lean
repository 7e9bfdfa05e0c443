import Crosswalk.CommandLine

/-! The program: the command line run on the files below the working directory. Nothing above it is
read. -/

namespace Crosswalk

def usage : String :=
  "Usage: crosswalk expand FILE CLASS_NAME [--mode MODE]... [--root DIR] [--resolver NAME] " ++
    "[--output FILE]\n" ++
  "       crosswalk plan FILE CLASS_NAME [--mode MODE]... [--root DIR] [--resolver NAME]\n"

/-- The settings that the environment may hold, under names in either case. -/
def environmentNames : List String :=
  ["root_dir", "source_dir", "root_marker", "resolver", "log_level"].flatMap fun name =>
    [Settings.environmentName name, (Settings.environmentName name).toUpper]

def readEnvironment : IO (List (String × String)) := do
  let found ← environmentNames.mapM fun name => do
    return (← IO.getEnv name).map fun value => (name, value)
  return found.filterMap id

/-- A source, or a file that the command line names. -/
def isRead (words : List String) (name : String) : Bool :=
  name.endsWith ".py" || words.any fun w => (Files.Path.ofString w).name == name

/-- The files and directories below one that is there. A file that is not to be read counts as empty. -/
partial def readNode (isRead : String → Bool) (path : String) : IO Files.Node := do
  let here ← IO.FS.realPath path
  if ← here.isDir then
    let nodes ← (← here.readDir).toList.filterMapM fun entry => do
      try return some (entry.fileName, ← readNode isRead (path ++ "/" ++ entry.fileName))
      catch _ => return none
    return .directory nodes
  else if isRead (Files.Path.ofString path).name then
    return .file (← IO.FS.readBinFile here).data.toList
  else return .file []

/-- Files below the working directory, which alone are read; the directories above it hold nothing else. No
characters are known by name. -/
def readHost (isRead : String → Bool) : IO Host := do
  let home := (Files.Path.ofString (← IO.FS.realPath ".").toString).parts
  let here ← readNode isRead "."
  return { root := Files.Node.put here home Files.Node.emptyDirectory, home }

def showDisplay : CommandLine.Display → IO Unit
  | .text s => IO.print s
  | .tables l => l.forM fun t => IO.println t.render

def crashText : CommandLine.Crash → String
  | .path .nameTooLong => "File name too long"
  | .path .embeddedNull => "embedded null byte"
  | .exhausted .depth => "maximum recursion depth exceeded"
  | .exhausted .memory => "out of memory"
  | .unwritten reason => reason.text

def showOutcome : CommandLine.Outcome → IO UInt32
  | .help => do
    IO.print usage
    return 0
  | .misused reason => do
    IO.eprint usage
    IO.eprintln reason.message
    return 2
  | .crashed reason => do
    IO.eprintln (crashText reason)
    return 1
  | .finished report => do
    if let some (file, code) := report.written then IO.FS.writeFile file.toString code
    showDisplay report.display
    report.complaints.forM fun line => IO.eprintln line
    return UInt32.ofNat report.exit

end Crosswalk

open Crosswalk in
def main (words : List String) : IO UInt32 := do
  showOutcome (CommandLine.run (← readHost (isRead words)) (← readEnvironment) words)
