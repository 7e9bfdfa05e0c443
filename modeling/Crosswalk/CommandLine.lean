import Crosswalk.Expansion
import Crosswalk.PlanTable

/-! The command line. Both commands expand one class of one file: `expand` shows the code of its mappings,
or writes it to a file, and `plan` shows a table of every plan. Options and arguments stand in any order
after the command, and two hyphens alone end the options. A report says what is shown, what is complained
of and which files there are afterwards. -/

namespace Crosswalk.CommandLine

inductive Command
  | expand
  | plan
  deriving DecidableEq, Repr

inductive Flag
  | mode
  | root
  | resolver
  | output
  | help
  deriving DecidableEq, Repr

inductive UsageError
  | missingCommand
  | unknownCommand (name : String)
  | unknownOption (name : String)
  | missingValue (name : String)
  | unwantedValue (name : String)
  | missingArgument (name : String)
  | extraArgument (text : String)
  deriving DecidableEq, Repr

def UsageError.message : UsageError → String
  | missingCommand => "Missing command."
  | unknownCommand name => "No such command " ++ Text.quoted name ++ "."
  | unknownOption name => "No such option: " ++ name
  | missingValue name => "Option " ++ Text.quoted name ++ " requires a value."
  | unwantedValue name => "Option " ++ Text.quoted name ++ " takes no value."
  | missingArgument name => "Missing argument " ++ Text.quoted name ++ "."
  | extraArgument text => "Unexpected extra argument: " ++ text

namespace Flag

def takesValue (f : Flag) : Bool := f ≠ help

def long : Flag → String
  | mode => "--mode"
  | root => "--root"
  | resolver => "--resolver"
  | output => "--output"
  | help => "--help"

def short? : Flag → Option Char
  | mode => some 'm'
  | output => some 'o'
  | help => some 'h'
  | root | resolver => none

end Flag

def Command.word : Command → String
  | expand => "expand"
  | plan => "plan"

def Command.flags : Command → List Flag
  | expand => [.mode, .root, .resolver, .output, .help]
  | plan => [.mode, .root, .resolver, .help]

def Command.parse (name : String) : Except UsageError Command :=
  match [Command.expand, .plan].find? (·.word == name) with
  | some c => .ok c
  | none => .error (.unknownCommand name)

/-! Reading words -/

/-- What one word says that begins with a hyphen: whether help is asked for, and an option, whose value
may be the next word. -/
structure Hint where
  help : Bool := false
  valued : Option (Flag × Option String) := none

/-- A hyphen alone is an argument. -/
def isOption (word : String) : Bool := word.startsWith "-" && word.length > 1

def readLong (f : Flag) (value : Option String) : Except UsageError Hint :=
  if f.takesValue then .ok { valued := some (f, value) }
  else if value.isSome then .error (.unwantedValue f.long)
  else .ok { help := true }

/-- Letters after one hyphen; what follows the first that takes a value is its value. -/
def readShort (flags : List Flag) : List Char → Except UsageError Hint
  | [] => .ok {}
  | c :: rest =>
    match flags.find? (·.short? == some c) with
    | none => .error (.unknownOption ("-" ++ c.toString))
    | some f =>
      if f.takesValue then
        .ok { valued := some (f, if rest.isEmpty then none else some (String.ofList rest)) }
      else (readShort flags rest).map fun h => { h with help := true }

/-- The name of a long option, and its value if an equals sign is followed by one. -/
def splitValue (word : String) : String × Option String :=
  let (name, rest) := word.toList.span (· ≠ '=')
  (String.ofList name, rest.tail?.map String.ofList)

def readOption (flags : List Flag) (word : String) : Except UsageError Hint :=
  let (name, value) := splitValue word
  match flags.find? (·.long == name) with
  | some f => readLong f value
  | none =>
    if word.startsWith "--" then .error (.unknownOption name)
    else readShort flags (word.toList.drop 1)

/-- All that the words after a command say. -/
structure Words where
  help : Bool := false
  options : List (Flag × String) := []
  arguments : List String := []
  deriving DecidableEq, Repr

def Words.note (help : Bool) (w : Words) : Words := { w with help := help || w.help }

def Words.give (f : Flag) (value : String) (w : Words) : Words :=
  { w with options := (f, value) :: w.options }

def readWords (flags : List Flag) : List String → Except UsageError Words
  | [] => .ok {}
  | word :: rest =>
    if word = "--" then .ok { arguments := rest }
    else if isOption word then
      match readOption flags word with
      | .error e => .error e
      | .ok ⟨help, none⟩ => (readWords flags rest).map (Words.note help)
      | .ok ⟨help, some (f, some value)⟩ =>
        (readWords flags rest).map (Words.note help ∘ Words.give f value)
      | .ok ⟨help, some (f, none)⟩ =>
        match rest with
        | [] => .error (.missingValue f.long)
        | value :: rest => (readWords flags rest).map (Words.note help ∘ Words.give f value)
    else (readWords flags rest).map fun w => { w with arguments := word :: w.arguments }

/-- The values of an option in the order they were given. -/
def Words.values (w : Words) (f : Flag) : List String :=
  w.options.filterMap fun (g, value) => if g = f then some value else none

/-- An option that is given again has its last value. -/
def Words.value? (w : Words) (f : Flag) : Option String := (w.values f).getLast?

/-- A command with what it was given. -/
structure Invocation where
  command : Command
  file : String
  className : String
  modes : List String := []
  root : Option String := none
  resolver : Option String := none
  output : Option String := none
  deriving DecidableEq, Repr

def Words.invocation (w : Words) (command : Command) : Except UsageError Invocation :=
  match w.arguments with
  | [] => .error (.missingArgument "FILE")
  | [_] => .error (.missingArgument "CLASS_NAME")
  | [file, className] =>
    .ok {
      command, file, className
      modes := w.values .mode
      root := w.value? .root
      resolver := w.value? .resolver
      output := w.value? .output }
  | _ :: _ :: extra :: _ => .error (.extraArgument extra)

/-- Reads the words of a command line; nothing is to be run where help is asked for. -/
def parseCommand : List String → Except UsageError (Option Invocation)
  | [] => .error .missingCommand
  | name :: rest => do
    let command ← Command.parse name
    let words ← readWords command.flags rest
    if words.help then return none
    some <$> words.invocation command

/-- What stands in front of a command can only ask for help. -/
def parse : List String → Except UsageError (Option Invocation)
  | [] => .error .missingCommand
  | word :: rest =>
    if word = "--" then parseCommand rest
    else if isOption word then (readOption [.help] word).map fun _ => none
    else parseCommand (word :: rest)

/-! Running -/

inductive Display
  | text (s : String)
  | tables (l : List Table)

structure Report where
  exit : Nat
  display : Display
  complaints : List String
  /-- The file that was written, with its text. -/
  written : Option (Files.Path × String) := none
  /-- All files afterwards. -/
  files : Files.System

/-- What ends a command without a report. -/
inductive Crash
  | path (reason : Files.PathFault)
  | exhausted (reason : Code.Exhaustion)
  | unwritten (reason : Files.FileError)
  deriving DecidableEq, Repr

inductive Outcome
  | help
  | misused (reason : UsageError)
  | crashed (reason : Crash)
  | finished (report : Report)

namespace Invocation

def settings (i : Invocation) (environment : List (String × String)) :
    Except Settings.Invalid Settings :=
  let given (name : String) (v : Option String) : List (String × Settings.Value) :=
    (v.map fun s => (name, Settings.Value.text s)).toList
  Settings.load (given "root_dir" i.root ++ given "resolver" i.resolver) environment

/-- No mode asked for stands for all. -/
def wanted (i : Invocation) : Option (List String) :=
  if i.modes.isEmpty then none else some i.modes

def paths (i : Invocation) : List Files.Path :=
  (i.file :: i.root.toList ++ i.output.toList).map .ofString

/-- The report of a command that is refused before there is anything to show. -/
def refused (i : Invocation) (files : Files.System) (message : String) : Report :=
  { exit := 2
    display := match i.command with
      | .expand => .text ""
      | .plan => .tables []
    complaints := [message], files }

def report (e : Expansion) (display : Display) (files : Files.System) : Report :=
  { exit := if e.hasErrors then 1 else 0, display
    complaints := e.diagnostics.toList.map (·.toString), files }

theorem report_exit_eq_zero (e : Expansion) (display : Display) (files : Files.System) :
    (report e display files).exit = 0 ↔ e.hasErrors = false := by
  cases h : e.hasErrors <;> simp [report, h]

def writeCode (files : Files.System) (e : Expansion) (output : Files.Path) : Except Crash Report := do
  match ← (Files.write files output (Files.bytesOf e.render)).mapError .path with
  | .error reason => .error (.unwritten reason)
  | .ok files =>
    let told := "Wrote " ++ e.plans.length.repr ++ " functions to " ++ output.toString ++ "\n"
    return { report e (.text told) files with written := some (output, e.render) }

def showExpansion (i : Invocation) (host : Host) (e : Expansion) : Except Crash Report :=
  match i.command, i.output with
  | .expand, none => .ok (report e (.text (e.render ++ "\n")) host)
  | .expand, some output => writeCode host e (.ofString output)
  | .plan, _ => .ok (report e (.tables (e.plans.map Plan.table)) host)

def run (i : Invocation) (host : Host) (environment : List (String × String)) :
    Except Crash Report :=
  if i.paths.any Files.hasNull then .error (.path .embeddedNull)
  else match i.settings environment with
    | .error problem => .ok (i.refused host problem.message)
    | .ok settings =>
      let shown := (Files.Path.ofString i.file).toString
      match Expansion.run host i.file shown i.className i.wanted settings with
      | .ok e => i.showExpansion host e
      | .error (.unknownMode reason) => .ok (i.refused host reason.message)
      | .error (.stopped (.text (.unprintable reason))) => .ok (i.refused host reason.message)
      | .error (.stopped (.text (.exhausted reason))) => .error (.exhausted reason)
      | .error (.stopped (.path reason)) => .error (.path reason)

end Invocation

/-- Runs a command line in a directory and an environment. -/
def run (host : Host) (environment : List (String × String)) (words : List String) : Outcome :=
  match parse words with
  | .error reason => .misused reason
  | .ok none => .help
  | .ok (some i) =>
    match i.run host environment with
    | .ok report => .finished report
    | .error reason => .crashed reason

end Crosswalk.CommandLine
