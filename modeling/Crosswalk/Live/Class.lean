import Crosswalk.Live.Step

/-! Classes, as those meet them who build from them. What a class does when it is called is its own matter. A
class that validates is not called but given all arguments in one mapping. -/

namespace Crosswalk.Live

structure RecordClass where
  /-- A call with arguments by name. -/
  call : OrderedMap String Value → Step ObjectId
  validate : Option (OrderedMap String Value → Step ObjectId) := none

namespace RecordClass

def build (c : RecordClass) (arguments : OrderedMap String Value) : Step ObjectId :=
  match c.validate with
  | some validate => validate arguments
  | none => c.call arguments

end RecordClass

/-! Classes of known behaviour -/

/-- The names of fields, with defaults where they have one. -/
abbrev Declarations := List (String × Option Value)

namespace Declarations

def has (d : Declarations) (name : String) : Bool := d.any (·.1 == name)

/-- A value for every declared field, from the arguments or the defaults. -/
def fill (arguments : OrderedMap String Value) : Declarations → Option (List (String × Value))
  | [] => some []
  | (name, default) :: rest => do
    let v ← arguments.get? name <|> default
    return (name, v) :: (← fill arguments rest)

end Declarations

namespace RecordClass

/-- Takes all arguments for entries. -/
def dictionary : RecordClass where
  call arguments := newObject (.plain .dictionary arguments.toList)

/-- Wants its fields and no others. -/
def strict (d : Declarations) : RecordClass where
  call arguments :=
    if arguments.keys.all d.has then
      match d.fill arguments with
      | some fields => newObject (.plain .extensible fields)
      | none => throw (.build .badArguments)
    else throw (.build .badArguments)

/-- Passes over arguments for other fields, and takes every value as it is. -/
def lenient (d : Declarations) (arguments : OrderedMap String Value) : Step ObjectId :=
  match d.fill arguments with
  | some fields => newObject (.plain .validated fields)
  | none => throw (.build .missingField)

/-- A model whose fields may have any value. -/
def model (d : Declarations) : RecordClass where
  call := lenient d
  validate := some (lenient d)

end RecordClass
end Crosswalk.Live
