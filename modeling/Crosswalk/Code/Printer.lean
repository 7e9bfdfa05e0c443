import Crosswalk.Code.Expr
import Crosswalk.Code.StringStyle
import Crosswalk.Decimal.Shortest

/-! The text of an expression, in one form whatever its layout was: one blank around an operator, one
after a comma, and parentheses only where the binding needs them. An integer with too many digits has no
text, nor has a hole of an interpolated string whose text would need a backslash. -/

namespace Crosswalk.Code

inductive PrintError
  | longInteger
  | backslashInHole
  deriving DecidableEq, Repr

def PrintError.message : PrintError → String
  | .longInteger => "Exceeds the limit (4300 digits) for integer string conversion; "
      ++ "use sys.set_int_max_str_digits() to increase the limit"
  | .backslashInHole => "Unable to avoid backslash in f-string expression part"

/-- How tightly an expression has to bind where it stands; a looser one is put in parentheses. -/
abbrev Binding := Nat

namespace Binding

def naming : Binding := 1
def tuple : Binding := 2
def yield : Binding := 3
def test : Binding := 4
def or : Binding := 5
def and : Binding := 6
def not : Binding := 7
def comparison : Binding := 8
def bitOr : Binding := 9
def bitXor : Binding := 10
def bitAnd : Binding := 11
def shift : Binding := 12
def sum : Binding := 13
def product : Binding := 14
def factor : Binding := 15
def power : Binding := 16
def await : Binding := 17
def atom : Binding := 18

def next (b : Binding) : Binding := min (b + 1) atom

end Binding

def UnaryOp.text : UnaryOp → String
  | .not => "not " | .invert => "~" | .plus => "+" | .minus => "-"

def UnaryOp.binding : UnaryOp → Binding
  | .not => Binding.not
  | .invert | .plus | .minus => Binding.factor

def BinaryOp.text : BinaryOp → String
  | .bitOr => "|" | .bitXor => "^" | .bitAnd => "&" | .shiftLeft => "<<" | .shiftRight => ">>"
  | .add => "+" | .subtract => "-" | .multiply => "*" | .matrixMultiply => "@" | .divide => "/"
  | .floorDivide => "//" | .remainder => "%" | .power => "**"

def BinaryOp.binding : BinaryOp → Binding
  | .bitOr => Binding.bitOr
  | .bitXor => Binding.bitXor
  | .bitAnd => Binding.bitAnd
  | .shiftLeft | .shiftRight => Binding.shift
  | .add | .subtract => Binding.sum
  | .multiply | .matrixMultiply | .divide | .floorDivide | .remainder => Binding.product
  | .power => Binding.power

/-- Powers group from the right, all others from the left. -/
def BinaryOp.leftBinding (op : BinaryOp) : Binding :=
  if op = .power then op.binding.next else op.binding

def BinaryOp.rightBinding (op : BinaryOp) : Binding :=
  if op = .power then op.binding else op.binding.next

def BoolOp.text : BoolOp → String
  | .or => " or " | .and => " and "

def BoolOp.binding : BoolOp → Binding
  | .or => Binding.or
  | .and => Binding.and

def Comparison.text : Comparison → String
  | .equal => "==" | .notEqual => "!=" | .less => "<" | .lessEqual => "<=" | .greater => ">"
  | .greaterEqual => ">=" | .is => "is" | .isNot => "is not" | .member => "in"
  | .notMember => "not in"

def Conversion.text : Conversion → String
  | .str => "s" | .repr => "r" | .ascii => "a"

def ParameterMark.text : ParameterMark → String
  | .none => "" | .slash => "/" | .star => "*" | .doubleStar => "**"

def ComprehensionKind.enclose (k : ComprehensionKind) (inner : String) : String :=
  match k with
  | .generator => "(" ++ inner ++ ")"
  | .list => "[" ++ inner ++ "]"
  | .set => "\x7b" ++ inner ++ "\x7d"

/-! Constants -/

/-- Numbers from a ten-thousandth up to ten to the sixteenth are written out. -/
def realLayout : Decimal.Layout := ⟨-4, 15, ".0"⟩
def imaginaryLayout : Decimal.Layout := ⟨-4, 15, ""⟩

/-- A number beyond all numbers is written as a decimal that is. -/
def realText (layout : Decimal.Layout) : Decimal.Binary64 → String
  | .infinite => "1e309"
  | .finite m scale => layout.text (Decimal.shortest m scale)

def digitLimit : Nat := 4300

def integerText (n : Nat) : Except PrintError String :=
  if Nat.pow 10 digitLimit ≤ n then .error .longInteger else .ok (String.ofList (Nat.toDigits 10 n))

def Constant.literal (plain : Bool) : Constant → Except PrintError String
  | none => .ok "None"
  | boolean b => .ok (if b then "True" else "False")
  | ellipsis => .ok "..."
  | integer n => integerText n
  | real x => .ok (realText realLayout x)
  | imaginary x => .ok (realText imaginaryLayout x ++ "j")
  | text t marked =>
    let literal := if plain then StringStyle.plain t else Text.Quoted.encode t
    .ok (if marked then "u" ++ literal else literal)
  | bytes b => .ok (Text.Quoted.encodeBytes b)

/-- Whether a blank is set before a dot that follows. -/
def Expr.isIntegral : Expr → Bool
  | .constant _ (.integer _) | .constant _ (.boolean _) => true
  | _ => false

/-- A tuple needs no parentheses between the brackets of a subscript. -/
def Expr.indexBinding : Expr → Binding
  | .tuple .. => Binding.tuple
  | _ => Binding.test

/-! Layout -/

def parenthesize (needed : Bool) (s : String) : String := if needed then "(" ++ s ++ ")" else s

def commas (items : List String) : String := ", ".intercalate items

/-- A sequence without brackets; a single item keeps its comma. -/
def commasOrOne (items : List String) : String :=
  match items with
  | [item] => item ++ ","
  | _ => commas items

/-- Braces of text are doubled inside an interpolated string. -/
def doubleBraces (t : List Text.CodePoint) : List Text.CodePoint :=
  t.flatMap fun c => if c = 0x7b ∨ c = 0x7d then [c, c] else [c]

/-- The start of a hole: an expression that begins with a brace is set off from its own. -/
def openHole (inner : String) : Except PrintError String :=
  if inner.toList.contains '\\' then .error .backslashInHole
  else .ok ((if inner.toList.head? = some '\x7b' then "\x7b " else "\x7b") ++ inner)

def conversionText (c : Option Conversion) : String :=
  match c with
  | some c => "!" ++ c.text
  | none => ""

def isEmpty {α : Type} : List α → Bool
  | [] => true
  | _ => false

mutual

def Expr.textIn (plain : Bool) (b : Binding) : Expr → Except PrintError String
  | .name _ id => .ok id.text
  | .constant _ value => value.literal plain
  | .interpolated _ parts => do
    let texts ← pieceTexts parts
    return "f" ++ if plain then StringStyle.plain (texts.flatMap (·.1)) else StringStyle.joined texts
  | .hole value conversion format => do
    let texts ← formatTexts format
    let inner ← openHole (← value.textIn true Binding.test.next)
    return inner ++ conversionText conversion ++ Text.ofCodePoints texts ++ "\x7d"
  | .member _ value id => do
    let v ← value.textIn plain Binding.atom
    return v ++ (if value.isIntegral then " ." else ".") ++ id.text
  | .subscript _ value index => do
    let v ← value.textIn plain Binding.atom
    let i ← index.textIn plain index.indexBinding
    return v ++ "[" ++ i ++ "]"
  | .slice _ lower upper step => do
    let l ← optionText plain "" lower
    let u ← optionText plain "" upper
    let s ← optionText plain ":" step
    return l ++ ":" ++ u ++ s
  | .call _ callee arguments keywords => do
    let c ← callee.textIn plain Binding.atom
    let items ← textsIn plain Binding.test arguments
    let named ← textsIn plain Binding.test keywords
    return c ++ "(" ++ commas (items ++ named) ++ ")"
  | .keyword id value => do
    let v ← value.textIn plain Binding.test
    match id with
    | some id => return id.text ++ "=" ++ v
    | none => return "**" ++ v
  | .tuple _ elements => do
    let items ← textsIn plain Binding.test elements
    return parenthesize (isEmpty elements || Binding.tuple < b) (commasOrOne items)
  | .list _ elements => do
    return "[" ++ commas (← textsIn plain Binding.test elements) ++ "]"
  | .set _ elements => do
    return "\x7b" ++ commas (← textsIn plain Binding.test elements) ++ "\x7d"
  | .dict _ entries => do
    return "\x7b" ++ commas (← textsIn plain Binding.test entries) ++ "\x7d"
  | .entry key value =>
    match key with
    | some key => do
      let k ← key.textIn plain Binding.test
      return k ++ ": " ++ (← value.textIn plain Binding.test)
    | none => do return "**" ++ (← value.textIn plain Binding.bitOr)
  | .starred _ value => do return "*" ++ (← value.textIn plain Binding.bitOr)
  | .unary _ op operand => do
    let o ← operand.textIn plain op.binding
    return parenthesize (op.binding < b) (op.text ++ o)
  | .binary _ op left right => do
    let l ← left.textIn plain op.leftBinding
    let r ← right.textIn plain op.rightBinding
    return parenthesize (op.binding < b) (l ++ " " ++ op.text ++ " " ++ r)
  | .logical _ op operands => do
    let items ← risingTexts plain op.binding.next operands
    return parenthesize (op.binding < b) (op.text.intercalate items)
  | .compare _ first ops others => do
    let f ← first.textIn plain Binding.comparison.next
    let rest ← textsIn plain Binding.comparison.next others
    let steps := List.zipWith (fun (op : Comparison) s => " " ++ op.text ++ " " ++ s) ops rest
    return parenthesize (Binding.comparison < b) (f ++ String.join steps)
  | .conditional _ test body otherwise => do
    let t ← test.textIn plain Binding.test.next
    let y ← body.textIn plain Binding.test.next
    let n ← otherwise.textIn plain Binding.test
    return parenthesize (Binding.test < b) (y ++ " if " ++ t ++ " else " ++ n)
  | .lambda _ parameters body => do
    let items ← textsIn plain Binding.test parameters
    let e ← body.textIn plain Binding.test
    let head := if isEmpty parameters then "lambda" else "lambda " ++ commas items
    return parenthesize (Binding.test < b) (head ++ ": " ++ e)
  | .parameter mark id default => do
    return mark.text ++ (id.map (·.text)).getD "" ++ (← optionText plain "=" default)
  | .named _ target value => do
    let t ← target.textIn plain Binding.atom
    let v ← value.textIn plain Binding.atom
    return parenthesize (Binding.naming < b) (t ++ " := " ++ v)
  | .comprehension _ kind element clauses => do
    let e ← element.textIn plain Binding.test
    return kind.enclose (e ++ String.join (← textsIn plain Binding.test clauses))
  | .dictComprehension _ key value clauses => do
    let k ← key.textIn plain Binding.test
    let v ← value.textIn plain Binding.test
    return "\x7b" ++ k ++ ": " ++ v ++ String.join (← textsIn plain Binding.test clauses) ++ "\x7d"
  | .clause asynchronous target source conditions => do
    let t ← target.textIn plain Binding.tuple
    let s ← source.textIn plain Binding.test.next
    let ifs ← textsIn plain Binding.test.next conditions
    let head := if asynchronous then " async for " else " for "
    return head ++ t ++ " in " ++ s ++ String.join (ifs.map (" if " ++ ·))
  | .await _ value => do
    return parenthesize (Binding.await < b) ("await " ++ (← value.textIn plain Binding.atom))
  | .yield _ value =>
    match value with
    | some value => do
      return parenthesize (Binding.yield < b) ("yield " ++ (← value.textIn plain Binding.atom))
    | none => return parenthesize (Binding.yield < b) "yield"
  | .yieldFrom _ value => do
    return parenthesize (Binding.yield < b) ("yield from " ++ (← value.textIn plain Binding.atom))

def textsIn (plain : Bool) (b : Binding) : List Expr → Except PrintError (List String)
  | [] => .ok []
  | e :: rest => do
    let t ← e.textIn plain b
    return t :: (← textsIn plain b rest)

/-- Each operand is held tighter than the one before it. -/
def risingTexts (plain : Bool) (b : Binding) : List Expr → Except PrintError (List String)
  | [] => .ok []
  | e :: rest => do
    let t ← e.textIn plain b
    return t :: (← risingTexts plain b.next rest)

def optionText (plain : Bool) (before : String) : Option Expr → Except PrintError String
  | none => .ok ""
  | some e => do return before ++ (← e.textIn plain Binding.test)

/-- The texts between the quotes of an interpolated string, each with the mark of a literal one. -/
def pieceTexts : List Expr → Except PrintError (List (List Text.CodePoint × Bool))
  | [] => .ok []
  | .constant _ (.text t _) :: rest => do
    return (doubleBraces t, true) :: (← pieceTexts rest)
  | e :: rest => do
    let t ← e.textIn true Binding.test
    return (Text.codePoints t, false) :: (← pieceTexts rest)

def formatTexts : Option Expr → Except PrintError (List Text.CodePoint)
  | some (.interpolated _ parts) => do
    let texts ← pieceTexts parts
    return ':'.toNat :: texts.flatMap (·.1)
  | _ => .ok []

end

def Expr.text (e : Expr) : Except PrintError String := e.textIn false Binding.test

end Crosswalk.Code
