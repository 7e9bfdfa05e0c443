import Crosswalk.Code.Token
import Crosswalk.Decimal.Binary64

/-! Expressions as trees. Every expression that stands on its own knows where it begins; the parts of
a call, a display, a lambda or an interpolated string are nodes of their own kinds. -/

namespace Crosswalk.Code

inductive Constant
  | none
  | boolean (value : Bool)
  | ellipsis
  | integer (value : Nat)
  | real (value : Decimal.Binary64)
  | imaginary (value : Decimal.Binary64)
  | text (value : List Text.CodePoint) (marked : Bool)
  | bytes (value : List Nat)
  deriving DecidableEq, Repr

inductive UnaryOp
  | not | invert | plus | minus
  deriving DecidableEq, Repr

inductive BinaryOp
  | bitOr | bitXor | bitAnd | shiftLeft | shiftRight | add | subtract
  | multiply | matrixMultiply | divide | floorDivide | remainder | power
  deriving DecidableEq, Repr

inductive BoolOp
  | or | and
  deriving DecidableEq, Repr

inductive Comparison
  | equal | notEqual | less | lessEqual | greater | greaterEqual | is | isNot | member | notMember
  deriving DecidableEq, Repr

inductive ComprehensionKind
  | generator | list | set
  deriving DecidableEq, Repr

/-- How the value of a hole is shown. -/
inductive Conversion
  | str | repr | ascii
  deriving DecidableEq, Repr

inductive ParameterMark
  | none | slash | star | doubleStar
  deriving DecidableEq, Repr

inductive Expr
  | name (position : Position) (id : Name)
  | constant (position : Position) (value : Constant)
  | interpolated (position : Position) (parts : List Expr)
  /-- A part of an interpolated string. -/
  | hole (value : Expr) (conversion : Option Conversion) (format : Option Expr)
  | member (position : Position) (value : Expr) (id : Name)
  | subscript (position : Position) (value index : Expr)
  | slice (position : Position) (lower upper step : Option Expr)
  | call (position : Position) (callee : Expr) (arguments keywords : List Expr)
  /-- An argument of a call; without a name, a mapping of further ones. -/
  | keyword (id : Option Name) (value : Expr)
  | tuple (position : Position) (elements : List Expr)
  | list (position : Position) (elements : List Expr)
  | set (position : Position) (elements : List Expr)
  | dict (position : Position) (entries : List Expr)
  /-- An entry of a dictionary; without a key, a mapping of further ones. -/
  | entry (key : Option Expr) (value : Expr)
  | starred (position : Position) (value : Expr)
  | unary (position : Position) (op : UnaryOp) (operand : Expr)
  | binary (position : Position) (op : BinaryOp) (left right : Expr)
  | logical (position : Position) (op : BoolOp) (operands : List Expr)
  | compare (position : Position) (first : Expr) (ops : List Comparison) (others : List Expr)
  | conditional (position : Position) (test body otherwise : Expr)
  | lambda (position : Position) (parameters : List Expr) (body : Expr)
  /-- A parameter of a lambda, after its mark; the marks `/` and `*` may stand alone. -/
  | parameter (mark : ParameterMark) (id : Option Name) (default : Option Expr)
  | named (position : Position) (target value : Expr)
  | comprehension (position : Position) (kind : ComprehensionKind) (element : Expr)
      (clauses : List Expr)
  | dictComprehension (position : Position) (key value : Expr) (clauses : List Expr)
  /-- A clause of a comprehension. -/
  | clause (asynchronous : Bool) (target source : Expr) (conditions : List Expr)
  | await (position : Position) (value : Expr)
  | yield (position : Position) (value : Option Expr)
  | yieldFrom (position : Position) (value : Expr)
  deriving Repr

namespace Expr

def position : Expr → Position
  | name p _ | constant p _ | interpolated p _ | member p _ _ | subscript p _ _
  | slice p _ _ _ | call p _ _ _ | tuple p _ | list p _ | set p _ | dict p _ | starred p _
  | unary p _ _ | binary p _ _ _ | logical p _ _ | compare p _ _ _ | conditional p _ _ _
  | lambda p _ _ | named p _ _ | comprehension p _ _ _ | dictComprehension p _ _ _
  | await p _ | yield p _ | yieldFrom p _ => p
  | hole .. | keyword .. | entry .. | parameter .. | clause .. => {}

/-- What a value may be stored in and written of: a name, a part of a value. -/
def isPlace : Expr → Bool
  | name .. | member .. | subscript .. => true
  | _ => false

mutual

/-- What may be unpacked into: a place, or a sequence of such with stars. -/
def isTarget : Expr → Bool
  | name .. | member .. | subscript .. => true
  | tuple _ elements => areTargets elements
  | list _ elements => areTargets elements
  | starred _ (starred ..) => false
  | starred _ value => isTarget value
  | _ => false

def areTargets : List Expr → Bool
  | [] => true
  | e :: rest => isTarget e && areTargets rest

end

mutual

/-- What may be deleted: a place, or a sequence of such. -/
def isDeletable : Expr → Bool
  | name .. | member .. | subscript .. => true
  | tuple _ elements => areDeletable elements
  | list _ elements => areDeletable elements
  | _ => false

def areDeletable : List Expr → Bool
  | [] => true
  | e :: rest => isDeletable e && areDeletable rest

end
end Expr
end Crosswalk.Code
