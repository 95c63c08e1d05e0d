/-!
# Operators

The operators of expressions, their spelling, and how tightly they bind.
-/

namespace LoopTemplate.Tree

/-- How tightly an expression holds together; a larger level binds tighter. -/
abbrev Level := Nat

namespace Level

def lowest : Level := 0
def comma : Level := 1
def spread : Level := 2
def yielding : Level := 3
def assignment : Level := 4
def conditional : Level := 5
def coalesce : Level := 6
def logicalOr : Level := 7
def logicalAnd : Level := 8
def bitOr : Level := 9
def bitXor : Level := 10
def bitAnd : Level := 11
def equality : Level := 12
def comparison : Level := 13
def shift : Level := 14
def addition : Level := 15
def multiplication : Level := 16
def power : Level := 17
def unary : Level := 18
def update : Level := 19
def construct : Level := 20
def call : Level := 21
def member : Level := 22

end Level

/-- Operators between two operands. -/
inductive BinaryOperator where
  | equal | notEqual | same | notSame
  | less | lessEqual | greater | greaterEqual
  | shiftLeft | shiftRight | shiftRightZero
  | add | subtract | multiply | divide | remainder | power
  | bitOr | bitXor | bitAnd
  | isIn | instanceOf
  | logicalOr | logicalAnd | coalesce
deriving DecidableEq, Inhabited

namespace BinaryOperator

/-- The operator as it is written. -/
def text : BinaryOperator → String
  | equal => "==" | notEqual => "!=" | same => "===" | notSame => "!=="
  | less => "<" | lessEqual => "<=" | greater => ">" | greaterEqual => ">="
  | shiftLeft => "<<" | shiftRight => ">>" | shiftRightZero => ">>>"
  | add => "+" | subtract => "-" | multiply => "*" | divide => "/" | remainder => "%"
  | power => "**"
  | bitOr => "|" | bitXor => "^" | bitAnd => "&"
  | isIn => "in" | instanceOf => "instanceof"
  | logicalOr => "||" | logicalAnd => "&&" | coalesce => "??"

/-- The level of an expression made with the operator. -/
def level : BinaryOperator → Level
  | equal | notEqual | same | notSame => Level.equality
  | less | lessEqual | greater | greaterEqual | isIn | instanceOf => Level.comparison
  | shiftLeft | shiftRight | shiftRightZero => Level.shift
  | add | subtract => Level.addition
  | multiply | divide | remainder => Level.multiplication
  | power => Level.power
  | bitOr => Level.bitOr
  | bitXor => Level.bitXor
  | bitAnd => Level.bitAnd
  | logicalOr => Level.logicalOr
  | logicalAnd => Level.logicalAnd
  | coalesce => Level.coalesce

/-- Only powers group to the right. -/
def groupsRight : BinaryOperator → Bool
  | power => true
  | _ => false

/-- Operators spelled as words. -/
def isWord : BinaryOperator → Bool
  | isIn | instanceOf => true
  | _ => false

/-- All operators between two operands. -/
def all : List BinaryOperator :=
  [equal, notEqual, same, notSame, less, lessEqual, greater, greaterEqual, shiftLeft, shiftRight,
    shiftRightZero, add, subtract, multiply, divide, remainder, power, bitOr, bitXor, bitAnd, isIn,
    instanceOf, logicalOr, logicalAnd, coalesce]

/-- The operator with a given spelling. -/
def ofText? (text : String) : Option BinaryOperator :=
  all.find? fun operator => operator.text == text

end BinaryOperator

/-- Operators before one operand. -/
inductive UnaryOperator where
  | plus | minus | not | bitNot | typeOf | void | delete
deriving DecidableEq, Inhabited

namespace UnaryOperator

/-- The operator as it is written. -/
def text : UnaryOperator → String
  | plus => "+" | minus => "-" | not => "!" | bitNot => "~"
  | typeOf => "typeof" | void => "void" | delete => "delete"

/-- Operators spelled as words. -/
def isWord : UnaryOperator → Bool
  | typeOf | void | delete => true
  | _ => false

/-- All operators before one operand. -/
def all : List UnaryOperator := [plus, minus, not, bitNot, typeOf, void, delete]

/-- The operator with a given spelling. -/
def ofText? (text : String) : Option UnaryOperator :=
  all.find? fun operator => operator.text == text

end UnaryOperator

/-- Operators that change a variable by one. -/
inductive UpdateOperator where
  | increment | decrement
deriving DecidableEq, Inhabited

namespace UpdateOperator

/-- The operator as it is written. -/
def text : UpdateOperator → String
  | increment => "++"
  | decrement => "--"

/-- The operator with a given spelling. -/
def ofText? : String → Option UpdateOperator
  | "++" => some increment
  | "--" => some decrement
  | _ => none

end UpdateOperator

/-- The operators of assignments, as they are written. -/
def assignmentOperators : List String :=
  ["=", "+=", "-=", "*=", "/=", "%=", "**=", "<<=", ">>=", ">>>=", "&=", "|=", "^=", "&&=", "||=",
    "??="]

end LoopTemplate.Tree
