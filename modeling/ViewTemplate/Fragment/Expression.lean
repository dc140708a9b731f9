import ViewTemplate.Fragment.Token
import ViewTemplate.Value.Operators

/-!
Expressions of fragment code, with the bytes they were written in.
-/

namespace ViewTemplate.Fragment

/-- A name as it stands in a fragment. -/
structure Identifier where
  name : String
  span : Span
  deriving DecidableEq, Repr

/-- A value that is written out. -/
inductive Literal where
  | null
  | bool (truth : Bool)
  | integer (number : Int64)
  | float (number : Float)
  | string (content : String)

def Literal.value : Literal → Value
  | .null => .none
  | .bool truth => .bool truth
  | .integer number => .integer number
  | .float number => .float number
  | .string content => .string content

/-- What stands behind the point of a member access. -/
inductive MemberKey where
  | field (identifier : Identifier)
  | position (index : Nat) (span : Span)
  deriving DecidableEq, Repr

def MemberKey.span : MemberKey → Span
  | .field identifier => identifier.span
  | .position _ span => span

inductive Expression where
  | literal (literal : Literal) (span : Span)
  | variable (identifier : Identifier)
  | list (items : List Expression) (span : Span)
  | map (entries : List (Expression × Expression)) (span : Span)
  /-- Member access, `target.key`. -/
  | member (target : Expression) (key : MemberKey) (span : Span)
  /-- Indexing, `target[selector]`. -/
  | index (target selector : Expression) (span : Span)
  | call (function : Identifier) (arguments : List Expression) (span : Span)
  /-- A call on the environment. -/
  | method (name : Identifier) (arguments : List Expression) (span : Span)
  | unary (operator : UnaryOperator) (operand : Expression) (span : Span)
  | binary (operator : BinaryOperator) (left right : Expression) (span : Span)

/-- The bytes of an expression. Parentheses around it do not count. -/
def Expression.span : Expression → Span
  | .literal _ span => span
  | .variable identifier => identifier.span
  | .list _ span => span
  | .map _ span => span
  | .member _ _ span => span
  | .index _ _ span => span
  | .call _ _ span => span
  | .method _ _ span => span
  | .unary _ _ span => span
  | .binary _ _ _ span => span

/-- How tightly an operator binds: of two operators the one of higher precedence. -/
def precedence : BinaryOperator → Nat
  | .or => 1
  | .and => 2
  | .equal | .notEqual => 3
  | .less | .lessEqual | .greater | .greaterEqual => 4
  | .add | .subtract => 5
  | .multiply | .divide | .remainder => 6

end ViewTemplate.Fragment
