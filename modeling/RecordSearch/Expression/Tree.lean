import RecordSearch.Expression.Token

/-!
# Expressions

An expression as a tree, as far as its value or a fault of the grammar depends on it. An expression
that is no literal is known by its kind only, `Expr.kind`, which a fault names.
-/

namespace RecordSearch.Expression

mutual

/-- An expression. -/
inductive Expr where
  | name (text : String)
  | number (n : Numeral)
  /-- A text between quotes, of characters or of bytes. -/
  | text
  /-- A text between quotes that holds expressions. -/
  | template
  /-- `True`, `False`, `None` or the ellipsis. -/
  | constant (word : String)
  | tuple (elements : List Expr)
  | set (elements : List Expr)
  | dictionary (entries : List Entry)
  /-- A sign in front of an expression. -/
  | signed (operand : Expr)
  /-- A sum or a difference. -/
  | sum (left right : Expr)
  /-- A comparison, the first one in a chain, and whether it asks for an element. -/
  | comparison (left : Expr) (isIn : Bool)
  | starred (operand : Expr)
  /-- A call, and whether it has arguments. -/
  | call (function : Expr) (hasArguments : Bool)
  | attribute
  /-- Any other expression, of a kind. -/
  | other (kind : String)

/-- What a dictionary is made of. -/
inductive Entry where
  | pair (key value : Expr)
  /-- Another dictionary, with two stars in front. -/
  | unpacked

end

namespace Expr

/-- The kind of an expression. -/
def kind : Expr → String
  | .name _ => "name"
  | .number _ => "literal"
  | .text => "literal"
  | .template => "f-string expression"
  | .constant word => word
  | .tuple _ => "tuple"
  | .set _ => "set display"
  | .dictionary _ => "dict literal"
  | .signed _ => "expression"
  | .sum _ _ => "expression"
  | .comparison _ _ => "comparison"
  | .starred _ => "starred"
  | .call _ _ => "function call"
  | .attribute => "attribute"
  | .other kind => kind

/-- Whether an expression is the name of a statement that looks like a call without brackets. -/
def isStatementName : Expr → Bool
  | .name s => s == "print" || s == "exec"
  | _ => false

mutual

/-- The first part of an expression that nothing can be assigned to in a loop. What stands before
the word `in` was read as a part of a comparison. -/
def notAssignable? : Expr → Option Expr
  | .name _ => none
  | .attribute => none
  | .starred operand => operand.notAssignable?
  | .tuple elements => firstNotAssignable? elements
  | .comparison left isIn => if isIn then left.notAssignable? else none
  | e => some e

/-- The first part of some expressions that nothing can be assigned to in a loop. -/
def firstNotAssignable? : List Expr → Option Expr
  | [] => none
  | e :: es => e.notAssignable?.or (firstNotAssignable? es)

end

end Expr

end RecordSearch.Expression
