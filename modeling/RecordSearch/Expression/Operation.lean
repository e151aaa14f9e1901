import RecordSearch.Expression.Call
import RecordSearch.Expression.Function

/-!
# Operations

Operators bind to each other more or less: the arithmetic ones bind more than comparisons, these
more than `not`, `and` and `or`, and a choice between two expressions binds least.
-/

namespace RecordSearch.Expression

open RecordSearch.Expression.Parser

variable (sub : Rule → Parser Expr)

/-- The operators of a level. -/
def Level.operators : Level → List String
  | .or => ["|"]
  | .xor => ["^"]
  | .and => ["&"]
  | .shift => ["<<", ">>"]
  | .sum => ["+", "-"]
  | .product => ["*", "/", "//", "%", "@"]

/-- What the operators of a level stand between. -/
def Level.operand : Level → Rule
  | .or => .operation .xor
  | .xor => .operation .and
  | .and => .operation .shift
  | .shift => .operation .sum
  | .sum => .operation .product
  | .product => .factor

namespace Operation

/-- An operation that is no literal. -/
def plain : Expr := .other "expression"

/-- Operands with the operators of a level between. -/
def ofLevel (level : Level) : Parser Expr := do
  let first ← sub level.operand
  let others ← many (do oneOf level.operators; sub level.operand)
  return others.foldl (fun left right => if level = .sum then .sum left right else plain) first

/-- An expression with a sign or not. -/
def factor : Parser Expr :=
  firstOf [
    do oneOf ["+", "-"]; return .signed (← sub .factor),
    do fixed "~"; let _ ← sub .factor; return plain,
    do let base ← sub .awaited
       let exponent ← optional (do fixed "**"; sub .factor)
       return if exponent.isSome then plain else base]

/-- An expression that is waited for or not. -/
def awaited : Parser Expr :=
  firstOf [
    do fixed "await"; let _ ← sub .primary; return .other "await expression",
    sub .primary]

/-- A comparison with what follows, and whether it asks for an element. -/
def comparisonTail : Parser Bool :=
  firstOf [
    do oneOf ["==", "!=", "<=", "<", ">=", ">"]; let _ ← sub (.operation .or); return false,
    do fixed "not"; fixed "in"; let _ ← sub (.operation .or); return false,
    do fixed "in"; let _ ← sub (.operation .or); return true,
    do fixed "is"; fixed "not"; let _ ← sub (.operation .or); return false,
    do fixed "is"; let _ ← sub (.operation .or); return false]

/-- A chain of comparisons. -/
def comparison : Parser Expr := do
  let first ← sub (.operation .or)
  match ← many (comparisonTail sub) with
  | [] => return first
  | isIn :: _ => return .comparison first isIn

/-- A comparison or what denies it. -/
def inversion : Parser Expr :=
  firstOf [do fixed "not"; let _ ← sub .inversion; return plain, comparison sub]

/-- Operands with a word between. -/
def withWord (word : String) (operand : Rule) : Parser Expr := do
  let first ← sub operand
  let others ← many (do fixed word; sub operand)
  return if others.isEmpty then first else plain

end Operation

namespace Choice

/-- An expression, or a choice between two. -/
def plain : Parser Expr :=
  firstOf [
    do let first ← sub .disjunction
       let choice ← optional do
         fixed "if"
         let _ ← sub .disjunction
         fixed "else"
         sub .expression
       return if choice.isSome then .other "conditional expression" else first,
    function sub]

/-- The start of one of the words that are names elsewhere. -/
def softWord : Parser Unit := do
  let start ← name
  if softWords.any fun word => start.toList.isPrefixOf word.toList then return () else fail

/-- A text between quotes. -/
def text : Parser Unit := do
  match (← peek).kind with
  | .text _ => advance
  | _ => fail

/-- Two expressions next to each other inside brackets, or a choice without an alternative. -/
def fault : Parser Expr :=
  branch
    (do notAhead (firstOf [do let _ ← name; text, softWord])
        let first ← sub .disjunction
        let _ ← trusting (plain sub)
        return first)
    (fun first => do
      if first.isStatementName ∨ (← depth) = 0 then fail else blame .noComma)
    (do let _ ← sub .disjunction
        fixed "if"
        let _ ← sub .disjunction
        notAhead (oneOf ["else", ":"])
        blame .noElse)

/-- A call without brackets. -/
def callFault : Parser Expr := do
  let function ← name
  notAhead (bracket '(')
  let _ ← starExpressions sub
  if (Expr.name function).isStatementName then blame (.noBrackets function) else fail

/-- An expression without commas. -/
def all : Parser Expr :=
  firstOf [diagnose (fault sub), diagnose (callFault sub), plain sub]

/-- Expressions with commas between, which are a tuple. -/
def several : Parser Expr := do
  let first ← sub .expression
  let others ← many (do fixed ","; sub .expression)
  let comma ← optional (fixed ",")
  return if others.isEmpty ∧ comma.isNone then first else .tuple (first :: others)

/-- A fault of giving a name to a value. -/
def nameFault : Parser Expr :=
  firstOf [
    do let e ← sub .expression
       fixed ":="
       let _ ← sub .expression
       blame (.namedAssignment e.kind),
    do let _ ← name
       fixed "="
       let _ ← sub (.operation .or)
       notAhead (oneOf ["=", ":="])
       blame .equals,
    do notAhead (firstOf [Enclosure.tuple sub, Comprehension.generator sub])
       notAhead (oneOf ["True", "None", "False"])
       let e ← sub (.operation .or)
       fixed "="
       let _ ← sub (.operation .or)
       notAhead (oneOf ["=", ":="])
       blame (.equalsBehind e.kind)]

end Choice

end RecordSearch.Expression
