import RecordSearch.Expression.Parser

/-!
# Loops in comprehensions

A comprehension goes through the elements of something: behind the word `for` stands what they are
assigned to, behind `in` where they come from, behind `if` a condition on them.
-/

namespace RecordSearch.Expression

open RecordSearch.Expression.Parser

variable (sub : Rule → Parser Expr)

/-- Expressions with commas between, which are a tuple, some perhaps with a star. -/
def starExpressions : Parser Expr := do
  let first ← sub .starExpression
  let others ← many (do fixed ","; sub .starExpression)
  let comma ← optional (fixed ",")
  return if others.isEmpty ∧ comma.isNone then first else .tuple (first :: others)

namespace Target

/-- What shows that a target goes on. -/
def continuation : Parser Unit := oneOf ["(", "[", "."]

/-- Targets with commas between, and one comma at least. -/
def several : Parser (List Expr) :=
  firstOf [
    do let first ← sub .target
       let others ← Parser.several (do fixed ","; sub .target)
       let _ ← optional (fixed ",")
       return first :: others,
    do let first ← sub .target
       fixed ","
       return [first]]

/-- A target that is a name or stands in brackets. -/
def atom : Parser Expr :=
  firstOf [
    Expr.name <$> name,
    do bracket '('; let e ← sub .unstarredTarget; bracket ')'; return e,
    do bracket '('; let es ← optional (several sub); bracket ')'; return .tuple (es.getD [])]

/-- A target without a star: an attribute or a target atom. -/
def unstarred : Parser Expr :=
  firstOf [
    do let _ ← sub .targetOwner
       fixed "."
       let _ ← name
       notAhead continuation
       return .attribute,
    atom sub]

/-- A target, perhaps with a star. -/
def starred : Parser Expr :=
  firstOf [
    do fixed "*"; notAhead (fixed "*"); return .starred (← sub .target),
    sub .unstarredTarget]

/-- The targets of a loop. -/
def all : Parser Unit := do
  let _ ← sub .target
  let _ ← many (do fixed ","; sub .target)
  let _ ← optional (fixed ",")

end Target

namespace Loop

/-- Where the elements of a loop come from, and the conditions on them. -/
def origin : Parser Unit := do
  let _ ← sub .disjunction
  let _ ← many (do fixed "if"; sub .disjunction)

/-- A fault of what the elements of a loop are assigned to. -/
def targetFault : Parser Unit := do
  let _ ← optional (fixed "async")
  fixed "for"
  let e ← starExpressions sub
  match e.notAssignable? with
  | some part => blame (.assignment part.kind)
  | none => fail

/-- A loop. Behind the word `in` it is certain that it is one. -/
def one : Parser Unit :=
  branch (do fixed "async"; fixed "for"; Target.all sub; fixed "in") (fun _ => origin sub)
    (branch (do fixed "for"; Target.all sub; fixed "in") (fun _ => origin sub)
      (diagnose (targetFault sub)))

/-- One loop or more. -/
def all : Parser Unit := do let _ ← several (one sub)

end Loop

end RecordSearch.Expression
