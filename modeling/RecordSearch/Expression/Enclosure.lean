import RecordSearch.Expression.Loop

/-!
# Expressions in brackets

Round brackets hold a tuple, a group or a generator, braces a dictionary, a set or a comprehension
of either.
-/

namespace RecordSearch.Expression

open RecordSearch.Expression.Parser

variable (sub : Rule → Parser Expr)

/-- An expression whose value gets a name. -/
def namedExpression : Parser Expr := do
  let _ ← name
  fixed ":="
  let _ ← sub .expression
  return .other "named expression"

/-- An expression that may get a name. -/
def elementExpression : Parser Expr :=
  firstOf [
    namedExpression sub,
    diagnose (sub .misnamed),
    do let e ← sub .expression; notAhead (fixed ":="); return e]

/-- An expression that may get a name, where no fault of that is looked for. -/
def bareExpression : Parser Expr :=
  firstOf [namedExpression sub, do let e ← sub .expression; notAhead (fixed ":="); return e]

/-- Several expressions that are given by the one behind a star. -/
def spread : Parser Expr :=
  firstOf [
    do fixed "*"; return .starred (← sub .expression),
    do fixed "*"; blame (.collection .noStarred)]

/-- An element of a tuple or a set. -/
def element : Parser Expr :=
  firstOf [do fixed "*"; return .starred (← sub (.operation .or)), elementExpression sub]

/-- Elements with commas between. -/
def elements : Parser (List Expr) := do
  let es ← commaSeparated (element sub)
  let _ ← optional (fixed ",")
  return es

/-- The result of a function that goes on later. -/
def yielded : Parser Expr := do
  firstOf [
    do fixed "yield"; fixed "from"; let _ ← sub .expression,
    do fixed "yield"; let _ ← optional (starExpressions sub)]
  return .other "yield expression"

namespace Comprehension

/-- A fault of a comprehension. -/
def fault : Parser Expr :=
  firstOf [
    do firstOf [bracket '[', bracket '(', bracket '{']
       let _ ← spread sub
       Loop.all sub
       blame (.collection .starInComprehension),
    do firstOf [bracket '[', bracket '{']
       let _ ← element sub
       fixed ","
       let _ ← elements sub
       Loop.all sub
       blame (.collection .bareElement),
    do firstOf [bracket '[', bracket '{']
       let _ ← element sub
       fixed ","
       Loop.all sub
       blame (.collection .bareElement)]

/-- The elements of a comprehension one by one. -/
def generator : Parser Expr :=
  firstOf [
    do bracket '('
       let _ ← bareExpression sub
       Loop.all sub
       bracket ')'
       return .other "generator expression",
    diagnose (fault sub)]

/-- The set of the elements of a comprehension. -/
def set : Parser Expr :=
  firstOf [
    do bracket '{'
       let _ ← elementExpression sub
       Loop.all sub
       bracket '}'
       return .other "set comprehension",
    diagnose (fault sub)]

end Comprehension

namespace Dictionary

/-- A key and its value. -/
def pair : Parser Entry := do
  let key ← sub .expression
  fixed ":"
  return .pair key (← sub .expression)

/-- An entry. -/
def entry : Parser Entry :=
  firstOf [do fixed "**"; let _ ← sub (.operation .or); return .unpacked, pair sub]

/-- A fault of a value. -/
def valueFaults : List (Parser Unit) := [
  do let _ ← sub .expression
     fixed ":"
     fixed "*"
     let _ ← sub (.operation .or)
     blame (.collection .starAsValue),
  do let _ ← sub .expression
     fixed ":"
     ahead (firstOf [bracket '}', fixed ","])
     blame (.collection .noValue)]

/-- A fault of an entry behind a comma. -/
def entryFault : Parser Unit :=
  firstOf ((do let _ ← sub .expression; notAhead (fixed ":"); blame (.collection .noColon)) ::
    valueFaults sub)

/-- A fault of a dictionary. -/
def fault : Parser Expr := do
  bracket '{'
  firstOf ((do let _ ← commaSeparated (entry sub); fixed ","; entryFault sub) :: valueFaults sub)
  fail

/-- A dictionary. Its faults are looked for at once. -/
def plain : Parser Expr :=
  firstOf [
    do bracket '{'
       let entries ← optional do
         let entries ← commaSeparated (entry sub)
         let _ ← optional (fixed ",")
         return entries
       bracket '}'
       return .dictionary (entries.getD []),
    fault sub]

/-- A fault of the comprehension of a dictionary. -/
def comprehensionFault : Parser Expr := do
  bracket '{'
  fixed "**"
  let _ ← sub (.operation .or)
  Loop.all sub
  bracket '}'
  blame (.collection .doubleStarInComprehension)

/-- The dictionary of the entries of a comprehension. -/
def comprehension : Parser Expr :=
  firstOf [
    do bracket '{'
       let _ ← pair sub
       Loop.all sub
       bracket '}'
       return .other "dict comprehension",
    diagnose (comprehensionFault sub)]

end Dictionary

namespace Enclosure

/-- A tuple. -/
def tuple : Parser Expr := do
  bracket '('
  let es ← optional do
    let first ← element sub
    fixed ","
    let others ← optional (elements sub)
    return first :: others.getD []
  bracket ')'
  return .tuple (es.getD [])

/-- A fault of a group. -/
def groupFault : Parser Expr :=
  firstOf [
    do bracket '('; let _ ← spread sub; bracket ')'; blame (.collection .star),
    do bracket '('; fixed "**"; let _ ← sub .expression; bracket ')'
       blame (.collection .doubleStar)]

/-- An expression in round brackets. -/
def group : Parser Expr :=
  firstOf [
    do bracket '('
       let e ← firstOf [yielded sub, elementExpression sub]
       bracket ')'
       return e,
    diagnose (groupFault sub)]

/-- A set. -/
def set : Parser Expr := do
  bracket '{'
  let es ← elements sub
  bracket '}'
  return .set es

/-- What stands in round brackets. -/
def round : Parser Expr := firstOf [tuple sub, group sub, Comprehension.generator sub]

/-- What stands in braces. -/
def braced : Parser Expr :=
  firstOf [Dictionary.plain sub, set sub, Dictionary.comprehension sub, Comprehension.set sub]

end Enclosure

end RecordSearch.Expression
