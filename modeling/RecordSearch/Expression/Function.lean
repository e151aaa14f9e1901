import RecordSearch.Expression.Parser

/-!
# Functions

A function is written as the word `lambda`, parameters, a colon and an expression. Parameters that
are given by their place only stand before a slash, those that are given by their name only behind a
star; two stars take whatever other names there are.
-/

namespace RecordSearch.Expression

open RecordSearch.Expression.Parser

variable (sub : Rule → Parser Expr)

namespace Parameter

/-- The name of a parameter. -/
def parameter : Parser Unit := do let _ ← name

/-- The value that a parameter has if none is given. -/
def defaultValue : Parser Unit :=
  firstOf [
    do fixed "="; let _ ← sub .expression,
    diagnose do fixed "="; ahead (oneOf [")", ","]); blame (.parameter .noDefault)]

/-- What ends a parameter: a comma, or the colon that follows the last one. -/
def ending : Parser Unit := firstOf [fixed ",", ahead (fixed ":")]

/-- A parameter without a default value. -/
def plain : Parser Unit := do parameter; ending

/-- A parameter with a default value. -/
def withDefault : Parser Unit := do parameter; defaultValue sub; ending

/-- A parameter. -/
def any : Parser Unit := do parameter; let _ ← optional (defaultValue sub); ending

/-- Parameters before a slash, none with a default value. -/
def plainBeforeSlash : Parser Unit := do let _ ← several plain; fixed "/"; ending

/-- Parameters before a slash, the last ones with default values. -/
def defaultBeforeSlash : Parser Unit := do
  let _ ← many plain
  let _ ← several (withDefault sub)
  fixed "/"
  ending

/-- Parameters before a slash. -/
def beforeSlash : Parser Unit := firstOf [plainBeforeSlash, defaultBeforeSlash sub]

/-- A fault of the parameter behind two stars. -/
def doubleStarFault : Parser Unit :=
  firstOf [
    do fixed "**"; parameter; fixed "="; blame (.parameter .doubleStarWithDefault),
    do fixed "**"; parameter; fixed ","; parameter; blame (.parameter .behindDoubleStar),
    do fixed "**"; parameter; fixed ","; oneOf ["*", "**", "/"]
       blame (.parameter .behindDoubleStar)]

/-- The parameter behind two stars. -/
def doubleStar : Parser Unit := firstOf [diagnose doubleStarFault, do fixed "**"; plain]

/-- A fault of the parameters behind a star. -/
def starFault : Parser Unit :=
  firstOf [
    do fixed "*"
       firstOf [fixed ":", do fixed ","; oneOf [":", "**"]]
       blame (.parameter .bareStar),
    do fixed "*"; parameter; fixed "="; blame (.parameter .starWithDefault),
    do fixed "*"
       firstOf [plain, fixed ","]
       let _ ← many (any sub)
       fixed "*"
       firstOf [plain, fixed ","]
       blame (.parameter .secondStar)]

/-- The parameters behind a star. -/
def star : Parser Unit :=
  firstOf [
    diagnose (starFault sub),
    do fixed "*"; plain; let _ ← many (any sub); let _ ← optional doubleStar,
    do fixed "*"; fixed ","; let _ ← several (any sub); let _ ← optional doubleStar,
    doubleStar]

/-- A fault of the parameters. -/
def fault : Parser Unit :=
  firstOf [
    do let _ ← many plain
       firstOf [defaultBeforeSlash sub, do let _ ← several (withDefault sub)]
       plain
       blame (.parameter .defaultInFront),
    do let _ ← many plain
       bracket '('
       let _ ← commaSeparated parameter
       let _ ← optional (fixed ",")
       bracket ')'
       blame (.parameter .parenthesized),
    do fixed "/"; fixed ","; blame (.parameter .nothingBeforeSlash),
    do beforeSlash sub; let _ ← many (any sub); fixed "/"; blame (.parameter .secondSlash),
    do let _ ← optional (beforeSlash sub)
       let _ ← many (any sub)
       fixed "*"
       firstOf [fixed ",", plain]
       let _ ← many (any sub)
       fixed "/"
       blame (.parameter .slashBehindStar),
    do let _ ← several (any sub); fixed "/"; fixed "*"; blame (.parameter .noCommaBehindSlash)]

/-- The parameters of a function. -/
def all : Parser Unit :=
  firstOf [
    diagnose (fault sub),
    do plainBeforeSlash; let _ ← many plain; let _ ← many (withDefault sub)
       let _ ← optional (star sub),
    do defaultBeforeSlash sub; let _ ← many (withDefault sub); let _ ← optional (star sub),
    do let _ ← several plain; let _ ← many (withDefault sub); let _ ← optional (star sub),
    do let _ ← several (withDefault sub); let _ ← optional (star sub),
    star sub]

end Parameter

/-- A function. -/
def function : Parser Expr := do
  fixed "lambda"
  let _ ← optional (Parameter.all sub)
  fixed ":"
  let _ ← sub .expression
  return .other "lambda"

end RecordSearch.Expression
