import RecordSearch.Expression.Operation

/-!
# The grammar of expressions

Each rule is a parser that may use every other rule; `Rule.parser` ties them together. The number of
rules that may be tried inside each other bounds the recursion.
-/

namespace RecordSearch.Expression

open RecordSearch.Expression.Parser

/-- What a rule says. -/
def Rule.body (sub : Rule → Parser Expr) : Rule → Parser Expr
  | .expression => Choice.all sub
  | .starExpression =>
    firstOf [do fixed "*"; return .starred (← sub (.operation .or)), sub .expression]
  | .disjunction => Operation.withWord sub "or" .conjunction
  | .conjunction => Operation.withWord sub "and" .inversion
  | .inversion => Operation.inversion sub
  | .operation level => Operation.ofLevel sub level
  | .factor => Operation.factor sub
  | .awaited => Operation.awaited sub
  | .primary => Primary.plain sub
  | .texts => Primary.texts
  | .target => Target.starred sub
  | .unstarredTarget => Target.unstarred sub
  | .targetOwner => Primary.targetOwner sub
  | .misnamed => Choice.nameFault sub

/-- The parser of a rule, in which at most `fuel` rules are tried inside each other. -/
def Rule.parser : Nat → Rule → Parser Expr
  | 0, _ => fail
  | fuel + 1, rule => remember rule (rule.body (Rule.parser fuel))

/-- How many rules may be tried inside each other before a token is used. -/
def rulesForToken : Nat := 32

/-- The rules for some tokens. -/
def Source.rules (source : Source) : Rule → Parser Expr :=
  Rule.parser (rulesForToken * (source.tokens.size + 2))

/-- An expression up to the end of a text. -/
def wholeExpression (sub : Rule → Parser Expr) : Parser Expr := do
  let e ← Choice.several sub
  let _ ← many (token .line)
  token .ending
  return e

end RecordSearch.Expression
