import RecordSearch.Expression.Literal
import RecordSearch.Text.Blank
import RecordSearch.Text.Word

/-!
# Handlers

A tag whose name starts with an at sign names what handles an event. Its parameters are a literal,
or the name of a function, perhaps with its arguments behind; then the arguments are the literal.
`handlerFault?` tells what keeps parameters from being so.
-/

namespace RecordSearch

/-- What is wrong with the parameters of a handler. -/
inductive HandlerFault where
  /-- A part of the parameters is no expression. -/
  | noExpression (part parameters : String) (fault : Expression.Fault)
  | noLiteral (parameters : String) (fault : Expression.LiteralFault)
  deriving DecidableEq, Repr

/-- What is wrong with the parameters of a handler, in words. -/
def HandlerFault.message : HandlerFault → String
  | .noExpression part parameters fault =>
    "error parsing " ++ Text.quoted part ++ " in " ++ Text.quoted parameters ++ "; " ++
      fault.message
  | .noLiteral parameters fault =>
    "error parsing " ++ Text.quoted parameters ++ "; " ++ fault.message

namespace Handler

/-- Whether the name of a tag is that of a handler. -/
def isHandler (name : String) : Bool := name.toList.head? == some '@'

/-- Whether a text is arguments in round brackets, on one line. -/
def isArguments (text : List Char) : Bool :=
  text.head? == some '(' && text.tail.getLast? == some ')' && !text.contains '\n'

/-- The part of parameters that has to be a literal, if there is one. -/
def literalPart? (parameters : List Char) : Option (List Char) :=
  let text := Text.strip parameters
  let rest := text.dropWhile fun c => Text.isWordChar c || c == '.'
  if rest = [] then none else some (if isArguments rest then rest else text)

end Handler

/-- What is wrong with the parameters of a handler. -/
def handlerFault? (parameters : List Char) : Option HandlerFault :=
  (Handler.literalPart? parameters).bind fun part =>
    let written := String.ofList parameters
    (Expression.literalFault? part).map fun
      | .noExpression fault => .noExpression (String.ofList part) written fault
      | .noLiteral fault => .noLiteral written fault

end RecordSearch
