import RecordSearch.Expression.Reading

/-!
# Literals

A literal is an expression that stands for a value of its own: a number, a text, a constant, or a
tuple, a set or a dictionary of such. Keys and the elements of a set have to be values that cannot
change, and so no sets or dictionaries. `literalFault?` tells what keeps a text from being a
literal.
-/

namespace RecordSearch.Expression

/-- What keeps an expression from being a literal. -/
inductive LiteralFault where
  /-- A part of the expression stands for no value of its own. -/
  | noValue
  /-- A dictionary is given by another one. -/
  | unpacked
  /-- A value of this kind can change. -/
  | mutable (kind : String)
  /-- A whole number is too great to be added to an imaginary one. -/
  | overflow
  deriving DecidableEq, Repr

/-- What keeps an expression from being a literal, in words. -/
def LiteralFault.message : LiteralFault → String
  | .noValue => "malformed node or string"
  | .unpacked => "malformed node or string: None"
  | .mutable kind => "unhashable type: '" ++ kind ++ "'"
  | .overflow => "int too large to convert to float"

/-- The least whole number that no binary number of 64 bits comes close to. -/
def leastOverflow : Nat := Nat.pow 2 1024 - Nat.pow 2 970

/-- The number that an expression is. -/
def Expr.number? : Expr → Option Numeral
  | .number n => some n
  | _ => none

/-- The number that an expression is, perhaps with a sign. -/
def Expr.signedNumber? : Expr → Option Numeral
  | .signed operand => operand.number?
  | e => e.number?

/-- The fault of adding two numbers: only an imaginary one may be added, and to one that is not. -/
def sumFault? : Option Numeral → Option Numeral → Option LiteralFault
  | some (.whole n), some .imaginary => if leastOverflow ≤ n then some .overflow else none
  | some (.long _), some .imaginary => some .overflow
  | some .real, some .imaginary => none
  | _, _ => some .noValue

mutual

/-- Evaluates an expression: the kind of value in it that can change, if there is one. -/
def Expr.evaluate : Expr → Except LiteralFault (Option String)
  | .number _ => .ok none
  | .text => .ok none
  | .constant _ => .ok none
  | .tuple es => evaluateTuple es
  | .set es =>
    match setFault? es with
    | some fault => .error fault
    | none => .ok (some "set")
  | .dictionary entries =>
    match entriesFault? entries with
    | some fault => .error fault
    | none => .ok (some "dict")
  | .signed operand => if operand.number?.isSome then .ok none else .error .noValue
  | .sum left right =>
    match sumFault? left.signedNumber? right.number? with
    | some fault => .error fault
    | none => .ok none
  | .call (.name "set") false => .ok (some "set")
  | _ => .error .noValue

/-- Evaluates the elements of a tuple: the kind of the first value that can change. -/
def evaluateTuple : List Expr → Except LiteralFault (Option String)
  | [] => .ok none
  | e :: es =>
    match e.evaluate, evaluateTuple es with
    | .error fault, _ => .error fault
    | .ok _, .error fault => .error fault
    | .ok kind, .ok others => .ok (kind.or others)

/-- The first fault of the elements of a set. -/
def setFault? : List Expr → Option LiteralFault
  | [] => none
  | e :: es =>
    match e.evaluate with
    | .error fault => some fault
    | .ok (some kind) => some (.mutable kind)
    | .ok none => setFault? es

/-- The first fault of the entries of a dictionary. -/
def entriesFault? : List Entry → Option LiteralFault
  | [] => none
  | .unpacked :: _ => some .unpacked
  | .pair key value :: entries =>
    match key.evaluate, value.evaluate with
    | .error fault, _ => some fault
    | .ok _, .error fault => some fault
    | .ok (some kind), .ok _ => some (.mutable kind)
    | .ok none, .ok _ => entriesFault? entries

end

/-- What keeps a text from being a literal. -/
inductive TextLiteralFault where
  /-- The text is no expression. -/
  | noExpression (fault : Fault)
  /-- The text is an expression, but no literal. -/
  | noLiteral (fault : LiteralFault)
  deriving DecidableEq, Repr

/-- What keeps a text from being a literal. -/
def literalFault? (text : List Char) : Option TextLiteralFault :=
  match read text with
  | .error fault => some (.noExpression fault)
  | .ok e =>
    match e.evaluate with
    | .error fault => some (.noLiteral fault)
    | .ok _ => none

end RecordSearch.Expression
