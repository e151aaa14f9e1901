import RecordSearch.Text.Printable
import RecordSearch.Text.Quoted

/-!
# What can be wrong with an expression

The faults of an expression by the stage that finds them: the characters and the layout of the text,
the texts between quotes, the templates among these, and the grammar.
-/

namespace RecordSearch.Expression

/-- A closing bracket that does not fit. -/
inductive BracketFault where
  | unmatched (closing : Char)
  | mismatched (closing opening : Char)
  deriving DecidableEq, Repr

/-- A closing bracket that does not fit, in words. -/
def BracketFault.message : BracketFault → String
  | .unmatched closing => "unmatched '" ++ closing.toString ++ "'"
  | .mismatched closing opening =>
    "closing parenthesis '" ++ closing.toString ++ "' does not match opening parenthesis '" ++
      opening.toString ++ "'"

/-- The ways to write a number that a fault may name. -/
inductive NumeralKind where
  | binary
  | octal
  | hexadecimal
  | decimal
  | imaginary
  deriving DecidableEq, Repr

/-- The word for a way to write a number. -/
def NumeralKind.word : NumeralKind → String
  | .binary => "binary"
  | .octal => "octal"
  | .hexadecimal => "hexadecimal"
  | .decimal => "decimal"
  | .imaginary => "imaginary"

/-- Characters that are no token. -/
inductive LexicalFault where
  | numeral (kind : NumeralKind)
  | digit (d : Char) (kind : NumeralKind)
  /-- A decimal number starts with a zero. -/
  | leadingZeros
  /-- A text between quotes does not end; the text is left on a line. -/
  | openText (triple : Bool) (line : Nat)
  /-- No token holds the character. -/
  | character (c : Char)
  /-- A bracket stands in too many others. -/
  | tooManyBrackets
  /-- A closing bracket does not fit; the bracket that is open may stand on an earlier line. -/
  | bracket (fault : BracketFault) (line : Option Nat)
  deriving DecidableEq, Repr

/-- A code point as four or more hexadecimal digits. -/
def codePoint (c : Char) : String :=
  let digits := (Nat.toDigits 16 c.toNat).map Char.toUpper
  "U+" ++ String.ofList (List.replicate (4 - digits.length) '0' ++ digits)

/-- Characters that are no token, in words. -/
def LexicalFault.message : LexicalFault → String
  | .numeral kind => "invalid " ++ kind.word ++ " literal"
  | .digit d kind => "invalid digit '" ++ d.toString ++ "' in " ++ kind.word ++ " literal"
  | .leadingZeros =>
    "leading zeros in decimal integer literals are not permitted; " ++
      "use an 0o prefix for octal integers"
  | .openText triple line =>
    "unterminated " ++ (if triple then "triple-quoted " else "") ++
      "string literal (detected at line " ++ toString line ++ ")"
  | .character c =>
    if Text.isPrintable c then "invalid character '" ++ c.toString ++ "' (" ++ codePoint c ++ ")"
    else "invalid non-printable character " ++ codePoint c
  | .tooManyBrackets => "too many nested parentheses"
  | .bracket fault line =>
    fault.message ++ (line.map fun n => " on line " ++ toString n).getD ""

/-- Lines that do not go together. -/
inductive LayoutFault where
  /-- The text ends inside brackets. -/
  | neverClosed (opening : Char)
  /-- The text ends where a line was to be continued. -/
  | textEnds
  /-- A backslash stands neither in a text nor at the end of a line. -/
  | continuation
  /-- A line is indented less than the one before, and like none before that. -/
  | unevenOutdent
  /-- Tabs and blanks compare in two ways. -/
  | mixedIndent
  | tooManyIndents
  deriving DecidableEq, Repr

/-- Lines that do not go together, in words. -/
def LayoutFault.message : LayoutFault → String
  | .neverClosed opening => "'" ++ opening.toString ++ "' was never closed"
  | .textEnds => "unexpected EOF while parsing"
  | .continuation => "unexpected character after line continuation character"
  | .unevenOutdent => "unindent does not match any outer indentation level"
  | .mixedIndent => "inconsistent use of tabs and spaces in indentation"
  | .tooManyIndents => "too many levels of indentation"

/-- What is wrong with an escape in a text. -/
inductive EscapeFault where
  /-- The letter of the escape wants more digits than there are. -/
  | truncated (letter : Char) (digits : Nat)
  | noCharacter
  | malformedName
  | unknownName
  deriving DecidableEq, Repr

/-- What is wrong with an escape, in words. -/
def EscapeFault.message : EscapeFault → String
  | .truncated letter digits =>
    "truncated \\" ++ letter.toString ++ String.ofList (List.replicate digits 'X') ++ " escape"
  | .noCharacter => "illegal Unicode character"
  | .malformedName => "malformed \\N character escape"
  | .unknownName => "unknown Unicode character name"

/-- What is wrong with a text between quotes. -/
inductive TextFault where
  /-- An escape that spans the characters from one index to another. -/
  | escape (fault : EscapeFault) (first last : Nat)
  /-- An escape in a text of bytes. -/
  | byteEscape (position : Nat)
  | notAscii
  /-- A text of bytes stands next to another text. -/
  | mixed
  deriving DecidableEq, Repr

/-- What is wrong with a text between quotes, in words. -/
def TextFault.message : TextFault → String
  | .escape fault first last =>
    "(unicode error) 'unicodeescape' codec can't decode bytes in position " ++ toString first ++
      "-" ++ toString last ++ ": " ++ fault.message
  | .byteEscape position => "(value error) invalid \\x escape at position " ++ toString position
  | .notAscii => "bytes can only contain ASCII literal characters"
  | .mixed => "cannot mix bytes and nonbytes literals"

/-- What is wrong with the expressions in a template. -/
inductive TemplateFault where
  /-- A closing brace stands alone. -/
  | singleBrace
  | empty
  /-- There is nothing in front of the character that ends an expression. -/
  | emptyBefore (c : Char)
  | backslash
  | hash
  | tooManyBrackets
  | bracket (fault : BracketFault)
  | openText
  | conversion
  | tooDeep
  | noClosingBrace
  deriving DecidableEq, Repr

/-- What is wrong with the expressions in a template, in words. -/
def TemplateFault.message : TemplateFault → String
  | .singleBrace => "f-string: single '\x7d' is not allowed"
  | .empty => "f-string: empty expression not allowed"
  | .emptyBefore c => "f-string: expression required before '" ++ c.toString ++ "'"
  | .backslash => "f-string expression part cannot include a backslash"
  | .hash => "f-string expression part cannot include '#'"
  | .tooManyBrackets => "f-string: too many nested parenthesis"
  | .bracket fault => "f-string: " ++ fault.message
  | .openText => "f-string: unterminated string"
  | .conversion => "f-string: invalid conversion character: expected 's', 'r', or 'a'"
  | .tooDeep => "f-string: expressions nested too deeply"
  | .noClosingBrace => "f-string: expecting '\x7d'"

/-- What is wrong with the parameters of a function. -/
inductive ParameterFault where
  | defaultInFront
  | parenthesized
  | nothingBeforeSlash
  | secondSlash
  | slashBehindStar
  | noCommaBehindSlash
  | bareStar
  | starWithDefault
  | secondStar
  | doubleStarWithDefault
  | behindDoubleStar
  | noDefault
  deriving DecidableEq, Repr

/-- What is wrong with the parameters of a function, in words. -/
def ParameterFault.message : ParameterFault → String
  | .defaultInFront => "non-default argument follows default argument"
  | .parenthesized => "Lambda expression parameters cannot be parenthesized"
  | .nothingBeforeSlash => "at least one argument must precede /"
  | .secondSlash => "/ may appear only once"
  | .slashBehindStar => "/ must be ahead of *"
  | .noCommaBehindSlash => "expected comma between / and *"
  | .bareStar => "named arguments must follow bare *"
  | .starWithDefault => "var-positional argument cannot have default value"
  | .secondStar => "* argument may appear only once"
  | .doubleStarWithDefault => "var-keyword argument cannot have default value"
  | .behindDoubleStar => "arguments cannot follow var-keyword argument"
  | .noDefault => "expected default value expression"

/-- What is wrong with the arguments of a call. -/
inductive ArgumentFault where
  | starBehindDoubleStar
  | bareGenerator
  | behindNamed
  | behindDoubleStar
  | assignment
  deriving DecidableEq, Repr

/-- What is wrong with the arguments of a call, in words. -/
def ArgumentFault.message : ArgumentFault → String
  | .starBehindDoubleStar => "iterable argument unpacking follows keyword argument unpacking"
  | .bareGenerator => "Generator expression must be parenthesized"
  | .behindNamed => "positional argument follows keyword argument"
  | .behindDoubleStar => "positional argument follows keyword argument unpacking"
  | .assignment => "expression cannot contain assignment, perhaps you meant \"==\"?"

/-- What is wrong with an expression in brackets. -/
inductive CollectionFault where
  | starInComprehension
  | doubleStarInComprehension
  | bareElement
  | star
  | doubleStar
  /-- Nothing stands behind a star. -/
  | noStarred
  | starAsValue
  | noValue
  | noColon
  deriving DecidableEq, Repr

/-- What is wrong with an expression in brackets, in words. -/
def CollectionFault.message : CollectionFault → String
  | .starInComprehension => "iterable unpacking cannot be used in comprehension"
  | .doubleStarInComprehension => "dict unpacking cannot be used in dict comprehension"
  | .bareElement => "did you forget parentheses around the comprehension target?"
  | .star => "cannot use starred expression here"
  | .doubleStar => "cannot use double starred expression here"
  | .noStarred => "Invalid star expression"
  | .starAsValue => "cannot use a starred expression in a dictionary value"
  | .noValue => "expression expected after dictionary key and ':'"
  | .noColon => "':' expected after dictionary key"

/-- What keeps tokens from being an expression. -/
inductive GrammarFault where
  /-- Nothing more is known than that there is a fault. -/
  | unknown
  | indent
  | outdent
  | noComma
  | noElse
  /-- A function is called without brackets. -/
  | noBrackets (function : String)
  /-- An equals sign stands where a comparison or an assignment may. -/
  | equals
  /-- An equals sign behind an expression of some kind. -/
  | equalsBehind (kind : String)
  | assignment (kind : String)
  /-- An assignment to an expression of some kind, where only names get values. -/
  | namedAssignment (kind : String)
  | parameter (fault : ParameterFault)
  | argument (fault : ArgumentFault)
  | collection (fault : CollectionFault)
  deriving DecidableEq, Repr

/-- What keeps tokens from being an expression, in words. -/
def GrammarFault.message : GrammarFault → String
  | .unknown => "invalid syntax"
  | .indent => "unexpected indent"
  | .outdent => "unexpected unindent"
  | .noComma => "invalid syntax. Perhaps you forgot a comma?"
  | .noElse => "expected 'else' after 'if' expression"
  | .noBrackets function =>
    "Missing parentheses in call to '" ++ function ++ "'. Did you mean " ++ function ++ "(...)?"
  | .equals => "invalid syntax. Maybe you meant '==' or ':=' instead of '='?"
  | .equalsBehind kind =>
    "cannot assign to " ++ kind ++ " here. Maybe you meant '==' instead of '='?"
  | .assignment kind => "cannot assign to " ++ kind
  | .namedAssignment kind => "cannot use assignment expressions with " ++ kind
  | .parameter fault => fault.message
  | .argument fault => fault.message
  | .collection fault => fault.message

/-- The greatest number of digits of a decimal number. -/
def maxDigits : Nat := 4300

/-- What is wrong with an expression. -/
inductive Fault where
  /-- The text holds the character with the code point zero. -/
  | nullCharacter
  | lexical (fault : LexicalFault)
  | layout (fault : LayoutFault)
  /-- A decimal number has too many digits. -/
  | longNumber (digits : Nat)
  | text (fault : TextFault)
  | template (fault : TemplateFault)
  | grammar (fault : GrammarFault)
  /-- A fault of an expression in a template. -/
  | inTemplate (fault : Fault)
  deriving DecidableEq, Repr

namespace Fault

/-- What is wrong with an expression, in words. -/
def message : Fault → String
  | .nullCharacter => "source code string cannot contain null bytes"
  | .lexical fault => fault.message
  | .layout fault => fault.message
  | .longNumber digits =>
    "Exceeds the limit (" ++ toString maxDigits ++ " digits) for integer string conversion: " ++
      "value has " ++ toString digits ++ " digits; use sys.set_int_max_str_digits() to increase " ++
      "the limit - Consider hexadecimal for huge integer literals to avoid decimal conversion " ++
      "limits."
  | .text fault => fault.message
  | .template fault => fault.message
  | .grammar fault => fault.message
  | .inTemplate fault => "f-string: " ++ fault.message

/-- A fault as it is seen from outside of the template that holds the expression: what is wrong with
characters stays as it is, and so does what was seen from a template before. -/
def seenFromTemplate : Fault → Fault
  | .lexical fault => .lexical fault
  | .inTemplate fault => .inTemplate fault
  | fault => .inTemplate fault

end Fault

end RecordSearch.Expression
