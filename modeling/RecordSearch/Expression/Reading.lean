import RecordSearch.Expression.CharacterName
import RecordSearch.Expression.Grammar
import RecordSearch.Expression.Template

/-!
# Reading an expression

The tokens of a text are read twice if need be: when no expression is found, the second reading
looks for faults, and if it finds none either, all that is known is that there is one. A fault of
the grammar gives way to a fault of the characters that follow.

The expressions in a template are read in the same way, with brackets around them.
-/

namespace RecordSearch.Expression

/-- The fault that counts, given one that was found after a number of tokens had been seen: that of
characters further on, or a bracket on an earlier line that is never closed. A fault about which
something is known stands if the end of the text has been seen. -/
def Source.weigh (source : Source) (seen : Nat) (fault : Fault) : Fault :=
  if source.tokens.size < seen then fault
  else if source.tokens.size = seen ∧ source.endSeen ∧ fault ≠ .grammar .unknown then fault
  else
    match source.fault, source.openBracket with
    | some (.lexical later), _ => .lexical later
    | some _, some (opening, line) =>
      if source.tokens[seen - 1]?.any fun token => decide (line < token.line) then
        .layout (.neverClosed opening)
      else fault
    | _, _ => fault

/-- The fault of tokens that are no expression when the last one that was seen is of a kind. -/
def Source.unknownFault (source : Source) (seen : Nat) : GrammarFault :=
  match source.tokens[seen - 1]?.map Token.kind with
  | some .indent => .indent
  | some .outdent => .outdent
  | _ => .unknown

/-- Reads the tokens of a source with a parser. -/
def Source.read (source : Source) (textFault? : List (TextForm × Nat) → Option Fault)
    (parser : Parser Expr) : Except Fault Expr :=
  match parser ⟨source, textFault?, false⟩ {} with
  | (.done e, _) => .ok e
  | (.stopped fault, after) => .error (source.weigh after.seen fault)
  | (.failed, after) =>
    match parser ⟨source, textFault?, true⟩ { seen := after.seen } with
    | (.stopped fault, second) => .error (source.weigh second.seen fault)
    | (_, second) =>
      match source.unknownFault after.seen with
      | .unknown => .error (source.weigh second.seen (.grammar .unknown))
      | fault => .error (.grammar fault)

/-- The first fault of texts that follow each other, the one before being of bytes or not. -/
def textFault? (readExpression : Nat → List Char → Option Fault) (known : List Char → Bool) :
    Option Bool → List (TextForm × Nat) → Option Fault
  | _, [] => none
  | before, (form, line) :: forms =>
    let own : Option TextFault :=
      if form.template then none
      else if form.bytes ∧ !form.body.all isAscii then some .notAscii
      else if form.raw then none
      else if form.bytes then byteEscapeFault? form.body
      else escapeFault? known form.body
    match own with
    | some fault => some (.text fault)
    | none =>
      if before.any (· != form.bytes) then some (.text .mixed)
      else
        match (if form.template then
          Template.fault? readExpression known form.raw line form.body else none) with
        | some fault => some fault
        | none => textFault? readExpression known (some form.bytes) forms

/-- The fault of an expression in a template that starts on a line, which may hold templates up to a
depth. -/
def innerFault? : Nat → Nat → List Char → Option Fault
  | 0, _, _ => some (.template .tooDeep)
  | depth + 1, line, text =>
    let source := Source.ofChars line ('(' :: text ++ [')', '\n'])
    match source.read (textFault? (innerFault? depth) isCharacterName none)
        (starExpressions source.rules) with
    | .ok _ => none
    | .error fault => some fault.seenFromTemplate

/-- Reads a text as an expression. A template inside another is shorter, and so the length of the
text bounds their depth. -/
def read (text : List Char) : Except Fault Expr :=
  if text.contains '\x00' then .error .nullCharacter
  else
    let source := Source.ofChars 1 text
    source.read (textFault? (innerFault? text.length) isCharacterName none)
      (wholeExpression source.rules)

end RecordSearch.Expression
