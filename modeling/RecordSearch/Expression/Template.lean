import RecordSearch.Expression.Escape
import RecordSearch.Expression.Source

/-!
# Templates

A template is a text that holds expressions in braces. Behind an expression may stand an equals
sign, a conversion, and a format behind a colon, which is a template of its own. Outside formats a
doubled brace stands for one. `Template.fault?` finds the first fault of a template, given how the
expressions in it are read.
-/

namespace RecordSearch.Expression.Template

/-- Whether a character is a brace. -/
def isBrace (c : Char) : Bool := c == '{' || c == '}'

/-- A text up to the next brace that does not belong to the name of a character, and the text from
there on. The first argument tells whether the text starts inside such a name. -/
def splitAtBrace (raw : Bool) : Bool → List Char → List Char × List Char
  | _, [] => ([], [])
  | true, c :: cs =>
    let (front, rest) := splitAtBrace raw (c != '}') cs
    (c :: front, rest)
  | false, '\\' :: c :: cs =>
    if raw || isBrace c then
      if isBrace c then (['\\'], c :: cs)
      else
        let (front, rest) := splitAtBrace raw false (c :: cs)
        ('\\' :: front, rest)
    else if c = 'N' then
      match cs with
      | d :: ds =>
        let (front, rest) := splitAtBrace raw (d == '{') ds
        ('\\' :: 'N' :: d :: front, rest)
      | [] => (['\\', 'N'], [])
    else
      let (front, rest) := splitAtBrace raw false cs
      ('\\' :: c :: front, rest)
  | false, c :: cs =>
    if isBrace c then ([], c :: cs)
    else
      let (front, rest) := splitAtBrace raw false cs
      (c :: front, rest)

/-- The characters that may end an expression. -/
def isTerminator (c : Char) : Bool := ['!', ':', '}', '=', '<', '>'].contains c

/-- An expression up to the character that ends it, and the text from there on, given the quote of
the text that is open, whether there are three of them, and the open brackets. -/
def splitExpression (quote : Option (Char × Bool)) (brackets : List Char) :
    List Char → Except TemplateFault (List Char × List Char)
  | [] =>
    match quote, brackets with
    | some _, _ => .error .openText
    | none, opening :: _ => .error (.bracket (.unmatched opening))
    | none, [] => .ok ([], [])
  | c :: cs =>
    if c = '\\' then .error .backslash
    else
      match quote with
      | some (q, false) =>
        add c (splitExpression (if c = q then none else quote) brackets cs)
      | some (q, true) =>
        match cs with
        | d :: e :: es =>
          if c = q ∧ d = q ∧ e = q then add c (add d (add e (splitExpression none brackets es)))
          else add c (splitExpression quote brackets (d :: e :: es))
        | cs => add c (splitExpression quote brackets cs)
      | none =>
        if c = '\'' ∨ c = '"' then
          match cs with
          | d :: e :: es =>
            if d = c ∧ e = c then
              add c (add d (add e (splitExpression (some (c, true)) brackets es)))
            else add c (splitExpression (some (c, false)) brackets (d :: e :: es))
          | cs => add c (splitExpression (some (c, false)) brackets cs)
        else if c = '(' ∨ c = '[' ∨ c = '{' then
          if maxBrackets ≤ brackets.length then .error .tooManyBrackets
          else add c (splitExpression none (c :: brackets) cs)
        else if c = '#' then .error .hash
        else if brackets = [] ∧ isTerminator c then
          match cs with
          | '=' :: ds =>
            if c = ':' ∨ c = '}' then .ok ([], c :: '=' :: ds)
            else add c (add '=' (splitExpression none brackets ds))
          | cs => if c = '<' ∨ c = '>' then add c (splitExpression none brackets cs)
            else .ok ([], c :: cs)
        else
          match Cursor.openingOf? c, brackets with
          | none, _ => add c (splitExpression none brackets cs)
          | some _, [] => .error (.bracket (.unmatched c))
          | some expected, opening :: others =>
            if opening = expected then add c (splitExpression none others cs)
            else .error (.bracket (.mismatched c opening))
where
  /-- A character put in front of the expression. -/
  add (c : Char) (split : Except TemplateFault (List Char × List Char)) :
      Except TemplateFault (List Char × List Char) :=
    split.map fun (e, rest) => (c :: e, rest)

/-- Blanks as they may stand around the tokens of an expression. -/
def isLineBlank (c : Char) : Bool := c == ' ' || c == '\t' || c == '\n' || c == '\x0c'

/-- Blanks as they may stand behind an equals sign. -/
def isAsciiBlank (c : Char) : Bool := c == ' ' || (9 ≤ c.toNat && c.toNat ≤ 13)

/-- What is left of an expression and what stands behind it. -/
def behindEquals : List Char → List Char
  | '=' :: cs => cs.dropWhile isAsciiBlank
  | cs => cs

/-- What is left behind a conversion, if there is one. -/
def behindConversion : List Char → Except TemplateFault (List Char)
  | ['!'] => .error .noClosingBrace
  | '!' :: c :: cs => if c = 's' ∨ c = 'r' ∨ c = 'a' then .ok cs else .error .conversion
  | cs => .ok cs

/-- How deep a format may stand inside others. -/
def maxFormats : Nat := 2

section

variable (readExpression : Nat → List Char → Option Fault) (known : List Char → Bool)
variable (raw : Bool)

/-- The fault of a stretch of a template without expressions. -/
def stretchFault? (text : List Char) : Option Fault :=
  if raw then none else (escapeFault? known text).map .text

/-- The fault of an expression, given the line on which it starts and what follows it. -/
def expressionFault? (line : Nat) (text rest : List Char) : Option Fault :=
  match rest with
  | [] => some (.template .noClosingBrace)
  | c :: _ =>
    if text.all isLineBlank then some (.template (if c = '}' then .empty else .emptyBefore c))
    else readExpression line text

/-- What is left of a template that is read up to its end or, in a format, up to the closing brace,
given how many formats it stands in and the line on which it starts, in at most `fuel` steps. -/
def readFrom : Nat → Nat → Nat → List Char → Except Fault (List Char)
  | 0, _, _, _ => .error (.template .noClosingBrace)
  | fuel + 1, formats, line, text => do
    let (front, rest) := splitAtBrace raw false text
    let doubled := formats = 0 ∧ rest.take 2 = [rest.headD ' ', rest.headD ' ']
    let stretch := if doubled then front ++ rest.take 1 else front
    if !doubled ∧ formats = 0 ∧ rest.head? = some '}' then .error (.template .singleBrace)
    match stretchFault? known raw stretch with
    | some fault => .error fault
    | none =>
    let line := line + stretch.count '\n'
    if doubled then readFrom fuel formats line (rest.drop 2)
    else
      match rest with
      | '{' :: inside =>
        if maxFormats ≤ formats then .error (.template .tooDeep)
        let (expression, behind) ← (splitExpression none [] inside).mapError .template
        match expressionFault? readExpression line expression behind with
        | some fault => .error fault
        | none =>
        let line := line + expression.count '\n'
        let rest := behindEquals behind
        let line := line + (behind.take (behind.length - rest.length)).count '\n'
        if rest = [] then .error (.template .noClosingBrace)
        let rest ← (behindConversion rest).mapError .template
        match rest with
        | '}' :: rest => readFrom fuel formats line rest
        | ':' :: format =>
          if format = [] then .error (.template .noClosingBrace)
          let left ← readFrom fuel (formats + 1) line format
          match left with
          | '}' :: rest =>
            let read := format.take (format.length - left.length)
            readFrom fuel formats (line + read.count '\n') rest
          | _ => .error (.template .noClosingBrace)
        | _ => .error (.template .noClosingBrace)
      | rest => .ok rest

/-- The first fault of a template that starts on a line. Each step uses a character. -/
def fault? (line : Nat) (text : List Char) : Option Fault :=
  match readFrom readExpression known raw (text.length + 1) 0 line text with
  | .ok _ => none
  | .error fault => some fault

end

end RecordSearch.Expression.Template
