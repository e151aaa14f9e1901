import RecordSearch.Expression.NameCharacter
import RecordSearch.Expression.Numeral

/-!
# From text to tokens

A text is read token by token. The start of a line tells how far it is indented, which counts
outside brackets only; there the end of a line is a token. Reading ends with the text or where
something is wrong with it: `Source.ofChars` gives the tokens up to there.
-/

namespace RecordSearch.Expression

/-- How many brackets may be open. -/
def maxBrackets : Nat := 200

/-- How many indents may be open, the margin among them. -/
def maxIndents : Nat := 100

/-- How far a line is indented. -/
structure Indent where
  /-- The columns of blanks and tabs, where a tab goes on to the next multiple of eight. -/
  width : Nat := 0
  /-- The number of blanks and tabs. -/
  count : Nat := 0
  deriving DecidableEq, Repr

/-- A place in a text that is read. -/
structure Cursor where
  rest : List Char
  line : Nat
  /-- Whether a line starts here. -/
  fresh : Bool := true
  /-- The brackets that are open, with their lines, the innermost first. -/
  brackets : List (Char × Nat) := []
  /-- The indents that are open, the innermost first. -/
  indents : List Indent := []

/-- What comes next in a text. -/
inductive Step where
  | tokens (kinds : List TokenKind) (line : Nat) (behind : Cursor)
  | stop (fault : Fault)
  | finish (line : Nat)

/-! ### Lines -/

/-- The fault of a text that ends where brackets are open or a line was to be continued. -/
def endFault : List (Char × Nat) → LayoutFault
  | [] => .textEnds
  | (opening, _) :: _ => .neverClosed opening

/-- The indent of a line and what follows it, with its line. A backslash at the end of the line
continues it; then the indent in front of the first of them counts. -/
def readIndent (brackets : List (Char × Nat)) (indent : Indent) (continued : Nat) (line : Nat) :
    List Char → Except LayoutFault (Indent × Nat × List Char)
  | ' ' :: cs => readIndent brackets ⟨indent.width + 1, indent.count + 1⟩ continued line cs
  | '\t' :: cs =>
    readIndent brackets ⟨(indent.width / 8 + 1) * 8, indent.count + 1⟩ continued line cs
  | '\x0c' :: cs => readIndent brackets ⟨0, 0⟩ continued line cs
  | ['\\', '\n'] => .error (endFault brackets)
  | '\\' :: '\n' :: cs =>
    readIndent brackets indent (if continued = 0 then indent.width else continued) (line + 1) cs
  | '\\' :: _ => .error .continuation
  | cs => .ok (if continued = 0 then indent else ⟨continued, continued⟩, line, cs)

/-- The tokens for an indent, given those that are open, and those that are open behind it. -/
def indentTokens (indent : Indent) (indents : List Indent) :
    Except LayoutFault (List TokenKind × List Indent) :=
  let last := indents.headD {}
  if indent.width = last.width then
    if indent.count = last.count then .ok ([], indents) else .error .mixedIndent
  else if last.width < indent.width then
    if maxIndents ≤ indents.length + 1 then .error .tooManyIndents
    else if indent.count ≤ last.count then .error .mixedIndent
    else .ok ([.indent], indent :: indents)
  else
    let left := indents.dropWhile fun i => indent.width < i.width
    let last := left.headD {}
    if indent.width ≠ last.width then .error .unevenOutdent
    else if indent.count ≠ last.count then .error .mixedIndent
    else .ok (List.replicate (indents.length - left.length) .outdent, left)

namespace Cursor

/-- The step at the start of a line: a line without tokens does not count, and inside brackets no
indent does. -/
def startLine (c : Cursor) : Step :=
  match readIndent c.brackets {} 0 c.line c.rest with
  | .error fault => .stop (.layout fault)
  | .ok (indent, line, rest) =>
    let behind := { c with rest, line, fresh := false }
    if rest.head? = some '#' ∨ rest.head? = some '\n' then
      match rest.dropWhile (· != '\n') with
      | [] => .tokens [] line { behind with rest := [] }
      | _ :: rest => .tokens [] line { c with rest, line := line + 1 }
    else if c.brackets ≠ [] then .tokens [] line behind
    else
      match indentTokens indent c.indents with
      | .error fault => .stop (.layout fault)
      | .ok (kinds, indents) => .tokens kinds line { behind with indents }

/-! ### Texts between quotes -/

/-- What stands before the closing quote, or the three of them, and what follows, with its line. If
there is none, the line where reading ends is the error. -/
def readBody (quote : Char) (triple : Bool) (line : Nat) :
    List Char → Except Nat (List Char × Nat × List Char)
  | [] => .error line
  | ['\\'] => .error line
  | '\\' :: c :: cs =>
    match readBody quote triple (if c = '\n' then line + 1 else line) cs with
    | .ok (body, rest) => .ok ('\\' :: c :: body, rest)
    | .error line => .error line
  | c :: cs =>
    if c = quote ∧ (!triple || cs.take 2 == [quote, quote]) then
      .ok ([], line, if triple then cs.drop 2 else cs)
    else if c = '\n' ∧ !triple then .error line
    else
      match readBody quote triple (if c = '\n' then line + 1 else line) cs with
      | .ok (body, rest) => .ok (c :: body, rest)
      | .error line => .error line

/-- The step at a quote, given the letters in front of it. -/
def readText (c : Cursor) (letters : List Char) (quote : Char) (rest : List Char) : Step :=
  let triple := rest.take 2 == [quote, quote]
  match readBody quote triple c.line (if triple then rest.drop 2 else rest) with
  | .error line => .stop (.lexical (.openText triple line))
  | .ok (body, line, rest) =>
    let has (letter : Char) := (letters.map Char.toLower).contains letter
    .tokens [.text ⟨has 'r', has 'b', has 'f', body⟩] c.line { c with rest, line }

/-- The letters that may stand in front of a quote. -/
def isTextMark (letters : List Char) : Bool :=
  ["b", "u", "r", "f", "br", "rb", "fr", "rf"].contains
    (String.ofList (letters.map Char.toLower))

/-! ### Names, operators and brackets -/

/-- The step at a name, a reserved word or a text with letters in front. -/
def readName (c : Cursor) : Step :=
  let letters := c.rest.takeWhile mayBeInName
  let rest := c.rest.dropWhile mayBeInName
  let behind := { c with rest }
  let name := String.ofList letters
  match rest with
  | '"' :: cs => if isTextMark letters then c.readText letters '"' cs else named letters name behind
  | '\'' :: cs =>
    if isTextMark letters then c.readText letters '\'' cs else named letters name behind
  | _ => named letters name behind
where
  /-- The step at a name or a reserved word. -/
  named (letters : List Char) (name : String) (behind : Cursor) : Step :=
    match (if letters.all (·.toNat < 128) then none else nameFault? letters) with
    | some d => .stop (.lexical (.character d))
    | none =>
      .tokens [if reservedWords.contains name then .fixed name else .name name] behind.line behind

/-- The operators of more than one character, the longer ones first. -/
def longOperators : List String := [
  "**=", "//=", "<<=", ">>=", "...", "!=", "%=", "&=", "**", "*=", "+=", "-=", "->", "//", "/=",
  ":=", "<<", "<=", "<>", "==", ">=", ">>", "@=", "^=", "|="]

/-- The bracket that a closing one closes. -/
def openingOf? : Char → Option Char
  | ')' => some '('
  | ']' => some '['
  | '}' => some '{'
  | _ => none

/-- The brackets that are open behind a character. -/
def bracketsBehind (d : Char) (line : Nat) (brackets : List (Char × Nat)) :
    Except LexicalFault (List (Char × Nat)) :=
  if d = '(' ∨ d = '[' ∨ d = '{' then
    if maxBrackets ≤ brackets.length then .error .tooManyBrackets
    else .ok ((d, line) :: brackets)
  else
    match openingOf? d, brackets with
    | none, _ => .ok brackets
    | some _, [] => .error (.bracket (.unmatched d) none)
    | some expected, (opening, openLine) :: others =>
      if opening = expected then .ok others
      else .error (.bracket (.mismatched d opening)
        (if openLine = line then none else some openLine))

/-- The step at an operator or a bracket. -/
def readOperator (c : Cursor) (d : Char) (cs : List Char) : Step :=
  match longOperators.find? fun operator => operator.toList.isPrefixOf (d :: cs) with
  | some operator =>
    .tokens [.fixed operator] c.line { c with rest := (d :: cs).drop operator.length }
  | none =>
    match bracketsBehind d c.line c.brackets with
    | .error fault => .stop (.lexical fault)
    | .ok brackets =>
      if Text.isPrintable d then .tokens [.fixed d.toString] c.line { c with rest := cs, brackets }
      else .stop (.lexical (.character d))

/-- The step at a number. -/
def readNumber (c : Cursor) : Step :=
  match Numeral.read c.rest with
  | .error fault => .stop (.lexical fault)
  | .ok (n, rest) => .tokens [.number n] c.line { c with rest }

/-- The step inside a line. -/
def readToken (c : Cursor) : Step :=
  match c.rest with
  | [] => if c.brackets = [] then .finish c.line else .stop (.layout (endFault c.brackets))
  | ['\\', '\n'] => .stop (.layout (endFault c.brackets))
  | '\\' :: '\n' :: cs => .tokens [] c.line { c with rest := cs, line := c.line + 1 }
  | '\\' :: _ => .stop (.layout .continuation)
  | d :: cs =>
    if d = ' ' ∨ d = '\t' ∨ d = '\x0c' then .tokens [] c.line { c with rest := cs }
    else if d = '#' then .tokens [] c.line { c with rest := cs.dropWhile (· != '\n') }
    else if d = '\n' then
      .tokens (if c.brackets = [] then [.line] else []) c.line
        { c with rest := cs, line := c.line + 1, fresh := true }
    else if d.isDigit ∨ (d = '.' ∧ cs.head?.any Char.isDigit) then c.readNumber
    else if mayBeInName d then c.readName
    else if d = '"' ∨ d = '\'' then c.readText [] d cs
    else c.readOperator d cs

/-- The next step. -/
def step (c : Cursor) : Step := if c.fresh then c.startLine else c.readToken

end Cursor

/-! ### The tokens of a text -/

/-- The tokens of a text. -/
structure Source where
  tokens : Array Token
  /-- What ends the tokens before the text ends. -/
  fault : Option Fault
  /-- The innermost bracket that is open where the tokens end, with its line. -/
  openBracket : Option (Char × Nat)
  /-- Whether the end of the text had to be seen to tell the last token. -/
  endSeen : Bool

/-- Whether the character behind a token has to be seen to tell where the token ends: not if it is
an operator of three characters or ends with a quote, unless the quotes hold nothing. -/
def endsByNext (token : List Char) : Bool :=
  match token.getLast? with
  | some '"' => token.dropWhile Char.isAlpha == ['"', '"']
  | some '\'' => token.dropWhile Char.isAlpha == ['\'', '\'']
  | _ => token.length ≠ 3 || !Cursor.longOperators.contains (String.ofList token)

/-- Adds the tokens of a text from a place on, in at most `fuel` steps. -/
def Source.addFrom (tokens : Array Token) (endSeen : Bool) (c : Cursor) : Nat → Source
  | 0 => ⟨tokens, some (.layout .textEnds), c.brackets.head?, endSeen⟩
  | fuel + 1 =>
    match c.step with
    | .stop fault => ⟨tokens, some fault, c.brackets.head?, endSeen⟩
    | .finish line => ⟨tokens.push ⟨.ending, line, 0⟩, none, none, true⟩
    | .tokens kinds line behind =>
      let added := kinds.map fun kind => (⟨kind, line, behind.brackets.length⟩ : Token)
      let endSeen := !kinds.isEmpty && behind.rest.isEmpty && endsByNext c.rest
      Source.addFrom (tokens ++ added) endSeen behind fuel

/-- A text in which every line ends with a line feed. -/
def withLineFeeds : List Char → List Char
  | '\r' :: '\n' :: cs => '\n' :: withLineFeeds cs
  | '\r' :: cs => '\n' :: withLineFeeds cs
  | c :: cs => c :: withLineFeeds cs
  | [] => []

/-- The tokens of a text that starts on a line. A step takes a character or goes on from the start
of a line, and so twice as many steps as characters are enough. -/
def Source.ofChars (line : Nat) (text : List Char) : Source :=
  Source.addFrom #[] false { rest := withLineFeeds text, line } (2 * text.length + 2)

end RecordSearch.Expression
