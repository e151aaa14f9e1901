/-!
# Names of characters

A text may give a character by its name, in letters of either case. The names known here are those
of the Latin letters, with marks or without, of the Greek ones, and of the signs and controls that
are most in use. `isCharacterName` tells whether a name is one of them.
-/

namespace RecordSearch.Expression

/-- Marks of Latin letters, each with the letters that bear it. -/
def letterMarks : List (String × String) := [
  ("ACUTE", "AEIOUY"), ("CIRCUMFLEX", "AEIOU"), ("DIAERESIS", "AEIOUY"), ("GRAVE", "AEIOU"),
  ("RING ABOVE", "A"), ("TILDE", "ANO"), ("CEDILLA", "C"), ("STROKE", "O")]

/-- The Latin letters: the plain ones, ligatures and special ones, and those with a mark. -/
def latinLetters : List String :=
  "ABCDEFGHIJKLMNOPQRSTUVWXYZ".toList.map Char.toString ++
    ["AE", "ETH", "SHARP S", "THORN"] ++
    letterMarks.flatMap fun m => m.2.toList.map fun c => c.toString ++ " WITH " ++ m.1

/-- The Greek letters. -/
def greekLetters : List String := [
  "ALPHA", "BETA", "GAMMA", "DELTA", "EPSILON", "ZETA", "ETA", "THETA", "IOTA", "KAPPA", "LAMDA",
  "MU", "NU", "XI", "OMICRON", "PI", "RHO", "SIGMA", "TAU", "UPSILON", "PHI", "CHI",
  "PSI", "OMEGA"]

/-- The signs and controls that are most in use. -/
def signNames : List String := [
  "GREEK SMALL LETTER FINAL SIGMA", "SPACE", "EXCLAMATION MARK", "QUOTATION MARK", "NUMBER SIGN",
  "DOLLAR SIGN", "PERCENT SIGN", "AMPERSAND", "APOSTROPHE", "LEFT PARENTHESIS", "RIGHT PARENTHESIS",
  "ASTERISK", "PLUS SIGN", "COMMA", "HYPHEN-MINUS", "FULL STOP", "SOLIDUS", "DIGIT ZERO",
  "DIGIT ONE", "DIGIT TWO", "DIGIT THREE", "DIGIT FOUR", "DIGIT FIVE", "DIGIT SIX", "DIGIT SEVEN",
  "DIGIT EIGHT", "DIGIT NINE", "COLON", "SEMICOLON", "LESS-THAN SIGN", "EQUALS SIGN",
  "GREATER-THAN SIGN", "QUESTION MARK", "COMMERCIAL AT", "LEFT SQUARE BRACKET", "REVERSE SOLIDUS",
  "RIGHT SQUARE BRACKET", "CIRCUMFLEX ACCENT", "LOW LINE", "GRAVE ACCENT", "LEFT CURLY BRACKET",
  "VERTICAL LINE", "RIGHT CURLY BRACKET", "TILDE", "NO-BREAK SPACE", "INVERTED EXCLAMATION MARK",
  "CENT SIGN", "POUND SIGN", "CURRENCY SIGN", "YEN SIGN", "BROKEN BAR", "SECTION SIGN", "DIAERESIS",
  "COPYRIGHT SIGN", "FEMININE ORDINAL INDICATOR", "LEFT-POINTING DOUBLE ANGLE QUOTATION MARK",
  "NOT SIGN", "SOFT HYPHEN", "REGISTERED SIGN", "MACRON", "DEGREE SIGN", "PLUS-MINUS SIGN",
  "SUPERSCRIPT TWO", "SUPERSCRIPT THREE", "ACUTE ACCENT", "MICRO SIGN", "PILCROW SIGN",
  "MIDDLE DOT", "CEDILLA", "SUPERSCRIPT ONE", "MASCULINE ORDINAL INDICATOR",
  "RIGHT-POINTING DOUBLE ANGLE QUOTATION MARK", "VULGAR FRACTION ONE QUARTER",
  "VULGAR FRACTION ONE HALF", "VULGAR FRACTION THREE QUARTERS", "INVERTED QUESTION MARK",
  "MULTIPLICATION SIGN", "DIVISION SIGN", "HYPHEN", "NON-BREAKING HYPHEN", "FIGURE DASH", "EN DASH",
  "EM DASH", "HORIZONTAL BAR", "DOUBLE VERTICAL LINE", "DOUBLE LOW LINE",
  "LEFT SINGLE QUOTATION MARK", "RIGHT SINGLE QUOTATION MARK", "SINGLE LOW-9 QUOTATION MARK",
  "SINGLE HIGH-REVERSED-9 QUOTATION MARK", "LEFT DOUBLE QUOTATION MARK",
  "RIGHT DOUBLE QUOTATION MARK", "DOUBLE LOW-9 QUOTATION MARK",
  "DOUBLE HIGH-REVERSED-9 QUOTATION MARK", "DAGGER", "DOUBLE DAGGER", "BULLET", "TRIANGULAR BULLET",
  "ONE DOT LEADER", "TWO DOT LEADER", "HORIZONTAL ELLIPSIS", "HYPHENATION POINT", "PER MILLE SIGN",
  "PER TEN THOUSAND SIGN", "PRIME", "DOUBLE PRIME", "TRIPLE PRIME", "REVERSED PRIME",
  "REVERSED DOUBLE PRIME", "REVERSED TRIPLE PRIME", "CARET",
  "SINGLE LEFT-POINTING ANGLE QUOTATION MARK", "SINGLE RIGHT-POINTING ANGLE QUOTATION MARK",
  "REFERENCE MARK", "DOUBLE EXCLAMATION MARK", "INTERROBANG", "OVERLINE", "EURO SIGN",
  "BITCOIN SIGN", "NUMERO SIGN", "TRADE MARK SIGN", "LEFTWARDS ARROW", "UPWARDS ARROW",
  "RIGHTWARDS ARROW", "DOWNWARDS ARROW", "LEFT RIGHT ARROW", "UP DOWN ARROW", "NORTH WEST ARROW",
  "NORTH EAST ARROW", "SOUTH EAST ARROW", "SOUTH WEST ARROW", "LEFTWARDS DOUBLE ARROW",
  "RIGHTWARDS DOUBLE ARROW", "LEFT RIGHT DOUBLE ARROW", "FOR ALL", "PARTIAL DIFFERENTIAL",
  "THERE EXISTS", "EMPTY SET", "ELEMENT OF", "N-ARY PRODUCT", "N-ARY SUMMATION", "MINUS SIGN",
  "SQUARE ROOT", "INFINITY", "LOGICAL AND", "LOGICAL OR", "INTERSECTION", "UNION", "INTEGRAL",
  "ALMOST EQUAL TO", "NOT EQUAL TO", "LESS-THAN OR EQUAL TO", "GREATER-THAN OR EQUAL TO",
  "BOX DRAWINGS LIGHT HORIZONTAL", "BOX DRAWINGS LIGHT VERTICAL", "FULL BLOCK", "BLACK SQUARE",
  "BLACK CIRCLE", "BLACK STAR", "WHITE STAR", "WHITE SMILING FACE", "SNOWMAN", "BLACK SPADE SUIT",
  "BLACK CLUB SUIT", "BLACK HEART SUIT", "BLACK DIAMOND SUIT", "CHECK MARK", "HEAVY CHECK MARK",
  "BALLOT X", "HEAVY BLACK HEART", "ZERO WIDTH NO-BREAK SPACE", "REPLACEMENT CHARACTER",
  "GRINNING FACE", "FACE WITH TEARS OF JOY", "THUMBS UP SIGN", "ROCKET", "SNAKE", "PILE OF POO",
  "PARTY POPPER", "FIRE", "NULL", "CHARACTER TABULATION", "TAB", "LINE FEED", "NEW LINE", "LF",
  "NL", "CARRIAGE RETURN", "CR", "ESCAPE", "ESC", "FORM FEED", "LINE TABULATION", "BACKSPACE",
  "ALERT", "DELETE", "NBSP", "SHY", "ZERO WIDTH SPACE", "ZERO WIDTH JOINER",
  "ZERO WIDTH NON-JOINER", "BYTE ORDER MARK", "COMBINING ACUTE ACCENT", "COMBINING GRAVE ACCENT",
  "COMBINING DIAERESIS", "COMBINING TILDE", "COMBINING CEDILLA", "IDEOGRAPHIC SPACE", "EN SPACE",
  "EM SPACE", "THIN SPACE", "HAIR SPACE", "LINE SEPARATOR", "PARAGRAPH SEPARATOR"]

/-- What the name of a letter says of its case and script, each with the letters that it may stand
before. -/
def letterNames : List (String × List String) := [
  ("LATIN SMALL LETTER ", latinLetters), ("LATIN CAPITAL LETTER ", latinLetters),
  ("GREEK SMALL LETTER ", greekLetters), ("GREEK CAPITAL LETTER ", greekLetters)]

/-- Whether a text is the name of a character. -/
def isCharacterName (text : List Char) : Bool :=
  let name := text.map Char.toUpper
  signNames.contains (String.ofList name) ||
    letterNames.any fun l =>
      l.1.toList.isPrefixOf name && l.2.contains (String.ofList (name.drop l.1.length))

end RecordSearch.Expression
