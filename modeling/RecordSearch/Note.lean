import RecordSearch.Json.Printer
import RecordSearch.Query.Reading

/-!
# Notes

What a run may note about itself. Every kind of note has its level, its source and its wording; a
reader of the notes sees those from some level on.
-/

namespace RecordSearch

/-- How much a note matters. -/
inductive Level where
  | debug
  | info
  | warning
  deriving DecidableEq, Repr

namespace Level

/-- The level's name. -/
def name : Level → String
  | .debug => "DEBUG"
  | .info => "INFO"
  | .warning => "WARNING"

/-- Levels in ascending order. -/
def rank : Level → Nat
  | .debug => 0
  | .info => 1
  | .warning => 2

end Level

/-- Something that a run notes. -/
inductive Note where
  /-- The bracket at an index of the tokens was read as a term. -/
  | deepBracket (index : Int)
  /-- So many tokens stand behind the end of the query. -/
  | ignoredTokens (count : Nat) (query : String)
  /-- A query was read from so many tokens. -/
  | parsed (query : String) (count : Nat)
  /-- The records are not one document, and are tried line by line. -/
  | lineByLine
  | loaded (count : Nat)
  /-- So many of the records matched the query. -/
  | matched (count total : Nat) (query : String)
  /-- A failure that nobody has planned for. -/
  | accident (kind : String)
  /-- The file for the notes cannot be opened. -/
  | noNotesFile (path reason : String)
  deriving DecidableEq, Repr

namespace Note

/-- How much a note matters. -/
def level : Note → Level
  | .deepBracket _ => .debug
  | .ignoredTokens _ _ => .debug
  | .parsed _ _ => .debug
  | .lineByLine => .debug
  | .loaded _ => .info
  | .matched _ _ _ => .info
  | .accident _ => .debug
  | .noNotesFile _ _ => .warning

/-- The part of the program that a note comes from. -/
def source : Note → String
  | .deepBracket _ => "searchquery.parser"
  | .ignoredTokens _ _ => "searchquery.parser"
  | .parsed _ _ => "searchquery.parser"
  | .lineByLine => "searchquery.cli.records"
  | .loaded _ => "searchquery.cli.records"
  | .matched _ _ _ => "searchquery.cli.commands.match_cmd"
  | .accident _ => "searchquery.cli.context"
  | .noNotesFile _ _ => "searchquery"

/-- A note in words. -/
def message : Note → String
  | .deepBracket index =>
    "Nesting deeper than " ++ toString maxDepth ++ " levels, reading '(' at token " ++
      toString index ++ " as a term"
  | .ignoredTokens count query =>
    "Ignoring " ++ toString count ++ " token(s) after unmatched ')' in " ++ Text.quoted query
  | .parsed query count =>
    "Parsed " ++ Text.quoted query ++ " from " ++ toString count ++ " token(s)"
  | .lineByLine => "Input is not a single JSON document, trying JSON Lines"
  | .loaded count => "Loaded " ++ toString count ++ " record(s)"
  | .matched count total query =>
    toString count ++ " of " ++ toString total ++ " record(s) matched " ++ Text.quoted query
  | .accident kind => "Unhandled " ++ kind
  | .noNotesFile path reason =>
    "File logging disabled, cannot open " ++ path ++ ": " ++ reason

/-- A note as it stands in a file of notes. -/
def line (n : Note) : String := n.level.name ++ " " ++ n.source ++ ": " ++ n.message

end Note

/-- What reading a query text notes: the brackets that were read as terms, the tokens behind the end
of the query, and that it was read. -/
def parseNotes (query : String) : List Note :=
  let tokens := tokenize query
  let r := readGroup 0 tokens
  r.shallow.map (fun left => .deepBracket ((tokens.length : Int) - left)) ++
    (if r.rest.isEmpty then [] else [.ignoredTokens r.rest.length query]) ++
    [.parsed query tokens.length]

end RecordSearch
