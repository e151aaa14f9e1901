import RecordSearch.Text.Quoted
import RecordSearch.Text.Similar

/-!
# Options of a command line

The words of a command line are options, their values, and arguments. An option has names with two
dashes or names of one letter with one dash; letters can be joined behind one dash, and the value of
an option follows in the next word, behind an equals sign, or right behind the letter. Two dashes
alone end the options.

`scan` tells the words apart; what is wrong with a command line is a `UsageError`.
-/

namespace RecordSearch

/-- What is wrong with a command line. -/
inductive UsageError where
  /-- There is no such option, but there are some of similar names. -/
  | noSuchOption (option : String) (similar : List String)
  | needsValue (option : String)
  | takesNoValue (option : String)
  | badValue (option reason : String)
  /-- A value that has to be a path holds the null character, which no path may. -/
  | nullInPath
  /-- There is no such command, but there are some of similar names. -/
  | noSuchCommand (name : String) (similar : List String)
  | missingArgument (name : String)
  | extraArguments (arguments : List String)
  /-- The environment names no output format. -/
  | badEnvironment (value : String) (choices : List String)
  deriving DecidableEq, Repr

/-- The names that may have been meant, in words. -/
def similarText (similar : List String) : String :=
  match similar with
  | [] => ""
  | [name] => " Did you mean " ++ Text.quoted name ++ "?"
  | names => " (Did you mean one of: " ++ ", ".intercalate (names.map Text.quoted) ++ "?)"

/-- A usage error in words. -/
def UsageError.message : UsageError → String
  | .noSuchOption option similar =>
    "No such option " ++ Text.quoted option ++ "." ++ similarText similar
  | .needsValue option => "Option " ++ Text.quoted option ++ " requires an argument."
  | .takesNoValue option => "Option " ++ Text.quoted option ++ " does not take a value."
  | .badValue option reason => "Invalid value for '" ++ option ++ "': " ++ reason
  | .nullInPath => "embedded null byte"
  | .noSuchCommand name similar =>
    "No such command " ++ Text.quoted name ++ "." ++ similarText similar
  | .missingArgument name => "Missing argument '" ++ name ++ "'."
  | .extraArguments arguments =>
    "Got unexpected extra argument" ++ (if arguments.length = 1 then "" else "s") ++ " (" ++
      " ".intercalate arguments ++ ")"
  | .badEnvironment value choices =>
    "Invalid SEARCHQUERY_OUTPUT " ++ Text.quoted value ++ "; expected one of: " ++
      ", ".intercalate choices ++ "."

/-- An option: its names with two dashes, its letters, and whether it has a value. -/
structure OptionSpec (ι : Type) where
  id : ι
  names : List String := []
  letters : List Char := []
  hasValue : Bool := false

/-- The words of a command line told apart: the options in order, those without a value with the
empty text, and the arguments. -/
structure Scan (ι : Type) where
  options : List (ι × String) := []
  arguments : List String := []
  deriving DecidableEq, Repr

namespace Scan

variable {ι : Type}

/-- Options put in front. -/
def addOptions (found : List (ι × String)) (s : Scan ι) : Scan ι :=
  { s with options := found ++ s.options }

/-- An argument put in front. -/
def addArgument (argument : String) (s : Scan ι) : Scan ι :=
  { s with arguments := argument :: s.arguments }

/-- The options that occur, in the order in which they first do, each with its last value. -/
def settled [DecidableEq ι] (s : Scan ι) : List (ι × String) :=
  (s.options.foldl (fun seen o => if seen.contains o.1 then seen else seen ++ [o.1]) []).map
    fun id => (id, (((s.options.filter fun o => o.1 = id).getLast?).map (·.2)).getD "")

/-- How often an option occurs. -/
def count [DecidableEq ι] (s : Scan ι) (id : ι) : Nat :=
  (s.options.filter fun o => o.1 = id).length

/-- The last value of an option. -/
def value? [DecidableEq ι] (s : Scan ι) (id : ι) : Option String :=
  ((s.options.filter fun o => o.1 = id).getLast?).map (·.2)

end Scan

variable {ι : Type}

/-- The options in one word, and the option whose value is the next word, with its name. -/
abbrev OptionWord (ι : Type) := List (ι × String) × Option (ι × String)

/-- The options of the letters behind one dash. -/
def lettersWord (specs : List (OptionSpec ι)) : List Char → Except UsageError (OptionWord ι)
  | [] => .ok ([], none)
  | c :: rest =>
    match specs.find? fun o => o.letters.contains c with
    | none => .error (.noSuchOption (String.ofList ['-', c]) [])
    | some o =>
      if o.hasValue then
        if rest.isEmpty then .ok ([], some (o.id, String.ofList ['-', c]))
        else .ok ([(o.id, String.ofList rest)], none)
      else (lettersWord specs rest).map fun w => ((o.id, "") :: w.1, w.2)

/-- A word cut at its first equals sign. -/
def cutAtEquals (word : List Char) : String × Option String :=
  match word.dropWhile (· != '=') with
  | [] => (String.ofList word, none)
  | _ :: value => (String.ofList (word.takeWhile (· != '=')), some (String.ofList value))

/-- The options in a word that starts with a dash. -/
def optionWord (specs : List (OptionSpec ι)) (word : String) : Except UsageError (OptionWord ι) :=
  let (name, value?) := cutAtEquals word.toList
  match specs.find? fun o => o.names.contains name with
  | some o =>
    match o.hasValue, value? with
    | true, some value => .ok ([(o.id, value)], none)
    | true, none => .ok ([], some (o.id, name))
    | false, some _ => .error (.takesNoValue name)
    | false, none => .ok ([(o.id, "")], none)
  | none =>
    match word.toList with
    | '-' :: '-' :: _ =>
      .error (.noSuchOption name (Text.suggestions name (specs.flatMap OptionSpec.names)))
    | letters => lettersWord specs letters.tail

/-- Whether a word is an option: a dash alone is none. -/
def isOptionWord (word : String) : Bool :=
  match word.toList with
  | '-' :: _ :: _ => true
  | _ => false

/-- Tells the words of a command line apart. Unless options may stand behind arguments, everything
from the first argument on is an argument. -/
def scan (specs : List (OptionSpec ι)) (mixed : Bool) :
    List String → Except UsageError (Scan ι)
  | [] => .ok {}
  | word :: rest =>
    if word = "--" then .ok { arguments := rest }
    else if isOptionWord word then
      match optionWord specs word with
      | .error e => .error e
      | .ok (found, none) => (scan specs mixed rest).map (.addOptions found)
      | .ok (found, some (id, name)) =>
        match rest with
        | [] => .error (.needsValue name)
        | value :: rest => (scan specs mixed rest).map (.addOptions (found ++ [(id, value)]))
    else if mixed then (scan specs mixed rest).map (.addArgument word)
    else .ok { arguments := word :: rest }

end RecordSearch
