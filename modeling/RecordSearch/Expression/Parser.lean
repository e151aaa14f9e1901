import RecordSearch.Expression.Source
import RecordSearch.Expression.Tree
import Std.Data.HashMap

/-!
# Parsers

A parser goes through the tokens of an expression. It succeeds with a result, it fails, and then
another one may be tried from the same place, or it stops for good with a fault. What some rules
have found at a place is remembered.

Some parsers find faults only: they never succeed. They are tried when the tokens are read a second
time, after the first reading has failed.
-/

namespace RecordSearch.Expression

/-- The levels of the operators that stand between two operands and have a value, those that bind
less first. -/
inductive Level where
  | or
  | xor
  | and
  | shift
  | sum
  | product
  deriving DecidableEq, Repr, Hashable

/-- The rules whose findings are remembered. -/
inductive Rule where
  | expression
  | starExpression
  | disjunction
  | conjunction
  | inversion
  | operation (level : Level)
  | factor
  | awaited
  | primary
  | texts
  /-- What a loop assigns to. -/
  | target
  | unstarredTarget
  /-- What stands before the last attribute of a target. -/
  | targetOwner
  /-- The faults of an assignment to a name. -/
  | misnamed
  deriving DecidableEq, Repr, Hashable

/-- The arguments of a call. -/
structure Arguments where
  /-- How many arguments have no name. -/
  positional : Nat
  /-- Whether there are others. -/
  hasNamed : Bool
  /-- Whether there is one with two stars. -/
  hasDoubleStar : Bool
  deriving DecidableEq, Repr

/-- How far parsing has come. -/
structure Progress where
  position : Nat := 0
  /-- How many tokens have been looked at. -/
  seen : Nat := 0
  /-- For a rule and a position, the expression that was found and where it ends, if one was. -/
  found : Std.HashMap (Rule × Nat) (Option (Expr × Nat)) := {}
  /-- For a position, the arguments that were found and where they end, if there were some. -/
  foundArguments : Std.HashMap Nat (Option (Arguments × Nat)) := {}

/-- What a parser comes to. -/
inductive Outcome (α : Type) where
  | done (result : α)
  | failed
  | stopped (fault : Fault)

/-- What a parser is given. -/
structure Setting where
  source : Source
  /-- What is wrong with texts that follow each other, each with its line. -/
  textFault? : List (TextForm × Nat) → Option Fault
  /-- Whether to look for faults. -/
  diagnosing : Bool

/-- A parser of something. -/
def Parser (α : Type) : Type := Setting → Progress → Outcome α × Progress

namespace Parser

variable {α β : Type}

/-- Succeeds without a token. -/
def succeed (a : α) : Parser α := fun _ progress => (.done a, progress)

/-- Goes on with what was found. -/
def andThen (p : Parser α) (next : α → Parser β) : Parser β := fun setting progress =>
  match p setting progress with
  | (.done a, progress) => next a setting progress
  | (.failed, progress) => (.failed, progress)
  | (.stopped fault, progress) => (.stopped fault, progress)

instance : Monad Parser where
  pure := succeed
  bind := andThen

/-- Fails. -/
def fail : Parser α := fun _ progress => (.failed, progress)

/-- Stops with a fault. -/
def stop (fault : Fault) : Parser α := fun _ progress => (.stopped fault, progress)

/-- Stops with a fault of the grammar. -/
def blame (fault : GrammarFault) : Parser α := stop (.grammar fault)

/-- Goes on with what `p` finds. Only if `p` fails, `other` is tried from the same place. -/
def branch (p : Parser α) (next : α → Parser β) (other : Parser β) : Parser β :=
  fun setting progress =>
    match p setting progress with
    | (.done a, progress) => next a setting progress
    | (.failed, after) => other setting { after with position := progress.position }
    | (.stopped fault, progress) => (.stopped fault, progress)

/-- Tries `p` and, if it fails, `other`. -/
def orElse (p other : Parser α) : Parser α := branch p succeed other

/-- The first of some parsers that succeeds. -/
def firstOf (ps : List (Parser α)) : Parser α := ps.foldr orElse fail

/-- What `p` finds, if it succeeds; if it does not, no token is used. -/
def optional (p : Parser α) : Parser (Option α) := branch p (succeed ∘ some) (succeed none)

/-- Succeeds if `p` does, but uses no token. -/
def ahead (p : Parser α) : Parser Unit := fun setting progress =>
  match p setting progress with
  | (.done _, after) => (.done (), { after with position := progress.position })
  | (.failed, after) => (.failed, { after with position := progress.position })
  | (.stopped fault, after) => (.stopped fault, after)

/-- Succeeds if `p` fails, and uses no token. -/
def notAhead (p : Parser α) : Parser Unit := branch (ahead p) (fun _ => fail) (succeed ())

/-- What `p` finds again and again, at most `fuel` times. -/
def repeated (p : Parser α) : Nat → Parser (List α)
  | 0 => succeed []
  | fuel + 1 => branch p (fun a => (a :: ·) <$> repeated p fuel) (succeed [])

/-- The number of the tokens. -/
def size : Parser Nat := fun setting progress => (.done setting.source.tokens.size, progress)

/-- What `p`, which uses a token at least, finds again and again. -/
def many (p : Parser α) : Parser (List α) := size >>= repeated p

/-- What `p`, which uses a token at least, finds once or more. -/
def several (p : Parser α) : Parser (List α) := do return (← p) :: (← many p)

/-! ### Tokens -/

/-- The next token. Behind the last one, what is wrong with the text stops the parser. -/
def peek : Parser Token := fun setting progress =>
  let seen := { progress with seen := max progress.seen (progress.position + 1) }
  match setting.source.tokens[progress.position]? with
  | some token => (.done token, seen)
  | none =>
    match setting.source.fault with
    | some fault => (.stopped fault, seen)
    | none => (.failed, progress)

/-- Goes behind the next token. -/
def advance : Parser Unit := fun _ progress =>
  (.done (), { progress with position := progress.position + 1 })

/-- How many brackets are open at this place. -/
def depth : Parser Nat := fun setting progress =>
  (.done ((setting.source.tokens[progress.position - 1]?.map Token.depth).getD 0), progress)

/-- A token of a kind. -/
def token (kind : TokenKind) : Parser Unit := do
  if (← peek).kind = kind then advance else fail

/-- A reserved word or an operator. -/
def fixed (text : String) : Parser Unit := token (.fixed text)

/-- A bracket. -/
def bracket (c : Char) : Parser Unit := fixed c.toString

/-- One of some fixed tokens. -/
def oneOf (texts : List String) : Parser Unit := firstOf (texts.map fixed)

/-- A name. -/
def name : Parser String := do
  match (← peek).kind with
  | .name text => advance; return text
  | _ => fail

/-- What `p` finds, once or more, with commas between. -/
def commaSeparated (p : Parser α) : Parser (List α) := do
  return (← p) :: (← many (do fixed ","; p))

/-! ### Faults and memory -/

/-- Looks for a fault. -/
def diagnose (p : Parser α) : Parser α := fun setting progress =>
  if setting.diagnosing then p setting progress else (.failed, progress)

/-- Runs `p` without looking for faults. -/
def trusting (p : Parser α) : Parser α := fun setting progress =>
  p { setting with diagnosing := false } progress

/-- Remembers what a rule finds. -/
def remember (rule : Rule) (p : Parser Expr) : Parser Expr := fun setting progress =>
  let key := (rule, progress.position)
  match progress.found[key]? with
  | some (some (e, position)) => (.done e, { progress with position })
  | some none => (.failed, progress)
  | none =>
    match p setting progress with
    | (.done e, after) =>
      (.done e, { after with found := after.found.insert key (some (e, after.position)) })
    | (.failed, after) => (.failed, { after with found := after.found.insert key none })
    | (.stopped fault, after) => (.stopped fault, after)

/-- Remembers the arguments that are found. -/
def rememberArguments (p : Parser Arguments) : Parser Arguments := fun setting progress =>
  let key := progress.position
  match progress.foundArguments[key]? with
  | some (some (found, position)) => (.done found, { progress with position })
  | some none => (.failed, progress)
  | none =>
    match p setting progress with
    | (.done found, after) =>
      (.done found,
        { after with
          foundArguments := after.foundArguments.insert key (some (found, after.position)) })
    | (.failed, after) =>
      (.failed, { after with foundArguments := after.foundArguments.insert key none })
    | (.stopped fault, after) => (.stopped fault, after)

end Parser

end RecordSearch.Expression
