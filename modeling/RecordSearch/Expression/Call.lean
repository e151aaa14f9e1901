import RecordSearch.Expression.Enclosure

/-!
# Calls

The arguments of a call stand in round brackets. Arguments with a name stand behind those without,
and such as are spread from a dictionary by two stars come last. A generator that is the only
argument needs no brackets of its own.
-/

namespace RecordSearch.Expression

namespace Arguments

/-- An argument without a name. -/
def unnamed : Arguments := ⟨1, false, false⟩

/-- An argument with a name. -/
def named : Arguments := ⟨0, true, false⟩

/-- Arguments with two stars. -/
def doubleStarred : Arguments := ⟨0, true, true⟩

/-- Arguments one behind the other. -/
def join (all : List Arguments) : Arguments :=
  ⟨all.foldl (fun n part => n + part.positional) 0, all.any hasNamed, all.any hasDoubleStar⟩

end Arguments

open RecordSearch.Expression.Parser

variable (sub : Rule → Parser Expr)

namespace Argument

/-- A fault of an argument with a name. -/
def nameFault : Parser Arguments :=
  firstOf (
    (["True", "False", "None"].map fun word => do
      fixed word; fixed "="; blame (.assignment word)) ++
    [do let _ ← name
        fixed "="
        let _ ← sub .expression
        Loop.all sub
        blame .equals,
     do notAhead (do let _ ← name; fixed "=")
        let _ ← sub .expression
        fixed "="
        blame (.argument .assignment)])

/-- An argument with a name. -/
def named : Parser Arguments := do
  let _ ← name
  fixed "="
  let _ ← sub .expression
  return .named

/-- An argument with a name or a star. -/
def namedOrStarred : Parser Arguments :=
  firstOf [diagnose (nameFault sub), named sub, do let _ ← spread sub; return .unnamed]

/-- An argument with a name or two stars. -/
def namedOrDoubleStarred : Parser Arguments :=
  firstOf [
    diagnose (nameFault sub),
    named sub,
    do fixed "**"; let _ ← sub .expression; return .doubleStarred]

/-- Arguments with names or stars. -/
def severalNamed : Parser Arguments :=
  Arguments.join <$> firstOf [
    do let front ← commaSeparated (namedOrStarred sub)
       fixed ","
       return front ++ (← commaSeparated (namedOrDoubleStarred sub)),
    commaSeparated (namedOrStarred sub),
    commaSeparated (namedOrDoubleStarred sub)]

/-- An argument without a name. -/
def unnamed : Parser Arguments := do
  let _ ← firstOf [
    spread sub,
    do let e ← bareExpression sub; notAhead (fixed "="); return e]
  return .unnamed

/-- Arguments with commas between. -/
def several : Parser Arguments :=
  firstOf [
    do let front ← commaSeparated (unnamed sub)
       let others ← optional do fixed ","; severalNamed sub
       return .join (front ++ others.toList),
    severalNamed sub]

/-- A generator that needs brackets of its own. -/
def bareGenerator : Parser Arguments := do
  let _ ← sub .expression
  Loop.all sub
  blame (.argument .bareGenerator)

/-- A fault of the arguments of a call. -/
def fault : Parser Arguments :=
  firstOf [
    do let _ ← firstOf [
         do let _ ← commaSeparated (unnamed sub); fixed ","; severalNamed sub,
         severalNamed sub]
       fixed ","
       let _ ← commaSeparated (do let _ ← spread sub; notAhead (fixed "="))
       blame (.argument .starBehindDoubleStar),
    do let _ ← sub .expression
       Loop.all sub
       fixed ","
       let _ ← optional <| firstOf [
         do let _ ← several sub,
         do let _ ← sub .expression; Loop.all sub]
       blame (.argument .bareGenerator),
    do let _ ← name
       fixed "="
       let _ ← sub .expression
       Loop.all sub
       blame .equals,
    branch (do let front ← several sub; Loop.all sub; return front)
      (fun front => if front.positional ≤ 1 then fail else blame (.argument .bareGenerator))
      (firstOf [
        do let _ ← several sub; fixed ","; bareGenerator sub,
        do let front ← several sub
           fixed ","
           let _ ← several sub
           blame (.argument (if front.hasDoubleStar then .behindDoubleStar else .behindNamed))])]

/-- The arguments of a call. -/
def all : Parser Arguments :=
  rememberArguments <| firstOf [
    do let found ← several sub
       let _ ← optional (fixed ",")
       ahead (bracket ')')
       return found,
    diagnose (fault sub)]

end Argument

namespace Primary

/-- What follows an expression directly, such as the arguments of a call; `behind` has to succeed
behind it. -/
def suffix (behind : Parser Unit) : Parser (Expr → Expr) :=
  firstOf [
    do fixed "."; let _ ← name; behind; return fun _ => .attribute,
    do let _ ← Comprehension.generator sub; behind; return fun e => .call e true,
    do bracket '('
       let found ← optional (Argument.all sub)
       bracket ')'
       behind
       return fun e => .call e found.isSome]

/-- A number. -/
def number (n : Numeral) : Parser Expr :=
  match n with
  | .long digits => stop (.longNumber digits)
  | n => return .number n

/-- An expression that cannot be taken apart, or one in brackets. -/
def atom : Parser Expr := do
  match (← peek).kind with
  | .name text => advance; return .name text
  | .number n => advance; number n
  | .text _ => sub .texts
  | .fixed "(" => Enclosure.round sub
  | .fixed "\x7b" => Enclosure.braced sub
  | .fixed "..." => advance; return .constant "ellipsis"
  | .fixed word =>
    if word = "True" ∨ word = "False" ∨ word = "None" then
      advance
      return .constant word
    else fail
  | _ => fail

/-- An atom with what follows it directly. -/
def plain : Parser Expr := do
  let e ← atom sub
  return (← many (suffix sub (succeed ()))).foldl (fun e wrap => wrap e) e

/-- What stands before the last attribute of a target. -/
def targetOwner : Parser Expr := do
  let e ← atom sub
  ahead Target.continuation
  return (← many (suffix sub (ahead Target.continuation))).foldl (fun e wrap => wrap e) e

/-- Texts that follow each other, which are one. -/
def texts : Parser Expr := do
  let forms ← several text
  match ← textFault? forms with
  | some fault => stop fault
  | none => return if forms.any fun f => f.1.template then .template else .text
where
  /-- A text with its line. -/
  text : Parser (TextForm × Nat) := do
    let token ← peek
    match token.kind with
    | .text form => advance; return (form, token.line)
    | _ => fail
  /-- What is wrong with some texts. -/
  textFault? (forms : List (TextForm × Nat)) : Parser (Option Fault) := fun setting progress =>
    (.done (setting.textFault? forms), progress)

end Primary

end RecordSearch.Expression
