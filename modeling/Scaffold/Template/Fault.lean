import Scaffold.Value.Detail

/-!
# Failures of rendering

A failure names its cause; `message` is its wording. A failure inside a filter,
test or function call keeps the failure that caused it.
-/

namespace Scaffold.Template

open Text

/-- What a call names. -/
inductive Callable where
  | filter
  | test
  | function
  deriving DecidableEq, Repr

inductive Fault where
  /-- A path without a value, with the path that its brackets made of it. -/
  | undefined (path template : String) (resolved : Option String)
  /-- The path between the brackets of another one failed. -/
  | badBrackets (path : String) (cause : Fault)
  /-- Only texts and numbers can stand between brackets. -/
  | noIndex (inner path : String)
  | unknown (kind : Callable) (name : String)
  | inCall (kind : Callable) (name : String) (cause : Fault)
  | wrongValue (filter : String) (value : Value) (expected : String)
  | wrongArgument (kind : Callable) (name argument : String) (value : Value) (expected : String)
  | missingArgument (kind : Callable) (name argument : String)
  /-- The argument of the function that always fails. -/
  | thrown (message : String)
  | noTemplate (names : List String)
  | other (text : String)
  deriving Repr, Inhabited

def Callable.title : Callable → String
  | filter => "Filter"
  | test => "Test"
  | function => "Function"

namespace Fault

def message : Fault → String
  | undefined path template resolved =>
    let start := "Variable \x60" ++ path ++ "\x60 not found in context while rendering '" ++
      template ++ "'"
    match resolved with
    | some resolved => start ++ ": the evaluated version was \x60" ++ resolved ++
        "\x60. Maybe the index is out of bounds?"
    | none => start
  | badBrackets path cause =>
    "Variable " ++ path ++ " can not be evaluated because: " ++ cause.message
  | noIndex inner path =>
    "Only variables evaluating to String or Number can be used as index (\x60" ++ inner ++
      "\x60 of \x60" ++ path ++ "\x60)"
  | unknown kind name => kind.title ++ " '" ++ name ++ "' not found"
  | inCall kind name cause => kind.title ++ " call '" ++ name ++ "' failed: " ++ cause.message
  | wrongValue filter value expected =>
    "Filter \x60" ++ filter ++ "\x60 was called on an incorrect value: got \x60" ++
      value.shown ++ "\x60 but expected " ++ expected
  | wrongArgument kind name argument value expected =>
    kind.title ++ " \x60" ++ name ++ "\x60 received an incorrect type for arg \x60" ++
      argument ++ "\x60: got \x60" ++ value.shown ++ "\x60 but expected " ++ expected
  | missingArgument kind name argument =>
    kind.title ++ " \x60" ++ name ++ "\x60 expected an arg called \x60" ++ argument ++ "\x60"
  | thrown message => message
  | noTemplate names => "Template '[" ++ String.intercalate ", " names ++ "]' not found"
  | other text => text

/-- What the outermost failure says alone. -/
def headline : Fault → String
  | inCall kind name _ => kind.title ++ " call '" ++ name ++ "' failed"
  | fault => fault.message

/-- The failure without the failure that caused it. -/
def withoutCause (fault : Fault) : Fault := other fault.headline

end Fault

/-! ## Names without a value -/

/-- The name in a message about a name without a value, at its first place: the
characters between backticks, at least one, with the fixed words around them. -/
def undefinedNameIn : List Char → Option (List Char)
  | [] => none
  | c :: cs =>
    let here : Option (List Char) :=
      match stripPrefixChars "Variable \x60".toList (c :: cs) with
      | none => none
      | some rest =>
        let name := rest.takeWhile (· != '\x60')
        if name.isEmpty then none
        else
          (stripPrefixChars "\x60 not found in context".toList (rest.drop name.length)).map
            fun _ => name
    match here with
    | some name => some name
    | none => undefinedNameIn cs

end Scaffold.Template
