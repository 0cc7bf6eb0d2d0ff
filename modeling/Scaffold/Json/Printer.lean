import Scaffold.Json.Basic

/-!
# Writing JSON

Strings escape the quote, the backslash and the control characters, with short
escapes where the standard has them. The compact form has no blanks; the pretty
form puts every item on a line of its own, two spaces deeper than its container,
and keeps empty containers on one line.
-/

namespace Scaffold.Json

/-! ## Strings -/

def hexDigits : List Char := "0123456789abcdef".toList

/-- The two hexadecimal digits of a number below 256. -/
def hex2 (n : Nat) : List Char :=
  [hexDigits.getD (n / 16) '0', hexDigits.getD (n % 16) '0']

def escapeChar (c : Char) : List Char :=
  if c = '"' then ['\\', '"']
  else if c = '\\' then ['\\', '\\']
  else if c.toNat = 8 then ['\\', 'b']
  else if c.toNat = 12 then ['\\', 'f']
  else if c = '\n' then ['\\', 'n']
  else if c = '\r' then ['\\', 'r']
  else if c = '\t' then ['\\', 't']
  else if c.toNat < 0x20 then ['\\', 'u', '0', '0'] ++ hex2 c.toNat
  else [c]

def quote (s : String) : String :=
  "\"" ++ String.ofList (s.toList.flatMap escapeChar) ++ "\""

/-! ## Documents -/

mutual

def compact : Json → String
  | .null => "null"
  | .bool b => if b then "true" else "false"
  | .number written => written
  | .string text => quote (text.getD "")
  | .array items => "[" ++ compactItems items ++ "]"
  | .object fields => "\x7b" ++ compactFields fields ++ "\x7d"

def compactItems : List Json → String
  | [] => ""
  | [item] => item.compact
  | item :: items => item.compact ++ "," ++ compactItems items

def compactFields : List (Option String × Json) → String
  | [] => ""
  | [(key, value)] => quote (key.getD "") ++ ":" ++ value.compact
  | (key, value) :: fields =>
    quote (key.getD "") ++ ":" ++ value.compact ++ "," ++ compactFields fields

end

/-- A line feed and the blanks of a depth. -/
def newline (depth : Nat) : String :=
  "\n" ++ String.ofList (List.replicate (2 * depth) ' ')

mutual

def prettyAt (depth : Nat) : Json → String
  | .array (item :: items) =>
    "[" ++ newline (depth + 1) ++ prettyItems (depth + 1) (item :: items) ++ newline depth ++ "]"
  | .object (field :: fields) =>
    "\x7b" ++ newline (depth + 1) ++ prettyFields (depth + 1) (field :: fields) ++
      newline depth ++ "\x7d"
  | .null => "null"
  | .bool b => if b then "true" else "false"
  | .number written => written
  | .string text => quote (text.getD "")
  | .array [] => "[]"
  | .object [] => "\x7b\x7d"

def prettyItems (depth : Nat) : List Json → String
  | [] => ""
  | [item] => item.prettyAt depth
  | item :: items => item.prettyAt depth ++ "," ++ newline depth ++ prettyItems depth items

def prettyFields (depth : Nat) : List (Option String × Json) → String
  | [] => ""
  | [(key, value)] => quote (key.getD "") ++ ": " ++ value.prettyAt depth
  | (key, value) :: fields =>
    quote (key.getD "") ++ ": " ++ value.prettyAt depth ++ "," ++ newline depth ++
      prettyFields depth fields

end

def pretty (j : Json) : String := j.prettyAt 0

end Scaffold.Json
