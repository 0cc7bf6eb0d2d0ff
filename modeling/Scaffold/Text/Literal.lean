import Scaffold.Text.ClusterTable

/-!
# Literals

A text as a literal between double quotes, in which every character that does
not show is written by its code.
-/

namespace Scaffold.Text

/-- The digits of a number to the base sixteen. -/
def hexText (n : Nat) : String := String.ofList (Nat.toDigits 16 n)

/-- Whether a character shows nothing of its own: controls, marks without a
letter and blanks other than the space. -/
def isHidden (c : Char) : Bool :=
  let n := c.toNat
  let within := fun (runs : List (Nat × Nat)) =>
    runs.any fun (first, last) => first ≤ n && n ≤ last
  if n < 0x7f then n < 0x20
  else within ClusterTable.controls || within ClusterTable.extenders ||
    within [(0x7f, 0xa0), (0x1680, 0x1680), (0x2000, 0x200f), (0x202f, 0x202f), (0x205f, 0x205f),
      (0x3000, 0x3000), (0xe000, 0xf8ff)]

def literalChar (c : Char) : String :=
  if c = '\x00' then "\\0"
  else if c = '\t' then "\\t"
  else if c = '\n' then "\\n"
  else if c = '\r' then "\\r"
  else if c = '"' then "\\\""
  else if c = '\\' then "\\\\"
  else if isHidden c then "\\u\x7b" ++ hexText c.toNat ++ "\x7d"
  else String.singleton c

def literal (s : String) : String :=
  "\"" ++ String.join (s.toList.map literalChar) ++ "\""

end Scaffold.Text
