/-!
# Blank characters and trimming

The blank characters are those of the Unicode property White_Space. Trimming
removes them from the ends of a text and never from its middle.
-/

namespace Scaffold.Text

/-- The characters with the property White_Space. -/
def isBlank (c : Char) : Bool :=
  let n := c.toNat
  (9 ≤ n && n ≤ 13) || n == 0x20 || n == 0x85 || n == 0xa0 || n == 0x1680 ||
    (0x2000 ≤ n && n ≤ 0x200a) || n == 0x2028 || n == 0x2029 || n == 0x202f ||
    n == 0x205f || n == 0x3000

/-! ## Trimming lists of characters -/

def dropEndWhile (p : Char → Bool) (cs : List Char) : List Char :=
  (cs.reverse.dropWhile p).reverse

def trimChars (cs : List Char) : List Char :=
  dropEndWhile isBlank (cs.dropWhile isBlank)

/-! ## Trimming texts -/

/-- The text without the characters of `p` at its start. -/
def trimStartWhere (p : Char → Bool) (s : String) : String :=
  String.ofList (s.toList.dropWhile p)

/-- The text without the characters of `p` at its end. -/
def trimEndWhere (p : Char → Bool) (s : String) : String :=
  String.ofList (dropEndWhile p s.toList)

/-- The text without the characters of `p` at both ends. -/
def trimWhere (p : Char → Bool) (s : String) : String :=
  String.ofList (dropEndWhile p (s.toList.dropWhile p))

def trimStart (s : String) : String := trimStartWhere isBlank s

def trimEnd (s : String) : String := trimEndWhere isBlank s

def trim (s : String) : String := String.ofList (trimChars s.toList)

theorem toList_trim (s : String) : (trim s).toList = trimChars s.toList := by
  simp [trim]

end Scaffold.Text
