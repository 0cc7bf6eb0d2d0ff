import Scaffold.Shell.Program

/-!
# Copying

`cat` copies files and its input one behind the other; it can number lines, join
blank ones and make invisible octets visible.
-/

namespace Scaffold.Shell.Copying

/-- An octet as visible characters; tabs stay as they are. -/
def visible (c : Char) : Octets :=
  let n := c.toNat
  let plain (n : Nat) : Octets :=
    if n < 0x20 then ['^', Char.ofNat (n + 0x40)] else if n = 0x7f then ['^', '?'] else [Char.ofNat n]
  if c = '\t' then [c] else if n < 0x80 then plain n else 'M' :: '-' :: plain (n - 0x80)

structure Style where
  numbers : Bool
  /-- Blank lines are not numbered. -/
  skipsBlank : Bool
  squeezes : Bool
  showsEnds : Bool
  showsTabs : Bool
  showsOctets : Bool

def Style.ofOptions (o : Options) : Style :=
  ⟨o.has ['n', 'b'], o.has ['b'], o.has ['s'], o.has ['E', 'e', 'A'], o.has ['T', 't', 'A'],
    o.has ['v', 'e', 't', 'A']⟩

/-- A line as a style shows it, without its number. -/
def Style.line (style : Style) (text : Octets) (ended : Bool) : Octets :=
  let shown (c : Char) : Octets :=
    if c = '\t' then if style.showsTabs then ['^', 'I'] else [c]
    else if style.showsOctets then visible c
    else [c]
  let body := match ended && style.showsEnds, text.getLast? with
    | true, some '\x0d' => text.dropLast.flatMap shown ++ ['^', 'M']
    | _, _ => text.flatMap shown
  body ++ if ended then (if style.showsEnds then ['$', '\n'] else ['\n']) else []

/-- Lines as a style shows them; `n` were numbered before, and the flag tells that
a blank one came last. -/
def Style.lines (style : Style) : (n : Nat) → (afterBlank : Bool) → List (Octets × Bool) → Octets
  | _, _, [] => []
  | n, afterBlank, (text, ended) :: more =>
    if text.isEmpty && afterBlank && style.squeezes then style.lines n true more
    else
      let numbered := style.numbers && !(style.skipsBlank && text.isEmpty)
      let number := if numbered then padded 6 (n + 1) ++ ['\t'] else []
      number ++ style.line text ended ++
        style.lines (if numbered then n + 1 else n) text.isEmpty more

def cat : Program :=
  withOptions "cat" "AbeEnstTuv".toList
    [("number-nonblank", 'b'), ("number", 'n'), ("squeeze-blank", 's'),
      ("show-nonprinting", 'v'), ("show-ends", 'E'), ("show-tabs", 'T'), ("show-all", 'A')] true
    fun files options input =>
      let (contents, complaints) := gathered "cat" files options.operands input
      ⟨(Style.ofOptions options).lines 0 false (linesOf contents.flatten), complaints,
        if complaints.isEmpty then 0 else 1,
        if options.operands.isEmpty || options.operands.contains ['-'] then [] else input⟩

end Scaffold.Shell.Copying
