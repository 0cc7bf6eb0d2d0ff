import Scaffold.Text.Digit
import Scaffold.Yaml.Scalar

/-!
# Tokens of a document

A document is cut into scalars, marks and the starts and ends of block
collections, which its indentation shows. A text becomes a key only when the
colon behind it is met, so the place of every text that may be one is kept; a
key stands on one line and is shorter than 1024 characters.
-/

namespace Scaffold.Yaml

inductive ScalarForm where
  | plain
  | literal
  | other
  deriving DecidableEq, Repr

inductive Token where
  | version (major minor : Nat)
  | tagHandle (handle start : String)
  | documentStart
  | documentEnd
  | blockSequenceStart
  | blockMappingStart
  | blockEnd
  | flowSequenceStart
  | flowSequenceEnd
  | flowMappingStart
  | flowMappingEnd
  | blockEntry
  | flowEntry
  | key
  | value
  | alias (name : String)
  | anchor (name : String)
  | tag (handle suffix : String)
  | scalar (text : String) (form : ScalarForm)
  deriving DecidableEq, Repr

/-- Where a key can have started. -/
structure PossibleKey where
  /-- Whether no other reading of the text is possible. -/
  required : Bool
  /-- The number of tokens before it. -/
  place : Nat
  index : Nat
  line : Nat
  column : Nat

/-- What has been read and what may come next. -/
structure Scan where
  cursor : Cursor
  /-- The tokens, the latest first. -/
  done : List Token
  /-- The column of the block collection, and those of the ones around it. -/
  indent : Option Nat
  outer : List (Option Nat)
  /-- The number of open flow collections. -/
  flow : Nat
  /-- Whether a key may start here. -/
  keyAllowed : Bool
  /-- The possible keys of the open flow collections, the innermost first. -/
  keys : List (Option PossibleKey)

namespace Scan

def start (cs : List Char) : Scan := ⟨.start cs, [], none, [], 0, true, [none]⟩

def emit (s : Scan) (t : Token) : Scan := { s with done := t :: s.done }

/-- Puts a token before those that were read since `place` tokens were. -/
def emitAt (s : Scan) (place : Nat) (t : Token) : Scan :=
  let later := s.done.length - place
  { s with done := s.done.take later ++ t :: s.done.drop later }

def inFlow (s : Scan) : Bool := 0 < s.flow

/-! ## Indentation -/

/-- Ends the block collections that stand behind a column; nothing stands before all. -/
def unroll : Nat → (column : Option Nat) → Scan → Scan
  | 0, _, s => s
  | fuel + 1, column, s =>
    if s.inFlow then s
    else
      match s.indent with
      | none => s
      | some n =>
        if (column.map fun m => decide (m < n)).getD true then
          unroll fuel column
            { s.emit .blockEnd with indent := s.outer.head?.join, outer := s.outer.drop 1 }
        else s

def unrollTo (s : Scan) (column : Option Nat) : Scan :=
  unroll (s.outer.length + 1) column s

/-- Starts a block collection at a column unless one is open there. -/
def roll (s : Scan) (column : Nat) (place : Nat) (t : Token) : Scan :=
  if s.inFlow || (s.indent.map fun n => decide (column ≤ n)).getD false then s
  else { s.emitAt place t with indent := some column, outer := s.indent :: s.outer }

/-! ## Possible keys -/

/-- Forgets the possible key here, which must not be a required one. -/
def dropKey (s : Scan) : Option Scan :=
  match s.keys with
  | some k :: keys => if k.required then none else some { s with keys := none :: keys }
  | _ => some s

/-- Notes that a key may start here. -/
def noteKey (s : Scan) : Option Scan :=
  if s.keyAllowed then
    (dropKey s).map fun s =>
      let key : PossibleKey :=
        ⟨!s.inFlow && s.indent == some s.cursor.column, s.done.length, s.cursor.index,
          s.cursor.line, s.cursor.column⟩
      { s with keys := some key :: s.keys.drop 1 }
  else some s

/-- Whether a possible key can still be one when the document is read up to a place. -/
def isNear (k : PossibleKey) (c : Cursor) : Bool :=
  k.line == c.line && c.index ≤ k.index + 1024

/-- Forgets the possible keys that are too far behind. -/
def dropStale (s : Scan) : Option Scan :=
  let check (key : Option PossibleKey) : Option (Option PossibleKey) :=
    match key with
    | none => some none
    | some k =>
      if isNear k s.cursor then some (some k) else if k.required then none else some none
  (s.keys.mapM check).map fun keys => { s with keys := keys }

/-! ## Moving to a token -/

/-- Moves over blanks, comments and line breaks. -/
def toToken : Nat → Scan → Scan
  | 0, s => s
  | fuel + 1, s =>
    let c := s.cursor
    let c := if c.column = 0 && c.next = some '\ufeff' then c.skip 1 else c
    let tabs := s.inFlow || !s.keyAllowed
    let c := c.skipWhile fun ch => ch = ' ' || (tabs && ch = '\t')
    let c := if c.next = some '#' then c.skipWhile fun _ => true else c
    match c.next with
    | some ch =>
      if isBreak ch then
        toToken fuel
          { s with cursor := c.lineBreak.2, keyAllowed := s.keyAllowed || !s.inFlow }
      else { s with cursor := c }
    | none => { s with cursor := c }

/-! ## Marks -/

/-- A token of some characters, with whether a key may start behind it. -/
def mark (s : Scan) (length : Nat) (keyAllowed : Bool) (t : Token) : Scan :=
  { s.emit t with cursor := s.cursor.skip length, keyAllowed := keyAllowed }

def openFlow (s : Scan) (t : Token) : Option Scan :=
  (noteKey s).map fun s =>
    { s.mark 1 true t with flow := s.flow + 1, keys := none :: s.keys }

def closeFlow (s : Scan) (t : Token) : Option Scan :=
  (dropKey s).map fun s =>
    { s.mark 1 false t with
      flow := s.flow - 1, keys := if s.inFlow then s.keys.drop 1 else s.keys }

def flowEntry (s : Scan) : Option Scan := (dropKey s).map fun s => s.mark 1 true .flowEntry

def blockEntry (s : Scan) : Option Scan :=
  if !s.inFlow && !s.keyAllowed then none
  else
    (dropKey (s.roll s.cursor.column s.done.length .blockSequenceStart)).map fun s =>
      s.mark 1 true .blockEntry

def keyMark (s : Scan) : Option Scan :=
  if !s.inFlow && !s.keyAllowed then none
  else
    (dropKey (s.roll s.cursor.column s.done.length .blockMappingStart)).map fun s =>
      s.mark 1 (!s.inFlow) .key

def valueMark (s : Scan) : Option Scan :=
  match s.keys with
  | some k :: keys =>
    let s := (s.emitAt k.place .key).roll k.column k.place .blockMappingStart
    some ({ s with keys := none :: keys }.mark 1 false .value)
  | _ =>
    if !s.inFlow && !s.keyAllowed then none
    else some ((s.roll s.cursor.column s.done.length .blockMappingStart).mark 1 (!s.inFlow) .value)

/-! ## Names -/

def isNameChar (c : Char) : Bool := c.isAlphanum || c = '_' || c = '-'

/-- The characters that can stand behind the name of an anchor. -/
def endsName (c : Cursor) : Bool :=
  c.isGap 0 || (c.next.map "?:,]\x7d%@\x60".toList.contains).getD true

/-- An anchor or alias, from behind its mark on. -/
def named (s : Scan) (make : String → Token) : Option Scan :=
  (noteKey s).bind fun s =>
    let c := s.cursor.skip 1
    let name := c.rest.takeWhile isNameChar
    let after := c.skip name.length
    if name.isEmpty || !endsName after then none
    else some { s.emit (make (String.ofList name)) with cursor := after, keyAllowed := false }

/-! ## Tags -/

def isTagChar (verbatim : Bool) (c : Char) : Bool :=
  isNameChar c || ";/?:@&=+$.!~*'()".toList.contains c ||
    (verbatim && (c = ',' || c = '[' || c = ']'))

/-- The number of bytes that the first byte of a character asks for. -/
def byteCount? (first : Nat) : Option Nat :=
  if first < 0x80 then some 1
  else if first < 0xc0 then none
  else if first < 0xe0 then some 2
  else if first < 0xf0 then some 3
  else if first < 0xf8 then some 4
  else none

/-- Bytes that continue a character, each two hexadecimal digits behind a percent sign. -/
def moreBytes : Nat → Cursor → Option (List Char × Cursor)
  | 0, c => some ([], c)
  | count + 1, c =>
    if c.next != some '%' then none
    else
      match hexChar 2 (c.skip 1) with
      | some (byte, c) =>
        if byte.toNat / 0x40 = 2 then (moreBytes count c).map fun (bytes, c) => (byte :: bytes, c)
        else none
      | none => none

/-- The bytes of a character behind its first percent sign. -/
def escapedBytes (c : Cursor) : Option (List Char × Cursor) :=
  match hexChar 2 c with
  | none => none
  | some (first, c) =>
    (byteCount? first.toNat).bind fun count =>
      (moreBytes (count - 1) c).map fun (bytes, c) => (first :: bytes, c)

/-- The characters of a tag; a percent sign stands before a byte in hexadecimal digits. -/
def tagChars : Nat → (verbatim : Bool) → Cursor → Option (List Char × Cursor)
  | 0, _, _ => none
  | fuel + 1, verbatim, c =>
    let more (chars : List Char) (c : Cursor) : Option (List Char × Cursor) :=
      (tagChars fuel verbatim c).map fun (text, rest) => (chars ++ text, rest)
    match c.next with
    | none => some ([], c)
    | some '%' => (escapedBytes (c.skip 1)).bind fun (bytes, c) => more bytes c
    | some ch => if isTagChar verbatim ch then more [ch] (c.skip 1) else some ([], c)

def tagText (verbatim : Bool) (c : Cursor) : Option (List Char × Cursor) :=
  tagChars (c.rest.length + 1) verbatim c

/-- The handle and suffix of a tag. -/
def tagParts (c : Cursor) : Option (String × String × Cursor) :=
  if c.ahead 1 = some '<' then
    match tagText true (c.skip 2) with
    | none => none
    | some (text, c) =>
      if text.isEmpty || c.next != some '>' then none
      else some ("", String.ofList text, c.skip 1)
  else
    let handle := (c.skip 1).rest.takeWhile isNameChar
    let after := c.skip (handle.length + 1)
    if after.next = some '!' then
      match tagText false (after.skip 1) with
      | none => none
      | some (text, rest) =>
        if text.isEmpty then none
        else some (String.ofList ('!' :: handle ++ ['!']), String.ofList text, rest)
    else
      match tagText false (c.skip 1) with
      | none => none
      | some (text, rest) =>
        if text.isEmpty then some ("", "!", rest) else some ("!", String.ofList text, rest)

def tag (s : Scan) : Option Scan :=
  (noteKey s).bind fun s =>
    match tagParts s.cursor with
    | none => none
    | some (handle, suffix, c) =>
      if c.isGap 0 || (s.inFlow && c.next = some ',') then
        some { s.emit (.tag handle suffix) with cursor := c, keyAllowed := false }
      else none

/-! ## Scalars -/

def scalar (s : Scan) (text : String) (form : ScalarForm) (c : Cursor) (keyAllowed : Bool) :
    Scan :=
  { s.emit (.scalar text form) with cursor := c, keyAllowed := keyAllowed }

def plainScalar (s : Scan) : Option Scan :=
  (noteKey s).bind fun s =>
    (plain s.inFlow ((s.indent.map (· + 1)).getD 0) s.cursor).map fun (text, broken, c) =>
      s.scalar text .plain c broken

def quotedScalar (s : Scan) (quote : Char) : Option Scan :=
  (noteKey s).bind fun s =>
    (quoted quote (s.cursor.skip 1)).map fun (text, c) => s.scalar text .other c false

def blockScalar (s : Scan) (folds : Bool) : Option Scan :=
  (dropKey s).bind fun s =>
    (block folds s.indent (s.cursor.skip 1)).map fun (text, c) =>
      s.scalar text (if folds then .other else .literal) c true

/-! ## Directives -/

def number (c : Cursor) : Option (Nat × Cursor) :=
  let digits := c.rest.takeWhile Text.isAsciiDigit
  if digits.isEmpty || 9 < digits.length then none
  else some (Text.digitsValue digits, c.skip digits.length)

/-- The token of a directive, from behind its name on. -/
def directiveToken (name : String) (c : Cursor) : Option (Token × Cursor) :=
  let c := c.skipWhile isBlank
  if name = "YAML" then
    match number c with
    | none => none
    | some (major, c) =>
      if c.next != some '.' then none
      else (number (c.skip 1)).map fun (minor, c) => (.version major minor, c)
  else if name = "TAG" then
    let word := (c.skip 1).rest.takeWhile isNameChar
    let after := c.skip (word.length + 1)
    let (handle, after) :=
      if after.next = some '!' then ('!' :: word ++ ['!'], after.skip 1) else ('!' :: word, after)
    if c.next != some '!' || (handle != ['!'] && handle.getLast? != some '!') then none
    else if !((after.next.map isBlank).getD false) then none
    else
      match tagText true (after.skipWhile isBlank) with
      | none => none
      | some (text, c) =>
        if text.isEmpty || !c.isGap 0 then none
        else some (.tagHandle (String.ofList handle) (String.ofList text), c)
  else none

/-- A line that tells something about the document behind it. -/
def directive (s : Scan) : Option Scan :=
  (dropKey (s.unrollTo none)).bind fun s =>
    let c := s.cursor.skip 1
    let name := c.rest.takeWhile isNameChar
    let after := c.skip name.length
    if name.isEmpty || !after.isGap 0 then none
    else
      match directiveToken (String.ofList name) after with
      | none => none
      | some (token, c) =>
        let c := c.skipWhile isBlank
        let c := if c.next = some '#' then c.skipWhile fun _ => true else c
        let atEnd := match c.next with
          | none => true
          | some ch => isBreak ch
        if atEnd then
          some { s.emit token with cursor := c.lineBreak.2, keyAllowed := false }
        else none

def documentMark (s : Scan) (t : Token) : Option Scan :=
  (dropKey (s.unrollTo none)).map fun s => s.mark 3 false t

/-! ## All tokens -/

/-- Whether a plain scalar can start here. -/
def startsPlain (s : Scan) (ch : Char) : Bool :=
  (!isBlank ch && !isBreak ch && !"-?:,[]\x7b\x7d#&*!|>'\"%@\x60".toList.contains ch) ||
    (ch = '-' && !((s.cursor.ahead 1).map isBlank).getD false) ||
    (!s.inFlow && (ch = '?' || ch = ':') && !s.cursor.isGap 1)

/-- Reads the token that starts with `ch`. -/
def token (s : Scan) (ch : Char) : Option Scan :=
  if s.cursor.column = 0 && ch = '%' then s.directive
  else if s.cursor.atDocumentMark then
    s.documentMark (if ch = '-' then .documentStart else .documentEnd)
  else if ch = '[' then s.openFlow .flowSequenceStart
  else if ch = '\x7b' then s.openFlow .flowMappingStart
  else if ch = ']' then s.closeFlow .flowSequenceEnd
  else if ch = '\x7d' then s.closeFlow .flowMappingEnd
  else if ch = ',' then s.flowEntry
  else if ch = '-' && s.cursor.isGap 1 then s.blockEntry
  else if ch = '?' && (s.inFlow || s.cursor.isGap 1) then s.keyMark
  else if ch = ':' && (s.inFlow || s.cursor.isGap 1) then s.valueMark
  else if ch = '*' then s.named .alias
  else if ch = '&' then s.named .anchor
  else if ch = '!' then s.tag
  else if ch = '|' && !s.inFlow then s.blockScalar false
  else if ch = '>' && !s.inFlow then s.blockScalar true
  else if ch = '\'' || ch = '"' then s.quotedScalar ch
  else if s.startsPlain ch then s.plainScalar
  else none

/-- The tokens up to the end of the document. -/
def tokensFrom : Nat → Scan → Option (List Token)
  | 0, _ => none
  | fuel + 1, s =>
    match dropStale (s.toToken (s.cursor.rest.length + 1)) with
    | none => none
    | some s =>
      let s := s.unrollTo (some s.cursor.column)
      match s.cursor.next with
      | some ch => (s.token ch).bind (tokensFrom fuel)
      | none => (dropKey (s.unrollTo none)).map fun s => s.done.reverse

end Scan

/-- The characters that a document can hold. -/
def isAllowed (c : Char) : Bool :=
  let n := c.toNat
  n = 0x09 || n = 0x0a || n = 0x0d || (0x20 ≤ n && n ≤ 0x7e) || n = 0x85 ||
    (0xa0 ≤ n && n ≤ 0xd7ff) || (0xe000 ≤ n && n ≤ 0xfffd) || 0x10000 ≤ n

/-- The tokens of a document, or nothing when it cannot be cut into tokens. -/
def Token.all? (s : String) : Option (List Token) :=
  if s.toList.all isAllowed then Scan.tokensFrom (s.toList.length + 2) (.start s.toList)
  else none

end Scaffold.Yaml
