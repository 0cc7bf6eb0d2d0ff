/-!
# Bytes that are no text

Texts are written in UTF-8. Where bytes are not, `faultIn` says at which place
the first fault lies and how many bytes belong to it; bytes that end in the
middle of a character are incomplete.
-/

namespace Scaffold.Text.Utf8

/-- The fault at the first byte that starts no character. -/
structure Fault where
  index : Nat
  /-- The length of the faulty bytes; nothing when more bytes could complete them. -/
  length : Option Nat
  deriving DecidableEq, Repr

def isContinuation (b : UInt8) : Bool := 0x80 ≤ b && b ≤ 0xbf

/-- The range of the second byte and the number of those behind it that a first byte asks for. -/
def expected (b : UInt8) : Option (UInt8 × UInt8 × Nat) :=
  if 0xc2 ≤ b && b ≤ 0xdf then some (0x80, 0xbf, 0)
  else if b = 0xe0 then some (0xa0, 0xbf, 1)
  else if b = 0xed then some (0x80, 0x9f, 1)
  else if 0xe1 ≤ b && b ≤ 0xef then some (0x80, 0xbf, 1)
  else if b = 0xf0 then some (0x90, 0xbf, 2)
  else if 0xf1 ≤ b && b ≤ 0xf3 then some (0x80, 0xbf, 2)
  else if b = 0xf4 then some (0x80, 0x8f, 2)
  else none

/-- What the bytes behind `count` good ones of a character are: `wanted` more
continue it, or the fault that they make. -/
def continuation (count wanted : Nat) (bytes : List UInt8) : Except (Option Nat) (List UInt8) :=
  match wanted, bytes with
  | 0, bytes => .ok bytes
  | _ + 1, [] => .error none
  | wanted + 1, b :: bytes =>
    if isContinuation b then continuation (count + 1) wanted bytes else .error (some count)

/-- The rest behind the first character, or the fault that stands in its place. -/
def character : List UInt8 → Except (Option Nat) (List UInt8)
  | [] => .ok []
  | b :: bytes =>
    if b < 0x80 then .ok bytes
    else
      match expected b with
      | none => .error (some 1)
      | some (low, high, more) =>
        match bytes with
        | [] => .error none
        | c :: bytes => if low ≤ c && c ≤ high then continuation 2 more bytes else .error (some 1)

/-- The first fault of the last bytes of `size` in all. -/
def faultFrom (size : Nat) : Nat → List UInt8 → Option Fault
  | 0, _ | _ + 1, [] => none
  | fuel + 1, b :: bytes =>
    match character (b :: bytes) with
    | .ok rest => faultFrom size fuel rest
    | .error length => some ⟨size - (b :: bytes).length, length⟩

/-- The first fault of some bytes. -/
def faultIn (bytes : List UInt8) : Option Fault :=
  faultFrom bytes.length (bytes.length + 1) bytes

def Fault.message (f : Fault) : String :=
  match f.length with
  | some n => "invalid utf-8 sequence of " ++ toString n ++ " bytes from index " ++ toString f.index
  | none => "incomplete utf-8 byte sequence from index " ++ toString f.index

/-- The text of good bytes. -/
def textOf (bytes : List UInt8) : String := (String.fromUTF8? ⟨bytes.toArray⟩).getD ""

/-- The text of some bytes with a replacement character for every fault. -/
def readable : Nat → List UInt8 → String
  | 0, _ => ""
  | fuel + 1, bytes =>
    match faultIn bytes with
    | none => textOf bytes
    | some f =>
      let good := textOf (bytes.take f.index) ++ "\ufffd"
      match f.length with
      | none => good
      | some n => good ++ readable fuel (bytes.drop (f.index + n))

def readableText (bytes : List UInt8) : String := readable (bytes.length + 1) bytes

end Scaffold.Text.Utf8
