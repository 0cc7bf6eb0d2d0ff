import Scaffold.Shell.Execution

/-!
# Running programs

A program gets its arguments and an input, and what it writes is collected. A
shell runs its script; all other programs are functions of what they get.
-/

namespace Scaffold.Shell

/-- How a program ended. -/
inductive Ending where
  | exited (status : Nat)
  | killed (signal : Nat)
  deriving DecidableEq, Repr

/-- What a program did with its input. -/
structure Outcome where
  output : List UInt8
  errors : List UInt8
  ending : Ending
  /-- The number of bytes that were not read. -/
  unread : Nat
  deriving DecidableEq, Repr

/-- How deep the steps of a script can nest. -/
def depth : Nat := 20000

/-- Runs a shell on its own. -/
def runShell (name : Octets) (args : List Octets) (input : Octets) : Outcome :=
  let start := Machine.start name [] [] [(0, .source 0), (1, .sink 0), (2, .sink 1)] [[], []] [input]
  let (ending, after) := isolated (shell depth name args) start
  let written (n : Nat) : List UInt8 := bytesOf ((after.sinks[n]?).getD [])
  ⟨written 0, written 1,
    match ending with
    | .error (.killed signal) => .killed signal
    | _ => .exited after.status,
    (after.sources.headD []).length⟩

/-- Runs a program; nothing when there is no such program. -/
def spawn (argv : List String) (input : List UInt8) : Option Outcome :=
  let input : Octets := input.map fun b => Char.ofNat b.toNat
  match argv.map octets with
  | [] => none
  | name :: args =>
    if isShellName name then some (runShell name args input)
    else
      (program? name).map fun program =>
        let result := program [] args input
        ⟨bytesOf result.output, bytesOf result.errors, .exited result.status, result.unread.length⟩

end Scaffold.Shell
