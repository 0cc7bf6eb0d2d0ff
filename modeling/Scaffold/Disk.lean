import Scaffold.Error
import Scaffold.Path
import Scaffold.Text.Blank

/-!
# Files and directories

A disk is a finite map from locations to entries, without links. The root is
always a directory. Paths are resolved name by name from the root or from the
working directory, and every operation fails with the fault that resolution
meets first.
-/

namespace Scaffold

open Text

/-- The names that lead from the root to an entry. -/
abbrev Location := List String

inductive Entry where
  | directory
  | file (content : ByteArray)

instance : DecidableEq Entry
  | .directory, .directory => isTrue rfl
  | .directory, .file _ => isFalse nofun
  | .file _, .directory => isFalse nofun
  | .file a, .file b =>
    @decidable_of_iff _ (a = b) ⟨congrArg Entry.file, Entry.file.inj⟩
      (ByteArray.instDecidableEq a b)

structure Disk where
  entries : List (Location × Entry) := []
  /-- Where relative paths start. -/
  workingDirectory : Location := []
  deriving DecidableEq

namespace Disk

/-! ## The map -/

/-- The entry at a location. -/
def find? (d : Disk) (l : Location) : Option Entry :=
  if l = [] then some .directory else d.entries.lookup l

def isDirectoryAt (d : Disk) (l : Location) : Bool := d.find? l = some .directory

/-- Replaces the entry of a location in place, or adds it at the end. -/
def setEntry (l : Location) (e : Entry) : List (Location × Entry) → List (Location × Entry)
  | [] => [(l, e)]
  | (k, old) :: rest => if k = l then (k, e) :: rest else (k, old) :: setEntry l e rest

def set (d : Disk) (l : Location) (e : Entry) : Disk :=
  { d with entries := setEntry l e d.entries }

/-- The disk without the entry at `l` and everything below it. -/
def removeTree (d : Disk) (l : Location) : Disk :=
  { d with entries := d.entries.filter fun (k, _) => !l.isPrefixOf k }

theorem lookup_setEntry (l k : Location) (e : Entry) (entries : List (Location × Entry)) :
    (setEntry l e entries).lookup k = if k = l then some e else entries.lookup k := by
  induction entries with
  | nil =>
    by_cases h : k = l
    · subst h; simp [setEntry]
    · have : (k == l) = false := by simpa using h
      simp [setEntry, List.lookup_cons, h, this]
  | cons head rest ih =>
    obtain ⟨m, old⟩ := head
    by_cases hm : m = l
    · subst hm
      by_cases hk : k = m
      · subst hk; simp [setEntry]
      · have : (k == m) = false := by simpa using hk
        simp [setEntry, List.lookup_cons, hk, this]
    · by_cases hk : k = m
      · subst hk; simp [setEntry, hm]
      · have : (k == m) = false := by simpa using hk
        simp [setEntry, List.lookup_cons, hm, this, ih]

/-- Writing an entry changes its own location and no other. -/
theorem find?_set (d : Disk) (l k : Location) (e : Entry) (hl : l ≠ []) :
    (d.set l e).find? k = if k = l then some e else d.find? k := by
  by_cases hk : k = []
  · subst hk
    have : ([] : Location) ≠ l := fun h => hl h.symm
    simp [find?, this]
  · simp [find?, hk, set, lookup_setEntry]

/-! ## Resolving paths -/

/-- The longest name that a directory can hold, in bytes. -/
def nameLimit : Nat := 255

/-- A path of this many bytes or more is refused as a whole. -/
def pathLimit : Nat := 4096

/-- Why a path is refused before it is looked at name by name. -/
def refusal? (p : Path) : Option IoFault :=
  if p.text.toList.contains (Char.ofNat 0) then some .nulInName
  else if p.text = "" then some .notFound
  else if pathLimit ≤ p.text.utf8ByteSize then some .nameTooLong
  else none

/-- One step of resolution: from a location down to, or up from, a segment. -/
def step (d : Disk) (at_ : Location) (segment : String) : Except IoFault Location :=
  match d.find? at_ with
  | none => .error .notFound
  | some (.file _) => .error .notADirectory
  | some .directory =>
    if segment = "" || segment = "." then .ok at_
    else if segment = ".." then .ok at_.dropLast
    else if nameLimit < segment.utf8ByteSize then .error .nameTooLong
    else .ok (at_ ++ [segment])

def walk (d : Disk) : Location → List String → Except IoFault Location
  | at_, [] => .ok at_
  | at_, segment :: rest =>
    match d.step at_ segment with
    | .ok next => d.walk next rest
    | .error fault => .error fault

/-- Where resolution starts and the segments it follows. -/
def start (d : Disk) (p : Path) : Location × List String :=
  if p.isAbsolute then ([], p.segments.drop 1) else (d.workingDirectory, p.segments)

/-- The location of a path; its last name need not exist. -/
def resolve (d : Disk) (p : Path) : Except IoFault Location :=
  match refusal? p with
  | some fault => .error fault
  | none => d.walk (d.start p).1 (d.start p).2

/-- The location and entry of a path that exists. -/
def look (d : Disk) (p : Path) : Except IoFault (Location × Entry) :=
  match d.resolve p with
  | .error fault => .error fault
  | .ok l =>
    match d.find? l with
    | some e => .ok (l, e)
    | none => .error .notFound

def pathExists (d : Disk) (p : Path) : Bool :=
  match d.look p with
  | .ok _ => true
  | .error _ => false

def isFile (d : Disk) (p : Path) : Bool :=
  match d.look p with
  | .ok (_, .file _) => true
  | _ => false

def isDirectory (d : Disk) (p : Path) : Bool :=
  match d.look p with
  | .ok (_, .directory) => true
  | _ => false

/-! ## Reading -/

def readBytes (d : Disk) (p : Path) : Except IoFault ByteArray :=
  match d.look p with
  | .error fault => .error fault
  | .ok (_, .directory) => .error .isADirectory
  | .ok (_, .file content) => .ok content

def readText (d : Disk) (p : Path) : Except IoFault String :=
  match d.readBytes p with
  | .error fault => .error fault
  | .ok content =>
    match String.fromUTF8? content with
    | some text => .ok text
    | none => .error .invalidUtf8

/-! ## Writing -/

/-- The path without slashes at its end, the root aside. -/
def withoutTrailingSlashes (p : Path) : Path :=
  match dropEndWhile (· == '/') p.text.toList with
  | [] => p
  | cs => ⟨String.ofList cs⟩

/-- Makes one directory in an existing one. -/
def makeDirectory (d : Disk) (p : Path) : Except IoFault Disk :=
  match d.resolve (withoutTrailingSlashes p) with
  | .error fault => .error fault
  | .ok l =>
    match d.find? l with
    | some _ => .error .alreadyExists
    | none => .ok (d.set l .directory)

/-- Makes a directory and the missing ones above it. Directories made before a
fault stay. The first number bounds how far up the missing ones may reach. -/
def makeDirectoriesWithin : Nat → Disk → Path → Except IoFault Unit × Disk
  | 0, d, _ => (.error .noParent, d)
  | depth + 1, d, p =>
    if p.text = "" then (.ok (), d)
    else
      match d.makeDirectory p with
      | .ok made => (.ok (), made)
      | .error .notFound =>
        match p.parent? with
        | none => (.error .noParent, d)
        | some up =>
          match makeDirectoriesWithin depth d up with
          | (.error fault, d) => (.error fault, d)
          | (.ok (), d) =>
            match d.makeDirectory p with
            | .ok made => (.ok (), made)
            | .error fault => if d.isDirectory p then (.ok (), d) else (.error fault, d)
      | .error fault => if d.isDirectory p then (.ok (), d) else (.error fault, d)

def makeDirectories (d : Disk) (p : Path) : Except IoFault Unit × Disk :=
  makeDirectoriesWithin (p.text.length + 1) d p

/-- Writes a file whose directory exists, over the old content if there is any.
A slash at the end of a new path asks for a directory. -/
def writeBytes (d : Disk) (p : Path) (content : ByteArray) : Except IoFault Disk :=
  match d.resolve p with
  | .error .notFound => .error (if endsWith "/" p.text then .isADirectory else .notFound)
  | .error fault => .error fault
  | .ok l =>
    match d.find? l with
    | some .directory => .error .isADirectory
    | some (.file _) => .ok (d.set l (.file content))
    | none => .ok (d.set l (.file content))

/-- Removes a directory and everything in it. -/
def removeDirectory (d : Disk) (p : Path) : Except IoFault Disk :=
  match d.look p with
  | .error fault => .error fault
  | .ok (_, .file _) => .error .notADirectory
  | .ok (l, .directory) => .ok (d.removeTree l)

/-! ## Listing -/

/-- What stands below a location: the names that lead there and the entry. -/
def below (d : Disk) (l : Location) : List (Location × Entry) :=
  d.entries.filterMap fun (k, e) =>
    if l.isPrefixOf k && k != l then some (k.drop l.length, e) else none

end Disk

end Scaffold
