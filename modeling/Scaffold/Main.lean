import Scaffold.CommandLine.Execution

/-!
# The program

The part of the file system that a command can touch is copied into a disk, the
command runs on it, and what it changed is written back.
-/

namespace Scaffold.Program

/-! ## Copying -/

/-- The location of an absolute path with these segments, and those above it. -/
def locations (start : Location) (segments : List String) : List Location :=
  match segments with
  | [] => [start]
  | segment :: rest =>
    if segment = "" || segment = "." then locations start rest
    else if segment = ".." then start :: locations start.dropLast rest
    else start :: locations (start ++ [segment]) rest

/-- What stands at a place: what cannot be opened is missing, and what can be
opened but not read is a directory. -/
def probe (l : Location) : IO (Option Entry) := do
  let opened ← (IO.FS.Handle.mk ("/" ++ String.intercalate "/" l) .read).toBaseIO
  match opened with
  | .error _ => return none
  | .ok handle =>
    match ← handle.readBinToEnd.toBaseIO with
    | .error _ => return some .directory
    | .ok content => return some (.file content)

/-- Copies what stands at a path and above it. -/
def copy (d : Disk) (p : Path) : IO Disk := do
  let mut d := d
  let (start, segments) := d.start p
  for l in locations start segments do
    if (d.find? l).isNone then
      if let some entry ← probe l then d := d.set l entry
  return d

def copyAll (d : Disk) (paths : List Path) : IO Disk := paths.foldlM copy d

/-! ## What a command can touch -/

/-- The documents that a command reads. -/
def documents (at_ : Surroundings) : Command → List Path
  | .generate subject options =>
    let spec := match subject with
      | .api spec | .rpc spec | .model spec | .manifest spec => some spec
      | .mongo spec _ _ => spec
    (options.config.getD (at_.workingDirectory.join ⟨Config.fileName⟩)) :: spec.toList
  | .upkeep _ _ => [at_.workingDirectory.join ⟨Config.fileName⟩]

/-- The custom templates that a command can ask for. -/
def templates (at_ : Surroundings) (c : Command) (d : Disk) : List Path :=
  let (config, home, more) := match c with
    | .generate _ options => (options.config, options.home, [])
    | .upkeep home (.revert key) => (none, home, [key])
    | .upkeep home _ => (none, home, [])
  let found : Action Repository := do
    let settings ← Config.discover config at_.workingDirectory
    Action.ofExcept (Command.openRepository at_ settings home)
  match (found.runOn d).1 with
  | .ok repository => (Repository.keysOf none ++ more).map repository.pathOf
  | .error _ => []

/-- The files that a command plans. -/
def destinations (at_ : Surroundings) (c : Command) (d : Disk) : List Path :=
  match c with
  | .upkeep _ _ => []
  | .generate subject options =>
    let planned : Action (List (Target × Path)) := do
      let backend ← Command.backendOf subject
      let generator ← Command.generatorOf at_ options
      let targets ← backend.plan generator
      Action.ofExcept (Generator.checkPaths options.dir [] targets)
    match (planned.runOn d).1 with
    | .ok targets => targets.map (·.2)
    | .error _ => []

/-- A disk with everything that a command can touch. -/
def gather (at_ : Surroundings) (c : Command) (d : Disk) : IO Disk := do
  let d ← copyAll d (documents at_ c)
  let d ← copyAll d (templates at_ c d)
  copyAll d (destinations at_ c d)

/-! ## Writing back -/

def writeBack (before after : Disk) : IO Unit := do
  for (l, entry) in before.entries do
    if (after.find? l).isNone && (after.find? l.dropLast).isSome then
      let path := "/" ++ String.intercalate "/" l
      match entry with
      | .directory => IO.FS.removeDirAll path
      | .file _ => IO.FS.removeFile path
  for (l, entry) in after.entries do
    if before.find? l != some entry then
      let path := "/" ++ String.intercalate "/" l
      match entry with
      | .directory => IO.FS.createDir path
      | .file content => IO.FS.writeBinFile path content

def surroundings : IO Surroundings := do
  let here := toString (← IO.currentDir)
  let home ← IO.getEnv HomeSources.variable_
  let user ← IO.getEnv "HOME"
  return ⟨⟨here⟩, HomeSources.ofVariables home user⟩

/-- Runs the command that arguments ask for and gives its exit status. -/
def run (args : List String) : IO UInt32 := do
  let at_ ← surroundings
  let empty : Disk := ⟨[], at_.workingDirectory.segments.filter (· != "")⟩
  let before ← match Arguments.parse args with
    | .ok command => copy empty at_.workingDirectory >>= gather at_ command
    | .error _ => pure empty
  let (outcome, after) := CommandLine.run at_ args before
  writeBack before after
  IO.print outcome.output
  IO.eprint outcome.errors
  return UInt32.ofNat outcome.status

end Scaffold.Program

def main (args : List String) : IO UInt32 := Scaffold.Program.run args
