import FeatureSuite.Command.Run

/-!
# The command line

The paths of the files to work on arrive on standard input, one a line, so that a run reads
`find . -type f | feature-suite gen features --steps steps`. Nothing else is looked at. What a
command writes is put back to where it belongs.
-/

namespace FeatureSuite

/-- Adds a file to a tree, unless it cannot be read. -/
def addFile (directory : Path) (tree : FileTree) (name : String) : IO FileTree := do
  let path := (Path.ofText name).resolve directory
  try
    let bytes ← IO.FS.readBinFile path.toText
    return tree.plant [] (.file (bytes.toList.map (·.toNat))) path.parts
  catch _ => return tree

partial def addFiles (lines : IO.FS.Stream) (directory : Path) (tree : FileTree) : IO FileTree := do
  let line ← lines.getLine
  if line.isEmpty then return tree
  addFiles lines directory (← addFile directory tree (String.ofList (Text.trimEnd line.toList)))

def settingVariables : IO Environment :=
  (Settings.plainNames ++ Settings.listNames).filterMapM fun setting => do
    let name := (Settings.variableStart ++ setting).toUpper
    return (← IO.getEnv name).map (name, ·)

/-- What a process finds around it. -/
def surroundings : IO Surroundings := do
  let directory := Path.ofText ((← IO.getEnv "PWD").getD "/")
  let root := FileTree.plant {} [] .directory directory.parts
  let tree ← addFiles (← IO.getStdin) directory root
  let width := ((← IO.getEnv "COLUMNS").bind (·.toNat?)).getD 80
  return { tree, directory, environment := ← settingVariables
           modules := StepModule.ofTree tree directory, width }

/-- Puts what a command has made to where it belongs. -/
def putBack (before after : FileTree) : IO Unit := do
  for place in before.newDirectories after do
    IO.FS.createDirAll (Path.mk "/" place).toText
  for (place, bytes) in before.changedFiles after do
    IO.FS.writeBinFile (Path.mk "/" place).toText ⟨(bytes.map UInt8.ofNat).toArray⟩

/-- Tells how a command has ended, and gives its exit code. -/
def conclude : Ending → IO UInt32
  | .exit code => return code.toUInt32
  | .misuse what => do
      IO.eprintln s!"Error: {what.message}"
      return 2
  | .failed fault => do
      IO.eprintln s!"{fault.label}: {fault.message}"
      return 1

end FeatureSuite

/-- Runs the command that is given by arguments. -/
def main (arguments : List String) : IO UInt32 := do
  let around ← FeatureSuite.surroundings
  let outcome := FeatureSuite.runCommand around arguments
  outcome.printed.forM IO.println
  FeatureSuite.putBack around.tree outcome.tree
  FeatureSuite.conclude outcome.ending
