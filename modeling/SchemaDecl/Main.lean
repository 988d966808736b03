import SchemaDecl.Command.Run
import Std.Time.Format

/-!
# The program

The program reads the files below the working directory, runs on them, and stores the files that
the run has changed.
-/

namespace SchemaDecl

/-- Read the entries of a directory, and what stands below it, into a file tree.  Links to
directories and files that cannot be read are left out. -/
partial def readEntries (parent : Location) (found : Array IO.FS.DirEntry) (tree : FileTree) :
    IO FileTree := do
  let mut tree := tree
  for entry in found do
    let location := parent ++ [entry.fileName]
    try
      if (← entry.path.symlinkMetadata).type == .dir then
        tree := (tree.addDirectory ⟨location⟩).toOption.getD tree
        tree ← readEntries location (← entry.path.readDir) tree
      else if (← entry.path.metadata).type == .file then
        let content := (← IO.FS.readBinFile entry.path).toList
        tree := (tree.put parent entry.fileName content).toOption.getD tree
    catch _ => pure ()
  return tree

/-- Store a file. -/
def storeFile (path : Path) (content : List UInt8) : IO Unit := do
  IO.FS.createDirAll path.parent.text
  IO.FS.writeBinFile path.text ⟨content.toArray⟩

/-- The value of an environment variable, if it is set. -/
def readVariable (name : String) : IO (Option (String × String)) := do
  return (← IO.getEnv name).map fun value => (name, value)

end SchemaDecl

open SchemaDecl in
/-- Run the program on its command line. -/
def main (words : List String) : IO UInt32 := do
  let directory ← IO.currentDir
  let tree ← readEntries [] (← directory.readDir) (FileTree.empty directory.toString)
  let environment ← Command.variableNames.filterMapM readVariable
  let time := (← Std.Time.PlainDateTime.now).format "uuuu-MM-dd HH:mm:ss,SSS"
  let outcome := Command.run tree environment time words
  (tree.changes outcome.tree).forM fun file => storeFile ⟨file.1⟩ file.2
  outcome.tree.outer.forM fun file => storeFile file.1 file.2
  IO.print outcome.printed
  IO.eprint outcome.report
  return UInt32.ofNat outcome.status
