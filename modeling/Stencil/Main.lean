import Stencil.Disk.Change
import Stencil.Session.Run

/-!
The program. What there is for it to work on is listed on standard input, one path to a line,
a folder with a slash at its end. A run sees no more of the disk than what is listed, and what
it changed is written back. Links are read through, so that a run never sees one.
-/

namespace Stencil

/-- Takes one line of the listing. -/
def readEntry (disk : Disk) (line : String) : IO Disk := do
  let path : Path := ⟨line⟩
  if line.endsWith "/" then return (disk.makeFolders path).1
  let content ← IO.FS.readBinFile line
  let made := (disk.makeFolders path.parent).1
  return (made.write path.address content.toList).toOption.getD made

/-- Carries a change over to the disk itself. -/
def applyChange : Disk.Change → IO Unit
  | .put location (.file content) =>
      IO.FS.writeBinFile ("/" ++ location.text) content.toByteArray
  | .put location .folder => IO.FS.createDirAll ("/" ++ location.text)
  | .erase location (.file _) => IO.FS.removeFile ("/" ++ location.text)
  | .erase location .folder => IO.FS.removeDirAll ("/" ++ location.text)
  | .put _ (.link _) | .erase _ (.link _) => return

end Stencil

open Stencil in
/-- Runs the program on what standard input lists. -/
def main (arguments : List String) : IO UInt32 := do
  let lines ← (← IO.getStdin).lines
  let folder ← IO.currentDir
  let disk ← (lines.toList.filter (· ≠ "")).foldlM readEntry (.workingIn ⟨folder.toString⟩)
  let home := (← IO.getEnv "HOME").getD ""
  let report := Session.run ⟨home⟩ arguments disk
  IO.print report.text
  for change in disk.changes report.disk do
    applyChange change
  unless report.ending.complaint.isEmpty do
    IO.eprintln report.ending.complaint
  return report.ending.status.toUInt32
