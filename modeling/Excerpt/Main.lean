import Excerpt.Command.Need

/-! # The program

The program copies the part of the disk that the command line looks at, runs the command on the copy, and
writes back the files that changed. -/

namespace Excerpt

namespace Program

open Files

/-- The content of a file of the real disk. -/
def readContent (path : String) : IO Content := do
  return .ofBytes (← IO.FS.readBinFile path).toList

/-- Copies a file or a directory with all that is in it. -/
partial def copyTree (path : String) : IO (Option Tree) := do
  let here ← IO.currentDir
  if ← (here / path).isDir then
    let mut entries := []
    for entry in ← (here / path).readDir do
      if let some tree ← copyTree s!"{path}/{entry.fileName}" then
        entries := Table.insert entry.fileName.toList tree entries
    return some (.directory entries)
  else if ← (here / path).pathExists then
    return some (.file (← readContent path))
  else return none

/-- Copies what a path leads to, part by part; `whole` asks for all that is in a directory. -/
def copyPath (disk : Disk) (path : Text) (whole : Bool) : IO Disk := do
  let here ← IO.currentDir
  let mut disk := disk
  let mut location := disk.start path
  for part in path.split '/' do
    if part = Path.dotDot then location := location.dropLast
    else if !Path.isIdle part then
      location := location ++ [part]
      let real := String.ofList (Disk.pathOf location)
      if (disk.root.get? location).isNone then
        if ← (here / real).isDir then disk := { disk with root := disk.root.put location .empty }
        else if ← (here / real).pathExists then
          disk := { disk with root := disk.root.put location (.file (← readContent real)) }
  if whole then
    if let some tree ← copyTree (String.ofList (Disk.pathOf location)) then
      disk := { disk with root := disk.root.put location tree }
  return disk

/-- Copies the part of the disk that the command line looks at. Each round can tell of further places: the
configuration of roots, the documents of targets. -/
def copyDisk (arguments : List Text) : IO Disk := do
  let here := (← IO.currentDir).toString.toList
  let location := (Path.components here).filter (· ≠ Path.rootName)
  let mut disk : Disk := ⟨Tree.empty.put location .empty, location⟩
  for _ in [0, 1, 2, 3] do
    for need in Command.needs disk arguments do
      disk ← match need with
        | .entry path => copyPath disk path false
        | .tree path => copyPath disk path true
  return disk

/-- Writes back a file. -/
def writeBack (location : Location) (content : Content) : IO Unit := do
  IO.FS.createDirAll (String.ofList (Disk.pathOf location.dropLast))
  let path := String.ofList (Disk.pathOf location)
  match content with
  | .text t => IO.FS.writeFile path (String.ofList t)
  | .binary bytes => IO.FS.writeBinFile path ⟨bytes.toArray⟩

end Program

end Excerpt

open Excerpt Excerpt.Program in
/-- Runs the command line. -/
def main (arguments : List String) : IO UInt32 := do
  let arguments := arguments.map String.toList
  let disk ← copyDisk arguments
  let outcome := Command.run disk arguments
  let old := disk.root.files []
  for (location, content) in outcome.disk.root.files [] do
    if old.lookup location != some content then writeBack location content
  IO.print (String.ofList outcome.stdout)
  IO.eprint (String.ofList outcome.stderr)
  return outcome.code.toUInt32
