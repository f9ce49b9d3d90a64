import StoryPress.Command.Run

namespace StoryPress.Main

open StoryPress.Command (Outcome Request)
open StoryPress.Files (Entry Path Place Tree)

def workingPlace : IO Place := do
  let directory ← IO.currentDir
  return (Path.parts directory.toString).filter (· != "")

/-- What stands at a place; the content of a file is read only if it is wanted. -/
def entryAt (wanted : Bool) (place : Place) : IO (Option Entry) := do
  let path := (← IO.currentDir) / Config.absolute place
  try
    let data ← path.metadata
    if data.type matches .dir then return some .directory
    else if wanted then
      match String.fromUTF8? (← IO.FS.readBinFile path) with
      | some content => return some (.text content)
      | none => return some .binary
    else return some .binary
  catch _ => return none

def entriesAlong (current : Place) (p : Path) : IO (List (Place × Entry)) := do
  let mut place := if Path.isAbsolute p then [] else current
  let mut found := []
  let parts := (Path.parts p).filter fun part => part != "" && part != "."
  for (part, index) in parts.zipIdx do
    place := if part == ".." then place.dropLast else place ++ [part]
    match ← entryAt (index + 1 == parts.length) place with
    | some entry => found := found ++ [(place, entry)]
    | none => pure ()
  return found

/-- The files that paths lead to. -/
def treeOf (paths : List Path) : IO Tree := do
  let current ← workingPlace
  let mut entries := []
  for p in paths do
    for (place, entry) in ← entriesAlong current p do
      if (entries.lookup place).isNone || entry matches .text _ then
        entries := (place, entry) :: entries
  return ⟨entries, current⟩

def candidates (current : Place) : List Path :=
  (List.range (current.length + 1)).map fun n =>
    Config.absolute (current.take n ++ [Config.fileName])

def givenPaths : Request → List Path
  | .render a => a.document :: (a.inserts.toList ++ a.state.toList ++ a.config.toList)
  | .modifiers config => config.toList
  | _ => []

def configPath? : Request → Option Path
  | .render a => a.config
  | .modifiers config => config
  | _ => none

/-- All files that a request may ask for; the configuration may name one more. -/
def treeFor (request : Request) : IO Tree := do
  let paths := givenPaths request ++ candidates (← workingPlace)
  let tree ← treeOf paths
  match Config.load tree (configPath? request) .none with
  | .ok loaded => treeOf (paths ++ loaded.settings.statePath.toList)
  | .error _ => return tree

/-- Writes the texts in which two trees differ. -/
def writeChanges (before after : Tree) : IO Unit := do
  for (place, entry) in after.entries do
    match entry with
    | .text content =>
      if before.entries.lookup place != some entry then
        IO.FS.writeFile (Config.absolute place) content
    | _ => pure ()

end StoryPress.Main

open StoryPress in
def main (arguments : List String) : IO UInt32 := do
  let before : Files.Tree ← match Command.Request.read? arguments with
    | some request => Main.treeFor request
    | none => pure ⟨[], []⟩
  let outcome := Command.run before arguments
  Main.writeChanges before outcome.tree
  IO.print outcome.output
  for line in outcome.errors do IO.eprintln line
  return UInt32.ofNat outcome.code
