import StoryPress.Files.Path

/-! A file tree is what programs see of a disk: texts, files that are no text, and directories, each
at its place. A place is the list of names from the root on. Paths are walked from a working
directory part by part: every part but the last must be a directory that exists. -/
namespace StoryPress.Files

abbrev Place := List String

inductive Entry where
  | directory
  | text (content : String)
  /-- A file whose bytes are no text. -/
  | binary
  deriving DecidableEq, Repr

inductive Fault where
  | notFound
  | isDirectory
  | notDirectory
  | nameTooLong
  | notText
  | nulInName
  deriving DecidableEq, Repr

def Fault.message : Fault → String
  | notFound => "No such file or directory (os error 2)"
  | isDirectory => "Is a directory (os error 21)"
  | notDirectory => "Not a directory (os error 20)"
  | nameTooLong => "File name too long (os error 36)"
  | notText => "stream did not contain valid UTF-8"
  | nulInName => "file name contained an unexpected NUL byte"

structure Tree where
  entries : List (Place × Entry)
  current : Place

namespace Tree

/-- What stands at a place. The directories around an entry need no entries of their own. -/
def entry? (t : Tree) (place : Place) : Option Entry :=
  match t.entries.lookup place with
  | some entry => some entry
  | none =>
    if place.isPrefixOf t.current || t.entries.any fun entry => place.isPrefixOf entry.1 then
      some .directory
    else none

def put (t : Tree) (place : Place) (entry : Entry) : Tree :=
  if (t.entries.lookup place).isSome then
    { t with entries := t.entries.map fun e => if e.1 = place then (place, entry) else e }
  else { t with entries := t.entries ++ [(place, entry)] }

def maxName : Nat := 255

/-- Paths have fewer bytes than this. -/
def pathLimit : Nat := 4096

/-- Where a path leads: to something that exists, or to a free name in a directory. A path that asks
for a directory by a slash at its end leads to no free name. -/
inductive Destination where
  | found (place : Place) (entry : Entry)
  | free (place : Place)
  | freeDirectory

/-- Walks through the parts of a path, from a place that is known to exist. -/
def walk (t : Tree) (place : Place) : List String → Except Fault Destination
  | [] =>
    match t.entry? place with
    | some entry => .ok (.found place entry)
    | none => .error .notFound
  | part :: rest =>
    if t.entry? place ≠ some .directory then .error .notDirectory
    else if part = "" || part = "." then walk t place rest
    else if part = ".." then walk t place.dropLast rest
    else if maxName < part.utf8ByteSize then .error .nameTooLong
    else if (t.entry? (place ++ [part])).isSome then walk t (place ++ [part]) rest
    else if rest.isEmpty then .ok (.free (place ++ [part]))
    else if rest.all (· == "") then .ok .freeDirectory
    else .error .notFound

def resolve (t : Tree) (p : Path) : Except Fault Destination :=
  if p.toList.contains '\x00' then .error .nulInName
  else if p.isEmpty then .error .notFound
  else if pathLimit ≤ p.utf8ByteSize then .error .nameTooLong
  else t.walk (if Path.isAbsolute p then [] else t.current) (Path.parts p)

def exists? (t : Tree) (p : Path) : Bool :=
  match t.resolve p with
  | .ok (.found _ _) => true
  | _ => false

def readText (t : Tree) (p : Path) : Except Fault String :=
  match t.resolve p with
  | .error fault => .error fault
  | .ok (.found _ (.text content)) => .ok content
  | .ok (.found _ .binary) => .error .notText
  | .ok (.found _ .directory) => .error .isDirectory
  | .ok _ => .error .notFound

/-- Writes a text to a file, which is made if its name is free. -/
def writeText (t : Tree) (p : Path) (content : String) : Except Fault Tree :=
  match t.resolve p with
  | .error fault => .error fault
  | .ok (.found _ .directory) => .error .isDirectory
  | .ok (.found place _) => .ok (t.put place (.text content))
  | .ok (.free place) => .ok (t.put place (.text content))
  | .ok .freeDirectory => .error .isDirectory

end Tree

end StoryPress.Files
