import StoryPress.Command.Arguments
import StoryPress.Command.Press
import StoryPress.Json.Printer

/-! A run takes a disk to what is printed and what is left on the disk. Documents go to the standard
output and everything else to the standard error. Only a render that succeeds writes a file, the one
that keeps the variables, and only if directives are not left out. -/
namespace StoryPress.Command

open StoryPress.Config (Settings Overrides LoadError Loaded)
open StoryPress.Files (Path Tree)
open StoryPress.Json (Fields)
open StoryPress.Story (FileError Rendering Store)

inductive Failure where
  | config (e : LoadError)
  | unknownModifiers (names : List String)
  | file (fault : Files.Fault)
  | json
  | notObject (path : Path)
  | document (e : FileError)
  deriving DecidableEq, Repr

def Failure.message : Failure → String
  | config e => e.message
  | unknownModifiers names =>
    "Unknown modifier in modifiers.disabled: " ++ ", ".intercalate names
  | file fault => fault.message
  | json => "Invalid JSON: the text is no value"
  | notObject path => path ++ " must contain a JSON object"
  | document e => e.message

/-- What a run leaves: the disk, the texts printed and the exit code. -/
structure Outcome where
  code : Nat
  output : String
  errors : List String
  tree : Tree

/-- Names of modifiers that there are, or a failure. -/
def checkNames (s : Settings) : Except Failure Unit :=
  match unknownNames s with
  | [] => .ok ()
  | names => .error (.unknownModifiers names)

def loadSettings (t : Tree) (path : Option Path) (o : Overrides) : Except Failure Settings := do
  let loaded ← (Config.load t path o).mapError .config
  checkNames loaded.settings
  return loaded.settings

def readObject (t : Tree) (path : Path) : Except Failure Fields := do
  let content ← (t.readText path).mapError .file
  match Json.read? content with
  | none => .error .json
  | some (.object fields) => return fields
  | some _ => .error (.notObject path)

/-- The variables kept so far; none if their file does not exist. -/
def readState (t : Tree) (s : Settings) : Except Failure Fields :=
  match s.statePath with
  | some path => if t.exists? path then readObject t path else .ok []
  | none => .ok []

def readInserts (t : Tree) : Option Path → Except Failure Fields
  | some path => readObject t path
  | none => .ok []

structure Prepared where
  settings : Settings
  state : Fields
  inserts : Fields

def prepare (t : Tree) (a : RenderArguments) : Except Failure Prepared := do
  let overrides : Overrides :=
    ⟨if a.noVars then some true else none,
      if a.noSmartPunctuation then some false else none, a.state⟩
  let settings ← loadSettings t a.config overrides
  let state ← readState t settings
  let inserts ← readInserts t a.inserts
  return ⟨settings, state, inserts⟩

/-- The result of a render, without anything printed or written. -/
def renderFile (t : Tree) (document : Path) (p : Prepared) :
    Except Failure (Rendering × Store) := do
  let json ← (t.readText document).mapError .file
  (press p.settings p.state p.inserts json).mapError .document

/-- Where a render keeps the variables, if it does. -/
def stateTarget (s : Settings) : Option Path := if s.suppressVariables then none else s.statePath

def stateText (store : Store) : String := Json.pretty (.object store.values) ++ "\n"

def errorLine (e : Failure) : String := "Error: " ++ e.message

def render (t : Tree) (a : RenderArguments) : Outcome :=
  match prepare t a with
  | .error e => ⟨1, "", [errorLine e], t⟩
  | .ok prepared =>
    let notes := if a.verbose then ["Rendering " ++ a.document ++ "..."] else []
    match renderFile t a.document prepared with
    | .error e => ⟨1, "", notes ++ [errorLine e], t⟩
    | .ok (rendering, store) =>
      let output := (if a.markdown then rendering.markdown else rendering.html) ++ "\n"
      let notes := notes ++ rendering.warnings.map fun warning => "Warning: " ++ warning
      match stateTarget prepared.settings with
      | none => ⟨0, output, notes, t⟩
      | some path =>
        match t.writeText path (stateText store) with
        | .error fault => ⟨1, output, notes ++ [errorLine (.file fault)], t⟩
        | .ok written => ⟨0, output, notes ++ ["Saved state to " ++ path], written⟩

def modifiers (t : Tree) (config : Option Path) : Outcome :=
  match loadSettings t config .none with
  | .error e => ⟨1, "", [errorLine e], t⟩
  | .ok settings =>
    ⟨0, "", "Built-in modifiers:" :: Modifier.Builtin.Name.all.map (listingLine settings), t⟩

def usage : String :=
  "Usage: folio render [-i FILE] [-s FILE] [-c FILE] [--no-vars] [--no-smart-punctuation]" ++
    " [--markdown] [-v] DOCUMENT\n       folio modifiers [-c FILE]"

def version : String := "folio 0.1.0"

def run (t : Tree) (arguments : List String) : Outcome :=
  match Request.read? arguments with
  | none => ⟨2, "", [usage], t⟩
  | some .help => ⟨0, usage ++ "\n", [], t⟩
  | some .version => ⟨0, version ++ "\n", [], t⟩
  | some (.modifiers config) => modifiers t config
  | some (.render a) => render t a

end StoryPress.Command
