import StoryPress.Config.Settings
import StoryPress.Files.Tree

/-! The configuration is read from the file that is asked for, or else from the nearest `folio.toml`
at or above the working directory; without any, all settings have their defaults. The state path in
a file is seen from the file's directory. Overrides come last and are taken as they are given. -/
namespace StoryPress.Config

open StoryPress.Files (Path Place Tree)

structure Overrides where
  suppressVariables : Option Bool
  smartPunctuation : Option Bool
  statePath : Option Path
  deriving DecidableEq, Repr

def Overrides.none : Overrides := ⟨Option.none, Option.none, Option.none⟩

inductive LoadError where
  | notFound (path : Path)
  | file (fault : Files.Fault)
  | toml
  | invalid (problem : Settings.Problem)
  deriving DecidableEq, Repr

def LoadError.message : LoadError → String
  | notFound path => "Configuration file not found: " ++ path
  | file fault => "I/O error: " ++ fault.message
  | toml => "TOML parse error: the text is no configuration"
  | invalid problem => "Configuration error: " ++ problem.message

structure Loaded where
  settings : Settings
  source : Option Path
  deriving DecidableEq, Repr

def fileName : String := "folio.toml"

/-- A place written as an absolute path. -/
def absolute (place : Place) : Path := "/" ++ "/".intercalate place

/-- The configuration file in a directory or else in the nearest one above it. -/
def discover (t : Tree) (directory : Path) : Option Path :=
  let candidate := Path.join directory fileName
  if t.exists? candidate then some candidate
  else match _h : Path.parent? directory with
    | some above => discover t above
    | none => none
termination_by directory.toList.length
decreasing_by exact Path.length_parent?_lt _h

/-- Settings with their state path seen from a directory. -/
def Settings.seenFrom (s : Settings) (directory : Path) : Settings :=
  { s with statePath := s.statePath.map (Path.join directory) }

def loadFile (t : Tree) (path : Path) : Except LoadError Loaded :=
  match t.readText path with
  | .error fault => .error (.file fault)
  | .ok content =>
    match Settings.read? content with
    | none => .error .toml
    | some settings =>
      match settings.problem? with
      | some problem => .error (.invalid problem)
      | none => .ok ⟨settings.seenFrom ((Path.parent? path).getD "."), some path⟩

def Settings.override (s : Settings) (o : Overrides) : Settings :=
  { s with
    suppressVariables := o.suppressVariables.getD s.suppressVariables
    options :=
      { s.options with smartPunctuation := o.smartPunctuation.getD s.options.smartPunctuation }
    statePath := o.statePath.or s.statePath }

/-- Where settings come from: the file asked for, the nearest one, or nowhere. -/
def source (t : Tree) : Option Path → Except LoadError (Option Path)
  | some path => if t.exists? path then .ok (some path) else .error (.notFound path)
  | none => .ok (discover t (absolute t.current))

def load (t : Tree) (path : Option Path) (overrides : Overrides) : Except LoadError Loaded := do
  let loaded ← match ← source t path with
    | some path => loadFile t path
    | none => .ok ⟨.default, none⟩
  return { loaded with settings := loaded.settings.override overrides }

end StoryPress.Config
