import StoryPress.Markdown.Tree
import StoryPress.Text.Blank
import StoryPress.Toml.Reader

namespace StoryPress.Config

open StoryPress.Toml (Value)

structure Settings where
  options : Markdown.Options
  /-- Whether variable directives are left out. -/
  suppressVariables : Bool
  /-- Whether there are built-in modifiers. -/
  builtin : Bool
  /-- The built-in modifiers that are turned off. -/
  disabled : List String
  /-- Where variables are kept between renders. -/
  statePath : Option String
  deriving DecidableEq, Repr

namespace Settings

def default : Settings := ⟨.default, false, true, [], none⟩

/-- The values of a section for its keys; a table must hold no other keys. -/
def sectionValues? (keys : List String) : Option Value → Option (List (Option Value))
  | none => some (keys.map fun _ => none)
  | some (.table fields) =>
    if fields.all fun field => keys.contains field.1 then
      some (keys.map fun key => fields.lookup key)
    else none
  | some (.array items) =>
    some ((items.map some ++ List.replicate keys.length none).take keys.length)
  | some _ => none

def bool? (default : Bool) : Option Value → Option Bool
  | none => some default
  | some (.bool b) => some b
  | some _ => none

def text? : Value → Option String
  | .text s => some s
  | _ => none

def texts? : Option Value → Option (List String)
  | none => some []
  | some (.array items) => items.mapM text?
  | some _ => none

def ofTable? (table : List (String × Value)) : Option Settings := do
  let [render, modifiers, state] ←
    sectionValues? ["render", "modifiers", "state"] (some (.table table)) | none
  let [smart, gfm, lineBreaks, suppress] ←
    sectionValues? ["smart_punctuation", "gfm", "line_breaks", "suppress_vars"] render | none
  let [builtin, disabled] ← sectionValues? ["builtin", "disabled"] modifiers | none
  let [path] ← sectionValues? ["path"] state | none
  let smart ← bool? default.options.smartPunctuation smart
  let gfm ← bool? default.options.gfm gfm
  let lineBreaks ← bool? default.options.lineBreaks lineBreaks
  let suppress ← bool? default.suppressVariables suppress
  let builtin ← bool? default.builtin builtin
  let disabled ← texts? disabled
  let path ← match path with
    | none => some none
    | some v => (text? v).map some
  return ⟨⟨smart, gfm, lineBreaks⟩, suppress, builtin, disabled, path⟩

def read? (toml : String) : Option Settings := (Toml.read? toml).bind ofTable?

inductive Problem where
  | blankName
  | repeatedName (name : String)
  | nothingToDisable
  | blankStatePath
  deriving DecidableEq, Repr

def Problem.message : Problem → String
  | blankName => "modifiers.disabled entry cannot be empty"
  | repeatedName name => "modifiers.disabled lists \"" ++ name ++ "\" more than once"
  | nothingToDisable => "modifiers.disabled has no effect when modifiers.builtin is false"
  | blankStatePath => "state.path cannot be empty"

def isBlank (s : String) : Bool := (Text.trim s).isEmpty

/-- The first problem in a list of disabled names, given the names before it. An entry is looked at
for blanks before it is compared. -/
def nameProblem? : List String → List String → Option Problem
  | _, [] => none
  | earlier, name :: rest =>
    if isBlank name then some .blankName
    else if earlier.any fun other => Text.eqIgnoringAsciiCase other name then
      some (.repeatedName name)
    else nameProblem? (earlier ++ [name]) rest

/-- The first problem: of the names, then of names where there is nothing to disable, then of the
state path. -/
def problem? (s : Settings) : Option Problem :=
  match nameProblem? [] s.disabled with
  | some problem => some problem
  | none =>
    if !s.builtin && !s.disabled.isEmpty then some .nothingToDisable
    else if (s.statePath.map isBlank).getD false then some .blankStatePath
    else none

end Settings

end StoryPress.Config
