import StoryPress.Files.Path

/-! A command line names a command and then its switches and operands in any order. A switch has a
long name after two hyphens and perhaps a letter after one; letters may be written together. The
value of a switch follows it, or is joined to it by an equals sign. Two hyphens alone end the
switches. -/
namespace StoryPress.Command

open StoryPress.Files (Path)

structure Switch where
  long : String
  short : Option Char
  takesValue : Bool
  deriving DecidableEq, Repr

structure Found where
  /-- Switches with their values, the last one first. -/
  switches : List (String × Option String)
  /-- The last operand first. -/
  operands : List String
  deriving DecidableEq, Repr

/-- How the reading of a command line ended. Help is asked for as soon as its switch is read. -/
inductive Scanned where
  | help
  | usage
  | found (f : Found)
  deriving DecidableEq, Repr

namespace Found

def empty : Found := ⟨[], []⟩

/-- Adds a switch. None is given twice, and no value is empty. -/
def add? (f : Found) (s : Switch) (value : Option String) : Option Found :=
  if (f.switches.lookup s.long).isSome || value == some "" then none
  else some { f with switches := (s.long, value) :: f.switches }

def isOn (f : Found) (long : String) : Bool := (f.switches.lookup long).isSome

def value? (f : Found) (long : String) : Option String := (f.switches.lookup long).join

end Found

/-- What one argument leads to: an end, or what was found with a switch that waits for its value. -/
inductive Step where
  | help
  | usage
  | next (f : Found) (waiting : Option Switch)

/-- An argument that starts with two hyphens, without these. -/
def longSwitch (switches : List Switch) (f : Found) (body : List Char) : Step :=
  let name := String.ofList (body.takeWhile (· != '='))
  let value := match body.dropWhile (· != '=') with
    | _ :: value => some (String.ofList value)
    | [] => none
  if name = "help" && value.isNone then .help
  else
    match switches.find? (·.long == name) with
    | none => .usage
    | some s =>
      if s.takesValue && value.isNone then .next f (some s)
      else if s.takesValue != value.isSome then .usage
      else match f.add? s value with
        | some f => .next f none
        | none => .usage

/-- Letters after one hyphen. What follows a letter that takes a value is that value. -/
def shortSwitches (switches : List Switch) (f : Found) : List Char → Step
  | [] => .next f none
  | c :: rest =>
    if c = 'h' then .help
    else
      match switches.find? (·.short == some c) with
      | none => .usage
      | some s =>
        if s.takesValue then
          match rest with
          | [] => .next f (some s)
          | _ =>
            let value := if rest.head? == some '=' then rest.drop 1 else rest
            match f.add? s (some (String.ofList value)) with
            | some f => .next f none
            | none => .usage
        else match f.add? s none with
          | some f => shortSwitches switches f rest
          | none => .usage

/-- An operand. None is empty, and there are at most so many. -/
def operand (limit : Nat) (f : Found) (s : String) : Step :=
  if s = "" || limit ≤ f.operands.length then .usage
  else .next { f with operands := s :: f.operands } none

def scan (switches : List Switch) (limit : Nat) (ended : Bool) (f : Found)
    (waiting : Option Switch) : List String → Scanned
  | [] => if waiting.isSome then .usage else .found f
  | argument :: rest =>
    let continueWith : Step → Scanned
      | .help => .help
      | .usage => .usage
      | .next f waiting => scan switches limit ended f waiting rest
    match waiting with
    | some s =>
      if argument != "-" && argument.toList.head? == some '-' then .usage
      else match f.add? s (some argument) with
        | some f => scan switches limit ended f none rest
        | none => .usage
    | none =>
      if ended then continueWith (operand limit f argument)
      else match argument.toList with
        | ['-', '-'] => scan switches limit true f none rest
        | '-' :: '-' :: body => continueWith (longSwitch switches f body)
        | '-' :: c :: body => continueWith (shortSwitches switches f (c :: body))
        | _ => continueWith (operand limit f argument)

structure RenderArguments where
  document : Path
  inserts : Option Path
  state : Option Path
  config : Option Path
  noVars : Bool
  noSmartPunctuation : Bool
  markdown : Bool
  verbose : Bool
  deriving DecidableEq, Repr

inductive Request where
  | render (a : RenderArguments)
  | modifiers (config : Option Path)
  | help
  | version
  deriving DecidableEq, Repr

def configSwitch : Switch := ⟨"config", some 'c', true⟩

def renderSwitches : List Switch :=
  [⟨"inserts", some 'i', true⟩, ⟨"state", some 's', true⟩, configSwitch, ⟨"no-vars", none, false⟩,
    ⟨"no-smart-punctuation", none, false⟩, ⟨"markdown", none, false⟩, ⟨"verbose", some 'v', false⟩]

def readRender (arguments : List String) : Option Request :=
  match scan renderSwitches 1 false .empty none arguments with
  | .help => some .help
  | .usage => none
  | .found f =>
    f.operands.head?.map fun document =>
      .render ⟨document, f.value? "inserts", f.value? "state", f.value? "config", f.isOn "no-vars",
        f.isOn "no-smart-punctuation", f.isOn "markdown", f.isOn "verbose"⟩

def readModifiers (arguments : List String) : Option Request :=
  match scan [configSwitch] 0 false .empty none arguments with
  | .help => some .help
  | .usage => none
  | .found f => some (.modifiers (f.value? "config"))

/-- The request of a command line; none if it is not one. -/
def Request.read? : List String → Option Request
  | [] => none
  | "render" :: rest => readRender rest
  | "modifiers" :: rest => readModifiers rest
  | ["help"] => some .help
  | ["help", command] =>
    if ["render", "modifiers", "help"].contains command then some .help else none
  | argument :: _ =>
    match argument.toList with
    | ['-', '-', 'h', 'e', 'l', 'p'] => some .help
    | ['-', '-', 'v', 'e', 'r', 's', 'i', 'o', 'n'] => some .version
    | '-' :: 'h' :: _ => some .help
    | '-' :: 'V' :: _ => some .version
    | _ => none

end StoryPress.Command
