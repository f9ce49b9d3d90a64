import StoryPress.Config.Load
import StoryPress.Modifier.Builtin

namespace StoryPress.Command

open StoryPress.Config (Settings)
open StoryPress.Json (Lookup)
open StoryPress.Modifier (Registry)
open StoryPress.Modifier.Builtin (Name)

def builtinRegistry (s : Settings) (lookup : Lookup) : Registry :=
  if s.builtin then Modifier.Builtin.registry lookup s.disabled else []

/-- The disabled names that no modifier has. -/
def unknownNames (s : Settings) : List String :=
  s.disabled.filter fun name => !Modifier.Builtin.isBuiltin name

def isOff (s : Settings) (name : Name) : Bool :=
  !s.builtin || Modifier.Builtin.isDisabled s.disabled name

def padTo (width : Nat) (s : String) : String :=
  s ++ String.ofList (List.replicate (width - s.length) ' ')

def listingLine (s : Settings) (name : Name) : String :=
  "  " ++ padTo 12 name.text ++ " [" ++ name.usage ++ "]" ++
    (if isOff s name then " (disabled)" else "")

end StoryPress.Command
