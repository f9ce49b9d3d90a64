import StoryPress.Json.Reader

/-! A record with known fields is written as an object, or as an array of its fields in their order.
An object may have other fields too, which nobody looks at, but each known field only once. -/
namespace StoryPress.Json.Syntax

def text? : Syntax → Option String
  | text s => s
  | _ => none

def list? {α : Type} (read : Syntax → Option α) : Syntax → Option (List α)
  | array items => items.mapM read
  | _ => none

/-- A field that may be left out or be null. -/
def optional? {α : Type} (read : Syntax → Option α) : Option Syntax → Option (Option α)
  | none => some none
  | some null => some none
  | some syn => (read syn).map some

def required? {α : Type} (read : Syntax → Option α) (field : Option Syntax) : Option α :=
  field.bind read

/-- The known fields of a record, each if it is there. An array has at least `shortest` items. -/
def record? (names : List String) (shortest : Nat) : Syntax → Option (List (Option Syntax))
  | array items =>
    if shortest ≤ items.length && items.length ≤ names.length then
      some ((items.map some ++ List.replicate names.length none).take names.length)
    else none
  | object fields => do
    let fields ← fields.mapM fun (name, item) => name.map fun name => (name, item)
    if names.all fun name => (fields.filter (·.1 == name)).length ≤ 1 then
      return names.map fun name => fields.lookup name
    else none
  | _ => none

end StoryPress.Json.Syntax
