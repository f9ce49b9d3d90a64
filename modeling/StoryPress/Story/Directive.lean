import StoryPress.Condition.Eval
import StoryPress.Story.Fault
import StoryPress.Story.Store

/-! A directive writes a variable, if its condition holds. Condition and value are read off the
store as the directives before it left it, and either may fail. `dispatch` runs directives in order
and stops at the first failure, keeping what was written before it. It also lists the functions that
were run. -/
namespace StoryPress.Story

open StoryPress.Json (Value Lookup)

structure Directive where
  name : String
  condition : Option (Lookup → Except Fault Bool)
  value : Lookup → Except Fault Value

namespace Directive

def constant (name : String) (value : Value) : Directive := ⟨name, none, fun _ => .ok value⟩

def given (condition : Condition.Expr) (d : Directive) : Directive :=
  { d with condition := some fun lookup => .ok (condition.isTrue lookup) }

def isConditional (d : Directive) : Bool := d.condition.isSome

inductive Call where
  | condition (name : String)
  | value (name : String)
  deriving DecidableEq, Repr

/-- What one directive does: the functions it ran, and either its failure or the value to write, if
it fires. -/
def run (d : Directive) (lookup : Lookup) : List Call × Except RenderError (Option Value) :=
  let write (calls : List Call) : List Call × Except RenderError (Option Value) :=
    match d.value lookup with
    | .ok value => (calls ++ [.value d.name], .ok (some value))
    | .error fault => (calls ++ [.value d.name], .error (.value d.name fault))
  match d.condition with
  | none => write []
  | some condition =>
    match condition lookup with
    | .ok true => write [.condition d.name]
    | .ok false => ([.condition d.name], .ok none)
    | .error fault => ([.condition d.name], .error (.condition d.name fault))

end Directive

structure Dispatched where
  store : Store
  calls : List Directive.Call
  error : Option RenderError

def dispatch : List Directive → Store → Dispatched
  | [], store => ⟨store, [], none⟩
  | d :: rest, store =>
    match d.run store.get? with
    | (calls, .error e) => ⟨store, calls, some e⟩
    | (calls, .ok written) =>
      let store := match written with
        | some value => store.set d.name value
        | none => store
      let later := dispatch rest store
      ⟨later.store, calls ++ later.calls, later.error⟩

/-- With suppression on nothing is run and the store stays as it is. -/
def dispatchUnless (suppress : Bool) (directives : List Directive) (store : Store) : Dispatched :=
  if suppress then ⟨store, [], none⟩ else dispatch directives store

@[simp] theorem dispatch_nil (store : Store) : dispatch [] store = ⟨store, [], none⟩ := rfl

end StoryPress.Story
