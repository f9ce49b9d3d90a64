import StoryPress.Number.Double
import StoryPress.Text.Split

/-! Values of story variables. A number is an integer that fits 64 bits or else a double, and the
two kinds stay apart inside arrays and objects: `same` tells `1` from `1.0`, while `Number.toDouble`
takes both to the same value. The fields of an object are kept in the order of their names. -/
namespace StoryPress.Json

inductive Number where
  | int (i : Int)
  | real (d : Number.Double)
  deriving DecidableEq, Repr

namespace Number

open StoryPress.Number (Double)

def toDouble : Json.Number → Double
  | int i => Double.ofInt i
  | real d => d

/-- Equality within one kind; the two zeros of the doubles are the same. -/
def same : Json.Number → Json.Number → Bool
  | int i, int j => i == j
  | real a, real b => a.cmp b == .eq
  | _, _ => false

end Number

inductive Value where
  | null
  | bool (b : Bool)
  | number (n : Number)
  | text (s : String)
  | array (items : List Value)
  | object (fields : List (String × Value))
  deriving Repr

instance : Inhabited Value := ⟨.null⟩

abbrev Fields := List (String × Value)

abbrev Lookup := String → Option Value

namespace Fields

def get? (fields : Fields) (name : String) : Option Value := fields.lookup name

/-- Sets a field: an earlier value of that name is replaced, a new name goes before the first
greater one. -/
def put (name : String) (value : Value) : Fields → Fields
  | [] => [(name, value)]
  | (k, v) :: rest =>
    if name = k then (name, value) :: rest
    else if name < k then (name, value) :: (k, v) :: rest
    else (k, v) :: put name value rest

def ofPairs (pairs : List (String × Value)) : Fields :=
  pairs.foldl (fun fields (name, value) => put name value fields) []

theorem get?_put (fields : Fields) (name other : String) (value : Value) :
    (put name value fields).get? other =
      if other = name then some value else fields.get? other := by
  induction fields with
  | nil =>
    by_cases h : other = name
    · simp [put, get?, h]
    · simp [put, get?, List.lookup_cons, beq_false_of_ne h, h]
  | cons entry rest ih =>
    obtain ⟨k, v⟩ := entry
    simp only [get?] at ih ⊢
    by_cases hn : name = k
    · subst hn
      by_cases h : other = name
      · simp [put, h]
      · simp [put, List.lookup_cons, beq_false_of_ne h, h]
    · by_cases hl : name < k
      · by_cases h : other = name
        · simp [put, hn, hl, h]
        · simp [put, hn, hl, List.lookup_cons, beq_false_of_ne h, h]
      · by_cases hk : other = k
        · subst hk
          simp [put, hn, hl, Ne.symm hn]
        · simp [put, hn, hl, List.lookup_cons, beq_false_of_ne hk, ih]

end Fields

namespace Value

/-- The value of a field; only objects have fields. -/
def field? (value : Value) (name : String) : Option Value :=
  match value with
  | object fields => Fields.get? fields name
  | _ => none

/-- Null, false, zero, the empty text and the empty array are false; all else is true. -/
def isTruthy : Value → Bool
  | null => false
  | bool b => b
  | number n => !n.toDouble.isZero
  | text s => s != ""
  | array items => !items.isEmpty
  | object _ => true

mutual

/-- Equality of structure, with numbers compared within their kind. -/
def same : Value → Value → Bool
  | null, null => true
  | bool a, bool b => a == b
  | number a, number b => a.same b
  | text a, text b => a == b
  | array xs, array ys => sameItems xs ys
  | object xs, object ys => sameFields xs ys
  | _, _ => false

def sameItems : List Value → List Value → Bool
  | [], [] => true
  | x :: xs, y :: ys => same x y && sameItems xs ys
  | _, _ => false

def sameFields : List (String × Value) → List (String × Value) → Bool
  | [], [] => true
  | (k, x) :: xs, (l, y) :: ys => k == l && same x y && sameFields xs ys
  | _, _ => false

end

mutual

/-- Whether two values are one, down to the kind and the zero of a number. -/
def isSame : Value → Value → Bool
  | null, null => true
  | bool a, bool b => a == b
  | number a, number b => a == b
  | text a, text b => a == b
  | array xs, array ys => areSame xs ys
  | object xs, object ys => areSameFields xs ys
  | _, _ => false

def areSame : List Value → List Value → Bool
  | [], [] => true
  | x :: xs, y :: ys => isSame x y && areSame xs ys
  | _, _ => false

def areSameFields : List (String × Value) → List (String × Value) → Bool
  | [], [] => true
  | (k, x) :: xs, (l, y) :: ys => k == l && isSame x y && areSameFields xs ys
  | _, _ => false

end

mutual

theorem isSame_iff : (a b : Value) → (isSame a b = true ↔ a = b)
  | null, b => by cases b <;> simp [isSame]
  | bool _, b => by cases b <;> simp [isSame]
  | number _, b => by cases b <;> simp [isSame]
  | text _, b => by cases b <;> simp [isSame]
  | array xs, b => by cases b <;> simp [isSame, areSame_iff xs]
  | object xs, b => by cases b <;> simp [isSame, areSameFields_iff xs]

theorem areSame_iff : (xs ys : List Value) → (areSame xs ys = true ↔ xs = ys)
  | [], ys => by cases ys <;> simp [areSame]
  | x :: xs, ys => by cases ys <;> simp [areSame, isSame_iff x, areSame_iff xs]

theorem areSameFields_iff :
    (xs ys : List (String × Value)) → (areSameFields xs ys = true ↔ xs = ys)
  | [], ys => by cases ys <;> simp [areSameFields]
  | (k, x) :: xs, ys => by
    cases ys <;> simp [areSameFields, Prod.ext_iff, isSame_iff x, areSameFields_iff xs]

end

instance : DecidableEq Value := fun a b => decidable_of_iff _ (isSame_iff a b)

/-- Resolves a dotted path: first the whole path as one name, then its root with a walk through
object fields. -/
def resolve (lookup : Lookup) (path : String) : Option Value :=
  match lookup path with
  | some value => some value
  | none =>
    match Text.split '.' path with
    | [] => none
    | root :: keys => (lookup root).bind fun value => keys.foldlM field? value

end Value

end StoryPress.Json
