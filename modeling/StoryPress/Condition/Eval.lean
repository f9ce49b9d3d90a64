import StoryPress.Condition.Expr

/-! Two numbers are ordered by value and two texts by their characters; any other pair is only equal
or different. A variable that resolves to nothing is null. -/
namespace StoryPress.Condition

open StoryPress.Json (Value Lookup)

/-- Texts are ordered by code points, which is the order of their UTF-8 bytes. -/
def cmpChars : List Char → List Char → Ordering
  | [], [] => .eq
  | [], _ :: _ => .lt
  | _ :: _, [] => .gt
  | a :: as, b :: bs => (compare a.toNat b.toNat).then (cmpChars as bs)

def order? : Value → Value → Option Ordering
  | .number a, .number b => some (a.toDouble.cmp b.toDouble)
  | .text a, .text b => some (cmpChars a.toList b.toList)
  | _, _ => none

namespace Comparison

def holds : Comparison → Ordering → Bool
  | eq, o => o == .eq
  | ne, o => o != .eq
  | lt, o => o == .lt
  | le, o => o != .gt
  | gt, o => o == .gt
  | ge, o => o != .lt

/-- Values without an order may still be equal. -/
def decide (op : Comparison) (a b : Value) : Bool :=
  match order? a b with
  | some o => op.holds o
  | none =>
    match op with
    | eq => a.same b
    | ne => !a.same b
    | _ => false

end Comparison

/-- The value at the end of a walk through the fields of objects, null where the walk stops short. -/
def fieldAt (value : Value) : List String → Value
  | [] => value
  | key :: rest =>
    match value.field? key with
    | some inner => fieldAt inner rest
    | none => .null

/-- The value of a dotted path: that of the whole path as one name, or else of its root and a walk
from there. -/
def lookupPath (lookup : Lookup) (path : String) : Value :=
  match lookup path with
  | some value => value
  | none =>
    match Text.split '.' path with
    | [] => .null
    | root :: keys =>
      match lookup root with
      | some value => fieldAt value keys
      | none => .null

namespace Expr

mutual

def eval (lookup : Lookup) : Expr → Value
  | literal value => value
  | var path => lookupPath lookup path
  | not inner => .bool !(eval lookup inner).isTruthy
  | all terms => .bool (evalAll lookup terms)
  | any terms => .bool (evalAny lookup terms)
  | compare op left right => .bool (op.decide (eval lookup left) (eval lookup right))

def evalAll (lookup : Lookup) : List Expr → Bool
  | [] => true
  | term :: rest => (eval lookup term).isTruthy && evalAll lookup rest

def evalAny (lookup : Lookup) : List Expr → Bool
  | [] => false
  | term :: rest => (eval lookup term).isTruthy || evalAny lookup rest

end

def isTrue (lookup : Lookup) (e : Expr) : Bool := (e.eval lookup).isTruthy

end Expr

end StoryPress.Condition
