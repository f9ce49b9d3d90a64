/-! A document is a list of assignments under table headers. A table is made by a header, by dotted
keys or by a header of a table inside it, and which of these decides whether more may be put into
it: a key is assigned once, a header opens a table once, and tables of dotted keys are closed to
headers. -/
namespace StoryPress.Toml

inductive Value where
  | bool (b : Bool)
  | text (s : String)
  | array (items : List Value)
  | table (fields : List (String × Value))
  deriving Repr

inductive Origin where
  | header
  | dotted
  | implied
  deriving DecidableEq, Repr

/-- What a key stands for while a document is read. -/
inductive Node where
  | value (v : Value)
  | table (origin : Origin) (entries : List (String × Node))

abbrev Entries := List (String × Node)

namespace Entries

def replace (key : String) (node : Node) (entries : Entries) : Entries :=
  entries.map fun entry => if entry.1 = key then (key, node) else entry

/-- Puts a value at a dotted key. The tables on the way are new, or were made by dotted keys. -/
def assign (v : Value) : List String → Entries → Option Entries
  | [], _ => none
  | [key], entries =>
    if (entries.lookup key).isSome then none else some (entries ++ [(key, .value v)])
  | key :: rest, entries =>
    match entries.lookup key with
    | none => (assign v rest []).map fun inner => entries ++ [(key, .table .dotted inner)]
    | some (.table .dotted inner) =>
      (assign v rest inner).map fun inner => entries.replace key (.table .dotted inner)
    | some _ => none

def openTable : List String → Entries → Option Entries
  | [], _ => none
  | [key], entries =>
    match entries.lookup key with
    | none => some (entries ++ [(key, .table .header [])])
    | some (.table .implied inner) => some (entries.replace key (.table .header inner))
    | some _ => none
  | key :: rest, entries =>
    match entries.lookup key with
    | none => (openTable rest []).map fun inner => entries ++ [(key, .table .implied inner)]
    | some (.table origin inner) =>
      (openTable rest inner).map fun inner => entries.replace key (.table origin inner)
    | some (.value _) => none

def within (change : Entries → Option Entries) : List String → Entries → Option Entries
  | [], entries => change entries
  | key :: rest, entries =>
    match entries.lookup key with
    | some (.table origin inner) =>
      (within change rest inner).map fun inner => entries.replace key (.table origin inner)
    | _ => none

end Entries

mutual

def Node.toValue : Node → Value
  | .value v => v
  | .table _ entries => .table (fieldsOf entries)

def fieldsOf : List (String × Node) → List (String × Value)
  | [] => []
  | (key, node) :: rest => (key, node.toValue) :: fieldsOf rest

end

/-- A line of a document that says something. -/
inductive Statement where
  | header (key : List String)
  | assign (key : List String) (v : Value)

/-- What has been read: the tables so far, and the header above. -/
structure Draft where
  entries : Entries
  header : List String

def Draft.add (d : Draft) : Statement → Option Draft
  | .header key => (Entries.openTable key d.entries).map fun entries => ⟨entries, key⟩
  | .assign key v =>
    (Entries.within (Entries.assign v key) d.header d.entries).map fun entries => { d with entries }

/-- The table that statements make, if none contradicts another. -/
def tableOf (statements : List Statement) : Option (List (String × Value)) :=
  (statements.foldlM Draft.add ⟨[], []⟩).map fun d => fieldsOf d.entries

end StoryPress.Toml
