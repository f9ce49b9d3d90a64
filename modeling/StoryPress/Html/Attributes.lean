import Mathlib.Data.List.Basic

/-! An opening tag ends at its first `>` outside of double quotes. A name is what stands between
blanks and an equals sign; its value reaches from one quote to the next, whatever other characters
it has. -/
namespace StoryPress.Html

structure Attribute where
  name : List Char
  value : List Char
  deriving DecidableEq, Repr

/-- Where a reader of attributes stands. -/
inductive Quoting where
  | outside (name : List Char)
  | quoted (name value : List Char)

/-- The attributes up to the end of the tag, and the text after it. -/
def attributesFrom : Quoting → List Char → Option (List Attribute × List Char)
  | _, [] => none
  | .outside name, c :: rest =>
    if c = '>' then some ([], rest)
    else if c = '"' then attributesFrom (.quoted name []) rest
    else if c.isWhitespace then attributesFrom (.outside []) rest
    else if c = '=' then attributesFrom (.outside name) rest
    else attributesFrom (.outside (name ++ [c])) rest
  | .quoted name value, c :: rest =>
    if c = '"' then
      (attributesFrom (.outside []) rest).map fun (more, after) => (⟨name, value⟩ :: more, after)
    else attributesFrom (.quoted name (value ++ [c])) rest

/-- The quoted attributes of the opening tag that a text starts with, and the text after the tag. -/
def attributesOf : List Char → Option (List Attribute × List Char)
  | '<' :: rest => attributesFrom (.outside []) rest
  | _ => none

theorem attributesFrom_quoted {cs : List Char} (h : '"' ∉ cs) (name value rest : List Char) :
    attributesFrom (.quoted name value) (cs ++ '"' :: rest) =
      (attributesFrom (.outside []) rest).map fun (more, after) =>
        (⟨name, value ++ cs⟩ :: more, after) := by
  induction cs generalizing value with
  | nil => rw [List.nil_append, attributesFrom, if_pos rfl, List.append_nil]
  | cons c cs ih =>
    rw [List.mem_cons, not_or] at h
    rw [List.cons_append, attributesFrom, if_neg (Ne.symm h.1), ih h.2, List.append_assoc]
    rfl

/-- The last value of a tag is read to its end exactly if it has no quote. -/
theorem attributesFrom_last_iff {name value rest : List Char} :
    attributesFrom (.quoted name []) (value ++ '"' :: '>' :: rest) = some ([⟨name, value⟩], rest) ↔
      '"' ∉ value := by
  constructor
  · intro h hmem
    obtain ⟨before, after, rfl, hbefore⟩ := List.eq_append_cons_of_mem hmem
    rw [List.append_assoc, List.cons_append, attributesFrom_quoted hbefore,
      Option.map_eq_some_iff] at h
    obtain ⟨found, -, hfound⟩ := h
    have hvalue : before = before ++ '"' :: after :=
      congrArg Attribute.value (List.cons.inj (Prod.mk.inj hfound).1).1
    simp at hvalue
  · intro h
    rw [attributesFrom_quoted h]
    rfl

end StoryPress.Html
