import StoryPress.Text.Fold

/-! A pattern is a regular expression that is searched for anywhere in a text. `(?i)` makes the rest
of its group ignore case; the dot stands for any character but a line feed. Braces that count
repetitions are not known. `Pattern.ends` gives the places where a match that starts at a place may
end. -/
namespace StoryPress.Modifier

structure CharSet where
  negated : Bool
  ranges : List (Char × Char)
  deriving Repr

inductive Pattern where
  | empty
  | char (ignoreCase : Bool) (c : Char)
  | any
  | set (ignoreCase : Bool) (chars : CharSet)
  | start
  | finish
  | seq (first second : Pattern)
  | alt (first second : Pattern)
  | many (inner : Pattern)
  deriving Repr

namespace CharSet

/-- With case ignored a range stands for all characters that fold like one of its own. -/
def hasRange (ignoreCase : Bool) (c : Char) (range : Char × Char) : Bool :=
  (range.1 ≤ c && c ≤ range.2) ||
    (ignoreCase && (List.range' range.1.toNat (range.2.toNat + 1 - range.1.toNat)).any fun code =>
      Text.foldSimple (Char.ofNat code) == Text.foldSimple c)

def has (ignoreCase : Bool) (chars : CharSet) (c : Char) : Bool :=
  chars.ranges.any (hasRange ignoreCase c) != chars.negated

end CharSet

namespace Pattern

/-- A place in a text: whether it is the very start, and what follows. -/
abbrev Place := Bool × List Char

def step (test : Char → Bool) : Place → List Place
  | (_, c :: rest) => if test c then [(false, rest)] else []
  | (_, []) => []

/-- Repeats a matcher as long as it takes characters. -/
def repeated (inner : Place → List Place) : Nat → Place → List Place
  | 0, p => [p]
  | fuel + 1, p =>
    p :: ((inner p).filter fun q => q.2.length < p.2.length).flatMap (repeated inner fuel)

def ends : Pattern → Place → List Place
  | empty, p => [p]
  | char ignoreCase c, p =>
    step (fun d => if ignoreCase then Text.foldSimple d == Text.foldSimple c else d == c) p
  | any, p => step (· != '\n') p
  | set ignoreCase chars, p => step (chars.has ignoreCase) p
  | start, p => if p.1 then [p] else []
  | finish, p => if p.2.isEmpty then [p] else []
  | seq first second, p => (ends first p).flatMap (ends second)
  | alt first second, p => ends first p ++ ends second p
  | many inner, p => repeated (ends inner) p.2.length p

/-- All places of a text from a given one on. -/
def places : Place → List Place
  | (first, []) => [(first, [])]
  | (first, c :: rest) => (first, c :: rest) :: places (false, rest)
  termination_by p => p.2.length

def matchesText (pattern : Pattern) (s : String) : Bool :=
  (places (true, s.toList)).any fun p => !(pattern.ends p).isEmpty

/-- A character of a set, plain or after a backslash. -/
def setChar? : List Char → Option (Char × List Char)
  | '\\' :: c :: rest => if c.isAlphanum then none else some (c, rest)
  | '\\' :: [] => none
  | c :: rest => some (c, rest)
  | [] => none

def setRanges? : Nat → List Char → Option (List (Char × Char) × List Char)
  | 0, _ => none
  | _, [] => none
  | fuel + 1, c :: rest =>
    if c == ']' then some ([], rest)
    else do
      let (low, rest) ← setChar? (c :: rest)
      match rest with
      | '-' :: ']' :: rest => return ([(low, low), ('-', '-')], rest)
      | '-' :: rest =>
        let (high, rest) ← setChar? rest
        if high < low then none
        else
          let (ranges, rest) ← setRanges? fuel rest
          return ((low, high) :: ranges, rest)
      | rest =>
        let (ranges, rest) ← setRanges? fuel rest
        return ((low, low) :: ranges, rest)

/-- Characters that stand for themselves at the start of a set: hyphens, or else a closing
bracket. -/
def setStart (cs : List Char) : List Char :=
  match cs with
  | ']' :: _ => [']']
  | _ => cs.takeWhile (· == '-')

def set? (ignoreCase : Bool) (cs : List Char) : Option (Pattern × List Char) :=
  let (negated, cs) := match cs with
    | '^' :: rest => (true, rest)
    | _ => (false, cs)
  let first := setStart cs
  (setRanges? (cs.length + 1) (cs.drop first.length)).map fun (ranges, rest) =>
    (set ignoreCase ⟨negated, first.map (fun c => (c, c)) ++ ranges⟩, rest)

def postfixed : Pattern → List Char → Pattern × List Char
  | atom, '*' :: rest => postfixed (many atom) rest
  | atom, '+' :: rest => postfixed (seq atom (many atom)) rest
  | atom, '?' :: rest => postfixed (alt atom empty) rest
  | atom, rest => (atom, rest)

mutual

def alternatives? : Nat → Bool → List Char → Option (Pattern × List Char)
  | 0, _, _ => none
  | fuel + 1, ignoreCase, cs =>
    match sequence? fuel ignoreCase cs with
    | none => none
    | some (first, ignoreCase, '|' :: rest) =>
      (alternatives? fuel ignoreCase rest).map fun (second, rest) => (alt first second, rest)
    | some (first, _, rest) => some (first, rest)

/-- Atoms up to a bar or the end of the group, with the case rule in force after them. -/
def sequence? : Nat → Bool → List Char → Option (Pattern × Bool × List Char)
  | 0, _, _ => none
  | _, ignoreCase, [] => some (empty, ignoreCase, [])
  | fuel + 1, ignoreCase, c :: rest =>
    if c == '|' || c == ')' then some (empty, ignoreCase, c :: rest)
    else if ['(', '?', 'i', ')'].isPrefixOf (c :: rest) then
      sequence? fuel true (rest.drop 3)
    else
      match atom? fuel ignoreCase c rest with
      | none => none
      | some (atom, rest) =>
        let (atom, rest) := postfixed atom rest
        (sequence? fuel ignoreCase rest).map fun (more, ignoreCase, rest) =>
          (seq atom more, ignoreCase, rest)

/-- One atom, given by its first character and the rest. -/
def atom? : Nat → Bool → Char → List Char → Option (Pattern × List Char)
  | 0, _, _, _ => none
  | fuel + 1, ignoreCase, c, rest =>
    if c == '(' then
      match alternatives? fuel ignoreCase rest with
      | some (inner, ')' :: rest) => some (inner, rest)
      | _ => none
    else if c == '[' then set? ignoreCase rest
    else if c == '^' then some (start, rest)
    else if c == '$' then some (finish, rest)
    else if c == '.' then some (any, rest)
    else if c == '*' || c == '+' || c == '?' || c == '{' then none
    else if c == '\\' then
      match rest with
      | d :: rest => if d.isAlphanum then none else some (char ignoreCase d, rest)
      | [] => none
    else some (char ignoreCase c, rest)

end

def parse? (s : String) : Option Pattern :=
  let cs := s.toList
  match alternatives? (3 * cs.length + 3) false cs with
  | some (pattern, []) => some pattern
  | _ => none

end Pattern

end StoryPress.Modifier
