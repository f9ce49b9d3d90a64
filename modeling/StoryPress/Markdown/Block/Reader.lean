import StoryPress.Markdown.Block.Outline

/-! `step` reads one block at the start of a line: it closes the containers that do not go on, opens
new ones and reads the leaf that follows. A leaf takes all its lines. A paragraph goes on over lines
that start nothing else, also where the containers around it are not marked; definitions at its head
are taken off. -/
namespace StoryPress.Markdown.BlockReader

open Scan Leaf

/-- A text from which to read on. -/
abbrev Rest := List Char

def spaces (n : Nat) : List Char := List.replicate n ' '

/-- The columns of a table whose head is the given line, and what follows the line under it. -/
def tableBelow? (o : Outline) (line : List Char) (rest : Rest) : Option (List ColumnAlignment × Rest) :=
  if !hasBar line then none
  else
    (o.matchAll? rest).bind fun c =>
      (tableColumns? c.rest).bind fun (columns, rest) =>
        if columns.length == (rowCells line).length then some (columns, rest) else none

/-- Whether a line ends a paragraph, apart from tables. `inner` says that the open containers go on
in it. -/
def endsParagraph (inner : Bool) (cs : List Char) : Bool :=
  (lineEnd? cs).isSome || isRule cs || (headingLevel? cs).isSome || (fence? cs).isSome ||
    startsWith ['>'] cs || interruptsParagraph inner cs || startsRawHtml cs

/-- The head of a table ends a paragraph if it starts with a bar. -/
def interrupts (gfm : Bool) (o : Outline) (inner : Bool) (cs : List Char) : Bool :=
  endsParagraph inner cs ||
    (gfm && startsWith ['|'] cs &&
      let (line, rest) := splitLine cs
      (tableBelow? o line rest).isSome)

structure ParagraphLine where
  text : List Char
  rest : Rest

/-- The lines that go on a paragraph, and the level of an underline after them with what follows
that. -/
def moreLines (gfm : Bool) (o : Outline) :
    Nat → Rest → List ParagraphLine × Option (Nat × Rest)
  | 0, _ => ([], none)
  | fuel + 1, rest =>
    let (depth, c) := o.matchLine rest
    let inner := depth == o.frames.length
    let (indented, after) := c.skipAll 4
    let underline := if inner && !indented then underlineLevel? after.rest else none
    match underline with
    | some level => ([], some (level, (splitLine after.rest).2))
    | none =>
      if (!indented && interrupts gfm o inner after.rest) || after.skipBlanks.atLineEnd then
        ([], none)
      else
        let (line, rest) := splitLine c.rest
        let (lines, ending) := moreLines gfm o fuel rest
        (⟨line, rest⟩ :: lines, ending)

def paragraphText : List ParagraphLine → List Char
  | [] => []
  | [line] => line.text
  | line :: rest => line.text ++ '\n' :: paragraphText rest

def takeDefinitions : Nat → References → List ParagraphLine → References × List ParagraphLine
  | 0, references, lines => (references, lines)
  | fuel + 1, references, lines =>
    let start := match lines with
      | [] => []
      | line :: rest => { line with text := line.text.dropWhile isInlineBlank } :: rest
    match Reference.definitionLines? (paragraphText start) with
    | some (definition, count) =>
      takeDefinitions fuel (references ++ [definition]) (lines.drop count)
    | none => (references, start)

def cells (columns : List ColumnAlignment) (line : List Char) : List (List Char) :=
  let found := (rowCells line).map fun cell => cellText (skipInlineBlanks cell)
  (found ++ List.replicate columns.length []).take columns.length

/-- The rows of a table up to a line that starts another block. -/
def tableRows (o : Outline) (columns : List ColumnAlignment) :
    Nat → Rest → List (List (List Char)) × Rest
  | 0, rest => ([], rest)
  | fuel + 1, rest =>
    match o.matchAll? rest with
    | none => ([], rest)
    | some c =>
      let c := c.skipBlanks
      let (line, next) := splitLine c.rest
      if endsParagraph false c.rest || (rowCells line).isEmpty then ([], rest)
      else
        let (rows, rest) := tableRows o columns fuel next
        (cells columns line :: rows, rest)

/-- A paragraph, or the table or heading that it turns out to be. -/
def paragraph (options : Options) (o : Outline) (cs : Rest) : Outline × Rest :=
  let (line, rest) := splitLine cs
  let (more, ending) := moreLines options.gfm o (rest.length + 1) rest
  let (references, lines) :=
    takeDefinitions (more.length + 1) o.references (⟨line, rest⟩ :: more)
  let o := { o with references }
  match lines with
  | [] => (o, (more.getLastD ⟨line, rest⟩).rest)
  | head :: _ =>
    let table := if options.gfm then tableBelow? o head.text head.rest else none
    match table with
    | some (columns, body) =>
      let (rows, rest) := tableRows o columns (body.length + 1) body
      ({ o.add (.table columns (cells columns head.text) rows) with task := none }, rest)
    | none =>
      let text := paragraphText lines
      match ending with
      | some (level, rest) => ({ o.add (.heading level o.task text) with task := none }, rest)
      | none =>
        ({ o.add (.paragraph o.task text) with task := none },
          (lines.getLastD head).rest)

def fencedLines (o : Outline) (mark : Char) (count indent : Nat) :
    Nat → Rest → List (List Char) × Rest
  | 0, rest => ([], rest)
  | fuel + 1, rest =>
    match o.matchAll? rest with
    | none => ([], rest)
    | some c =>
      let c := (c.skip indent).2
      let (indented, close) := c.skipAll 4
      if !indented && closesFence mark count close.rest then
        let after := (close.rest.drop (countHead mark close.rest)).dropWhile (· == ' ')
        ([], (blankLine? after).getD after)
      else
        let (line, next) := splitFeedLine c.rest
        let (lines, rest) := fencedLines o mark count indent fuel next
        ((spaces c.pending ++ line) :: lines, rest)

def fencedCode (o : Outline) (mark : Char) (count indent : Nat) (cs : Rest) : Outline × Rest :=
  let (line, rest) := splitFeedLine (skipInlineBlanks (cs.drop count))
  let info := unescapeAll (line.reverse.dropWhile isBlank).reverse
  let (lines, rest) := fencedLines o mark count indent (rest.length + 1) rest
  (o.add (.code (some info) lines), rest)

/-- The lines of an indented code block, each with a flag that says whether it is blank. -/
def indentedLines (o : Outline) : Nat → Cursor → List (List Char × Bool) × Rest
  | 0, c => ([], c.rest)
  | fuel + 1, c =>
    let (line, rest) := splitFeedLine c.rest
    let entry := (spaces c.pending ++ line, isBlankLine c.rest)
    match o.matchAll? rest with
    | none => ([entry], rest)
    | some next =>
      let (indented, next) := next.skipAll 4
      if !(indented || next.atLineEnd) || next.rest.isEmpty then ([entry], rest)
      else
        let (lines, rest) := indentedLines o fuel next
        (entry :: lines, rest)

/-- Blank lines at the end belong to no code block. -/
def indentedCode (o : Outline) (c : Cursor) : Outline × Rest :=
  let (lines, rest) := indentedLines o (c.rest.length + 1) c
  let kept := (lines.reverse.dropWhile (·.2)).reverse
  (o.add (.code none (kept.map (·.1))), rest)

/-- The lines of raw HTML. They end with the line that holds the ending, or before a blank line if
there is none. -/
def rawLines (o : Outline) (ending : Option (List Char)) : Nat → List Char → Rest →
    List (List Char) × Rest
  | 0, _, rest => ([], rest)
  | fuel + 1, indent, cs =>
    let (line, rest) := splitFeedLine cs
    let chunk := indent ++ line
    match o.matchAll? rest with
    | none => ([chunk], rest)
    | some c =>
      let ended := match ending with
        | some ending => (RawHtml.after? ending line).isSome
        | none => isBlankLine c.rest
      if ended || c.rest.isEmpty then ([chunk], rest)
      else
        let (lines, rest) := rawLines o ending fuel (spaces c.pending) c.rest
        (chunk :: lines, rest)

def rawHtml (o : Outline) (ending : Option (List Char)) (indent : Nat) (cs : Rest) :
    Outline × Rest :=
  let (lines, rest) := rawLines o ending (cs.length + 1) (spaces indent) cs
  (o.add (.rawHtml lines), rest)

/-- How a block of raw HTML that starts here ends, if one does. -/
def rawHtmlEnding? (cs : Rest) : Option (Option (List Char)) :=
  match cs with
  | '<' :: rest =>
    match RawHtml.blockEnding? rest with
    | some ending => some (some ending)
    | none => if RawHtml.startsElement rest || RawHtml.isTagLine rest then some none else none
  | _ => none

/-- The leaf at the start of a line, after the marks of its containers. -/
def leaf (options : Options) (o : Outline) (c : Cursor) : Outline × Rest :=
  let (indent, c) := c.skipUpTo 4
  if indent == 4 then indentedCode o c
  else
    match rawHtmlEnding? c.rest with
    | some ending => rawHtml o ending indent c.rest
    | none =>
      if isRule c.rest then (o.add .rule, (splitLine c.rest).2)
      else
        match headingLevel? c.rest, fence? c.rest with
        | some level, _ =>
          let (line, rest) := splitLine c.rest
          (o.add (.heading level none (headingText (skipInlineBlanks (line.drop level)))), rest)
        | none, some (mark, count) => fencedCode o mark count indent c.rest
        | none, none => paragraph options o c.rest

/-- Where the marks of containers in a line lead: to a leaf, or to the end of the line. -/
inductive Opened where
  | leaf (o : Outline) (c : Cursor)
  | done (o : Outline) (rest : Rest)

/-- Opens containers as long as their marks follow each other. -/
def openContainers (options : Options) : Nat → Outline → Cursor → Opened
  | 0, o, c => .leaf o c
  | fuel + 1, o, c =>
    let (indent, inside) := c.skipUpTo 4
    if indent == 4 then .leaf o c
    else
      match itemStart? indent inside with
      | some (mark, width, next) =>
        let o := (o.continueList mark.char mark.number).push (.item width [])
        match blankLine? next.rest with
        | some rest => .done { o with itemBegun := true } rest
        | none =>
          match if options.gfm then next.taskBox? else none with
          | some (checked, after) =>
            match blankLine? after.rest with
            | some rest => .done { o.add (.task checked) with itemBegun := true } rest
            | none => openContainers options fuel { o with task := some checked } after
          | none => openContainers options fuel o next
      | none =>
        match inside.quoteMark? with
        | none => .leaf o c
        | some next =>
          let o := o.finishList.push (.quote [])
          match if options.gfm then next.afterAlertLine? else none with
          | none => openContainers options fuel o next
          | some rest =>
            let (depth, line) := o.matchLine rest
            let (indented, line) := line.skipAll 4
            if !indented && interrupts options.gfm o (depth == o.frames.length) line.rest then
              .done o rest
            else openContainers options fuel o line.skipBlanks

def step (options : Options) (o : Outline) (text : Rest) : Outline × Rest :=
  let (depth, c) := o.matchLine text
  match openContainers options (text.length + 1) (o.closeTo depth) c with
  | .done o rest => (o, rest)
  | .leaf o c =>
    match blankLine? c.rest with
    | some rest => (o.blankLine, rest)
    | none => leaf options o.finishList c

/-- Reads a whole text. Every step takes a character at least. -/
def steps (options : Options) : Nat → Outline → Rest → Outline
  | 0, o, _ => o
  | _, o, [] => o
  | fuel + 1, o, text =>
    let (o, rest) := step options o text
    steps options fuel o rest

def read (options : Options) (text : Rest) : List Node × References :=
  let o := steps options text.length .empty text
  (o.finish, o.references)

end StoryPress.Markdown.BlockReader
