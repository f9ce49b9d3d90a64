import StoryPress.Markdown.Scan

namespace StoryPress.Markdown.RawHtml

open Scan

def isTagRest (c : Char) : Bool := c.isAlphanum || c == '-'

def isAttributeStart (c : Char) : Bool := c.isAlpha || c == '_' || c == ':'

def isAttributeRest (c : Char) : Bool :=
  c.isAlphanum || c == '_' || c == '.' || c == ':' || c == '-'

def isUnquoted (c : Char) : Bool :=
  !(isBlank c || c == '"' || c == '\'' || c == '=' || c == '<' || c == '>' || c == '`')

/-- The blanks of a tag; line ends count only where a tag may span lines. -/
def tagBlank (multiline : Bool) (c : Char) : Bool := isInlineBlank c || (multiline && isLineEnd c)

def attributeValue? (multiline : Bool) : List Char → Option (List Char)
  | [] => none
  | c :: rest =>
    if c == '"' || c == '\'' then
      let inside := rest.takeWhile (· != c)
      if !multiline && inside.any isLineEnd then none
      else match rest.drop inside.length with
        | _ :: rest => some rest
        | [] => none
    else if isUnquoted c then some (rest.dropWhile isUnquoted)
    else none

def attribute? (multiline : Bool) : List Char → Option (List Char)
  | [] => none
  | c :: rest =>
    if isAttributeStart c then
      let rest := rest.dropWhile isAttributeRest
      match rest.dropWhile (tagBlank multiline) with
      | '=' :: more => attributeValue? multiline (more.dropWhile (tagBlank multiline))
      | _ => some rest
    else none

/-- Attributes up to the end of the tag. Blanks must stand before each. -/
def attributes? (multiline : Bool) : Nat → List Char → Option (List Char)
  | 0, _ => none
  | fuel + 1, cs =>
    let after := cs.dropWhile (tagBlank multiline)
    match after with
    | '/' :: '>' :: rest => some rest
    | '>' :: rest => some rest
    | '/' :: _ => none
    | _ =>
      if after.length == cs.length then none
      else (attribute? multiline after).bind (attributes? multiline fuel)

def tag? (multiline : Bool) : List Char → Option (List Char)
  | [] => none
  | '/' :: c :: rest =>
    if c.isAlpha then
      match skipInlineBlanks (rest.dropWhile isTagRest) with
      | '>' :: rest => some rest
      | _ => none
    else none
  | c :: rest =>
    if c.isAlpha then attributes? multiline (rest.length + 1) (rest.dropWhile isTagRest) else none

def after? (ending : List Char) (cs : List Char) : Option (List Char) :=
  (Text.splitOnce ending cs).map (·.2)

def comment? (cs : List Char) : Option (List Char) :=
  let cs := cs.dropWhile (· == '-')
  match cs with
  | '>' :: rest => some rest
  | _ => after? ['-', '-', '>'] cs

/-- The first run of closing brackets must end the section. -/
def cdata? (cs : List Char) : Option (List Char) :=
  match (cs.dropWhile (· != ']')).dropWhile (· == ']') with
  | '>' :: rest => if cs.any (· == ']') then some rest else none
  | _ => none

def inline? : List Char → Option (List Char)
  | '!' :: '-' :: '-' :: rest => comment? rest
  | '!' :: rest =>
    if startsWith "[CDATA[".toList rest then cdata? (rest.drop 7)
    else match rest with
      | c :: rest => if c.isAlpha then after? ['>'] rest else none
      | [] => none
  | '?' :: rest => after? ['?', '>'] rest
  | cs => tag? true cs

def isSchemeRest (c : Char) : Bool := c.isAlphanum || c == '.' || c == '-' || c == '+'

/-- An absolute address: a scheme of 2 to 32 characters, a colon, and no blanks or brackets. -/
def uri? : List Char → Option (List Char × List Char)
  | [] => none
  | c :: rest =>
    let scheme := rest.takeWhile isSchemeRest
    match rest.drop scheme.length with
    | ':' :: more =>
      let body := more.takeWhile fun c => ' ' < c && c != '<' && c != '>'
      match more.drop body.length with
      | '>' :: after =>
        if c.isAlpha && 1 ≤ scheme.length && scheme.length ≤ 31 then
          some (c :: scheme ++ ':' :: body, after)
        else none
      | _ => none
    | _ => none

def isMailboxChar (c : Char) : Bool :=
  c.isAlphanum || ".!#$%&'*+/=?^_`\x7b|\x7d~-".toList.contains c

/-- Labels of at most 63 letters, digits and inner hyphens. -/
def isHostLabel (label : List Char) : Bool :=
  !label.isEmpty && label.length ≤ 63 && label.head? != some '-' && label.getLast? != some '-'

def mail? (cs : List Char) : Option (List Char × List Char) :=
  let mailbox := cs.takeWhile isMailboxChar
  match cs.drop mailbox.length with
  | '@' :: rest =>
    let host := rest.takeWhile fun c => c.isAlphanum || c == '-' || c == '.'
    match rest.drop host.length with
    | '>' :: after =>
      if !mailbox.isEmpty && (Text.splitChars '.' host).all isHostLabel then
        some (mailbox ++ '@' :: host, after)
      else none
    | _ => none
  | _ => none

/-- The address in an autolink, and the text after it. -/
def autolink? (cs : List Char) : Option (List Char × List Char) := (uri? cs).or (mail? cs)

/-- Elements whose tags start a block of raw HTML. -/
def blockElements : List String :=
  ["address", "article", "aside", "base", "basefont", "blockquote", "body", "caption", "center",
    "col", "colgroup", "dd", "details", "dialog", "dir", "div", "dl", "dt", "fieldset",
    "figcaption", "figure", "footer", "form", "frame", "frameset", "h1", "h2", "h3", "h4", "h5",
    "h6", "head", "header", "hr", "html", "iframe", "legend", "li", "link", "main", "menu",
    "menuitem", "nav", "noframes", "ol", "optgroup", "option", "p", "param", "search", "section",
    "summary", "table", "tbody", "td", "tfoot", "th", "thead", "title", "tr", "track", "ul"]

/-- Elements whose content is raw up to their closing tag. -/
def rawElements : List String := ["textarea", "pre", "style", "script"]

/-- The text that ends a block started by such an element, a comment or the like. -/
def blockEnding? (cs : List Char) : Option (List Char) :=
  let raw := rawElements.find? fun name =>
    startsWithWord name cs &&
      match cs.drop name.toList.length with
      | [] => true
      | c :: _ => isBlank c || c == '>'
  match raw with
  | some name => some ("</".toList ++ name.toList ++ ['>'])
  | none =>
    match cs with
    | '!' :: '-' :: '-' :: _ => some ['-', '-', '>']
    | '?' :: _ => some ['?', '>']
    | '!' :: rest =>
      if startsWith "[CDATA[".toList rest then some [']', ']', '>']
      else match rest with
        | c :: _ => if c.isAlpha then some ['>'] else none
        | [] => none
    | _ => none

def startsElement (cs : List Char) : Bool :=
  let cs := match cs with
    | '/' :: rest => rest
    | _ => cs
  let name := cs.takeWhile Char.isAlphanum
  blockElements.contains (String.ofList (name.map Char.toLower)) &&
    match cs.drop name.length with
    | [] => true
    | '/' :: '>' :: _ => true
    | c :: _ => isBlank c || c == '>'

def isTagLine (cs : List Char) : Bool :=
  match tag? false cs with
  | some rest => isBlankLine rest
  | none => false

end StoryPress.Markdown.RawHtml
