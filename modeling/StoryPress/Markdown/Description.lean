import StoryPress.Markdown.Tree

namespace StoryPress.Markdown

namespace Inline

mutual

/-- Texts, codes and soft breaks, also inside styles and links. -/
def isPlain : Inline → Bool
  | .text _ => true
  | .code _ => true
  | .rawHtml s => s = ""
  | .softBreak => true
  | .hardBreak => false
  | .taskMarker _ => false
  | .styled _ content => arePlain content
  | .link _ _ content => arePlain content
  | .image _ _ _ => false

def arePlain : List Inline → Bool
  | [] => true
  | i :: rest => isPlain i && arePlain rest

end

def isEmpty : Inline → Bool
  | .text s => s = ""
  | .rawHtml s => s = ""
  | _ => false

mutual

/-- An image that a contained description may end with. -/
def mayEnd : Inline → Bool
  | .image _ _ content => isContained content
  | _ => false

/-- Plain content up to an image at the end, after which nothing is shown. -/
def isContained : List Inline → Bool
  | [] => true
  | i :: rest => (isPlain i && isContained rest) || (mayEnd i && rest.all isEmpty)

end

mutual

/-- The descriptions of the images that are not inside another image. -/
def descriptions : Inline → List (List Inline)
  | .styled _ content => descriptionsIn content
  | .link _ _ content => descriptionsIn content
  | .image _ _ content => [content]
  | _ => []

def descriptionsIn : List Inline → List (List Inline)
  | [] => []
  | i :: rest => descriptions i ++ descriptionsIn rest

end

theorem isContained_of_arePlain {content : List Inline} (h : arePlain content = true) :
    isContained content = true := by
  induction content with
  | nil => rfl
  | cons i rest ih =>
    simp only [arePlain, Bool.and_eq_true] at h
    simp [isContained, h.1, ih h.2]

end Inline

namespace Block

open Inline (descriptionsIn)

mutual

def descriptions : Block → List (List Inline)
  | .paragraph content => descriptionsIn content
  | .plain content => descriptionsIn content
  | .heading _ content => descriptionsIn content
  | .quote content => descriptionsOf content
  | .code _ _ => []
  | .list _ items => descriptionsOfItems items
  | .table _ head rows => head.flatMap descriptionsIn ++ rows.flatMap (·.flatMap descriptionsIn)
  | .rule => []
  | .rawHtml _ => []

def descriptionsOf : List Block → List (List Inline)
  | [] => []
  | b :: rest => descriptions b ++ descriptionsOf rest

def descriptionsOfItems : List (List Block) → List (List Inline)
  | [] => []
  | item :: rest => descriptionsOf item ++ descriptionsOfItems rest

end

end Block

end StoryPress.Markdown
