import StoryPress.Condition.Token

namespace StoryPress.Story

/-- What a single function reports. -/
inductive Fault where
  | message (text : String)
  | condition (e : Condition.Error)
  deriving DecidableEq, Repr

def Fault.text : Fault → String
  | message text => text
  | condition e => e.message

/-- A fault with the place in the document where it came up. -/
inductive RenderError where
  | missingField (field : String)
  | unknownBlockType (kind : String)
  | condition (name : String) (fault : Fault)
  | value (name : String) (fault : Fault)
  | modifier (name : String) (fault : Fault)
  deriving DecidableEq, Repr

def RenderError.message : RenderError → String
  | missingField field =>
    "The renderer was given a document with no " ++ field ++ " field"
  | unknownBlockType kind =>
    "Don't know how to render a block with type \"" ++ kind ++ "\""
  | condition name fault =>
    "Failed to evaluate condition for variable \"" ++ name ++ "\": " ++ fault.text
  | value name fault =>
    "Failed to compute value for variable \"" ++ name ++ "\": " ++ fault.text
  | modifier name fault => "Modifier \"" ++ name ++ "\" failed: " ++ fault.text

end StoryPress.Story
