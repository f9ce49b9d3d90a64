namespace StoryPress.Text

/-- Whether the code point is in one of the closed ranges. -/
def inRanges (table : List (Nat × Nat)) (code : Nat) : Bool :=
  table.any fun range => range.1 ≤ code && code ≤ range.2

end StoryPress.Text
