import StoryPress.Condition.Grammar
import StoryPress.Html.Fragment
import StoryPress.Html.Frame
import StoryPress.Html.Tags
import StoryPress.Html.Tree
import StoryPress.Main
import StoryPress.Markdown.Description
import StoryPress.Modifier.Custom
import StoryPress.Modifier.Effect
import StoryPress.Modifier.History
import StoryPress.Proofs.Command.Failures
import StoryPress.Proofs.Command.Warnings
import StoryPress.Proofs.Condition.Derivation
import StoryPress.Proofs.Condition.Parser
import StoryPress.Proofs.Condition.Tokens
import StoryPress.Proofs.Html.Document
import StoryPress.Proofs.Html.Fragments
import StoryPress.Proofs.Html.Frames
import StoryPress.Proofs.Html.Images
import StoryPress.Proofs.Html.Markup
import StoryPress.Proofs.Html.Tags
import StoryPress.Proofs.Modifier.Builtins
import StoryPress.Proofs.Modifier.Conditional
import StoryPress.Proofs.Modifier.Effects
import StoryPress.Proofs.Modifier.Faults
import StoryPress.Proofs.Modifier.History
import StoryPress.Proofs.Modifier.Wrappers
import StoryPress.Proofs.Story.Arming
import StoryPress.Proofs.Story.Compiled
import StoryPress.Proofs.Story.Conditional
import StoryPress.Proofs.Story.Dispatch
import StoryPress.Proofs.Story.Failures
import StoryPress.Proofs.Story.Hiding
import StoryPress.Proofs.Story.Inserts
import StoryPress.Proofs.Story.Pieces
import StoryPress.Proofs.Story.Placeholders
import StoryPress.Proofs.Story.Rearranged
import StoryPress.Proofs.Story.SameCondition
import StoryPress.Proofs.Text.Escape
import StoryPress.Proofs.Text.RoundTrip
import StoryPress.Proofs.Text.Fold
import StoryPress.Proofs.Story.Links
import StoryPress.Html.Attributes
import StoryPress.Proofs.Story.LinkInserts
import StoryPress.Proofs.Story.SameVariable
import StoryPress.Proofs.Command.StateFile
import StoryPress.Proofs.Files.Paths
import StoryPress.Proofs.Config.Nearest
import StoryPress.Proofs.Config.Layers
import StoryPress.Proofs.Story.Phases
import StoryPress.Proofs.Story.Repeated
import StoryPress.Proofs.Condition.Comparison
import StoryPress.Proofs.Story.Substitution
import StoryPress.Condition.Nesting
import StoryPress.Proofs.Condition.Nesting
import StoryPress.Proofs.Condition.Composition
import StoryPress.Condition.Counting
import StoryPress.Proofs.Condition.Counting
import StoryPress.Number.Rounding
import StoryPress.Condition.Literal
import StoryPress.Proofs.Condition.Literals
import StoryPress.Proofs.Story.FileFaults
import StoryPress.Proofs.Story.Independent
import StoryPress.Proofs.Modifier.Stopped
import StoryPress.Proofs.Config.Problems
import StoryPress.Proofs.Command.Listing
import StoryPress.Proofs.Story.LinkForms
import StoryPress.Condition.Lexeme
import StoryPress.Proofs.Condition.Lexemes
import StoryPress.Proofs.Condition.Slices
import StoryPress.Proofs.Condition.Scanner
import StoryPress.Proofs.Condition.Coverage
