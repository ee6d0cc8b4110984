import BranchingStory.Main
import BranchingStory.Play.Game
import BranchingStory.Host.Toybox
import BranchingStory.Proofs.Lint.Reaching
import BranchingStory.Proofs.Machine.Exact
import BranchingStory.Proofs.Play.Binding
import BranchingStory.Proofs.Play.Breaks
import BranchingStory.Proofs.Play.Confined
import BranchingStory.Proofs.Play.Displayed
import BranchingStory.Proofs.Play.Jumps
import BranchingStory.Proofs.Play.Links
import BranchingStory.Proofs.Play.OneShots
import BranchingStory.Proofs.Play.Qualified
import BranchingStory.Proofs.Play.Reloading
import BranchingStory.Proofs.Play.Saving
import BranchingStory.Proofs.Play.Staging
import BranchingStory.Proofs.Play.Starting
import BranchingStory.Proofs.Play.Submitted
import BranchingStory.Proofs.Play.Untouched
import BranchingStory.Proofs.Save.Degrading
import BranchingStory.Proofs.Save.Registered
import BranchingStory.Proofs.Script.Assignment
import BranchingStory.Proofs.Script.Augmented
import BranchingStory.Proofs.Script.Indexing
import BranchingStory.Proofs.Script.Integers
import BranchingStory.Proofs.Script.Numerals
import BranchingStory.Proofs.Script.Printed
import BranchingStory.Proofs.Script.Ranges
import BranchingStory.Proofs.Script.Refusals
import BranchingStory.Proofs.Source.Balanced
import BranchingStory.Proofs.Source.Comments
import BranchingStory.Proofs.Source.Continued
import BranchingStory.Proofs.Source.Cuts
import BranchingStory.Proofs.Source.Dedented
import BranchingStory.Proofs.Source.Located
import BranchingStory.Proofs.Source.Paragraphs
import BranchingStory.Proofs.Source.Statements
import BranchingStory.Proofs.Source.Verbatim
import BranchingStory.Proofs.Story.Filed
import BranchingStory.Proofs.Story.Nearest
import BranchingStory.Proofs.Story.NormalForm
