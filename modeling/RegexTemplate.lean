import RegexTemplate.Main
import RegexTemplate.Workspace
import RegexTemplate.Proofs.Template.Tables
import RegexTemplate.Proofs.Template.Propagation
import RegexTemplate.Proofs.Template.Invariant
import RegexTemplate.Proofs.Template.Filling
import RegexTemplate.Proofs.Template.Walking
import RegexTemplate.Proofs.Template.Runs
import RegexTemplate.Proofs.Template.OpenNames
import RegexTemplate.Proofs.Template.Structure
import RegexTemplate.Proofs.Rendering.Simulation
import RegexTemplate.Proofs.Rendering.Remembering
import RegexTemplate.Proofs.Template.Substitution
import RegexTemplate.Proofs.Rendering.Spelling
import RegexTemplate.Proofs.Rendering.Failing
import RegexTemplate.Proofs.Marker.Grammar
import RegexTemplate.Proofs.Marker.Splitting
import RegexTemplate.Proofs.Runs.Reordering
import RegexTemplate.Proofs.Runs.Interchange
import RegexTemplate.Proofs.Definition.Accepting
import RegexTemplate.Proofs.Definition.Splicing
import RegexTemplate.Proofs.Definition.Rearranging
import RegexTemplate.Proofs.Pattern.Delimiting
import RegexTemplate.Proofs.Command.Building
import RegexTemplate.Proofs.Suite.Discovering
import RegexTemplate.Proofs.Literal.Denoting
import RegexTemplate.Proofs.Template.Sharing
import RegexTemplate.Proofs.TestCase.Splitting
import RegexTemplate.Proofs.Command.Modes
import RegexTemplate.Proofs.Command.Testing
import RegexTemplate.Proofs.Literal.Respelling
import RegexTemplate.Proofs.Definition.Converting
import RegexTemplate.Proofs.TestCase.Expecting
import RegexTemplate.Proofs.Suite.Filtering
import RegexTemplate.Proofs.Command.Requesting
import RegexTemplate.Proofs.Template.Stopping
import RegexTemplate.Proofs.TestCase.Layout
import RegexTemplate.Proofs.Command.Shorthand
import RegexTemplate.Proofs.Template.Closure
