import Stencil.Main
import Stencil.Proofs.BreadthFirst
import Stencil.Proofs.Files.Place
import Stencil.Proofs.Project.Compiling
import Stencil.Proofs.Generation.Selection
import Stencil.Proofs.Files.Writing
import Stencil.Proofs.Files.Graft
import Stencil.Proofs.Text
import Stencil.Proofs.Build.Isolated
import Stencil.Proofs.Configuration.Resolve
import Stencil.Proofs.Generation.Account
import Stencil.Proofs.Generation.Uncompiled
import Stencil.Proofs.CommandLine.Again
import Stencil.Proofs.CommandLine.Verbose
import Stencil.Proofs.Configuration.Escape
import Stencil.Proofs.Configuration.Spelling
import Stencil.Proofs.Project.Outcome
import Stencil.Proofs.Generation.Discovery
import Stencil.Proofs.Project.Referenced
import Stencil.Proofs.Configuration.Releases
import Stencil.Proofs.Template.Captures
import Stencil.Proofs.Files.Walk
import Stencil.Proofs.Model.Declared
import Stencil.Proofs.Model.Members
import Stencil.Proofs.Template.Offered
import Stencil.Proofs.Template.Combined
import Stencil.Proofs.Build.Packed
import Stencil.Proofs.Configuration.Chosen
import Stencil.Proofs.Project.Package
import Stencil.Proofs.Model.Attributes
import Stencil.Proofs.Project.Accepted
import Stencil.Proofs.Settings.Precedence
import Stencil.Model.Sharing
import Stencil.Proofs.Model.Sharing
import Stencil.Proofs.Generation.Summary
import Stencil.Proofs.Template.Complaint
import Stencil.Proofs.Duration
import Stencil.Proofs.Naming.Words
import Stencil.Proofs.Naming.Slug
