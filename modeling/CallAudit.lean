import CallAudit.Main
import CallAudit.Proofs.Cli.Configuration
import CallAudit.Proofs.Files.Discovery
import CallAudit.Proofs.Scope.BodyChange
import CallAudit.Proofs.Issue.Position
import CallAudit.Proofs.Issue.Strictness
import CallAudit.Proofs.Issue.Comment
import CallAudit.Proofs.Issue.Parentheses
import CallAudit.Proofs.Risk.Conditional
import CallAudit.Proofs.Scope.Parameter
import CallAudit.Proofs.Issue.History
import CallAudit.Proofs.Report.Agreement
import CallAudit.Proofs.Scope.Default
import CallAudit.Proofs.Settings.Literal
import CallAudit.Proofs.Files.Exclusion
import CallAudit.Proofs.Issue.Mark
import CallAudit.Proofs.Risk.Access
import CallAudit.Proofs.Files.Monotone
import CallAudit.Proofs.Files.Place
import CallAudit.Proofs.Risk.QuotedKey
import CallAudit.Proofs.Settings.Nearest
import CallAudit.Proofs.Settings.Spelling
import CallAudit.Proofs.Tree.Fault
import CallAudit.Proofs.Issue.Fault
import CallAudit.Proofs.Files.Reading
import CallAudit.Proofs.Report.Excerpt
import CallAudit.Proofs.Scope.Names
import CallAudit.Proofs.Text.Column
import CallAudit.Proofs.Settings.Override
