import UsageGrammar.Declaration
import UsageGrammar.Frozen
import UsageGrammar.Main
import UsageGrammar.Proofs.HelpText.Written
import UsageGrammar.Proofs.Binding.Synonyms
import UsageGrammar.Proofs.Invocation.Shortcut
import UsageGrammar.Proofs.Rereading
import UsageGrammar.Proofs.Draft.Collisions
import UsageGrammar.Proofs.Model.Lookup
import UsageGrammar.Proofs.Binding.Congruence
import UsageGrammar.Proofs.Conversion.History
import UsageGrammar.Proofs.Invocation.LongestName
import UsageGrammar.Proofs.Model.Family
import UsageGrammar.Proofs.HelpText.Prefixes
import UsageGrammar.Proofs.HelpText.Segments
import UsageGrammar.Proofs.HelpText.Insertion
import UsageGrammar.Proofs.Binding.Refusals
import UsageGrammar.Proofs.Binding.Clusters
import UsageGrammar.Proofs.Draft.Refusals
import UsageGrammar.Proofs.Check.Description
import UsageGrammar.Proofs.Check.UsageLine
import UsageGrammar.Proofs.Conversion.Notation
import UsageGrammar.Proofs.Conversion.Moment
import UsageGrammar.Proofs.Conversion.ByteCount
import UsageGrammar.Proofs.Binding.Reduction
import UsageGrammar.Proofs.Conversion.Items
import UsageGrammar.Proofs.Binding.Complaints
import UsageGrammar.Proofs.Check.Faults
import UsageGrammar.Proofs.Conversion.Point
