import TaggedStatus.Catalog.Argument
import TaggedStatus.Catalog.Domains
import TaggedStatus.Catalog.IdReader
import TaggedStatus.Catalog.Sources
import TaggedStatus.Catalog.Tables
import TaggedStatus.Catalog.Values
import TaggedStatus.Code.Basic
import TaggedStatus.Code.Dispatch
import TaggedStatus.Code.Erasure
import TaggedStatus.Comparison
import TaggedStatus.Condition.Basic
import TaggedStatus.Condition.Format
import TaggedStatus.Condition.Json
import TaggedStatus.Domain.Basic
import TaggedStatus.DomainId.Basic
import TaggedStatus.DomainId.Json
import TaggedStatus.DomainId.Text
import TaggedStatus.Failure.Basic
import TaggedStatus.Failure.Erasure
import TaggedStatus.IoError
import TaggedStatus.Json
import TaggedStatus.Numeral
import TaggedStatus.Outcome
import TaggedStatus.Proofs.Condition.Encodings
import TaggedStatus.Proofs.Equivalence.Classification
import TaggedStatus.Proofs.Equivalence.ClosedForm
import TaggedStatus.Proofs.Equivalence.Family
import TaggedStatus.Proofs.Equivalence.Labels
import TaggedStatus.Proofs.Equivalence.Numbers
import TaggedStatus.Proofs.Equivalence.Override
import TaggedStatus.Proofs.Equivalence.Symmetry
import TaggedStatus.Proofs.Equivalence.Verdict
import TaggedStatus.Proofs.Equivalence.Widened
import TaggedStatus.Proofs.Erasure.Transparency
import TaggedStatus.Proofs.Erasure.Unchecked
import TaggedStatus.Proofs.Erasure.Widening
import TaggedStatus.Proofs.Failure.Interchange
import TaggedStatus.Proofs.Failure.IoErrors
import TaggedStatus.Proofs.Failure.Roads
import TaggedStatus.Proofs.Failure.RoundTrip
import TaggedStatus.Proofs.Session.Conversion
import TaggedStatus.Proofs.Session.Judgement
import TaggedStatus.Proofs.Session.NeverSuccess
import TaggedStatus.Proofs.Session.Reports
import TaggedStatus.Proofs.Session.Trace
import TaggedStatus.Session.Build
import TaggedStatus.Session.Query
import TaggedStatus.Session.Run
import TaggedStatus.Setting
import TaggedStatus.Source
import TaggedStatus.Status
import TaggedStatus.Text.CharClass
import TaggedStatus.Text.Combining
import TaggedStatus.Text.Hex
import TaggedStatus.Text.Outline
import TaggedStatus.Text.Quoted
import TaggedStatus.Text.Unprintable
import TaggedStatus.Value.Format
import TaggedStatus.Value.Layout
import TaggedStatus.Value.Payload
import TaggedStatus.View
import TaggedStatus.Violation
import TaggedStatus.WidenError
