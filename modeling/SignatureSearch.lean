import SignatureSearch.Files.Tree
import SignatureSearch.Log.Slots
import SignatureSearch.Main
import SignatureSearch.Search.Stats
import SignatureSearch.Session.Operation
import SignatureSearch.Trace.Correlation
import SignatureSearch.Trace.Program
import SignatureSearch.Proofs.Catalog.Display
import SignatureSearch.Proofs.CommandLine.Runs
import SignatureSearch.Proofs.Docs.Accounts
import SignatureSearch.Proofs.Docs.Constructors
import SignatureSearch.Proofs.Docs.Continuations
import SignatureSearch.Proofs.Docs.EntryTables
import SignatureSearch.Proofs.Docs.Outline
import SignatureSearch.Proofs.Docs.References
import SignatureSearch.Proofs.Metric.Stores
import SignatureSearch.Proofs.Search.OwnSignature
import SignatureSearch.Proofs.Search.Refinement
import SignatureSearch.Proofs.Search.Resemblance
import SignatureSearch.Proofs.Session.Classification
import SignatureSearch.Proofs.Session.Laziness
import SignatureSearch.Proofs.Session.Pages
import SignatureSearch.Proofs.Session.Tallies
import SignatureSearch.Proofs.Signature.CanonicalForm
import SignatureSearch.Proofs.Signature.Chains
import SignatureSearch.Proofs.Signature.Composition
import SignatureSearch.Proofs.Signature.Extensions
import SignatureSearch.Proofs.Signature.Faults
import SignatureSearch.Proofs.Signature.FullMatch
import SignatureSearch.Proofs.Signature.Layout
import SignatureSearch.Proofs.Signature.Mapping
import SignatureSearch.Proofs.Signature.Progress
import SignatureSearch.Proofs.Signature.RoundTrip
import SignatureSearch.Proofs.Signature.ZeroDistance
import SignatureSearch.Proofs.Trace.Isolation
import SignatureSearch.Proofs.Trace.Spans
