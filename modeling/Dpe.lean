import Dpe.Lib.Forest
import Dpe.Commands.Execute
import Dpe.Proofs.Children
import Dpe.Proofs.WellFormed
import Dpe.Abstract.Edit
import Dpe.Proofs.Destroy
import Dpe.Lib.Splice
import Dpe.Lib.Twins
import Dpe.Lib.Der
import Dpe.Lib.Integer
import Dpe.Proofs.Buffer
import Dpe.Proofs.Writer
import Dpe.X509.Trees
import Dpe.Proofs.Encoders
import Dpe.Proofs.TreeSizes
import Dpe.Proofs.Failing
import Dpe.Proofs.Certificates
import Dpe.Proofs.Messages
import Dpe.Proofs.Cms
import Dpe.Proofs.Encoding
import Dpe.Proofs.Creation
import Dpe.Proofs.Outcome
import Dpe.Proofs.ContextCommands
import Dpe.Proofs.KeyCommands
import Dpe.Proofs.DeriveCommand
import Dpe.Proofs.Refinement
import Dpe.Proofs.Certified
import Dpe.Proofs.KeyUse
import Dpe.Proofs.Entries
import Dpe.Proofs.Validation
import Dpe.Proofs.Search
import Dpe.Proofs.Sample
import Dpe.Properties.Forest
import Dpe.Properties.Privileges
import Dpe.Properties.Lifetime
import Dpe.Properties.Failures
import Dpe.Properties.Isolation
import Dpe.Properties.Localities
import Dpe.Properties.Uniqueness
import Dpe.Properties.OneTime
import Dpe.Properties.ShortResponses
import Dpe.Properties.History
import Dpe.Properties.Nesting
import Dpe.Properties.Attestation
import Dpe.Properties.Stability
import Dpe.Properties.SignedBytes
import Dpe.Properties.Truncation
import Dpe.Properties.Atomicity
import Dpe.Properties.Siblings
import Dpe.Properties.Recursion
import Dpe.Properties.Iteration
import Dpe.Properties.Destruction
import Dpe.Properties.Transcripts
import Dpe.Properties.ChainReaders
import Dpe.Properties.Sizes
import Dpe.Properties.Backfill
import Dpe.Properties.Residue
import Dpe.Properties.Integers
import Dpe.Model.ResponseBuffer
import Dpe.Properties.Windows
import Dpe.Properties.Validator
import Dpe.Abstract.Effect
import Dpe.Abstract.Measured
import Dpe.Abstract.Shape
import Dpe.Abstract.Address
import Dpe.Proofs.Frames
import Dpe.Proofs.Residue
import Dpe.Proofs.TwinRuns
import Dpe.Proofs.TwinCertificates
import Dpe.Proofs.TwinCommands
import Dpe.Proofs.Handles
import Dpe.Proofs.Walk
import Dpe.Proofs.MeasurementHash
import Dpe.Model.Validation
import Dpe.Properties.Decoding
import Dpe.Properties.Responses
import Dpe.Properties.Serving
import Dpe.Properties.Remote
import Dpe.Properties.Sessions
import Dpe.Properties.ExportedCdis
import Dpe.Properties.Termination
import Dpe.Properties.SoftwareSuite
