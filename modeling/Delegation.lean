import Delegation.Auth.Directory
import Delegation.Auth.Extraction
import Delegation.Auth.Gate
import Delegation.Authority.Registry
import Delegation.Authority.ServerIdentity
import Delegation.Bytes.Hex
import Delegation.Call.Count
import Delegation.Certificate.Basic
import Delegation.Chain.Basic
import Delegation.ChainToken.Issuer
import Delegation.Documents.Identity
import Delegation.Http.Response
import Delegation.Proofs.Auth.Classification
import Delegation.Proofs.Auth.Completeness
import Delegation.Proofs.Auth.Pairing
import Delegation.Proofs.Auth.Traces
import Delegation.Proofs.Authority.BodyReading
import Delegation.Proofs.Authority.CallOutcome
import Delegation.Proofs.Authority.ChainHeaders
import Delegation.Proofs.Authority.EffectiveLabels
import Delegation.Proofs.Authority.Flushing
import Delegation.Proofs.Authority.Forgetting
import Delegation.Proofs.Authority.Lobby
import Delegation.Proofs.Authority.RemoteIdentity
import Delegation.Proofs.Authority.Replies
import Delegation.Proofs.Authority.Sending
import Delegation.Proofs.Authority.Survey
import Delegation.Proofs.Authority.Transparency
import Delegation.Proofs.Call.Count
import Delegation.Proofs.Certificate.NameText
import Delegation.Proofs.Certificate.Reading
import Delegation.Proofs.Chain.Hops
import Delegation.Proofs.ChainToken.Soundness
import Delegation.Proofs.Dn.Escapes
import Delegation.Proofs.Dn.HeaderReading
import Delegation.Proofs.Dn.HeaderRoundTrip
import Delegation.Proofs.Dn.NormalForm
import Delegation.Proofs.Dn.WrittenPairs
import Delegation.Proofs.Http.BearerToken
import Delegation.Proofs.Http.IgnoredHeaders
import Delegation.Proofs.Http.ProxiedHeader
import Delegation.Proofs.Http.RequiredRoles
import Delegation.Proofs.Text.LowerCase
import Delegation.Settings.Load
import Delegation.Proofs.Dn.ShortName
import Delegation.Proofs.Chain.Views
import Delegation.Proofs.Auth.DirectoryRuns
import Delegation.Proofs.Auth.GateRuns
import Delegation.Proofs.Authority.Registration
import Delegation.Proofs.Url.Percent
import Delegation.Proofs.Url.Segments
import Delegation.Proofs.Url.WebAddress
import Delegation.Proofs.Url.ClosingSlash
import Delegation.Proofs.Authority.Endpoints
