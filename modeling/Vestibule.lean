import Vestibule.Auth.Model
import Vestibule.Auth.State
import Vestibule.Balance
import Vestibule.Breaker
import Vestibule.ClientAddress
import Vestibule.Clock
import Vestibule.Completion
import Vestibule.Compress.Bits
import Vestibule.Compress.Checksum
import Vestibule.Compress.Deflate
import Vestibule.Compress.Gzip
import Vestibule.Compress.Huffman
import Vestibule.Compress.Lz77
import Vestibule.Config
import Vestibule.Credential
import Vestibule.Duration
import Vestibule.Fault
import Vestibule.Front.Exchange
import Vestibule.Front.Route
import Vestibule.Front.Service
import Vestibule.Handoff
import Vestibule.Json.Bind
import Vestibule.Json.Read
import Vestibule.Json.Value
import Vestibule.Json.Write
import Vestibule.Log
import Vestibule.Metrics
import Vestibule.Proofs.AuthReplay
import Vestibule.Proofs.CallbackRun
import Vestibule.ProviderToken
import Vestibule.Registry
import Vestibule.Remote.Api
import Vestibule.Remote.Client
import Vestibule.Session
import Vestibule.Sorting
import Vestibule.Text.Base64
import Vestibule.Text.Blank
import Vestibule.Text.NormalSet
import Vestibule.Text.Numeral
import Vestibule.Text.Printable
import Vestibule.Text.Quote
import Vestibule.Text.Single
import Vestibule.Text.Utf8
import Vestibule.Timestamp
import Vestibule.UserAgent
import Vestibule.Web.Accept
import Vestibule.Web.Address
import Vestibule.Web.ContentCoding
import Vestibule.Web.Cookie
import Vestibule.Web.Envelope
import Vestibule.Web.Escape
import Vestibule.Web.Fetch
import Vestibule.Web.Header
import Vestibule.Web.HostPort
import Vestibule.Web.Punycode
import Vestibule.Web.Url
import Vestibule.Proofs.SessionSteps
import Vestibule.Proofs.SignedInCredential
import Vestibule.Proofs.SessionEffects
import Vestibule.Proofs.BalanceFreshness
import Vestibule.Proofs.SignOut
import Vestibule.Proofs.CallbackPage
import Vestibule.Proofs.LogoutOverlap
import Vestibule.Proofs.SignupPrefill
import Vestibule.Proofs.ServiceSteps
import Vestibule.Proofs.SignInGate
import Vestibule.Proofs.HandoffReturn
import Vestibule.Proofs.QuietRemote
import Vestibule.Proofs.DescribedFaults
import Vestibule.Proofs.FailureEnvelope
import Vestibule.Proofs.BreakerRuns
import Vestibule.Proofs.BalanceEpochs
import Vestibule.Proofs.ServiceFrame
import Vestibule.Proofs.SessionIsolation
import Vestibule.Proofs.TokenSegments
import Vestibule.Proofs.BreakerEvidence
import Vestibule.Proofs.FailureKinds
import Vestibule.Proofs.Utf8Codec
import Vestibule.Proofs.Base64Codec
import Vestibule.Proofs.JsonRoundTrip
import Vestibule.Proofs.TokenRoundTrip
import Vestibule.Proofs.LabelSets
import Vestibule.Proofs.HandoffSlot
import Vestibule.Proofs.SignInFailures
import Vestibule.Proofs.IdleSweep
import Vestibule.Proofs.CodeSearch
