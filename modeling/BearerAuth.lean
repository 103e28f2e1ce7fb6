import BearerAuth.Gate.Rpc
import BearerAuth.Http.Uri
import BearerAuth.Service.Router
import BearerAuth.Settings.Document
import BearerAuth.Settings.Environment
import BearerAuth.SigningContext.Latch
import BearerAuth.Proofs.Base64Url
import BearerAuth.Proofs.Json.Lexing
import BearerAuth.Proofs.Json.RoundTrip
import BearerAuth.Proofs.ClaimMap
import BearerAuth.Proofs.Token.Splitting
import BearerAuth.Proofs.Token.Verification
import BearerAuth.Proofs.Token.Issuing
import BearerAuth.Proofs.Authentication
import BearerAuth.Proofs.Token.Soundness
import BearerAuth.Proofs.Token.Tampering
import BearerAuth.Proofs.RoundTrip
import BearerAuth.Proofs.Settings
import BearerAuth.Proofs.TypeSeparation
import BearerAuth.Proofs.Token.Refusal
import BearerAuth.Proofs.Token.RegisteredClaims
import BearerAuth.Proofs.Bearer
import BearerAuth.Proofs.TypeExclusion
import BearerAuth.Proofs.Service.Routes
import BearerAuth.Proofs.Service.RefreshChain
import BearerAuth.Proofs.SigningContext.Sharing
import BearerAuth.Proofs.Token.CustomClaims
import BearerAuth.Proofs.Token.ErrorKinds
import BearerAuth.Proofs.Token.Forgery
import BearerAuth.Proofs.SkipPath
import BearerAuth.Proofs.TransportAgreement
import BearerAuth.Proofs.Service.IssuingRange
import BearerAuth.Proofs.Token.CheckedClaims
import BearerAuth.Proofs.Glob
import BearerAuth.Proofs.ScanOffsets
import BearerAuth.Proofs.Token.Lifetime
import BearerAuth.Proofs.Token.Phases
import BearerAuth.Proofs.Token.SignedClaims
import BearerAuth.Proofs.Token.StatedTypes
import BearerAuth.Proofs.Token.Reissuing
import BearerAuth.Proofs.BearerGrammar
import BearerAuth.Proofs.GateAgreement
import BearerAuth.Proofs.ListedItems
import BearerAuth.Proofs.JoinedLists
import BearerAuth.Proofs.Exemptions
import BearerAuth.Proofs.SigningContext.Callers
import BearerAuth.Proofs.Service.IssuedPairs
import BearerAuth.Proofs.Service.UnsetSecret
