import SignOn.Certificate.Anchor
import SignOn.Certificate.Summary
import SignOn.CommandLine.Execution
import SignOn.CommandLine.Help
import SignOn.Config
import SignOn.Login.Run
import SignOn.Main
import SignOn.Network.Script
import SignOn.Pinning.Store
import SignOn.Provider
import SignOn.Service
import SignOn.Store
import SignOn.Token.Validator
import SignOn.Url.Parser
import SignOn.Proofs.Json.WrittenTokens
import SignOn.Proofs.Json.ReadBack
import SignOn.Proofs.Store.Document
import SignOn.Proofs.Store.Durability
import SignOn.Proofs.Text.Cutting
import SignOn.Proofs.Text.Base64
import SignOn.Proofs.Text.Decimals
import SignOn.Proofs.Time.Calendar
import SignOn.Proofs.Time.WrittenTimestamps
import SignOn.Proofs.Issuer.FetchedKey
import SignOn.Proofs.Token.Judgement
import SignOn.Proofs.Token.KeyHistory
import SignOn.Proofs.Token.TransparentCache
import SignOn.Proofs.Pinning.WrittenPins
import SignOn.Proofs.Pinning.Consistency
import SignOn.Proofs.Pinning.ReplacedChain
import SignOn.Proofs.Text.Lines
import SignOn.Proofs.Pinning.TunnelHead
import SignOn.Proofs.Pinning.ProxyExceptions
import SignOn.Proofs.Login.StoredBearer
import SignOn.Proofs.Service.UsableStatus
import SignOn.Proofs.Login.OneExchange
import SignOn.Proofs.Login.PendingExchange
import SignOn.Proofs.Login.GrantedTokens
import SignOn.Proofs.Login.SessionEnd
import SignOn.Proofs.Login.DeliveredOutcomes
import SignOn.Proofs.Service.SignOut
import SignOn.Proofs.Service.LoginCredential
import SignOn.Proofs.Json.Compact
import SignOn.Proofs.Pinning.Integrity
import SignOn.Proofs.Json.Members
import SignOn.Proofs.Token.StatedClaims
import SignOn.Proofs.Service.AcceptedBearer
import SignOn.Proofs.Store.Parts
import SignOn.Proofs.Store.Subscribers
import SignOn.Proofs.Service.OneVerdict
import SignOn.Proofs.Service.BrowserSignOut
import SignOn.Proofs.Service.DisabledProvider
import SignOn.Proofs.Service.HeaderReadBack
import SignOn.Proofs.Text.Characters
import SignOn.Proofs.Url.MappedCharacters
import SignOn.Proofs.Url.Composition
import SignOn.Proofs.Url.Punycode
import SignOn.Proofs.Url.DomainForm
import SignOn.Proofs.Url.HostText
import SignOn.Proofs.Url.Outline
import SignOn.Proofs.Url.Written
import SignOn.Proofs.Pinning.CapturedPort
import SignOn.Proofs.Pinning.WrittenProxy
import SignOn.Proofs.Url.AddressText
import SignOn.Proofs.Url.HostReadBack
import SignOn.Proofs.Url.Kept
import SignOn.Proofs.Url.AuthorityForm
import SignOn.Proofs.Pinning.TunnelTarget
import SignOn.Proofs.Text.Form
import SignOn.Proofs.Login.CarriedCode
import SignOn.Proofs.Issuer.DiscoveryAddress
import SignOn.Proofs.Url.QueryText
import SignOn.Proofs.Issuer.ProviderUrls
import SignOn.Proofs.Json.Records
import SignOn.Proofs.Issuer.KeySets
import SignOn.Proofs.Issuer.PublishedKey
import SignOn.Proofs.Settings.TextOverrides
