import SsoGateway.Lib.Contract
import SsoGateway.Lib.Json
import SsoGateway.Lib.Text
import SsoGateway.Lib.History
import SsoGateway.Lib.Straight
import SsoGateway.Consent
import SsoGateway.RememberedConsent
import SsoGateway.ConsentCalls
import SsoGateway.ConsentTrace
import SsoGateway.ScopeCeiling
import SsoGateway.EntitlementClaim
import SsoGateway.LoginGate
import SsoGateway.GatePolicy
import SsoGateway.Gates
import SsoGateway.GateGrounds
import SsoGateway.FirstConsent
import SsoGateway.DcrMaintenance
import SsoGateway.PublicOauth2
import SsoGateway.DcrCalls
import SsoGateway.DcrLifecycle
import SsoGateway.Reaper
import SsoGateway.ScopeContainment
import SsoGateway.Clients
import SsoGateway.Identities
import SsoGateway.MappingWriters
import SsoGateway.MappingIdentity
import SsoGateway.Scim
import SsoGateway.ScimCalls
import SsoGateway.GroupMembership
import SsoGateway.IdentityUpdates
import SsoGateway.EmailTrait
import SsoGateway.DeleteRetry
import SsoGateway.AgentStores
import SsoGateway.Lib.Precedence
import SsoGateway.AgentTokens
import SsoGateway.Revocation
import SsoGateway.Lib.Ledger
import SsoGateway.DelegatedAuthority
import SsoGateway.Lib.Cache
import SsoGateway.AgentSteps
import SsoGateway.Lib.Machine
import SsoGateway.Namespaces
import SsoGateway.NamespaceUpserts
import SsoGateway.PermissionService
import SsoGateway.ReservedNamespace
import SsoGateway.PermissionStores
import SsoGateway.MirrorEffects
import SsoGateway.MirrorAgreement
import SsoGateway.OrderlyCalls
import SsoGateway.ForeignWrites
import SsoGateway.PermissionReads
import SsoGateway.TenantReads
import SsoGateway.MachineClients
import SsoGateway.Lib.Table
import SsoGateway.Lib.Translate
import SsoGateway.ReplayCache
import SsoGateway.Lib.Segments
import SsoGateway.Branding
import SsoGateway.Tenants
import SsoGateway.SystemPrivilege
import SsoGateway.TokenCache
import SsoGateway.Lib.TokenBucket
import SsoGateway.RateLimit
import SsoGateway.IdentitySchemas
import SsoGateway.DefaultSchema
import SsoGateway.ClientCredentials
import SsoGateway.UpstreamOauth
import SsoGateway.UpstreamAddresses
import SsoGateway.Lib.Encoding
import SsoGateway.FederationStores
import SsoGateway.Federation
import SsoGateway.DiscoveredLogin
import SsoGateway.FederationCalls
import SsoGateway.DisabledConnections
import SsoGateway.Discovery
import SsoGateway.Lib.Clock
import SsoGateway.ActTokenCache
import SsoGateway.AgentLifecycle
import SsoGateway.TupleBatches
import SsoGateway.EnsureTuples
import SsoGateway.IdentityCreation
import SsoGateway.ApplicationUpdates
import SsoGateway.ApplicationTeardown
import SsoGateway.ScimReplace
import SsoGateway.ScimHttp
import SsoGateway.RequestAudit
import SsoGateway.Lib.OwnCalls
import SsoGateway.LoginStates
import SsoGateway.KetoEncoding
import SsoGateway.ExpandTrees
import SsoGateway.Lib.Base64
import SsoGateway.Lib.Keyset
import SsoGateway.Pagination
import SsoGateway.Lib.JsonSame
import SsoGateway.ModelNormalForm
import SsoGateway.NamespaceProvisioning
import SsoGateway.RateLimitKeys
import SsoGateway.Lib.Inside
import SsoGateway.EntitlementBackends
import SsoGateway.BackfillVisits
import SsoGateway.Backfill
import SsoGateway.EntitlementTeardown
import SsoGateway.ClientCreation
import SsoGateway.SelfServiceProvisioning
import SsoGateway.FederatedProvisioning
import SsoGateway.Lib.Utf8
import SsoGateway.Lib.Base64Url
import SsoGateway.Lib.JsonText
import SsoGateway.SessionTokens
import SsoGateway.PairwiseNameIds
import SsoGateway.TransientTokens
import SsoGateway.StepUp
import SsoGateway.CachedAuth
import SsoGateway.Lib.Utf8Lossy
import SsoGateway.Lib.Form
import SsoGateway.Lib.Url
import SsoGateway.AuthorizationUrls
import SsoGateway.BrandedProxy
import SsoGateway.Lib.Markup
import SsoGateway.AutoPostForm
import SsoGateway.Lib.Substrings
import SsoGateway.CertificateBlocks
import SsoGateway.DelegationExpiry
import SsoGateway.Crypto
import SsoGateway.SecretsAtRest
import SsoGateway.Lib.UrlText
import SsoGateway.DeviceVerification
import SsoGateway.Lib.UrlHead
import SsoGateway.UrlRewriting
import SsoGateway.SamlAcs
import SsoGateway.Lib.Presence
import SsoGateway.SamlLogins
import SsoGateway.SamlIdp
import SsoGateway.SamlSso
import SsoGateway.SelfServiceFlows
import SsoGateway.FlowNames
import SsoGateway.FlowErrors
import SsoGateway.FlowAnswers
import SsoGateway.FlowRenaming
