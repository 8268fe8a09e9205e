import Idenplane.Auth.IdentityClaims
import Idenplane.Auth.Inherited
import Idenplane.Auth.Introspection
import Idenplane.Auth.Polling
import Idenplane.Auth.RedirectTargets
import Idenplane.Auth.Widening
import Idenplane.AuthFlow.Soundness
import Idenplane.Authorization.Decisions
import Idenplane.Broker.Callback
import Idenplane.Broker.Identities
import Idenplane.BruteForce.Accounting
import Idenplane.BruteForce.Permanent
import Idenplane.Clients.Coherence
import Idenplane.Clients.StoredSecrets
import Idenplane.Cors.Decisions
import Idenplane.Events.AdminEvents
import Idenplane.Federation.Login
import Idenplane.Federation.UserFilters
import Idenplane.Groups.Frame
import Idenplane.Groups.ScimPatch
import Idenplane.Login.ConsentScopes
import Idenplane.Login.PromptNone
import Idenplane.Login.SecondFactor
import Idenplane.MagicLink.Enumeration
import Idenplane.Migration.PasswordFidelity
import Idenplane.Nhi.Decommission
import Idenplane.Nhi.Succession
import Idenplane.Passwords.ConcurrencyLimiter
import Idenplane.Passwords.History
import Idenplane.ProxyAuth.IdentityHeaders
import Idenplane.RateLimit.DatabaseSafety
import Idenplane.RateLimit.ResetTimes
import Idenplane.Realms.Redaction
import Idenplane.Realms.RoundTrip
import Idenplane.Registration.Addresses
import Idenplane.Registration.Gate
import Idenplane.Risk.PolicyReadings
import Idenplane.Risk.Scoring
import Idenplane.Risk.Termination
import Idenplane.Saml.Signature
import Idenplane.Scim.PatchEffect
import Idenplane.Security.ClientIp
import Idenplane.Security.LiteralTargets
import Idenplane.Security.NumericHosts
import Idenplane.ServiceAccounts.Rotation
import Idenplane.Sessions.Cleanup
import Idenplane.Sessions.RedisSessions
import Idenplane.Setup.WizardRuns
import Idenplane.Sms.Budget
import Idenplane.Sms.Safety
import Idenplane.StepUp.UserBudget
import Idenplane.Tokens.Blacklist
import Idenplane.Totp.Replay
import Idenplane.Upgrade.Capability
import Idenplane.Upgrade.Exclusion
import Idenplane.WebAuthn.Ceremonies
import Idenplane.WebAuthn.Counters
import Idenplane.Webhooks.Lossless
import Idenplane.Webhooks.Retries
