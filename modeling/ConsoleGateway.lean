import ConsoleGateway.Backend.Client
import ConsoleGateway.Backend.Scripted
import ConsoleGateway.Gateway.Serve
import ConsoleGateway.Proofs.AdminAccess
import ConsoleGateway.Proofs.GuestAccess
import ConsoleGateway.Proofs.ProjectAccess
import ConsoleGateway.Proofs.Scheduled
import ConsoleGateway.Settings.Load
import ConsoleGateway.Settings.LogLevel
import ConsoleGateway.Proofs.AfterSignIn
import ConsoleGateway.Proofs.Conduct
import ConsoleGateway.Proofs.Registry
import ConsoleGateway.Proofs.SignOut
import ConsoleGateway.Proofs.Traffic
import ConsoleGateway.Proofs.SignedOut
import ConsoleGateway.Proofs.Provenance
import ConsoleGateway.Proofs.RedirectChains
import ConsoleGateway.Proofs.MemberList
import ConsoleGateway.Proofs.Isolation
import ConsoleGateway.Proofs.Repetition
import ConsoleGateway.Proofs.Effects
import ConsoleGateway.Proofs.Matching
import ConsoleGateway.Proofs.ContextsGiven
import ConsoleGateway.Proofs.PageReports
import ConsoleGateway.Proofs.RoundTrips
import ConsoleGateway.Proofs.StandIn
import ConsoleGateway.Proofs.ForwardedCookies
import ConsoleGateway.Proofs.Layers
import ConsoleGateway.Proofs.Mounting
import ConsoleGateway.Proofs.RecordForms
import ConsoleGateway.Proofs.Flags
import ConsoleGateway.Proofs.ReadBack
import ConsoleGateway.Proofs.Verdicts
import ConsoleGateway.Proofs.EndpointPrefix
import ConsoleGateway.Proofs.GuestLanguage
