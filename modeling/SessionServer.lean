import SessionServer.Main
import SessionServer.Server.Schedule
import SessionServer.Token.Identifier
import SessionServer.Proofs.Credential.Presented
import SessionServer.Proofs.Credential.ReadBack
import SessionServer.Proofs.Database.Naming
import SessionServer.Proofs.Endpoint.Refusals
import SessionServer.Proofs.Revocation.Ledger
import SessionServer.Proofs.Server.Configuration
import SessionServer.Proofs.Server.Faults
import SessionServer.Proofs.Server.Identity
import SessionServer.Proofs.Server.Isolation
import SessionServer.Proofs.Server.Limits
import SessionServer.Proofs.Server.Provenance
import SessionServer.Proofs.Server.Requests
import SessionServer.Proofs.Server.SignUp
import SessionServer.Proofs.Server.SocketLogout
import SessionServer.Proofs.Session.Recheck
import SessionServer.Proofs.Token.Threshold
