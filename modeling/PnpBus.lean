import PnpBus.Script.Run
import PnpBus.Proofs.Attachments
import PnpBus.Proofs.Cancels
import PnpBus.Proofs.Chronicles
import PnpBus.Proofs.Creation
import PnpBus.Proofs.Departed
import PnpBus.Proofs.Holdings
import PnpBus.Proofs.Independence
import PnpBus.Proofs.Inquiries
import PnpBus.Proofs.Keys
import PnpBus.Proofs.Locks
import PnpBus.Proofs.Probes
import PnpBus.Proofs.Queries
import PnpBus.Proofs.Races
import PnpBus.Proofs.Registrations
import PnpBus.Proofs.Relations
import PnpBus.Proofs.Rosters
import PnpBus.Proofs.Routes
import PnpBus.Proofs.Startup
import PnpBus.Proofs.Surpluses
import PnpBus.Proofs.Verdicts
import PnpBus.Proofs.Yields
