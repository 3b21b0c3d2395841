import Delegation.Backend.Bench
import Delegation.Config.Load
import Delegation.Description
import Delegation.Foreign
import Delegation.Graph.Valid
import Delegation.Session.Actions
import Delegation.Settings.Json
import Delegation.Value.Json
import Delegation.Proofs.Backend.Convention
import Delegation.Proofs.Cache.History
import Delegation.Proofs.Config.Layering
import Delegation.Proofs.Fusion.Interface
import Delegation.Proofs.Fusion.Lossless
import Delegation.Proofs.Fusion.Meaning
import Delegation.Proofs.Foreign.Surface
import Delegation.Proofs.Host.Gates
import Delegation.Proofs.Host.Refusal
import Delegation.Proofs.Host.Tables
import Delegation.Proofs.Fusion.Selection
import Delegation.Proofs.Fusion.Settled
import Delegation.Proofs.Fusion.Validity
import Delegation.Proofs.Interception.Lifetime
import Delegation.Proofs.Key.Display
import Delegation.Proofs.Resolution.Interleaving
import Delegation.Proofs.Resolution.Isolation
import Delegation.Proofs.Resolution.Provenance
import Delegation.Proofs.Settings.RoundTrip
import Delegation.Proofs.Signals.Overlap
import Delegation.Proofs.Symbol.RoundTrip
import Delegation.Proofs.Value.RoundTrip
