import Downlink.ControlPlane.Serve
import Downlink.Coordinator.Listener
import Downlink.Main
import Downlink.Proofs.Coordinator.Request
import Downlink.Proofs.Coordinator.Update
import Downlink.Proofs.Routine.Trail
import Downlink.Proofs.Routine.Effect
import Downlink.Proofs.Reservations.Separation
import Downlink.Proofs.History
import Downlink.Proofs.Uplinks.Signals
import Downlink.Proofs.Uplinks.Order
import Downlink.Proofs.Subnets.Vacancy
import Downlink.Proofs.Subnets.Return
import Downlink.Proofs.Subnets.Sweep
import Downlink.Proofs.Client.Networks
import Downlink.Proofs.ControlPlane.Body
import Downlink.Proofs.ControlPlane.Bodiless
import Downlink.Proofs.ControlPlane.Refusal
import Downlink.Proofs.Routine.Draws
import Downlink.Proofs.Reservations.Renewal
import Downlink.Proofs.Uplinks.Announcement
import Downlink.Proofs.Uplinks.Delivery
import Downlink.Proofs.Subnets.Hosts
import Downlink.Proofs.Reservations.Memory
import Downlink.Proofs.Encoding.RoundTrip
import Downlink.Proofs.Encoding.Breakage
import Downlink.Proofs.Uplinks.Retelling
import Downlink.Proofs.Json.Pairs
import Downlink.Proofs.Settings.Precedence
import Downlink.Proofs.Sharing
import Downlink.Proofs.CommandLine.Grammar
import Downlink.Proofs.CommandLine.Replies
import Downlink.Proofs.CommandLine.Outcome
