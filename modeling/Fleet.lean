import Fleet.Main
import Fleet.Proofs.Account
import Fleet.Proofs.Compute.Lifetime
import Fleet.Proofs.FanOut
import Fleet.Proofs.Routing
import Fleet.Proofs.LocalFleet
import Fleet.Proofs.LocalHistory
import Fleet.Proofs.Compute.Removal
import Fleet.Proofs.Destroy
import Fleet.Proofs.Console
import Fleet.Proofs.Containment
import Fleet.Proofs.NameOrder
import Fleet.Proofs.Gathering
import Fleet.Proofs.Compute.Description
import Fleet.Proofs.Table
import Fleet.Proofs.Carried
import Fleet.Proofs.Compute.Renewal
import Fleet.Proofs.Extend
import Fleet.Proofs.Creation
import Fleet.Proofs.Locality
import Fleet.Proofs.Compute.Failure
import Fleet.Proofs.Strategy
import Fleet.Proofs.Compute.Batch
import Fleet.Proofs.Compute.Placement
import Fleet.Proofs.Compute.Independence
import Fleet.Proofs.Compute.Rereading
import Fleet.Proofs.CommandLine.Commands
import Fleet.Proofs.CommandLine.Lifetime
import Fleet.Proofs.LocalNames
import Fleet.Proofs.Compute.Flaws
import Fleet.Proofs.Compute.Resolution
import Fleet.Proofs.Sorting
import Fleet.Proofs.Compute.Balance
import Fleet.Proofs.Registrations
