import TruenasNg.Library.Program
import TruenasNg.Library.Machine
import TruenasNg.Library.Dictionary
import TruenasNg.Library.Reconcile
import TruenasNg.Library.Joins
import TruenasNg.Library.Tally
import TruenasNg.Library.Traversal
import TruenasNg.Client.Delivery
import TruenasNg.Client.Ownership
import TruenasNg.Client.Recovery
import TruenasNg.Client.Simulation
import TruenasNg.Client.CloseFinality
import TruenasNg.Client.Liveness
import TruenasNg.Alerts.Reconciliation
import TruenasNg.Alerts.Entries
import TruenasNg.Alerts.Views
import TruenasNg.Alerts.FixFlow
import TruenasNg.Storage.Walk
import TruenasNg.Storage.DiskProblem
import TruenasNg.Storage.Disks
import TruenasNg.Storage.Renaming
import TruenasNg.Datasets
import TruenasNg.Timestamps
import TruenasNg.Diagnostics
import TruenasNg.Refresh
import TruenasNg.SetupSessions
import TruenasNg.MemorySensors
import TruenasNg.Entities.Devices
import TruenasNg.ConfigFlow.Probed
import TruenasNg.ConfigFlow.OwnAppliance
import TruenasNg.Services
import TruenasNg.Update
import TruenasNg.FailedActions
import TruenasNg.ScrubButton
import TruenasNg.JsonRpc.Subscription
import TruenasNg.JsonRpc.Closing
import TruenasNg.JsonRpc.JobWaits
import TruenasNg.JsonRpc.Handshake
import TruenasNg.Scram.Reuse
import TruenasNg.Scram.KeyForms
import TruenasNg.Ejson
