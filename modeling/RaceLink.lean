import RaceLink.Scenes.Reload
import RaceLink.Scenes.RenumberRuns
import RaceLink.Dispatch.Container
import RaceLink.Routing.Host
import RaceLink.Runner.Interleaving
import RaceLink.Pending.Collector
import RaceLink.Serial.Outcome
import RaceLink.Stores
import RaceLink.Runner.Confinement
import RaceLink.Runner.AutoScope
import RaceLink.Gateways.BindingRuns
import RaceLink.Gateways.Separation
import RaceLink.Fleet.ConsistentRuns
import RaceLink.Fleet.Renumbered
import RaceLink.Runner.Restoring
import RaceLink.Fleet.Refusals
import RaceLink.Fleet.Accounting
import RaceLink.Fleet.Isolation
import RaceLink.Gateways.Onboarding
import RaceLink.Fleet.ScanRuns
import RaceLink.Pending.ExpectRuns
import RaceLink.Gateways.Missing
import RaceLink.Library.Sections
import RaceLink.Gateways.Retry
import RaceLink.Gateways.RetryRuns
import RaceLink.Web.Tasks
import RaceLink.Web.TaskRuns
import RaceLink.Web.Masters
import RaceLink.Web.MasterRuns
import RaceLink.Protocol.OffsetCodec
import RaceLink.Library.Masked
import RaceLink.Protocol.ControlCodec
import RaceLink.Pending.ConfigMirror
import RaceLink.Pending.ConfigMirrorRuns
import RaceLink.Web.OffsetPreview
import RaceLink.Web.SceneEditor
import RaceLink.Routing.Mirror
import RaceLink.Routing.Orders
import RaceLink.Routing.Fitting
import RaceLink.Routing.Flags
import RaceLink.Scenes.Legacy
import RaceLink.Scenes.GroupsOffset
import RaceLink.Fleet.Sweep
import RaceLink.Web.Options
import RaceLink.Protocol.Replies
import RaceLink.Wire.Receiving
import RaceLink.Wire.Streams
import RaceLink.Library.Pairs
import RaceLink.Gateways.Picker
import RaceLink.Gateways.DiagnosisRuns
import RaceLink.Saved.Migrations
import RaceLink.Saved.Reading
import RaceLink.Saved.Backups
import RaceLink.Startblock.Payload
import RaceLink.Startblock.Streaming
import RaceLink.Scenes.Slugs
import RaceLink.Scenes.Replacing
import RaceLink.Update.Guarantees
import RaceLink.Update.HostRadio
import RaceLink.Update.Joining
import RaceLink.Library.Publishing
import RaceLink.Web.EventRuns
import RaceLink.Fleet.RestoreRuns
import RaceLink.Fleet.PollRuns
import RaceLink.Gateways.WiringRuns
