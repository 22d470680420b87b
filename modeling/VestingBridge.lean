import VestingBridge.Bridge.Event
import VestingBridge.Bridge.View
import VestingBridge.Endpoint.Channel
import VestingBridge.Endpoint.View
import VestingBridge.Session.Step
import VestingBridge.Proofs.Handler
import VestingBridge.Proofs.Bridge.Calls
import VestingBridge.Proofs.Bridge.Run
import VestingBridge.Proofs.Stream
import VestingBridge.Proofs.Table
import VestingBridge.Proofs.Bridge.Value
import VestingBridge.Proofs.Bridge.Conservation
import VestingBridge.Proofs.Bridge.Processed
import VestingBridge.Proofs.Packet
import VestingBridge.Proofs.TypeTag
import VestingBridge.Proofs.Endpoint.Calls
import VestingBridge.Proofs.Messages
import VestingBridge.Proofs.Endpoint.Paths
import VestingBridge.Proofs.Session.Run
import VestingBridge.Proofs.Session.Delivery
import VestingBridge.Proofs.Session.Channel
import VestingBridge.Proofs.Bridge.Change
import VestingBridge.Proofs.Bridge.Rights
import VestingBridge.Proofs.Bridge.Registries
import VestingBridge.Proofs.Bridge.Service
import VestingBridge.Proofs.Session.Registration
import VestingBridge.Proofs.Session.Withdrawal
import VestingBridge.Proofs.Bridge.Streams
import VestingBridge.Proofs.Session.Streams
import VestingBridge.Proofs.Session.Blocking
import VestingBridge.Proofs.Bridge.Pause
import VestingBridge.Proofs.Session.Pause
import VestingBridge.Proofs.Endpoint.Apart
import VestingBridge.Proofs.Session.Apart
import VestingBridge.Proofs.Bridge.Writes
import VestingBridge.Proofs.Endpoint.Sends
import VestingBridge.Proofs.Session.Sends
import VestingBridge.Proofs.Session.Interface
import VestingBridge.Proofs.Session.Dispatch
import VestingBridge.Proofs.Spelling
import VestingBridge.Proofs.DeliveryEvent
import VestingBridge.Proofs.Bridge.Acceptance
import VestingBridge.Proofs.Bridge.Foresight
import VestingBridge.Proofs.TypeName
import VestingBridge.Proofs.Vesting
import VestingBridge.Proofs.Bridge.Drawing
import VestingBridge.Proofs.Bridge.Opening
import VestingBridge.Proofs.NormalForm
import VestingBridge.Proofs.Codec
import VestingBridge.Proofs.Bridge.Paging
import VestingBridge.Proofs.Refusals
