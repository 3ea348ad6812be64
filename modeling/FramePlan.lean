import FramePlan.CommandLine.Run
import FramePlan.Device.Recorder
import FramePlan.Main
import FramePlan.Picture.Comparison
import FramePlan.Picture.Readback
import FramePlan.Pipeline.Encode
import FramePlan.Proofs.Construction
import FramePlan.Proofs.Device.Accumulation
import FramePlan.Proofs.Device.EmptyStreams
import FramePlan.Proofs.Device.Gathering
import FramePlan.Proofs.Device.HostLayout
import FramePlan.Proofs.Device.InputLayout
import FramePlan.Proofs.Device.Shadow
import FramePlan.Proofs.Frame.Attributes
import FramePlan.Proofs.Frame.Bounds
import FramePlan.Proofs.Frame.Clearing
import FramePlan.Proofs.Frame.Coherence
import FramePlan.Proofs.Frame.Conservation
import FramePlan.Proofs.Frame.Faults
import FramePlan.Proofs.Frame.Feeding
import FramePlan.Proofs.Frame.Filtering
import FramePlan.Proofs.Frame.Isolation
import FramePlan.Proofs.Frame.Order
import FramePlan.Proofs.Frame.Origin
import FramePlan.Proofs.Frame.Replay
import FramePlan.Proofs.Frame.Target
import FramePlan.Proofs.Picture.Comparison
import FramePlan.Proofs.Picture.Readback
import FramePlan.Proofs.Pipeline.Writing
import FramePlan.Proofs.Session
import FramePlan.Proofs.Unpacking
import FramePlan.Proofs.Validity
import FramePlan.Proofs.CommandLine.Uniform
import FramePlan.Proofs.Device.Viewport
