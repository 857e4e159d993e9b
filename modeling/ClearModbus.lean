import ClearModbus.Lib.Words
import ClearModbus.Lib.BitString
import ClearModbus.Lib.Bisect
import ClearModbus.Lib.Exec
import ClearModbus.Lib.Machine
import ClearModbus.Lib.Linearizable
import ClearModbus.Lib.AddressSpace
import ClearModbus.Lib.Crc
import ClearModbus.Lib.Codec
import ClearModbus.Lib.Transition
import ClearModbus.Lib.Triple
import ClearModbus.Python
import ClearModbus.Protocol.Decode
import ClearModbus.Client
import ClearModbus.RtuClient
import ClearModbus.ClientHelpers
import ClearModbus.Datastore.Memory
import ClearModbus.Simulator
import ClearModbus.SimulatorTasks
import ClearModbus.Server
import ClearModbus.Device
import ClearModbus.Proof.Bits
import ClearModbus.Proof.RequestWire
import ClearModbus.Proof.Constructors
import ClearModbus.Proof.RequestCodec
import ClearModbus.Proof.RequestGrammar
import ClearModbus.Proof.ResponseCodec
import ClearModbus.Proof.Blocks
import ClearModbus.Proof.Lookup
import ClearModbus.Proof.Overlap
import ClearModbus.Proof.Writes
import ClearModbus.Proof.Areas
import ClearModbus.Proof.Identification
import ClearModbus.Proof.Dispatch
import ClearModbus.Proof.Classification
import ClearModbus.Proof.Refinement
import ClearModbus.Proof.Paging
import ClearModbus.Proof.FrameCodec
import ClearModbus.Proof.FrameFormats
import ClearModbus.Proof.CrcDetection
import ClearModbus.Proof.IdentificationCodec
import ClearModbus.Proof.CustomDecoders
import ClearModbus.Proof.DecodeErrors
import ClearModbus.Proof.ResponseErrors
import ClearModbus.Proof.ServerReply
import ClearModbus.Proof.PduLimits
import ClearModbus.Proof.ServerLoop
import ClearModbus.Handler
import ClearModbus.Proof.Handler
import ClearModbus.Proof.WireRange
import ClearModbus.Proof.TaskLifetime
import ClearModbus.Lifecycle
import ClearModbus.Proof.Lifecycle
import ClearModbus.Connection
import ClearModbus.Session
import ClearModbus.Proof.ClientExchange
import ClearModbus.Proof.Framing
import ClearModbus.Proof.Attribution
import ClearModbus.Proof.StaleResponses
import ClearModbus.Proof.FrameBoundary
import ClearModbus.Proof.EndToEnd
import ClearModbus.Proof.RtuLength
import ClearModbus.Proof.ResponseGrammar
import ClearModbus.Proof.Delivered
import ClearModbus.Proof.ResponseLength
import ClearModbus.Proof.LineNoise
import ClearModbus.Proof.IdentificationStream
import ClearModbus.RtuSession
import ClearModbus.Proof.StaleRtu
import ClearModbus.Proof.Helpers
import ClearModbus.Proof.Segmentation
import ClearModbus.Network
import ClearModbus.Proof.Serving
import ClearModbus.Proof.Links
import ClearModbus.Proof.Linearizability
import ClearModbus.Proof.Lockstep
import ClearModbus.Proof.Progress
import ClearModbus.Program
import ClearModbus.Proof.Programs
import ClearModbus.Proof.ClientErrors
import ClearModbus.Proof.Datastores
import ClearModbus.Lib.Independence
import ClearModbus.Lib.Heap
import ClearModbus.Application
import ClearModbus.Proof.Objects
import ClearModbus.Proof.Application
import ClearModbus.Reconnect
import ClearModbus.Proof.Footprints
import ClearModbus.Proof.Commutation
import ClearModbus.Proof.Reconnect
