import AdbWide.Execution
import AdbWide.Interleaving
import AdbWide.Block
import AdbWide.BoundedFifo
import AdbWide.CircularList
import AdbWide.LinkedQueue
import AdbWide.BipBuffer.Model
import AdbWide.BipBuffer.Fifo
import AdbWide.BipBuffer.Events
import AdbWide.BipBuffer.Threads
import AdbWide.BipBuffer.Records
import AdbWide.Transport.Registry
import AdbWide.Transport.Lifetime
import AdbWide.Sockets.Model
import AdbWide.Sockets.Traffic
import AdbWide.Sockets.Packets
import AdbWide.Sockets.Closing
import AdbWide.Sockets.Effects
import AdbWide.Sockets.Invariant
import AdbWide.Sockets.Operations
import AdbWide.Sockets.Receipts
import AdbWide.Sockets.Reachability
import AdbWide.Sockets.Isolation
import AdbWide.Sockets.Stream
import AdbWide.Sockets.Streams
import AdbWide.Sockets.StreamEffects
import AdbWide.Sockets.StreamPackets
import AdbWide.Sockets.Lineage
import AdbWide.Sockets.Link
import AdbWide.LittleEndian
import AdbWide.Wire.Packet
import AdbWide.Wire.Codec
import AdbWide.Sockets.FlowControl
import AdbWide.Wire.Pump
import AdbWide.Sockets.Online
import AdbWide.Handler.Model
import AdbWide.Handler.Payload
import AdbWide.Handler.Tokens
import AdbWide.Handler.Confirmation
import AdbWide.BipBuffer.EventLoop
import AdbWide.Listeners.Model
import AdbWide.Listeners.Lists
import AdbWide.Listeners.Disconnects
import AdbWide.Listeners.Requests
import AdbWide.Sockets.Pipelining
import AdbWide.Clients.Selection
import AdbWide.Clients.Forward
import AdbWide.ReusedNames
import AdbWide.Transport.Descriptors
import AdbWide.Program
import AdbWide.Sync.Protocol
import AdbWide.Sync.Service
import AdbWide.Sync.Responses
import AdbWide.Sync.Client
import AdbWide.Sync.Buffers
import AdbWide.Sync.Pull
import AdbWide.PathResolution
import AdbWide.Sync.Containment
import AdbWide.Sync.Sending
import AdbWide.Sync.ModeText
import AdbWide.Sync.Storing
import AdbWide.Sync.Push
import AdbWide.Clients.Replies
import AdbWide.Sockets.Ids
import AdbWide.Clients.Acquiring
import AdbWide.FdEvent.Discipline
import AdbWide.FdEvent.Filtering
import AdbWide.Sockets.ClosingAll
import AdbWide.Sockets.Draining
import AdbWide.Sockets.EnqueueContract
import AdbWide.Sockets.LocalDelivery
import AdbWide.Transport.LocalTransports
import AdbWide.CText
import AdbWide.Clients.Connecting
import AdbWide.Clients.DeviceListing
import AdbWide.Clients.HostCommands
import AdbWide.Listeners.Listing
import AdbWide.Clients.Quoting
import AdbWide.Clients.Relay
import AdbWide.Clients.CommandText
import AdbWide.LinkedList
import AdbWide.Sockets.Trackers
import AdbWide.Sockets.Tracking
import AdbWide.Auth.PublicKey
import AdbWide.Clients.Arguments
import AdbWide.Handler.Banner
import AdbWide.Handler.KeyCycle
import AdbWide.Sync.Requests
import AdbWide.Sync.Timestamps
import AdbWide.Clients.ParentDirs
import AdbWide.FdEvent.Table
import AdbWide.Reader
import AdbWide.Sync.Listing
import AdbWide.Usb.Scanning
import AdbWide.Usb.Writing
import AdbWide.Win32.Handles
import AdbWide.Jdwp.Descriptors
import AdbWide.Jdwp.Trackers
import AdbWide.Zip.Archives
import AdbWide.Zip.Lookup
import AdbWide.Sync.LocalFiles
import AdbWide.Sync.LocalList
import AdbWide.Win32.WaitForAll
import AdbWide.Handler.Authorised
import AdbWide.Handler.Hello
import AdbWide.Handler.Completion
