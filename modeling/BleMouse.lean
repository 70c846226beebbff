import BleMouse.Bond.RoundTrip
import BleMouse.Hid.Decoder
import BleMouse.Hid.Descriptor
import BleMouse.Hid.Layout
import BleMouse.Hid.Frames
import BleMouse.Hid.Encode
import BleMouse.Lib.Transition
import BleMouse.Output.Buttons
import BleMouse.Output.Worker
import BleMouse.Output.Stream
import BleMouse.Output.Isolation
import BleMouse.Client.State
import BleMouse.Client.Link
import BleMouse.Client.Gatt
import BleMouse.Client.System
import BleMouse.Client.Coherence
import BleMouse.Client.CoherentLink
import BleMouse.Client.CoherentRun
import BleMouse.Client.Frame
import BleMouse.Client.Watchdog
import BleMouse.Bond.Loading
import BleMouse.Client.References
import BleMouse.Client.Attempts
import BleMouse.Client.Clear
import BleMouse.Client.RadioFrame
import BleMouse.Client.Handover
import BleMouse.Client.Wakeup
import BleMouse.Client.ScanThreads
import BleMouse.Client.Interrupts
import BleMouse.Client.Exclusion
import BleMouse.Hid.Grammar
import BleMouse.Hid.Insertion
import BleMouse.Client.Session
import BleMouse.Client.Survey
import BleMouse.Client.Completion
import BleMouse.Client.Procedures
import BleMouse.Client.GattSafety
import BleMouse.Lib.Clip
import BleMouse.Output.SendFrame
import BleMouse.Hid.Usages
import BleMouse.Client.SavedPeer
import BleMouse.Client.Advertisers
import BleMouse.Client.Descriptors
import BleMouse.Lib.Emission
import BleMouse.Output.Outlook
import BleMouse.Client.Delivery
import BleMouse.Client.Readiness
import BleMouse.Client.Bonds
import BleMouse.Client.BondTable
import BleMouse.Client.PairWindow
import BleMouse.Auth.Admission
import BleMouse.Output.Drain
import BleMouse.Firmware.EndToEnd
import BleMouse.Client.Discovery
import BleMouse.Client.Resolution
import BleMouse.Client.Encryption
import BleMouse.Client.Patience
import BleMouse.Client.Renewal
