import Tab5RemoteTerminal.Library.Ring
import Tab5RemoteTerminal.Library.Run
import Tab5RemoteTerminal.Terminal.State
import Tab5RemoteTerminal.Terminal.Parser
import Tab5RemoteTerminal.Terminal.Invariant
import Tab5RemoteTerminal.Terminal.Sequences
import Tab5RemoteTerminal.Terminal.Wrap
import Tab5RemoteTerminal.Terminal.AltScreen
import Tab5RemoteTerminal.Terminal.History
import Tab5RemoteTerminal.Terminal.Canvas
import Tab5RemoteTerminal.Library.Pieces
import Tab5RemoteTerminal.Terminal.Layout
import Tab5RemoteTerminal.Library.Custody
import Tab5RemoteTerminal.Session.Keys
import Tab5RemoteTerminal.Session.Machine
import Tab5RemoteTerminal.Session.Books
import Tab5RemoteTerminal.Session.Ownership
import Tab5RemoteTerminal.Session.Keystrokes
import Tab5RemoteTerminal.Library.CString
import Tab5RemoteTerminal.Library.Json
import Tab5RemoteTerminal.Library.JsonText
import Tab5RemoteTerminal.Library.Recent
import Tab5RemoteTerminal.Library.Slots
import Tab5RemoteTerminal.Session.CanvasLife
import Tab5RemoteTerminal.Session.Keyboard
import Tab5RemoteTerminal.Session.Typing
import Tab5RemoteTerminal.Store.HostList
import Tab5RemoteTerminal.Store.Remembered
import Tab5RemoteTerminal.Telnet.Client
import Tab5RemoteTerminal.Telnet.Stream
import Tab5RemoteTerminal.Wifi.Manager
import Tab5RemoteTerminal.Wifi.Reconnect
import Tab5RemoteTerminal.Wifi.Success
import Tab5RemoteTerminal.Library.Unwinding
import Tab5RemoteTerminal.Terminal.Buffers
import Tab5RemoteTerminal.Terminal.Projection
import Tab5RemoteTerminal.Terminal.Viewing
import Tab5RemoteTerminal.Terminal.Reset
import Tab5RemoteTerminal.Terminal.TwoScreens
import Tab5RemoteTerminal.Terminal.Anchor
import Tab5RemoteTerminal.Terminal.Region
import Tab5RemoteTerminal.Terminal.Recognition
import Tab5RemoteTerminal.Session.Echo
import Tab5RemoteTerminal.Wifi.Screen
import Tab5RemoteTerminal.Wifi.Timer
import Tab5RemoteTerminal.Wifi.Chain
import Tab5RemoteTerminal.Terminal.Control
import Tab5RemoteTerminal.Terminal.Margins
import Tab5RemoteTerminal.Library.LastWrite
import Tab5RemoteTerminal.Library.Exchange
import Tab5RemoteTerminal.Terminal.Colours
import Tab5RemoteTerminal.Terminal.Erase
import Tab5RemoteTerminal.Terminal.Cells
import Tab5RemoteTerminal.Terminal.Rendition
import Tab5RemoteTerminal.Terminal.Leaks
import Tab5RemoteTerminal.Terminal.Resync
import Tab5RemoteTerminal.Telnet.Subnegotiation
import Tab5RemoteTerminal.Telnet.Negotiation
import Tab5RemoteTerminal.Library.While
import Tab5RemoteTerminal.Terminal.Params
import Tab5RemoteTerminal.Terminal.Runs
import Tab5RemoteTerminal.Firmware.Image
import Tab5RemoteTerminal.Firmware.Transfer
import Tab5RemoteTerminal.Firmware.Layout
import Tab5RemoteTerminal.Session.Arrows
import Tab5RemoteTerminal.Library.Buckets
import Tab5RemoteTerminal.Shell.EditForm
import Tab5RemoteTerminal.Shell.HostRows
import Tab5RemoteTerminal.Library.Calls
import Tab5RemoteTerminal.Session.Display
import Tab5RemoteTerminal.Session.EndToEnd
import Tab5RemoteTerminal.Shell.Roster
import Tab5RemoteTerminal.Shell.Widgets
import Tab5RemoteTerminal.Session.KeyEvents
import Tab5RemoteTerminal.Session.Sight
import Tab5RemoteTerminal.Store.Custody
import Tab5RemoteTerminal.Terminal.Language
import Tab5RemoteTerminal.Terminal.Realisation
import Tab5RemoteTerminal.Wifi.Progress
import Tab5RemoteTerminal.Session.Chrome
