import IPScout.Base.Bisect
import IPScout.Base.BitCount
import IPScout.Base.Dict
import IPScout.Base.Ensures
import IPScout.Base.Exchange
import IPScout.Base.Groups
import IPScout.Base.Integers
import IPScout.Base.Layout
import IPScout.Base.Least
import IPScout.Base.Lines
import IPScout.Base.Octets
import IPScout.Base.OnesComplement
import IPScout.Base.Outcome
import IPScout.Base.Pattern
import IPScout.Base.Records
import IPScout.Base.Steps
import IPScout.Base.Text
import IPScout.Base.Utf8
import IPScout.Cli.Farewell
import IPScout.Cli.Targets
import IPScout.Dhcp.Bootp
import IPScout.Dhcp.BpfReads
import IPScout.Dhcp.Captures
import IPScout.Dhcp.Closing
import IPScout.Dhcp.Cut
import IPScout.Dhcp.FirstReachable
import IPScout.Dhcp.Frames
import IPScout.Dhcp.Merged
import IPScout.Dhcp.Offers
import IPScout.Dhcp.Opening
import IPScout.Dhcp.Options
import IPScout.Dhcp.Recorded
import IPScout.Dhcp.Replies
import IPScout.Dhcp.Session
import IPScout.Dhcp.Settled
import IPScout.Echo.Async
import IPScout.Echo.Await
import IPScout.Echo.Calls
import IPScout.Echo.Checksum
import IPScout.Echo.Credit
import IPScout.Echo.Finished
import IPScout.Echo.HopLimit
import IPScout.Echo.IcmpError
import IPScout.Echo.Nested
import IPScout.Echo.Packet
import IPScout.Echo.Ping
import IPScout.Echo.Posix
import IPScout.Echo.PosixPath
import IPScout.Echo.Quoted
import IPScout.Echo.Request
import IPScout.Echo.SameAnswer
import IPScout.Echo.Sending
import IPScout.Echo.Traceroute
import IPScout.Errors
import IPScout.Hosts.Banner
import IPScout.Hosts.Deadline
import IPScout.Hosts.FailedSweep
import IPScout.Hosts.FirstLine
import IPScout.Hosts.Gather
import IPScout.Hosts.Greeting
import IPScout.Hosts.Pool
import IPScout.Hosts.Reach
import IPScout.Hosts.Stream
import IPScout.Hosts.Sweep
import IPScout.Interfaces.Announced
import IPScout.Interfaces.Listing
import IPScout.Interfaces.Posix
import IPScout.Interfaces.Sockaddrs
import IPScout.Interfaces.Windows
import IPScout.Leases.BlockOptions
import IPScout.Leases.Blocks
import IPScout.Leases.SameFacts
import IPScout.Leases.Stores
import IPScout.Leases.Subnets
import IPScout.Leases.Tail
import IPScout.Leases.Values
import IPScout.Neighbours.Acks
import IPScout.Neighbours.Active
import IPScout.Neighbours.Advertisement
import IPScout.Neighbours.Arp
import IPScout.Neighbours.Asking
import IPScout.Neighbours.Attributes
import IPScout.Neighbours.Dump
import IPScout.Neighbours.Entries
import IPScout.Neighbours.Framing
import IPScout.Neighbours.Lookup
import IPScout.Neighbours.Netlink
import IPScout.Neighbours.Remove
import IPScout.Neighbours.RouteDump
import IPScout.Neighbours.RouteWrite
import IPScout.Neighbours.Scope
import IPScout.Neighbours.Spelling
import IPScout.Neighbours.Static
import IPScout.Neighbours.WindowsAsking
import IPScout.Neighbours.WindowsRows
import IPScout.Neighbours.Written
import IPScout.Neighbours.Zone
import IPScout.Net.Address
import IPScout.Net.Hextets
import IPScout.Net.Interfaces
import IPScout.Net.Literals
import IPScout.Net.Mac
import IPScout.Net.MacForms
import IPScout.Net.Mapped
import IPScout.Net.MtuSearch
import IPScout.Net.Network
import IPScout.Net.PathMtu
import IPScout.Net.Printed
import IPScout.Net.Resolve
import IPScout.Net.Winapi
import IPScout.Ports.Checksums
import IPScout.Ports.ConnectScan
import IPScout.Ports.Specification
import IPScout.Ports.SynExchange
import IPScout.Ports.TcpSyn
import IPScout.Routes.Dump
import IPScout.Routes.Message
import IPScout.Routes.Queries
import IPScout.Routes.Replies
import IPScout.Routes.Sockaddrs
import IPScout.Routes.Windows
import IPScout.Scan.ArpScan
import IPScout.Scan.Find
import IPScout.Scan.Hosts
import IPScout.Scan.Scope
import IPScout.Scan.Scoped
import IPScout.Scan.Split
import IPScout.Snmp.Ber
import IPScout.Snmp.Conversation
import IPScout.Snmp.Elements
import IPScout.Snmp.Identifiers
import IPScout.Snmp.Messages
import IPScout.Snmp.Reader
import IPScout.Snmp.System
