import NetLab.Ospf.Agreement
import NetLab.Ospf.NeighborLoss
import NetLab.Stp.Agreement
import NetLab.Access.MapE
import NetLab.Access.Pppoe
import NetLab.Redundancy.Vrrp
import NetLab.Redundancy.Hsrp
import NetLab.Eigrp.Withdrawal
import NetLab.Ike.Agreement
import NetLab.Network.TopologyEdits
import NetLab.Rib.EcmpAgreement
import NetLab.Bgp.Rtbh
import NetLab.Bgp.GracefulRestart
import NetLab.Bgp.Support
import NetLab.Snmp.Messages
import NetLab.Snmp.Authorisation
import NetLab.Snmp.Walk
import NetLab.Access.Nat
import NetLab.Network.LinkUse
import NetLab.Icmp.IpsecTunnels
import NetLab.Ike.DeadPeers
import NetLab.Network.PortScope
import NetLab.Vlan.Membership
import NetLab.Redundancy.Vpc
import NetLab.Redundancy.Glbp
import NetLab.Bigip.Selection
import NetLab.Netconf.Rejection
import NetLab.Config.Losses
import NetLab.Netconf.ReadBack
import NetLab.Nexpose.Heeding
import NetLab.Bgp.Discipline
import NetLab.Junos.Exactness
import NetLab.Alb.Routing
import NetLab.Alb.Stickiness
import NetLab.Netconf.ChunkParsing
import NetLab.Cli.ShellInput
import NetLab.Cli.StagedFiles
import NetLab.Cli.Descriptions
import NetLab.Gnmi.RoundTrip
import NetLab.Rip.Timers
import NetLab.Nexpose.Sites
import NetLab.Ospf.ExchangeProgress
import NetLab.Network.PrefixLists
import NetLab.Arp.StaticEntries
import NetLab.Ipv6.Forwarding
import NetLab.Bgp.UpdateParsing
import NetLab.Ospf.ShortestRoutes
import NetLab.Ospf.SummaryKeys
import NetLab.Bgp.PathLaw
import NetLab.Bgp.OriginValidation
import NetLab.Rib.Distances
import NetLab.Cef.ForwardingTable
import NetLab.Ospf.ExternalNeighbors
import NetLab.Redundancy.Tracking
import NetLab.Snmp.Truncation
import NetLab.Snmp.GetBulk
import NetLab.Cli.TelnetInput
import NetLab.Access.ThreatDetection
import NetLab.Lacp.Bundling
import NetLab.Eigrp.FeasibleSuccessors
import NetLab.Network.MacTable
import NetLab.Redundancy.TrackRounds
import NetLab.Rip.Packets
import NetLab.Bigip.Accounting
import NetLab.LogicMonitor.Authentication
