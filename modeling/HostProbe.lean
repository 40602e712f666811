import HostProbe.Footprint.Reader
import HostProbe.Log.Line
import HostProbe.Main
import HostProbe.Probing
import HostProbe.Recording
import HostProbe.Proofs.Growth
import HostProbe.Proofs.AlignedGrowth
import HostProbe.Proofs.Connections.Listing
import HostProbe.Proofs.Tables
import HostProbe.Proofs.Connections.Filtering
import HostProbe.Proofs.Connections.Agreement
import HostProbe.Proofs.Connections.Attribution
import HostProbe.Proofs.Settings.Trees
import HostProbe.Proofs.Settings.Tidiness
import HostProbe.Proofs.Settings.Precedence
import HostProbe.Proofs.Classification.Reports
import HostProbe.Proofs.Classification.Processes
import HostProbe.Proofs.Classification.Linux
import HostProbe.Proofs.Classification.Records
import HostProbe.Proofs.Footprint.Scanner
import HostProbe.Proofs.Text.Lines
import HostProbe.Proofs.Text.Utf8
import HostProbe.Proofs.Footprint.Smaps
import HostProbe.Proofs.Footprint.Readings
import HostProbe.Proofs.Identifiers.Operations
import HostProbe.Proofs.Identifiers.Procfs
import HostProbe.Proofs.Identifiers.Sysctl
import HostProbe.Proofs.Identifiers.Processes
import HostProbe.Proofs.Footprint.Sums
import HostProbe.Proofs.Footprint.Reuse
import HostProbe.Proofs.Windows.Existence
import HostProbe.Proofs.Windows.Sampler
import HostProbe.Proofs.Windows.CommandLine
import HostProbe.Proofs.Text.Hexadecimal
import HostProbe.Proofs.Procfs.SocketAddresses
import HostProbe.Proofs.Procfs.InternetTables
import HostProbe.Proofs.Procfs.Mounts
import HostProbe.Proofs.Procfs.LocalTables
import HostProbe.Proofs.Procfs.ProcessStats
import HostProbe.Proofs.Blocks
import HostProbe.Proofs.Overflow.Amounts
import HostProbe.Proofs.Overflow.Footprints
import HostProbe.Proofs.Overflow.Queries
import HostProbe.Proofs.BSD.SocketAddresses
import HostProbe.Proofs.FreeBSD.ControlBlocks
import HostProbe.Proofs.FreeBSD.FileTables
import HostProbe.Proofs.FreeBSD.Sockets
import HostProbe.Proofs.Windows.ForeignMemory
import HostProbe.Proofs.Windows.ProcessLists
import HostProbe.Proofs.Windows.MemoryMaps
import HostProbe.Proofs.Overflow.Slices
import HostProbe.Proofs.OpenBSD.ArgumentVectors
import HostProbe.Proofs.MacOS.ArgumentBlocks
import HostProbe.Proofs.MacOS.InterfaceTraffic
import HostProbe.Proofs.AddressSpace.Steps
import HostProbe.Proofs.AddressSpace.Vectors
import HostProbe.Proofs.AddressSpace.Extents
import HostProbe.Proofs.Affinity.Masks
import HostProbe.Proofs.Affinity.Operations
import HostProbe.Proofs.Terminals
import HostProbe.Proofs.AIX.Executables
import HostProbe.Proofs.Footprint.Regions
import HostProbe.Proofs.Footprint.WorkingSets
import HostProbe.Proofs.SunOS.ChainOrder
import HostProbe.Proofs.Windows.DrivePaths
import HostProbe.Proofs.SunOS.MountOptions
import HostProbe.Proofs.LogLines
import HostProbe.Proofs.Procfs.OctalEscapes
import HostProbe.Proofs.Procfs.Cores
