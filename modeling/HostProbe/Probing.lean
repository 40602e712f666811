import HostProbe.AIX
import HostProbe.Cygwin
import HostProbe.FreeBSD
import HostProbe.Haiku
import HostProbe.Kernel
import HostProbe.Linux
import HostProbe.MacOS
import HostProbe.NetBSD
import HostProbe.OpenBSD
import HostProbe.SunOS
import HostProbe.Windows

/-! The platform of each system, as a new probe sees it. -/
namespace HostProbe

def Kernel.platform (system : Kernel) (context : Context) : Program Platform :=
  match system with
  | linux => do return Linux.platform (← Linux.Probe.new context)
  | cygwin => do return Cygwin.platform (← Cygwin.probe context)
  | sunos => do return SunOS.platform (← SunOS.Probe.new context)
  | aix => return AIX.platform ⟨⟨context.procfsRoot⟩⟩
  | freebsd => do return FreeBSD.platform (← BSD.Probe.new context)
  | openbsd => do return OpenBSD.platform (← BSD.Probe.new context)
  | macos => do return MacOS.platform (← MacOS.Probe.new context)
  | netbsd => do return NetBSD.platform (← BSD.Probe.new context)
  | haiku => return Haiku.platform
  | windows => return Windows.platform context
  | _ => return Platform.unsupported

end HostProbe
