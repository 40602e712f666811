import HostProbe.Host.Failure
import HostProbe.Host.Files
import HostProbe.Host.Mach
import HostProbe.Host.Posix
import HostProbe.Host.Sysctl
import HostProbe.Host.Team
import HostProbe.Host.Windows
import HostProbe.Program

/-! A host known by its recorded answers, and the notes it takes of what it was told to do. -/
namespace HostProbe

structure Host where
  files : FileTree := {}
  posix : PosixRecord := {}
  kstats : Except ErrorNumber (List (KstatHeader × Except ErrorNumber (Option Bytes))) := .error ErrorNumber.noEntry
  sysctl : SysctlRecord := []
  mounts : MountRecord := {}
  swap : SwapRecord := {}
  mach : MachRecord := {}
  teams : TeamsRecord := {}
  windows : WindowsRecord := {}
  /-- Number that the last failing call left behind. -/
  lastError : ErrorNumber := ErrorNumber.invalidArgument
  /-- Notes, newest first. -/
  notes : List Json := []

namespace Host

def answerKstat (host : Host) : (c : KstatCall) → c.Answer
  | .chain => PosixRecord.numbered (host.kstats.map fun entries => entries.map (·.1))
  | .read entry =>
    match host.kstats with
    | .error n => .error (.number n)
    | .ok entries =>
      match entries.find? fun e => e.1.id == entry.id with
      | some (_, data) => PosixRecord.numbered data
      | none => .error (.number ErrorNumber.noEntry)

/-- Answers of the record; on a machine, a path that leads nowhere is on no file system. -/
def answerPosix (host : Host) : (c : PosixCall) → c.Answer
  | .volume path =>
    match host.posix.volume, host.posix.machine, host.files.answer (.info path) with
    | none, some _, .error cause => .error cause
    | _, _, _ => host.posix.answer (.volume path)
  | .lastError => host.lastError
  | c => host.posix.answer c

def reply (host : Host) : (c : Call) → c.Answer
  | .file c => host.files.answer c
  | .posix c => host.answerPosix c
  | .kstat c => host.answerKstat c
  | .sysctl c => host.sysctl.answer c
  | .mount c => host.mounts.answer c
  | .swap c => host.swap.answer c
  | .mach c => host.mach.answer host.lastError c
  | .team c => host.teams.answer host.files c
  | .windows c => host.windows.answer host.lastError c

def note (host : Host) : Call → Option Json
  | .posix c => host.posix.note c
  | .windows c => WindowsRecord.note c
  | _ => none

def windowsAfter (host : Host) : Call → WindowsRecord
  | .windows c => host.windows.after c
  | _ => host.windows

def after (host : Host) (c : Call) (answer : c.Answer) : Host :=
  { host with
    windows := host.windowsAfter c
    lastError := (c.left? answer).getD host.lastError
    notes := (host.note c).toList ++ host.notes }

def answer (c : Call) : StateM Host c.Answer := fun host => (host.reply c, host.after c (host.reply c))

end Host

def Query.runOn {α : Type} (query : Query α) : StateM Host (Outcome α) := Program.runWith Host.answer query.run

end HostProbe
