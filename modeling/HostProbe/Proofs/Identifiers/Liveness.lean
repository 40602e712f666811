import HostProbe.FreeBSD
import HostProbe.Linux.Probe
import HostProbe.Proofs.Identifiers.Within
import HostProbe.Windows.Processes

/-! What is asked to find out about a process, for any set of questions that has the few of them that this takes. -/
namespace HostProbe

variable {α : Type} {allowed : Call → Prop} {pid : Pid}

/-! ### Signals and files -/

theorem Ask.readText_within (files : ∀ c, allowed (.file c)) (path : String) : (Ask.readText path).Within allowed := by
  refine .bind (.call (files _)) fun read => ?_
  cases read with
  | error cause => exact .pure _
  | ok bytes =>
    dsimp only
    split
    · exact .pure _
    · exact .pure _

/-- A process is looked for by a signal that it never receives. -/
theorem Posix.pidExists_within (signal : 0 < pid → allowed (.posix (.kill pid 0))) :
    (Posix.pidExists pid).Within allowed := by
  unfold Posix.pidExists
  split
  next => exact .pure _
  next nonnegative =>
    split
    next => exact .pure _
    next nonzero =>
      have positive : 0 < pid := Int.lt_iff_le_and_ne.mpr ⟨Int.not_lt.mp nonnegative, Ne.symm nonzero⟩
      refine .bind (.call (signal positive)) fun sent => ?_
      cases sent with
      | ok answer => exact .pure _
      | error cause => exact .pure _

namespace Linux.Probe

variable {p : Probe}

theorem live_within (files : ∀ c, allowed (.file c)) (signal : 0 < pid → allowed (.posix (.kill pid 0))) :
    p.live.Within allowed pid where
  pidExists := by
    change (p.pidExists pid).Within allowed
    unfold Probe.pidExists
    cases p.evidence with
    | signals => exact Posix.pidExists_within signal
    | files =>
      refine .ite (.pure _) (.bind (Ask.readText_within files _) fun status => ?_)
      cases status with
      | ok text => exact .pure _
      | error cause => exact .bind (.call (files _)) fun _ => .pure _
  isZombie := by
    refine .bind (Ask.readText_within files _) fun stat => ?_
    cases stat with
    | error cause => exact .pure _
    | ok text =>
      dsimp only
      split
      · exact .pure _
      · exact .pure _

end Linux.Probe

/-! ### Tables of the kernel -/

namespace FreeBSD

open BSD

variable {p : BSD.Probe}

theorem info_within (reads : ∀ mib room, allowed (.sysctl (.read mib room))) :
    Query.Within allowed (info p pid) := by
  refine .bind (.ask (.call (reads _ _)) fun replied => ?_) fun bytes => .ite (.reported _ _) (.lift _)
  cases replied with
  | ok reply => exact .pure _
  | error cause => exact .report _

theorem live_within (reads : ∀ mib room, allowed (.sysctl (.read mib room)))
    (signal : 0 < pid → allowed (.posix (.kill pid 0))) : (live p).Within allowed pid where
  pidExists := Posix.pidExists_within signal
  isZombie := by
    refine .bind (info_within reads) fun ended => ?_
    cases ended with
    | ok info => exact .pure _
    | error fault => exact .pure _

end FreeBSD

/-! ### Handles and the list of processes -/

namespace Windows

variable {context : Context}

/-- The questions that tell of a process whether it is there: its handle, its exit code and the list of all. -/
structure Looks (allowed : Call → Prop) (pid : Pid) : Prop where
  handle (access : Nat) : allowed (.windows (.openProcess pid access))
  exit : allowed (.windows (.exitCode pid))
  list (cls size : Nat) : allowed (.windows (.system cls size))

variable (looks : Looks allowed pid)
include looks

theorem isListed_within : (isListed context pid).Within allowed := by
  have listed : Query.Within allowed (processes context) := by
    refine .bind ?_ fun _ => .pure _
    refine .loop (fun words => .bind ?_ fun attempted => ?_) _ _
    · refine .ask (.call (looks.list _ _)) fun reply => .ite (.pure _) ?_
      cases NtStatus.isFailure reply.status with
      | true => exact .reported _ _
      | false => exact .pure _
    · cases attempted with
      | done filled => exact .pure _
      | tooSmall needed => exact .pure _
  refine .bind listed fun ended => ?_
  cases ended with
  | ok entries => exact .pure _
  | error fault => exact .pure _

theorem live_within : (live context).Within allowed pid where
  pidExists := by
    refine .ite (.pure _) (.ite (.pure _) (.bind (.call (looks.handle _)) fun opening => ?_))
    cases opening with
    | error cause => exact .ite (.pure _) (.ite (.pure _) (isListed_within looks))
    | ok =>
      refine .bind (.call looks.exit) fun ending => ?_
      cases ending with
      | error cause => exact isListed_within looks
      | ok code => exact .ite (.pure _) (isListed_within looks)
  isZombie := .pure _

theorem openProcess_within (access : Nat) : Query.Within allowed (openProcess context pid access) := by
  refine .bind (.lift _) fun _ => .ite (.reported _ _) (.ask (.call (looks.handle _)) fun opening => ?_)
  cases opening with
  | error cause => exact .ite (.reported _ _) (.fail (live_within looks) _ _)
  | ok =>
    refine .ask (.call looks.exit) fun ending => ?_
    cases ending with
    | error cause => exact .pure _
    | ok code => exact .ite (.ask (isListed_within looks) fun listed => .ite (.report _) (.pure _)) (.pure _)

end Windows
end HostProbe
