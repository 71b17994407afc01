import Mathlib.Data.PNat.Basic

/-!
# The kernel's vocabulary

The constants and macros of `<sys/wait.h>`, `<signal.h>`, `<errno.h>` and `<sys/ptrace.h>` that
`monitor_ptrace.cc` reads, with the values they have on Linux. A wait status and a ptrace event
message are the C `int` the monitor holds; the `W*` macros are the glibc ones, written over `Int`
(`x & 0x7f` is `x % 128`, `x >> 8` is `x / 256`: Lean's `Int` division rounds down, as an
arithmetic shift does). What depends on the architecture the monitor is built for (the range of
`sapi::cpu::Architecture`, the host's tag and its syscall numbers) is a `Host`.
-/

namespace Sandbox2

/-- `pid_t`. -/
abbrev Pid := Int

/-- `SIGTRAP`. -/
def sigtrap : Int := 5
/-- `SIGKILL`. -/
def sigkill : Int := 9
/-- `SIGSTOP`. -/
def sigstop : Int := 19
/-- `SIGTSTP`. -/
def sigtstp : Int := 20
/-- `SIGTTIN`. -/
def sigttin : Int := 21
/-- `SIGTTOU`. -/
def sigttou : Int := 22
/-- `SIGSYS`. -/
def sigsys : Int := 31

/-- `EPERM`. -/
def eperm : Nat := 1
/-- `ESRCH`. -/
def esrch : Nat := 3
/-- `ECHILD`. -/
def echild : Nat := 10

/-- `PTRACE_EVENT_FORK`. -/
def ptraceEventFork : Int := 1
/-- `PTRACE_EVENT_VFORK`. -/
def ptraceEventVfork : Int := 2
/-- `PTRACE_EVENT_CLONE`. -/
def ptraceEventClone : Int := 3
/-- `PTRACE_EVENT_EXEC`. -/
def ptraceEventExec : Int := 4
/-- `PTRACE_EVENT_VFORK_DONE`. -/
def ptraceEventVforkDone : Int := 5
/-- `PTRACE_EVENT_EXIT`. -/
def ptraceEventExit : Int := 6
/-- `PTRACE_EVENT_SECCOMP`. -/
def ptraceEventSeccomp : Int := 7
/-- `PTRACE_EVENT_STOP` (`monitor_ptrace.cc:933-935` defines it as 128 when missing). -/
def ptraceEventStop : Int := 128

/-- `WIFEXITED(s)`: `((s) & 0x7f) == 0`. -/
def wIfExited (s : Int) : Bool := s % 128 == 0

/-- `WEXITSTATUS(s)`: `((s) & 0xff00) >> 8`. -/
def wExitStatus (s : Int) : Int := s / 256 % 256

/-- `WTERMSIG(s)`: `(s) & 0x7f`. -/
def wTermSig (s : Int) : Int := s % 128

/-- `WIFSIGNALED(s)`: `((signed char) (((s) & 0x7f) + 1) >> 1) > 0`, the sum read as a signed
    byte. -/
def wIfSignaled (s : Int) : Bool :=
  let t := s % 128 + 1
  (if t < 128 then t else t - 256) / 2 > 0

/-- `WIFSTOPPED(s)`: `((s) & 0xff) == 0x7f`. -/
def wIfStopped (s : Int) : Bool := s % 256 == 127

/-- `WSTOPSIG(s)`: `WEXITSTATUS(s)`. -/
def wStopSig (s : Int) : Int := s / 256 % 256

/-- `WIFCONTINUED(s)`: `(s) == 0xffff`. -/
def wIfContinued (s : Int) : Bool := s == 0xffff

/-- `__WPTRACEEVENT(s)`: `((s) & 0xff0000) >> 16` (`monitor_ptrace.cc:235`). -/
def wPtraceEvent (s : Int) : Int := s / 65536 % 256

/-- The status `waitpid` stores for a task that called `exit(code)`. -/
def exitedStatus (code : Int) : Int := code % 256 * 256

/-- The status `waitpid` stores for a task killed by `sig` (no core dump). -/
def signaledStatus (sig : Int) : Int := sig

/-- The status of a ptrace stop: stop signal `sig`, ptrace event `ev` (0 for none). -/
def stoppedStatus (sig ev : Int) : Int := ev * 65536 + sig * 256 + 127

/-- A task is signaled exactly when its low seven bits are neither 0 (exit) nor `0x7f` (stop). -/
theorem wIfSignaled_iff (s : Int) : wIfSignaled s = true ↔ s % 128 ≠ 0 ∧ s % 128 ≠ 127 := by
  have h0 : 0 ≤ s % 128 := Int.emod_nonneg s (by decide)
  have h1 : s % 128 < 128 := Int.emod_lt_of_pos s (by decide)
  simp only [wIfSignaled, decide_eq_true_eq]
  split <;> omega

theorem wIfExited_iff (s : Int) : wIfExited s = true ↔ s % 128 = 0 := by
  simp [wIfExited]

/-- An exit is not a signal death. -/
theorem wIfSignaled_of_wIfExited {s : Int} (h : wIfExited s = true) : wIfSignaled s = false := by
  rw [wIfExited_iff] at h
  cases hs : wIfSignaled s
  · rfl
  · exact absurd h ((wIfSignaled_iff s).1 hs).1

/-- A signal death is not an exit. -/
theorem wIfExited_of_wIfSignaled {s : Int} (h : wIfSignaled s = true) : wIfExited s = false :=
  Bool.eq_false_iff.2 fun hx => by simp [wIfSignaled_of_wIfExited hx] at h

@[simp] theorem wIfExited_exitedStatus (code : Int) : wIfExited (exitedStatus code) = true := by
  simp only [wIfExited_iff, exitedStatus]; omega

@[simp] theorem wExitStatus_exitedStatus (code : Int) :
    wExitStatus (exitedStatus code) = code % 256 := by
  simp only [wExitStatus, exitedStatus]; omega

theorem wIfSignaled_signaledStatus {sig : Int} (h1 : 0 < sig) (h2 : sig < 127) :
    wIfSignaled (signaledStatus sig) = true := by
  rw [wIfSignaled_iff, signaledStatus]; omega

theorem wTermSig_signaledStatus {sig : Int} (h1 : 0 ≤ sig) (h2 : sig < 128) :
    wTermSig (signaledStatus sig) = sig := by
  simp only [wTermSig, signaledStatus]; omega

theorem wIfStopped_stoppedStatus (sig ev : Int) : wIfStopped (stoppedStatus sig ev) = true := by
  simp only [wIfStopped, stoppedStatus, beq_iff_eq]; omega

theorem wStopSig_stoppedStatus {sig : Int} (ev : Int) (hsig : 0 ≤ sig ∧ sig < 256) :
    wStopSig (stoppedStatus sig ev) = sig := by
  simp only [wStopSig, stoppedStatus]; omega

theorem wPtraceEvent_stoppedStatus {sig ev : Int} (hsig : 0 ≤ sig ∧ sig < 256)
    (hev : 0 ≤ ev ∧ ev < 256) : wPtraceEvent (stoppedStatus sig ev) = ev := by
  simp only [wPtraceEvent, stoppedStatus]; omega

/-- What the monitor's build fixes: the range of `sapi::cpu::Architecture` (`kUnknown` to
    `kMax`), the host's own tag `Syscall::GetHostArch()`, and the `__NR_*` numbers the monitor
    compares against (`none` where the header leaves one undefined, as `#ifdef __NR_fork` allows).
    `sandboxed_api/config.h` and `<syscall.h>` are not in the source: these are parameters. -/
structure Host where
  kUnknown : Int
  kMax : Int
  arch : Int
  nrExecve : Int
  nrExecveat : Int
  nrClone : Int
  nrClone3 : Option Int
  nrFork : Option Int
  nrVfork : Option Int

/-- The x86-64 host: architectures `kUnknown = 0` to `kMax = kArm = 5`, host tag `kX8664 = 1`. -/
def Host.x8664 : Host :=
  { kUnknown := 0, kMax := 5, arch := 1, nrExecve := 59, nrExecveat := 322, nrClone := 56,
    nrClone3 := some 435, nrFork := some 57, nrVfork := some 58 }

/-- `creating_new_process` in `EventPtraceNewProcess` (`monitor_ptrace.cc:752-762`): the
    syscall is `clone`, or `clone3`, `fork` or `vfork` where the header defines them. -/
def Host.createsProcess (h : Host) (nr : Int) : Bool :=
  nr == h.nrClone || h.nrClone3 == some nr || h.nrFork == some nr || h.nrVfork == some nr

end Sandbox2
