import Sandbox2.Linux

/-!
# Syscalls, registers and the `Result`

The values the monitor passes around: a `Syscall` (`sandboxed_api/sandbox2/syscall.h`), the
registers `Regs::Fetch` reads, and the `Result` the monitor owns. `result.cc`, `regs.cc`,
`policy.cc` and `monitor_base.cc` are not in the source; what the monitor needs of them
(`SetExitStatusCode` and `ShouldCollectStackTrace`) is modelled from the spec, §3, §4.E and §4.F.
-/

namespace Sandbox2

/-- `Result::StatusEnum`. -/
inductive FinalStatus where
  | unset
  | ok
  | setupError
  | violation
  | signaled
  | timeout
  | externalKill
  | internalError
  deriving DecidableEq, Repr

/-- The `reason_code` of a `Result`: a number (exit status, signal, syscall number), or one of the
    enumerated sub-reasons of `Result::ReasonCodeEnum` the monitor sets. -/
inductive ReasonCode where
  | code (n : Int)
  | failedSignals
  | failedPtrace
  | failedMonitor
  | failedFetch
  | failedInspect
  | failedChild
  | failedKill
  | failedInterrupt
  | failedGetevent
  | violationNetwork
  deriving DecidableEq, Repr

/-- `ViolationType`, as passed to `Notify::EventSyscallViolation`. -/
inductive ViolationType where
  | syscallViolation
  | architectureSwitchViolation
  deriving DecidableEq, Repr

/-- `Notify::TraceAction`, the answer of `Notify::EventSyscallTrace`. -/
inductive TraceAction where
  | allow
  | deny
  | inspectAfterReturn
  deriving DecidableEq, Repr

/-- `Syscall`: the architecture tag, the number, the six-argument view and the caller. -/
structure Syscall where
  arch : Int
  nr : Int
  args : List Int
  pid : Pid
  deriving DecidableEq, Repr

/-- The registers of `NT_PRSTATUS` the monitor reads: the syscall number, the arguments and the
    return-value register. -/
structure UserRegs where
  nr : Int
  args : List Int
  ret : Int
  deriving DecidableEq, Repr

/-- `Regs`: a task and its fetched registers. -/
structure Regs where
  pid : Pid
  user : UserRegs
  deriving DecidableEq, Repr

/-- `Regs::ToSyscall(arch)`. -/
def Regs.toSyscall (r : Regs) (arch : Int) : Syscall := ⟨arch, r.user.nr, r.user.args, r.pid⟩

@[simp] theorem Regs.toSyscall_nr (r : Regs) (arch : Int) : (r.toSyscall arch).nr = r.user.nr := rfl
@[simp] theorem Regs.toSyscall_pid (r : Regs) (arch : Int) : (r.toSyscall arch).pid = r.pid := rfl

/-- `Result`, with the fields the ptrace monitor writes. -/
structure Result where
  finalStatus : FinalStatus := .unset
  reasonCode : ReasonCode := .code 0
  syscall : Option Syscall := none
  regs : Option Regs := none
  progName : String := ""
  procMaps : String := ""
  stackTrace : List String := []
  networkViolation : String := ""
  deriving DecidableEq, Repr

/-- Modelled from the spec: `MonitorBase::SetExitStatusCode` and `Result::SetExitStatusCode`
    are not in the source. §3: "Result transitions UNSET → terminal exactly once; subsequent
    attempts to set it are silently dropped"; §4.E: "only the first non-UNSET assignment wins". -/
def Result.setExitStatusCode (r : Result) (st : FinalStatus) (code : ReasonCode) : Result :=
  if r.finalStatus = .unset then { r with finalStatus := st, reasonCode := code } else r

theorem Result.setExitStatusCode_of_unset {r : Result} (h : r.finalStatus = .unset)
    (st : FinalStatus) (code : ReasonCode) :
    r.setExitStatusCode st code = { r with finalStatus := st, reasonCode := code } := by
  simp [setExitStatusCode, h]

theorem Result.setExitStatusCode_of_ne {r : Result} (h : r.finalStatus ≠ .unset)
    (st : FinalStatus) (code : ReasonCode) : r.setExitStatusCode st code = r := by
  simp [setExitStatusCode, h]

/-- The first assignment of a terminal status sticks, whatever comes later. -/
theorem Result.setExitStatusCode_finalStatus (r : Result) (st : FinalStatus) (code : ReasonCode) :
    (r.setExitStatusCode st code).finalStatus =
      if r.finalStatus = .unset then st else r.finalStatus := by
  unfold setExitStatusCode; split <;> simp [*]

@[simp] theorem Result.setExitStatusCode_stackTrace (r : Result) (st : FinalStatus)
    (code : ReasonCode) : (r.setExitStatusCode st code).stackTrace = r.stackTrace := by
  unfold setExitStatusCode; split <;> rfl

@[simp] theorem Result.setExitStatusCode_regs (r : Result) (st : FinalStatus)
    (code : ReasonCode) : (r.setExitStatusCode st code).regs = r.regs := by
  unfold setExitStatusCode; split <;> rfl

@[simp] theorem Result.setExitStatusCode_syscall (r : Result) (st : FinalStatus)
    (code : ReasonCode) : (r.setExitStatusCode st code).syscall = r.syscall := by
  unfold setExitStatusCode; split <;> rfl

/-- The sandbox policy flags the monitor consults. -/
structure Policy where
  collectStacktraceOnSignal : Bool
  collectStacktraceOnViolation : Bool
  collectStacktraceOnTimeout : Bool
  collectStacktraceOnKill : Bool
  collectStacktraceOnExit : Bool
  /-- `policy_->GetNamespace()` is set. -/
  hasNamespace : Bool
  deriving DecidableEq, Repr

/-- Modelled from the spec: `MonitorBase::ShouldCollectStackTrace` is not in the source. §4.F:
    it decides "should we collect a stack trace for this final_status" by consulting the policy
    flags `collect_stacktraces_on_{signal,timeout,kill,exit,violation}`; other statuses get none. -/
def Policy.shouldCollectStackTrace (p : Policy) : FinalStatus → Bool
  | .signaled => p.collectStacktraceOnSignal
  | .violation => p.collectStacktraceOnViolation
  | .timeout => p.collectStacktraceOnTimeout
  | .externalKill => p.collectStacktraceOnKill
  | .ok => p.collectStacktraceOnExit
  | _ => false

@[simp] theorem Policy.shouldCollectStackTrace_unset (p : Policy) :
    p.shouldCollectStackTrace .unset = false := rfl

end Sandbox2
