import Sandbox2.Result

/-!
# The monitor's state

`PtraceMonitor`'s fields that its handlers read and write (`monitor_ptrace.h` is not in the
source; the fields are named as `monitor_ptrace.cc` uses them), and a log of what the monitor asks
of the kernel and of `Notify`. The log is not in
the source: it is how the model makes the monitor's requests observable. `execSeen` is the one
other field the source lacks: it records that a `PTRACE_EVENT_EXEC` stop reached its handler.

Every kernel call and callback whose answer the monitor reads takes that answer from a `Replies`
record, one per handled stop; a call whose failure only logs (`ContinueProcess` and its siblings,
`SkipSyscallReturnValue`) has no answer here.
-/

namespace Sandbox2

/-- What the monitor does that the outside sees, in the order it does it. -/
inductive Action where
  /-- `waitpid` reported `status` for `pid` and the monitor dispatches it. -/
  | report (pid : Pid) (status : Int)
  | ptraceCont (pid : Pid) (sig : Int)
  | ptraceListen (pid : Pid) (sig : Int)
  | ptraceSyscall (pid : Pid) (sig : Int)
  | ptraceInterrupt (pid : Pid)
  /-- `kill(pid, SIGKILL)`. -/
  | kill (pid : Pid)
  | skipSyscallReturnValue (pid : Pid)
  | eventSyscallTrace (sc : Syscall)
  | eventSyscallReturn (sc : Syscall) (ret : Int)
  | eventSyscallViolation (sc : Syscall) (v : ViolationType)
  | eventSignal (pid : Pid) (sig : Int)
  | setExitStatusCode (st : FinalStatus) (code : ReasonCode)
  | setAdditionalResultInfo (pid : Pid)
  deriving DecidableEq, Repr

/-- The task a resume request (`PTRACE_CONT`, `PTRACE_LISTEN`, `PTRACE_SYSCALL`) resumes. -/
def Action.resumed : Action → Option Pid
  | .ptraceCont p _ | .ptraceListen p _ | .ptraceSyscall p _ => some p
  | .report .. | .ptraceInterrupt _ | .kill _ | .skipSyscallReturnValue _ | .eventSyscallTrace _
  | .eventSyscallReturn .. | .eventSyscallViolation .. | .eventSignal .. | .setExitStatusCode ..
  | .setAdditionalResultInfo _ => none

/-- A call of `SetExitStatusCode`. -/
def Action.isStatusWrite : Action → Bool
  | .setExitStatusCode .. => true
  | .report .. | .ptraceCont .. | .ptraceListen .. | .ptraceSyscall .. | .ptraceInterrupt _
  | .kill _ | .skipSyscallReturnValue _ | .eventSyscallTrace _ | .eventSyscallReturn ..
  | .eventSyscallViolation .. | .eventSignal .. | .setAdditionalResultInfo _ => false

/-- A call of `SetAdditionalResultInfo`. -/
def Action.isInfoWrite : Action → Bool
  | .setAdditionalResultInfo _ => true
  | .report .. | .ptraceCont .. | .ptraceListen .. | .ptraceSyscall .. | .ptraceInterrupt _
  | .kill _ | .skipSyscallReturnValue _ | .eventSyscallTrace _ | .eventSyscallReturn ..
  | .eventSyscallViolation .. | .eventSignal .. | .setExitStatusCode .. => false

/-- The task a dispatched report is about. -/
def Action.reported : Action → Option Pid
  | .report p _ => some p
  | .ptraceCont .. | .ptraceListen .. | .ptraceSyscall .. | .ptraceInterrupt _ | .kill _
  | .skipSyscallReturnValue _ | .eventSyscallTrace _ | .eventSyscallReturn ..
  | .eventSyscallViolation .. | .eventSignal .. | .setExitStatusCode ..
  | .setAdditionalResultInfo _ => none

/-- What the monitor is built with: the host, the policy, the sandboxee's main PID, the
    executor's and the command line's switches. -/
structure Config where
  host : Host
  policy : Policy
  mainPid : Pid
  /-- `executor->enable_sandboxing_pre_execve_`, the initial `wait_for_execve_`. -/
  enableSandboxingPreExecve : Bool
  /-- `log_file_ != nullptr`. -/
  logFile : Bool
  /-- `FLAGS_sandbox2_danger_danger_permit_all`. -/
  dangerPermitAll : Bool
  /-- `FLAGS_sandbox2_log_all_stack_traces`. -/
  logAllStackTraces : Bool
  /-- `executor_->libunwind_sbox_for_pid_`. -/
  libunwindSboxForPid : Pid
  /-- `network_proxy_server_` is set. -/
  hasNetworkProxy : Bool

/-- `PtraceMonitor`'s mutable state. -/
structure Monitor where
  result : Result
  waitForExecve : Bool
  timedOut : Bool
  externalKill : Bool
  networkViolation : Bool
  shouldDumpStack : Bool
  syscallsInProgress : Pid → Option Syscall
  execSeen : Bool
  log : List Action

/-- The monitor as the constructor leaves it (`monitor_ptrace.cc:177-187`). -/
def Monitor.init (c : Config) : Monitor where
  result := {}
  waitForExecve := c.enableSandboxingPreExecve
  timedOut := false
  externalKill := false
  networkViolation := false
  shouldDumpStack := false
  syscallsInProgress := fun _ => none
  execSeen := false
  log := []

/-- A failed `Regs::Fetch`: the task is gone (`NotFound`) or something else failed. -/
inductive FetchError where
  | notFound
  | other
  deriving DecidableEq, Repr

/-- The answers the monitor gets while it handles one stop: `PTRACE_GETEVENTMSG` (an errno, or
    the message as the handlers' `int event_msg`), `Regs::Fetch`, `Notify::EventSyscallTrace`,
    `GetAndLogStackTrace`, `util::GetProgName`, `ReadProcMaps` and the network proxy's message. -/
structure Replies where
  eventMsg : Except Nat Int
  fetch : Except FetchError UserRegs
  verdict : TraceAction
  stackTrace : Option (List String)
  progName : String
  procMaps : String
  violationMsg : String

namespace Monitor

/-- Append an action to the log. -/
def emit (m : Monitor) (a : Action) : Monitor := { m with log := m.log ++ [a] }

/-- `IsActivelyMonitoring` (`monitor_ptrace.cc:189-192`). -/
def isActivelyMonitoring (m : Monitor) : Bool := !m.waitForExecve

/-- `MonitorBase::SetExitStatusCode`: the call is logged; only a first status sticks. -/
def setExitStatusCode (m : Monitor) (st : FinalStatus) (code : ReasonCode) : Monitor :=
  { m.emit (.setExitStatusCode st code) with result := m.result.setExitStatusCode st code }

/-- `syscalls_in_progress_.erase(pid)`. -/
def eraseInProgress (m : Monitor) (pid : Pid) : Monitor :=
  { m with syscallsInProgress := Function.update m.syscallsInProgress pid none }

@[simp] theorem emit_log (m : Monitor) (a : Action) : (m.emit a).log = m.log ++ [a] := rfl
@[simp] theorem emit_result (m : Monitor) (a : Action) : (m.emit a).result = m.result := rfl
@[simp] theorem emit_waitForExecve (m : Monitor) (a : Action) :
    (m.emit a).waitForExecve = m.waitForExecve := rfl
@[simp] theorem emit_execSeen (m : Monitor) (a : Action) : (m.emit a).execSeen = m.execSeen := rfl
@[simp] theorem emit_syscallsInProgress (m : Monitor) (a : Action) :
    (m.emit a).syscallsInProgress = m.syscallsInProgress := rfl
@[simp] theorem emit_flags (m : Monitor) (a : Action) :
    (m.emit a).timedOut = m.timedOut ∧ (m.emit a).externalKill = m.externalKill ∧
      (m.emit a).networkViolation = m.networkViolation := ⟨rfl, rfl, rfl⟩

@[simp] theorem setExitStatusCode_log (m : Monitor) (st : FinalStatus) (code : ReasonCode) :
    (m.setExitStatusCode st code).log = m.log ++ [.setExitStatusCode st code] := rfl
@[simp] theorem setExitStatusCode_result (m : Monitor) (st : FinalStatus) (code : ReasonCode) :
    (m.setExitStatusCode st code).result = m.result.setExitStatusCode st code := rfl
@[simp] theorem setExitStatusCode_waitForExecve (m : Monitor) (st : FinalStatus)
    (code : ReasonCode) : (m.setExitStatusCode st code).waitForExecve = m.waitForExecve := rfl
@[simp] theorem setExitStatusCode_execSeen (m : Monitor) (st : FinalStatus) (code : ReasonCode) :
    (m.setExitStatusCode st code).execSeen = m.execSeen := rfl
@[simp] theorem setExitStatusCode_syscallsInProgress (m : Monitor) (st : FinalStatus)
    (code : ReasonCode) :
    (m.setExitStatusCode st code).syscallsInProgress = m.syscallsInProgress := rfl

@[simp] theorem eraseInProgress_log (m : Monitor) (pid : Pid) :
    (m.eraseInProgress pid).log = m.log := rfl
@[simp] theorem eraseInProgress_result (m : Monitor) (pid : Pid) :
    (m.eraseInProgress pid).result = m.result := rfl
@[simp] theorem eraseInProgress_waitForExecve (m : Monitor) (pid : Pid) :
    (m.eraseInProgress pid).waitForExecve = m.waitForExecve := rfl
@[simp] theorem eraseInProgress_execSeen (m : Monitor) (pid : Pid) :
    (m.eraseInProgress pid).execSeen = m.execSeen := rfl

end Monitor

/-- `ContinueProcess` (`monitor_ptrace.cc:139-149`): `PTRACE_CONT`; a failure only logs. -/
def continueProcess (pid : Pid) (signo : Int) (m : Monitor) : Monitor :=
  m.emit (.ptraceCont pid signo)

/-- `StopProcess` (`monitor_ptrace.cc:151-161`): `PTRACE_LISTEN`; a failure only logs. -/
def stopProcess (pid : Pid) (signo : Int) (m : Monitor) : Monitor :=
  m.emit (.ptraceListen pid signo)

/-- `CompleteSyscall` (`monitor_ptrace.cc:163-173`): `PTRACE_SYSCALL`; a failure only logs. -/
def completeSyscall (pid : Pid) (signo : Int) (m : Monitor) : Monitor :=
  m.emit (.ptraceSyscall pid signo)

end Sandbox2
