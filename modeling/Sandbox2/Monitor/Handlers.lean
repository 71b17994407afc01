import Sandbox2.Monitor.State

/-!
# The per-stop handlers

`StateProcessStopped` and the handlers it dispatches to (`monitor_ptrace.cc:196-213`,
`618-882`, `884-980`), each a function of the stop it handles, the `Replies` the kernel and the
collaborators give while it runs, and the monitor's state. Logging is left out; so is the stack
dump of `should_dump_stack_` (`monitor_ptrace.cc:911-931`), which only logs, apart from clearing
the flag.
-/

namespace Sandbox2

variable (c : Config) (o : Replies)

/-- `SetAdditionalResultInfo` (`monitor_ptrace.cc:196-213`): the registers, program name and
    maps of `regs.pid`; a stack trace only when `ShouldCollectStackTrace` allows one for the
    status already recorded and `GetAndLogStackTrace` succeeds. -/
def setAdditionalResultInfo (regs : Regs) (m : Monitor) : Monitor :=
  let trace :=
    if c.policy.shouldCollectStackTrace m.result.finalStatus then
      o.stackTrace.getD m.result.stackTrace
    else m.result.stackTrace
  { m.emit (.setAdditionalResultInfo regs.pid) with
    result := { m.result with regs := some regs, progName := o.progName, procMaps := o.procMaps,
                              stackTrace := trace } }

/-- `ActionProcessSyscallViolation` (`monitor_ptrace.cc:665-678`). -/
def actionProcessSyscallViolation (regs : Regs) (sc : Syscall) (v : ViolationType)
    (m : Monitor) : Monitor :=
  let m := (m.emit (.eventSyscallViolation sc v)).setExitStatusCode .violation (.code sc.nr)
  let m := { m with result := { m.result with syscall := some sc } }
  (setAdditionalResultInfo c o regs m).emit (.skipSyscallReturnValue regs.pid)

/-- `ActionProcessSyscall` (`monitor_ptrace.cc:618-663`). -/
def actionProcessSyscall (regs : Regs) (sc : Syscall) (m : Monitor) : Monitor :=
  if sc.nr == c.host.nrExecveat && !m.isActivelyMonitoring then continueProcess regs.pid 0 m
  else
    let m := m.emit (.eventSyscallTrace sc)
    match o.verdict with
    | .allow => continueProcess regs.pid 0 m
    | .inspectAfterReturn =>
      completeSyscall regs.pid 0
        { m with syscallsInProgress := Function.update m.syscallsInProgress regs.pid (some sc) }
    | .deny =>
      if c.logFile then continueProcess regs.pid 0 m
      else if c.dangerPermitAll then continueProcess regs.pid 0 m
      else actionProcessSyscallViolation c o regs sc .syscallViolation m

/-- `EventPtraceSeccomp` (`monitor_ptrace.cc:680-718`). -/
def eventPtraceSeccomp (pid : Pid) (eventMsg : Int) (m : Monitor) : Monitor :=
  if eventMsg < c.host.kUnknown || eventMsg > c.host.kMax then m
  else
    match o.fetch with
    | .error .notFound => m
    | .error .other => m.setExitStatusCode .internalError .failedFetch
    | .ok user =>
      let regs : Regs := ⟨pid, user⟩
      let sc := regs.toSyscall eventMsg
      if eventMsg != c.host.arch then
        actionProcessSyscallViolation c o regs sc .architectureSwitchViolation m
      else actionProcessSyscall c o regs sc m

/-- `EventSyscallExit` (`monitor_ptrace.cc:720-744`). -/
def eventSyscallExit (pid : Pid) (m : Monitor) : Monitor :=
  match m.syscallsInProgress pid with
  | none => m.setExitStatusCode .internalError .failedInspect
  | some sc =>
    match o.fetch with
    | .error .notFound => m
    | .error .other => m.setExitStatusCode .internalError .failedFetch
    | .ok user =>
      continueProcess pid 0 ((m.emit (.eventSyscallReturn sc user.ret)).eraseInProgress pid)

/-- `EventPtraceNewProcess` (`monitor_ptrace.cc:746-773`). -/
def eventPtraceNewProcess (pid : Pid) (eventMsg : Int) (m : Monitor) : Monitor :=
  match m.syscallsInProgress pid with
  | none => continueProcess pid 0 m
  | some sc =>
    if !c.host.createsProcess sc.nr then m.setExitStatusCode .internalError .failedInspect
    else continueProcess pid 0 ((m.emit (.eventSyscallReturn sc eventMsg)).eraseInProgress pid)

/-- `EventPtraceExec` (`monitor_ptrace.cc:775-798`); its `event_msg` is only logged. -/
def eventPtraceExec (pid : Pid) (m : Monitor) : Monitor :=
  let m := { m with execSeen := true }
  if !m.isActivelyMonitoring then continueProcess pid 0 { m with waitForExecve := false }
  else
    match m.syscallsInProgress pid with
    | none => continueProcess pid 0 m
    | some sc =>
      if sc.nr != c.host.nrExecve && sc.nr != c.host.nrExecveat then
        m.setExitStatusCode .internalError .failedInspect
      else continueProcess pid 0 ((m.emit (.eventSyscallReturn sc 0)).eraseInProgress pid)

/-- The priority by which the monitor attributes the main PID's death, in `EventPtraceExit`
    (`monitor_ptrace.cc:842-853`) and in `Run` (`372-381`): a network violation, an external
    kill, a timeout, and only then what `fallback` reads from the wait status. -/
def attributeDeath (fallback : Monitor → Monitor) (m : Monitor) : Monitor :=
  if m.networkViolation then
    let m := m.setExitStatusCode .violation .violationNetwork
    { m with result := { m.result with networkViolation := o.violationMsg } }
  else if m.externalKill then m.setExitStatusCode .externalKill (.code 0)
  else if m.timedOut then m.setExitStatusCode .timeout (.code 0)
  else fallback m

/-- What `EventPtraceExit` records for the main PID when no flag is set (`monitor_ptrace.cc:849-853`):
    OK with the exit code, or SIGNALED with the signal. -/
def recordExitOrSignal (eventMsg : Int) (m : Monitor) : Monitor :=
  if wIfExited eventMsg then m.setExitStatusCode .ok (.code (wExitStatus eventMsg))
  else m.setExitStatusCode .signaled (.code (wTermSig eventMsg))

/-- `EventPtraceExit` (`monitor_ptrace.cc:800-868`). -/
def eventPtraceExit (pid : Pid) (eventMsg : Int) (m : Monitor) : Monitor :=
  let m := m.eraseInProgress pid
  let isSeccomp := wIfSignaled eventMsg && wTermSig eventMsg == sigsys
  if wIfExited eventMsg && (!c.policy.collectStacktraceOnExit || pid != c.mainPid) then
    continueProcess pid 0 m
  else if isSeccomp || pid == c.mainPid || c.logAllStackTraces then
    match o.fetch with
    | .error _ => m.setExitStatusCode .internalError .failedFetch
    | .ok user =>
      let regs : Regs := ⟨pid, user⟩
      if isSeccomp then
        actionProcessSyscallViolation c o regs (regs.toSyscall c.host.arch) .syscallViolation m
      else if pid == c.mainPid then
        continueProcess pid 0
          (setAdditionalResultInfo c o regs (attributeDeath o (recordExitOrSignal eventMsg) m))
      else continueProcess pid 0 m
  else continueProcess pid 0 m

/-- `EventPtraceStop` (`monitor_ptrace.cc:870-882`). -/
def eventPtraceStop (pid : Pid) (stopsig : Int) (m : Monitor) : Monitor :=
  if stopsig != sigstop && stopsig != sigtstp && stopsig != sigttin && stopsig != sigttou then
    continueProcess pid 0 m
  else stopProcess pid 0 m

/-- The stop signal of a syscall-exit-stop under `PTRACE_O_TRACESYSGOOD`, `SIGTRAP | 0x80`. -/
def syscallExitSig : Int := sigtrap + 0x80

/-- The stack dump `DumpStack` asked for (`monitor_ptrace.cc:911-931`): it only logs, and
    clears `should_dump_stack_`. -/
def dumpRequestedStack (pid : Pid) (m : Monitor) : Monitor :=
  if pid == c.mainPid && m.shouldDumpStack && c.libunwindSboxForPid == 0 &&
      c.policy.hasNamespace then { m with shouldDumpStack := false }
  else m

/-- The dispatch of a ptrace stop by its kind (`monitor_ptrace.cc:937-979`). -/
def dispatchPtraceEvent (pid : Pid) (status eventMsg : Int) (m : Monitor) : Monitor :=
  let ev := wPtraceEvent status
  if wStopSig status == syscallExitSig then eventSyscallExit o pid m
  else if ev == ptraceEventFork || ev == ptraceEventVfork || ev == ptraceEventClone then
    eventPtraceNewProcess c pid eventMsg m
  else if ev == ptraceEventVforkDone then continueProcess pid 0 m
  else if ev == ptraceEventExec then eventPtraceExec c pid m
  else if ev == ptraceEventExit then eventPtraceExit c o pid eventMsg m
  else if ev == ptraceEventStop then eventPtraceStop pid (wStopSig status) m
  else if ev == ptraceEventSeccomp then eventPtraceSeccomp c o pid eventMsg m
  else m

/-- `StateProcessStopped` (`monitor_ptrace.cc:884-980`): a signal-delivery-stop is continued with
    its signal; any other stop needs `PTRACE_GETEVENTMSG` before its dispatch. -/
def stateProcessStopped (pid : Pid) (status : Int) (m : Monitor) : Monitor :=
  let stopsig := wStopSig status
  if wPtraceEvent status == 0 && stopsig != syscallExitSig then
    continueProcess pid stopsig (m.emit (.eventSignal pid stopsig))
  else
    match o.eventMsg with
    | .error e => if e == esrch then m else m.setExitStatusCode .internalError .failedGetevent
    | .ok eventMsg => dispatchPtraceEvent c o pid status eventMsg (dumpRequestedStack c pid m)

end Sandbox2
