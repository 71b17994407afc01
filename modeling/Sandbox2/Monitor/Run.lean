import Sandbox2.Monitor.Handlers
import Sandbox2.PidWaiter

/-!
# `PtraceMonitor::Run`

`Run` (`monitor_ptrace.cc:264-450`) as a state machine: set-up, the main loop one pass at a time,
the drain after it, and the end. The world decides each step (`Event`): whether set-up and attach
succeed, what a pass sees (the deadline, the external requests, whether each `kill` or
`PTRACE_INTERRUPT` succeeds, what `PidWaiter::Wait` returns and the `Replies` for the stop it
reports), and what a drain pass sees. A run is the fold of `step` over a list of events; an event
that does not fit the current phase changes nothing.
-/

namespace Sandbox2

/-- Where `Run` is: before set-up, in the main loop, draining after it (with `log_stack_traces`),
    or returned. -/
inductive Phase where
  | setup
  | loop
  | drain (logStackTraces : Bool)
  | done
  deriving DecidableEq, Repr

/-- `Run` between two steps: the monitor, and where `Run` is. `sandboxee_exited`, the one other
    local of `Run` that a later step reads, is only set in the pass that leaves the loop, so it is
    passed from `dispatchWait` to `leaveLoop` and not kept. -/
structure RunState where
  monitor : Monitor
  phase : Phase

/-- `Run` before its first step. -/
def RunState.init (c : Config) : RunState := ⟨Monitor.init c, .setup⟩

/-- What one pass of the main loop sees. `dumpStackRequested` and `killRequested` are the
    `test_and_set` edges of `dump_stack_request_flag_` and `external_kill_request_flag_`;
    `proxyViolation` is the proxy's `violation_occurred_`. -/
structure Pass where
  deadlinePassed : Bool
  timeoutKillOk : Bool
  dumpStackRequested : Bool
  interruptOk : Bool
  killRequested : Bool
  externalKillOk : Bool
  proxyViolation : Bool
  networkKillOk : Bool
  wait : WaitRet
  replies : Replies

/-- One step of a run, as the world decides it. -/
inductive Event where
  | setup (signalsOk attachOk : Bool)
  | pass (p : Pass)
  | drainPass (deadlinePassed : Bool) (wait : WaitRet)

variable (c : Config)

/-- `KillSandboxee` (`monitor_ptrace.cc:215-223`): `.ok` when `kill` succeeded, `.error` (after
    recording `FAILED_KILL`) when it did not. -/
def killSandboxee (ok : Bool) (m : Monitor) : Except Monitor Monitor :=
  let m := m.emit (.kill c.mainPid)
  if ok then .ok m else .error (m.setExitStatusCode .internalError .failedKill)

/-- `InterruptSandboxee` (`monitor_ptrace.cc:225-232`), as `killSandboxee`. -/
def interruptSandboxee (ok : Bool) (m : Monitor) : Except Monitor Monitor :=
  let m := m.emit (.ptraceInterrupt c.mainPid)
  if ok then .ok m else .error (m.setExitStatusCode .internalError .failedInterrupt)

/-- The dispatch of what `pid_waiter.Wait` returned (`monitor_ptrace.cc:328-392`), and whether
    it set `sandboxee_exited`. -/
def dispatchWait (o : Replies) (w : WaitRet) (m : Monitor) : Monitor × Bool :=
  match w with
  | .none => (m, false)
  | .error e => (if e == echild then m.setExitStatusCode .internalError .failedChild else m, false)
  | .child pid status =>
    let m := m.emit (.report pid status)
    if wIfExited status then
      if pid == c.mainPid then
        (if m.isActivelyMonitoring then m.setExitStatusCode .ok (.code (wExitStatus status))
          else m.setExitStatusCode .setupError .failedMonitor, true)
      else (m, false)
    else if wIfSignaled status then
      if pid == c.mainPid then
        (attributeDeath o (·.setExitStatusCode .signaled (.code (wTermSig status))) m, true)
      else (m, false)
    else if wIfStopped status then (stateProcessStopped c o pid status m, false)
    else (m, false)

/-- The requests at the top of a pass of the main loop (`monitor_ptrace.cc:295-326`): the
    deadline, a stack dump, an external kill, a network violation. `.error` is `break`. -/
def loopRequests (p : Pass) (m : Monitor) : Except Monitor Monitor := do
  let m ← (if p.deadlinePassed then killSandboxee c p.timeoutKillOk { m with timedOut := true }
    else pure m)
  let m ← (if p.dumpStackRequested then
      interruptSandboxee c p.interruptOk { m with shouldDumpStack := true }
    else pure m)
  let m ← (if p.killRequested then killSandboxee c p.externalKillOk { m with externalKill := true }
    else pure m)
  if c.hasNetworkProxy && p.proxyViolation && !m.networkViolation then
    killSandboxee c p.networkKillOk { m with networkViolation := true }
  else pure m

/-- Leaving the main loop (`monitor_ptrace.cc:395-402`): return if the main PID was reaped,
    otherwise kill it (unless all stack traces are logged) and drain. -/
def leaveLoop (sandboxeeExited : Bool) (m : Monitor) : RunState :=
  if sandboxeeExited then ⟨m, .done⟩
  else
    let logStackTraces := m.result.finalStatus != .ok && c.logAllStackTraces
    ⟨if !logStackTraces then m.emit (.kill c.mainPid) else m, .drain logStackTraces⟩

/-- One pass of the main loop (`monitor_ptrace.cc:294-393`): the requests, then the dispatch of
    what `pid_waiter.Wait` returns, then the loop's condition. -/
def mainLoopPass (p : Pass) (m : Monitor) : RunState :=
  match loopRequests c p m with
  | .error m => leaveLoop c false m
  | .ok m =>
    let (m, sandboxeeExited) := dispatchWait c p.replies p.wait m
    if m.result.finalStatus == .unset then ⟨m, .loop⟩ else leaveLoop c sandboxeeExited m

/-- One pass of the drain (`monitor_ptrace.cc:409-448`). -/
def drainPass (logStackTraces deadlinePassed : Bool) (w : WaitRet) (m : Monitor) : RunState :=
  if deadlinePassed then ⟨m, .done⟩
  else
    match w with
    | .error _ => ⟨m, .done⟩
    | .none => ⟨m, .drain logStackTraces⟩
    | .child pid status =>
      let m := m.emit (.report pid status)
      if !logStackTraces && pid == c.mainPid && (wIfSignaled status || wIfExited status) then
        ⟨m, .done⟩
      else if wIfStopped status && wPtraceEvent status == ptraceEventExit then
        ⟨continueProcess pid 0 m, .drain logStackTraces⟩
      else if !logStackTraces then ⟨m.emit (.kill c.mainPid), .drain logStackTraces⟩
      else ⟨m, .drain logStackTraces⟩

/-- Set-up (`monitor_ptrace.cc:270-283`): `InitSetupSignals`, then `InitPtraceAttach`. -/
def setup (signalsOk attachOk : Bool) (m : Monitor) : RunState :=
  if !signalsOk then ⟨m.setExitStatusCode .setupError .failedSignals, .done⟩
  else if !attachOk then ⟨m.setExitStatusCode .setupError .failedPtrace, .done⟩
  else ⟨m, .loop⟩

/-- One step of `Run`. -/
def step (s : RunState) (e : Event) : RunState :=
  match s.phase, e with
  | .setup, .setup signalsOk attachOk => setup signalsOk attachOk s.monitor
  | .loop, .pass p => mainLoopPass c p s.monitor
  | .drain logStackTraces, .drainPass deadlinePassed w =>
    drainPass c logStackTraces deadlinePassed w s.monitor
  | _, _ => s

/-- `Run` after the events `es`, from `s`. -/
def runFrom (s : RunState) (es : List Event) : RunState := es.foldl (step c) s

/-- `Run` after the events `es` of a run. -/
def run (es : List Event) : RunState := runFrom c (RunState.init c) es

@[simp] theorem runFrom_nil (s : RunState) : runFrom c s [] = s := rfl

@[simp] theorem runFrom_cons (s : RunState) (e : Event) (es : List Event) :
    runFrom c s (e :: es) = runFrom c (step c s e) es := rfl

theorem runFrom_append (s : RunState) (es es' : List Event) :
    runFrom c s (es ++ es') = runFrom c (runFrom c s es) es' := List.foldl_append _ _ _ _

end Sandbox2
