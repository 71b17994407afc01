import Sandbox2.Monitor.Seccomp

/-!
# Two ways to learn of the main PID's death

The monitor learns that the main PID terminated with wait status `w` either from its
`PTRACE_EVENT_EXIT` stop, whose event message is `w` (`EventPtraceExit`,
`monitor_ptrace.cc:800-868`), followed by `Run`'s handling of `w` if that recorded nothing, or
from `w` alone (`Run`, `monitor_ptrace.cc:350-383`). For a death by a signal other than `SIGSYS`,
the two agree, by the priority network violation > external kill > timeout > `SIGNALED`. For an
exit they agree when `collect_stacktrace_on_exit_` is off. When it is on, only the exit stop
applies the flags' priority, and only the wait status distinguishes a task that has not
reached its `execve`. A `SIGSYS` death is a `VIOLATION` only through the exit stop.
-/

namespace Sandbox2

variable (c : Config) (o : Replies)

/-- The order in which the spec attributes the main PID's death: a network violation, an
    external kill, a timeout, and only then `fallback`. -/
def deathPriority (m : Monitor) (fallback : FinalStatus × ReasonCode) : FinalStatus × ReasonCode :=
  if m.networkViolation then (.violation, .violationNetwork)
  else if m.externalKill then (.externalKill, .code 0)
  else if m.timedOut then (.timeout, .code 0)
  else fallback

/-- The main PID's termination learnt from its `PTRACE_EVENT_EXIT` stop (whose event message
    `o.eventMsg` carries the wait status), then from the wait status `w` if the stop recorded
    nothing: two dispatches of `Run`'s main loop with no request between them. -/
def exitViaEvent (w : Int) (m : Monitor) : Monitor :=
  let m := (dispatchWait c o (.child c.mainPid (stoppedStatus sigtrap ptraceEventExit)) m).1
  if m.result.finalStatus == .unset then (dispatchWait c o (.child c.mainPid w) m).1 else m

/-- The main PID's termination learnt from the wait status `w` alone. -/
def exitViaWait (w : Int) (m : Monitor) : Monitor := (dispatchWait c o (.child c.mainPid w) m).1

/-- What the monitor records, as a pair. -/
def Monitor.status (m : Monitor) : FinalStatus × ReasonCode :=
  (m.result.finalStatus, m.result.reasonCode)

theorem setExitStatusCode_status {m : Monitor} (hu : m.result.finalStatus = .unset)
    (st : FinalStatus) (code : ReasonCode) : (m.setExitStatusCode st code).status = (st, code) := by
  simp [Monitor.status, Result.setExitStatusCode_of_unset hu]

theorem attributeDeath_status {m : Monitor} {fallback : Monitor → Monitor}
    {r : FinalStatus × ReasonCode} (hfb : (fallback m).status = r)
    (hu : m.result.finalStatus = .unset) :
    (attributeDeath o fallback m).status = deathPriority m r := by
  unfold attributeDeath deathPriority
  split
  · simp [Monitor.status, Result.setExitStatusCode_of_unset hu]
  split
  · exact setExitStatusCode_status hu _ _
  split
  · exact setExitStatusCode_status hu _ _
  · exact hfb

/-- `Run`'s handling of an exit of the main PID (`monitor_ptrace.cc:350-363`). -/
theorem dispatchWait_exited_status {w : Int} (hx : wIfExited w = true) {m : Monitor}
    (hu : m.result.finalStatus = .unset) :
    (exitViaWait c o w m).status =
      if m.waitForExecve then (.setupError, .failedMonitor) else (.ok, .code (wExitStatus w)) := by
  simp only [exitViaWait, dispatchWait, hx, beq_self_eq_true, ite_true]
  split <;> simp_all [Monitor.isActivelyMonitoring, setExitStatusCode_status]

/-- `Run`'s handling of a signal death of the main PID (`monitor_ptrace.cc:364-383`). -/
theorem dispatchWait_signaled_status {w : Int} (hs : wIfSignaled w = true) {m : Monitor}
    (hu : m.result.finalStatus = .unset) :
    (exitViaWait c o w m).status = deathPriority m (.signaled, .code (wTermSig w)) := by
  simp only [exitViaWait, dispatchWait, wIfExited_of_wIfSignaled hs, hs, beq_self_eq_true, ite_true, Bool.false_eq_true,
    ite_false]
  exact attributeDeath_status o (setExitStatusCode_status hu _ _) hu

theorem exitStop_facts :
    wIfStopped (stoppedStatus sigtrap ptraceEventExit) = true ∧
    wPtraceEvent (stoppedStatus sigtrap ptraceEventExit) = ptraceEventExit ∧
    wStopSig (stoppedStatus sigtrap ptraceEventExit) ≠ syscallExitSig := by
  decide

/-- The main PID's `PTRACE_EVENT_EXIT` stop is handled by `EventPtraceExit` with its event
    message. -/
theorem dispatchWait_exitStop {w : Int} (hmsg : o.eventMsg = .ok w) (m : Monitor) :
    (dispatchWait c o (.child c.mainPid (stoppedStatus sigtrap ptraceEventExit)) m).1 =
      eventPtraceExit c o c.mainPid w
        (dumpRequestedStack c c.mainPid (m.emit (.report c.mainPid
          (stoppedStatus sigtrap ptraceEventExit)))) := by
  obtain ⟨hstop, hev, hsig⟩ := exitStop_facts
  rw [dispatchWait_stopped c o hstop]
  generalize stoppedStatus sigtrap ptraceEventExit = s at hstop hev hsig ⊢
  simp [stateProcessStopped, dispatchPtraceEvent, hev, hsig, hmsg, ptraceEventExit,
    ptraceEventFork, ptraceEventVfork, ptraceEventClone, ptraceEventVforkDone, ptraceEventExec]

theorem exitStop_frame (m : Monitor) :
    let m' := dumpRequestedStack c c.mainPid
      (m.emit (.report c.mainPid (stoppedStatus sigtrap ptraceEventExit)))
    m'.result = m.result ∧ m'.waitForExecve = m.waitForExecve ∧
      deathPriority m' = deathPriority m := by
  unfold dumpRequestedStack
  split <;> exact ⟨rfl, rfl, rfl⟩

theorem actionProcessSyscallViolation_status (regs : Regs) (sc : Syscall) (v : ViolationType)
    {m : Monitor} (hu : m.result.finalStatus = .unset) :
    (actionProcessSyscallViolation c o regs sc v m).status = (.violation, .code sc.nr) := by
  simp [actionProcessSyscallViolation, Monitor.status, Result.setExitStatusCode_of_unset hu]

theorem recordExitOrSignal_status (w : Int) {m : Monitor} (hu : m.result.finalStatus = .unset) :
    (recordExitOrSignal w m).status =
      if wIfExited w then (.ok, .code (wExitStatus w)) else (.signaled, .code (wTermSig w)) := by
  unfold recordExitOrSignal
  split <;> exact setExitStatusCode_status hu _ _

/-- What `EventPtraceExit` records for the main PID past its fast path, when the registers are
    read: a `VIOLATION` for a `SIGSYS` death, otherwise the flags' priority over the exit or the
    signal. -/
theorem eventPtraceExit_main_status {w : Int} {user : UserRegs} (hfetch : o.fetch = .ok user)
    (hslow : (wIfExited w && !c.policy.collectStacktraceOnExit) = false) {m : Monitor}
    (hu : m.result.finalStatus = .unset) :
    (eventPtraceExit c o c.mainPid w m).status =
      if wIfSignaled w && wTermSig w == sigsys then (.violation, .code user.nr)
      else deathPriority m
        (if wIfExited w then (.ok, .code (wExitStatus w)) else (.signaled, .code (wTermSig w))) := by
  have hmain : (c.mainPid != c.mainPid) = false := bne_self_eq_false _
  unfold eventPtraceExit
  simp only [hmain, Bool.or_false, hslow, Bool.false_eq_true, ite_false, beq_self_eq_true,
    Bool.or_true, Bool.true_or, ite_true, hfetch]
  by_cases hsec : (wIfSignaled w && wTermSig w == sigsys) = true
  · simp only [hsec, ite_true]
    exact actionProcessSyscallViolation_status c o _ _ _ hu
  · simp only [hsec, Bool.false_eq_true, ite_false, continueProcess, Monitor.status,
      Monitor.emit_result, setAdditionalResultInfo_finalStatus, setAdditionalResultInfo_reasonCode]
    exact attributeDeath_status o (recordExitOrSignal_status w hu) hu

/-- Through the exit stop, `EventPtraceExit` sees `m` after the report (the same result, flags
    and `wait_for_execve_`), and `Run` handles `w` only if it recorded nothing. -/
theorem exitViaEvent_eq {w : Int} (hmsg : o.eventMsg = .ok w) (m : Monitor) :
    ∃ m', m'.result = m.result ∧ m'.waitForExecve = m.waitForExecve ∧
      deathPriority m' = deathPriority m ∧
      exitViaEvent c o w m =
        if (eventPtraceExit c o c.mainPid w m').result.finalStatus == .unset then
          exitViaWait c o w (eventPtraceExit c o c.mainPid w m')
        else eventPtraceExit c o c.mainPid w m' := by
  obtain ⟨hr, hw, hd⟩ := exitStop_frame c m
  exact ⟨_, hr, hw, hd, by simp only [exitViaEvent, dispatchWait_exitStop c o hmsg, exitViaWait]⟩

theorem deathPriority_ne_unset (m : Monitor) {r : FinalStatus × ReasonCode} (h : r.1 ≠ .unset) :
    (deathPriority m r).1 ≠ .unset := by
  unfold deathPriority
  split_ifs <;> simp [h]

/-- The two ways of learning of the main PID's death `w`, with the registers readable. They
    agree for a death by a signal other than `SIGSYS`, by the priority network violation >
    external kill > timeout > `SIGNALED`, and for an exit when `collect_stacktrace_on_exit_` is
    off. With it on, the exit stop applies the priority to the exit, while the wait status gives
    `OK`, or `SETUP_ERROR` before the `execve`. A `SIGSYS` death is a `VIOLATION` for the
    syscall in the registers through the exit stop, and goes by the priority through the wait
    status. -/
theorem exitViaEvent_exitViaWait (w : Int) (user : UserRegs) (m : Monitor)
    (hu : m.result.finalStatus = .unset) (hmsg : o.eventMsg = .ok w)
    (hfetch : o.fetch = .ok user) :
    let a := (exitViaEvent c o w m).status
    let b := (exitViaWait c o w m).status
    (wIfSignaled w = true → wTermSig w ≠ sigsys →
      a = b ∧ b = deathPriority m (.signaled, .code (wTermSig w))) ∧
    (wIfExited w = true → c.policy.collectStacktraceOnExit = false →
      a = b ∧ b = if m.waitForExecve then (.setupError, .failedMonitor)
        else (.ok, .code (wExitStatus w))) ∧
    (wIfExited w = true → c.policy.collectStacktraceOnExit = true →
      a = deathPriority m (.ok, .code (wExitStatus w)) ∧
      b = if m.waitForExecve then (.setupError, .failedMonitor)
        else (.ok, .code (wExitStatus w))) ∧
    (wIfSignaled w = true → wTermSig w = sigsys →
      a = (.violation, .code user.nr) ∧ b = deathPriority m (.signaled, .code sigsys)) := by
  obtain ⟨m', hr', hw', hd', he⟩ := exitViaEvent_eq c o hmsg m
  have hu' : m'.result.finalStatus = .unset := by rw [hr']; exact hu
  have hset : ∀ {r}, (eventPtraceExit c o c.mainPid w m').status = r → r.1 ≠ .unset →
      (exitViaEvent c o w m).status = r := fun hE hne => by
    have h1 : (eventPtraceExit c o c.mainPid w m').result.finalStatus = _ := congrArg Prod.fst hE
    rw [he, if_neg (by simp [h1, hne])]; exact hE
  dsimp only
  refine ⟨fun hs hn => ?_, fun hx hc => ?_, fun hx hc => ?_, fun hs hn => ?_⟩
  · have hx := wIfExited_of_wIfSignaled hs
    have hE := eventPtraceExit_main_status c o (w := w) hfetch (by simp [hx]) hu'
    simp only [hs, hn, beq_iff_eq, Bool.true_and, decide_False, Bool.false_eq_true, ite_false,
      hx, hd'] at hE
    rw [hset hE (deathPriority_ne_unset m (by simp)), dispatchWait_signaled_status c o hs hu]
    exact ⟨rfl, rfl⟩
  · have hfast : eventPtraceExit c o c.mainPid w m' =
        continueProcess c.mainPid 0 (m'.eraseInProgress c.mainPid) := by
      simp [eventPtraceExit, hx, hc]
    rw [he, hfast, dispatchWait_exited_status c o hx hu]
    simp only [continueProcess, Monitor.emit_result, Monitor.eraseInProgress_result, hu',
      beq_self_eq_true, ite_true]
    rw [dispatchWait_exited_status c o hx (by simpa using hu')]
    simp [hw']
  · have hns : wIfSignaled w = false := wIfSignaled_of_wIfExited hx
    have hE := eventPtraceExit_main_status c o (w := w) hfetch (by simp [hc]) hu'
    simp only [hns, Bool.false_and, Bool.false_eq_true, ite_false, hx, ite_true, hd'] at hE
    exact ⟨hset hE (deathPriority_ne_unset m (by simp)), dispatchWait_exited_status c o hx hu⟩
  · have hx := wIfExited_of_wIfSignaled hs
    have hE := eventPtraceExit_main_status c o (w := w) hfetch (by simp [hx]) hu'
    simp only [hs, hn, beq_self_eq_true, Bool.and_self, ite_true] at hE
    refine ⟨hset hE (by simp), ?_⟩
    rw [dispatchWait_signaled_status c o hs hu, hn]

/-- A `SIGSYS` death of the main PID under `Config.sample`: the exit stop records a `VIOLATION`
    for `getpid` (39), the wait status alone `SIGNALED` with signal 31. An exit with code 0 after
    an external kill, with `collect_stacktrace_on_exit_` on: the exit stop records
    `EXTERNAL_KILL`, the wait status alone `OK`. -/
theorem exit_paths_disagree :
    (exitViaEvent Config.sample { Replies.sample with eventMsg := .ok 31 } 31
      (Monitor.init Config.sample)).status = (.violation, .code 39) ∧
    (exitViaWait Config.sample { Replies.sample with eventMsg := .ok 31 } 31
      (Monitor.init Config.sample)).status = (.signaled, .code 31) ∧
    (exitViaEvent { Config.sample with policy := ⟨false, false, false, false, true, false⟩ }
      Replies.sample 0 { Monitor.init Config.sample with externalKill := true }).status =
      (.externalKill, .code 0) ∧
    (exitViaWait { Config.sample with policy := ⟨false, false, false, false, true, false⟩ }
      Replies.sample 0 { Monitor.init Config.sample with externalKill := true }).status =
      (.ok, .code 0) := by
  decide

end Sandbox2
