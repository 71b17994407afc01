import Sandbox2.Monitor.HandlerProps
import Sandbox2.Monitor.Run

/-!
# How a stop is answered

The contract of `StateProcessStopped` towards the task it handles: for every stop the kernel can
report under the options of `InitPtraceAttach`, at most one resume request for that task; the stop
signal re-injected only into a signal-delivery-stop; `PTRACE_LISTEN` only for a group-stop by a
stopping signal; and no resume at all only when the handler recorded a status, found the task
gone, or read a seccomp event message outside the architectures' range.
-/

namespace Sandbox2

variable (c : Config) (o : Replies)

/-- The events a stop carries under the options `InitPtraceAttach` sets: none (a
    signal-delivery-stop or a syscall-exit-stop), or one of the eight `StateProcessStopped`
    names. -/
def reportableEvent (ev : Int) : Bool :=
  ev == 0 || ev == ptraceEventFork || ev == ptraceEventVfork || ev == ptraceEventClone ||
    ev == ptraceEventVforkDone || ev == ptraceEventExec || ev == ptraceEventExit ||
    ev == ptraceEventStop || ev == ptraceEventSeccomp

/-- The four signals whose group-stop `EventPtraceStop` honours. -/
def groupStopSig (sig : Int) : Bool :=
  sig == sigstop || sig == sigtstp || sig == sigttin || sig == sigttou

theorem appended_of_log_eq {m₀ m m' : Monitor} (hl : m₀.log = m.log) :
    appended m m' = appended m₀ m' := by
  simp [appended, hl]

/-- The dispatched handlers re-inject no signal, listen only on a group-stop, and leave the task
    stopped only after recording a status or when its registers or event message said it is
    gone. -/
theorem dispatchPtraceEvent_answers (pid : Pid) (status eventMsg : Int) (m : Monitor)
    (hev : reportableEvent (wPtraceEvent status) = true) (hne : wPtraceEvent status ≠ 0 ∨
      wStopSig status = syscallExitSig) :
    let acts := appended m (dispatchPtraceEvent c o pid status eventMsg m)
    (∀ sig, Action.ptraceCont pid sig ∈ acts → sig = 0) ∧
    (∀ sig, Action.ptraceListen pid sig ∈ acts →
      wPtraceEvent status = ptraceEventStop ∧ groupStopSig (wStopSig status) = true) ∧
    (acts.all (fun a => a.resumed.isNone) = true → 0 < statusWrites acts ∨
      o.fetch = .error .notFound ∨ (wPtraceEvent status = ptraceEventSeccomp ∧
        (eventMsg < c.host.kUnknown ∨ c.host.kMax < eventMsg))) := by
  have plain : ∀ {g : Prop} {m' : Monitor}, Handles pid g m m' → (g → o.fetch = .error .notFound ∨
      (wPtraceEvent status = ptraceEventSeccomp ∧
        (eventMsg < c.host.kUnknown ∨ c.host.kMax < eventMsg))) →
      (∀ sig, Action.ptraceCont pid sig ∈ appended m m' → sig = 0) ∧
      (∀ sig, Action.ptraceListen pid sig ∈ appended m m' →
        wPtraceEvent status = ptraceEventStop ∧ groupStopSig (wStopSig status) = true) ∧
      ((appended m m').all (fun a => a.resumed.isNone) = true →
        0 < statusWrites (appended m m') ∨ o.fetch = .error .notFound ∨
          (wPtraceEvent status = ptraceEventSeccomp ∧
            (eventMsg < c.host.kUnknown ∨ c.host.kMax < eventMsg))) := fun h hg =>
    ⟨fun _ => plainResumes_cont h.2.1, fun sig hl => absurd hl (plainResumes_listen h.2.1 sig),
      fun hq => h.2.2.imp (answers_statusWrites · hq) hg⟩
  unfold dispatchPtraceEvent
  dsimp only
  by_cases hexit : (wStopSig status == syscallExitSig) = true
  · rw [if_pos hexit]; exact plain (eventSyscallExit_handles o pid m) .inl
  rw [if_neg hexit]
  by_cases hnew : (wPtraceEvent status == ptraceEventFork || wPtraceEvent status == ptraceEventVfork ||
      wPtraceEvent status == ptraceEventClone) = true
  · rw [if_pos hnew]; exact plain (eventPtraceNewProcess_handles c pid eventMsg m) False.elim
  rw [if_neg hnew]
  by_cases hdone : (wPtraceEvent status == ptraceEventVforkDone) = true
  · rw [if_pos hdone]; exact plain (continueProcess_handles pid m) False.elim
  rw [if_neg hdone]
  by_cases hexec : (wPtraceEvent status == ptraceEventExec) = true
  · rw [if_pos hexec]; exact plain (eventPtraceExec_handles c pid m) False.elim
  rw [if_neg hexec]
  by_cases hquit : (wPtraceEvent status == ptraceEventExit) = true
  · rw [if_pos hquit]; exact plain (eventPtraceExit_handles c o pid eventMsg m) False.elim
  rw [if_neg hquit]
  by_cases hstop : (wPtraceEvent status == ptraceEventStop) = true
  · rw [if_pos hstop]
    unfold eventPtraceStop
    split
    · exact plain (continueProcess_handles pid m) False.elim
    · next hsig =>
      simp only [beq_iff_eq] at hstop
      simp only [bne_iff_ne, ne_eq, Bool.and_eq_true, decide_eq_true_eq, not_and, not_not] at hsig
      simp [appended, stopProcess, Action.resumed, groupStopSig, hstop]
      tauto
  rw [if_neg hstop]
  by_cases hsec : (wPtraceEvent status == ptraceEventSeccomp) = true
  · rw [if_pos hsec]
    simp only [beq_iff_eq] at hsec
    exact plain (eventPtraceSeccomp_handles c o pid eventMsg m) (Or.imp id (⟨hsec, ·⟩))
  · exfalso
    simp_all [reportableEvent]

/-- A stop of `pid`, of any kind the kernel reports under the options set at attach, gets at most
    one resume request, for `pid` only. The stop signal is re-injected only into a
    signal-delivery-stop, `PTRACE_LISTEN` is used only for a group-stop by SIGSTOP, SIGTSTP,
    SIGTTIN or SIGTTOU, and the task is left stopped only if the handler recorded a status, found
    the task gone (`ESRCH` from `PTRACE_GETEVENTMSG`, `NotFound` from `Regs::Fetch`), or read a
    seccomp event message outside the architectures' range. -/
theorem stateProcessStopped_resumes_at_most_once (pid : Pid) (status : Int) (m : Monitor)
    (hev : reportableEvent (wPtraceEvent status) = true) :
    let acts := appended m (stateProcessStopped c o pid status m)
    acts.countP (fun a => a.resumed.isSome) ≤ 1 ∧
    (∀ a ∈ acts, ∀ q, a.resumed = some q → q = pid) ∧
    (∀ sig, Action.ptraceCont pid sig ∈ acts → sig ≠ 0 →
      wPtraceEvent status = 0 ∧ wStopSig status ≠ syscallExitSig ∧ sig = wStopSig status) ∧
    (∀ sig, Action.ptraceListen pid sig ∈ acts →
      wPtraceEvent status = ptraceEventStop ∧ groupStopSig (wStopSig status) = true) ∧
    (acts.all (fun a => a.resumed.isNone) = true →
      0 < statusWrites acts ∨ o.eventMsg = .error esrch ∨ o.fetch = .error .notFound ∨
      (wPtraceEvent status = ptraceEventSeccomp ∧
        ∃ msg, o.eventMsg = .ok msg ∧ (msg < c.host.kUnknown ∨ c.host.kMax < msg))) := by
  obtain ⟨_, hok⟩ := stateProcessStopped_ok c o pid status m
  refine ⟨stopActsOk_resumes_le hok, stopActsOk_resumed hok, ?_⟩
  unfold stateProcessStopped
  dsimp only
  split
  · next hsig =>
    simp only [Bool.and_eq_true, beq_iff_eq, bne_iff_ne, ne_eq] at hsig
    simp [appended, continueProcess, Action.resumed, hsig]
  · next hsig =>
    split
    · next e he =>
      split
      · next hs => simp [appended, he, show e = esrch by simpa using hs]
      · simp [appended, Action.resumed, Action.isStatusWrite]
    · next msg hmsg =>
      have hne : wPtraceEvent status ≠ 0 ∨ wStopSig status = syscallExitSig := by
        simp only [Bool.and_eq_true, beq_iff_eq, bne_iff_ne, ne_eq, not_and, not_not] at hsig
        exact (em (wPtraceEvent status = 0)).elim (.inr ∘ hsig) .inl
      have hdump : (dumpRequestedStack c pid m).log = m.log := by
        unfold dumpRequestedStack; split <;> rfl
      obtain ⟨h1, h2, h3⟩ := dispatchPtraceEvent_answers c o pid status msg
        (dumpRequestedStack c pid m) hev hne
      rw [appended_of_log_eq hdump]
      exact ⟨fun sig h hs => absurd (h1 sig h) hs, h2, fun hq => (h3 hq).imp_right fun h =>
        .inr (h.imp_right fun ⟨hsec, hr⟩ => ⟨hsec, msg, hmsg, hr⟩)⟩

/-- A monitor of main PID 100 on x86-64, sandboxing from the start, with every policy and
    command-line switch off. -/
def Config.sample : Config where
  host := .x8664
  policy := ⟨false, false, false, false, false, false⟩
  mainPid := 100
  enableSandboxingPreExecve := false
  logFile := false
  dangerPermitAll := false
  logAllStackTraces := false
  libunwindSboxForPid := 0
  hasNetworkProxy := false

/-- Replies in which every call succeeds: event message 0, the registers of a `getpid` (39)
    that returned 0, `kAllow`, no stack trace. -/
def Replies.sample : Replies where
  eventMsg := .ok 0
  fetch := .ok ⟨39, [], 0⟩
  verdict := .allow
  stackTrace := none
  progName := ""
  procMaps := ""
  violationMsg := ""

theorem stateProcessStopped_resumes_at_most_once_seccomp :
    reportableEvent (wPtraceEvent (stoppedStatus sigtrap ptraceEventSeccomp)) = true ∧
    (appended (Monitor.init Config.sample) (stateProcessStopped Config.sample Replies.sample 100
      (stoppedStatus sigtrap ptraceEventSeccomp) (Monitor.init Config.sample))).countP
      (fun a => a.resumed.isSome) ≤ 1 :=
  ⟨by decide, (stateProcessStopped_resumes_at_most_once Config.sample Replies.sample 100
    (stoppedStatus sigtrap ptraceEventSeccomp) (Monitor.init Config.sample) (by decide)).1⟩

/-- `EventPtraceExit` of the main PID, past its fast path, records `INTERNAL_ERROR`/`FAILED_FETCH`
    for every failed `Regs::Fetch`, `NotFound` included (`monitor_ptrace.cc:821-826`). -/
theorem eventPtraceExit_main_fetch_error (eventMsg : Int) (e : FetchError) (m : Monitor)
    (hslow : (wIfExited eventMsg && !c.policy.collectStacktraceOnExit) = false)
    (hfetch : o.fetch = .error e) :
    (eventPtraceExit c o c.mainPid eventMsg m).result =
      m.result.setExitStatusCode .internalError .failedFetch := by
  simp [eventPtraceExit, hslow, hfetch]

/-- A pass of the main loop with no request pending, that dispatches `w` with the replies `o`. -/
def Pass.ofWait (w : WaitRet) (o : Replies) : Pass :=
  ⟨false, false, false, false, false, false, false, false, w, o⟩

/-- A run of `Config.sample` whose main PID is gone when its `PTRACE_EVENT_EXIT` stop is handled:
    killed by SIGKILL, `Regs::Fetch` finds it gone, and its exit report comes in the drain. -/
def mainGoneAtExitStop : List Event :=
  [.setup true true,
    .pass (.ofWait (.child 100 (stoppedStatus sigtrap ptraceEventExit))
      { Replies.sample with eventMsg := .ok (signaledStatus sigkill), fetch := .error .notFound }),
    .drainPass false (.child 100 (signaledStatus sigkill))]

/-- The run ends with `INTERNAL_ERROR`/`FAILED_FETCH`, and the exit report does not change it. -/
theorem mainPid_gone_at_exit_stop_fails_run :
    (run Config.sample mainGoneAtExitStop).phase = .done ∧
    (run Config.sample mainGoneAtExitStop).monitor.result.finalStatus = .internalError ∧
    (run Config.sample mainGoneAtExitStop).monitor.result.reasonCode = .failedFetch := by
  decide

end Sandbox2
