import Sandbox2.Monitor.RunInv
import Sandbox2.Monitor.Stops

/-!
# Which seccomp stops are let through

`EventPtraceSeccomp` (`monitor_ptrace.cc:680-718`) and `ActionProcessSyscall` (`618-663`) as an
admission check, over every run:

* a task leaves a seccomp stop only when the event message names the host architecture and the
  syscall is admitted: an `execveat` before any `PTRACE_EVENT_EXEC`, a verdict of `Notify` other
  than `kDeny`, or a permissive override;
* `Notify` is asked only about a tag in range that names the host architecture;
* a syscall with a tag in range and readable registers that is not admitted ends the run as a
  `VIOLATION` recording it, and no later step, in the main loop or the drain, resumes the task
  from that stop.
-/

namespace Sandbox2

variable (c : Config) (o : Replies)

/-- The branches of `ActionProcessSyscall` that let a syscall numbered `nr` through: `execveat`
    while `wait_for_execve_` is set, a verdict other than `kDeny`, the log file, or
    `sandbox2_danger_danger_permit_all`. -/
def admits (m : Monitor) (nr : Int) : Bool :=
  (nr == c.host.nrExecveat && m.waitForExecve) || o.verdict != .deny || c.logFile ||
    c.dangerPermitAll

theorem admits_iff (m : Monitor) (nr : Int) :
    admits c o m nr = true ↔ (nr = c.host.nrExecveat ∧ m.waitForExecve = true) ∨
      o.verdict ≠ .deny ∨ c.logFile = true ∨ c.dangerPermitAll = true := by
  simp only [admits, Bool.or_eq_true, Bool.and_eq_true, beq_iff_eq, bne_iff_ne, or_assoc]

/-- Whether `acts` resumes a task. -/
def resumesAny (acts : List Action) : Bool := acts.any (·.resumed.isSome)

theorem actionProcessSyscallViolation_log (regs : Regs) (sc : Syscall) (v : ViolationType)
    (m : Monitor) :
    (actionProcessSyscallViolation c o regs sc v m).log = m.log ++
      [.eventSyscallViolation sc v, .setExitStatusCode .violation (.code sc.nr),
        .setAdditionalResultInfo regs.pid, .skipSyscallReturnValue regs.pid] := by
  simp [actionProcessSyscallViolation]

theorem actionProcessSyscallViolation_result (regs : Regs) (sc : Syscall) (v : ViolationType)
    {m : Monitor} (hu : m.result.finalStatus = .unset) :
    (actionProcessSyscallViolation c o regs sc v m).result.finalStatus = .violation ∧
    (actionProcessSyscallViolation c o regs sc v m).result.syscall = some sc := by
  simp [actionProcessSyscallViolation, Result.setExitStatusCode_of_unset hu]

/-- `ActionProcessSyscall` resumes the task only for an admitted syscall, asks `Notify` only
    about `sc`, and records a `VIOLATION` for `sc` otherwise. -/
theorem actionProcessSyscall_admission (regs : Regs) (sc : Syscall) {m : Monitor}
    (hu : m.result.finalStatus = .unset) :
    let acts := appended m (actionProcessSyscall c o regs sc m)
    (resumesAny acts = true → admits c o m sc.nr = true) ∧
    (∀ sc', .eventSyscallTrace sc' ∈ acts → sc' = sc) ∧
    (admits c o m sc.nr = false →
      (actionProcessSyscall c o regs sc m).result.finalStatus = .violation ∧
      (actionProcessSyscall c o regs sc m).result.syscall = some sc ∧ resumesAny acts = false) := by
  unfold actionProcessSyscall
  split
  · next h =>
    simp only [Bool.and_eq_true, beq_iff_eq, Monitor.isActivelyMonitoring, Bool.not_eq_true',
      Bool.not_eq_false'] at h
    simp [appended, continueProcess, admits, h]
  dsimp only
  split
  · next hv => simp [appended, continueProcess, admits, resumesAny, hv, Action.resumed]
  · next hv => simp [appended, completeSyscall, admits, resumesAny, hv, Action.resumed]
  · next hv =>
    split
    · next hl => simp [appended, continueProcess, admits, resumesAny, hl, Action.resumed]
    split
    · next hd => simp [appended, continueProcess, admits, resumesAny, hd, Action.resumed]
    · next hl hd =>
      have hlog := actionProcessSyscallViolation_log c o regs sc .syscallViolation
        (m.emit (.eventSyscallTrace sc))
      have hres := actionProcessSyscallViolation_result c o regs sc .syscallViolation
        (m := m.emit (.eventSyscallTrace sc)) hu
      simp [appended, hlog, hres, resumesAny, Action.resumed, admits, hv, hl, hd]

/-- `EventPtraceSeccomp` resumes the task only when the tag is the host's and the syscall is
    admitted, asks `Notify` only about a tag in range that is the host's, and records a
    `VIOLATION` for a syscall with a tag in range and readable registers that is not admitted. -/
theorem eventPtraceSeccomp_admission (pid : Pid) (tag : Int) {m : Monitor}
    (hu : m.result.finalStatus = .unset) :
    let m' := eventPtraceSeccomp c o pid tag m
    let acts := appended m m'
    (resumesAny acts = true → tag = c.host.arch ∧
      ∃ user, o.fetch = .ok user ∧ admits c o m user.nr = true) ∧
    (∀ sc, .eventSyscallTrace sc ∈ acts →
      c.host.kUnknown ≤ tag ∧ tag ≤ c.host.kMax ∧ tag = c.host.arch) ∧
    (∀ user, c.host.kUnknown ≤ tag → tag ≤ c.host.kMax → o.fetch = .ok user →
      (tag = c.host.arch → admits c o m user.nr = false) →
      m'.result.finalStatus = .violation ∧
      m'.result.syscall = some (Regs.toSyscall ⟨pid, user⟩ tag) ∧ resumesAny acts = false) := by
  unfold eventPtraceSeccomp
  dsimp only
  split
  · next hout =>
    simp only [Bool.or_eq_true, decide_eq_true_eq] at hout
    refine ⟨by simp [appended, resumesAny], by simp [appended], fun _ h1 h2 => ?_⟩
    omega
  next hin =>
  simp only [Bool.or_eq_true, decide_eq_true_eq, not_or, not_lt] at hin
  split
  · next hf => simp [appended, resumesAny, hf]
  · next hf => simp [appended, resumesAny, hf, Action.resumed]
  next user hf =>
  split
  · next harch =>
    have hlog := actionProcessSyscallViolation_log c o ⟨pid, user⟩ (Regs.toSyscall ⟨pid, user⟩ tag)
      .architectureSwitchViolation m
    have hres := actionProcessSyscallViolation_result c o ⟨pid, user⟩
      (Regs.toSyscall ⟨pid, user⟩ tag) .architectureSwitchViolation hu
    simp only [bne_iff_ne, ne_eq] at harch
    simp [appended, hlog, hres, resumesAny, Action.resumed, hf, harch]
  · next harch =>
    simp only [bne_iff_ne, ne_eq, not_not] at harch
    obtain ⟨h1, h2, h3⟩ := actionProcessSyscall_admission c o ⟨pid, user⟩
      (Regs.toSyscall ⟨pid, user⟩ tag) hu
    refine ⟨fun h => ⟨harch, user, hf, h1 h⟩, fun sc _ => ⟨hin.1, hin.2, harch⟩,
      fun user' _ _ hf' hna => ?_⟩
    obtain rfl : user = user' := by simpa [hf] using hf'
    exact h3 (hna harch)

theorem step_pass_of_loop {s : RunState} (h : s.phase = .loop) (p : Pass) :
    step c s (.pass p) = mainLoopPass c p s.monitor := by
  obtain ⟨m, ph⟩ := s
  subst h
  rfl

/-- A stopped task is neither exited nor signaled, so `Run` dispatches its stop. -/
theorem dispatchWait_stopped {status : Int} (hstop : wIfStopped status = true) (pid : Pid)
    (m : Monitor) :
    dispatchWait c o (.child pid status) m =
      (stateProcessStopped c o pid status (m.emit (.report pid status)), false) := by
  have h127 : status % 128 = 127 := by simp only [wIfStopped, beq_iff_eq] at hstop; omega
  have hx : wIfExited status = false := by simp [wIfExited, h127]
  have hs : wIfSignaled status = false := by
    cases h : wIfSignaled status
    · rfl
    · exact absurd h127 ((wIfSignaled_iff status).1 h).2
  simp [dispatchWait, hx, hs, hstop]

theorem stateProcessStopped_seccomp {status tag : Int}
    (hsec : wPtraceEvent status = ptraceEventSeccomp) (hsig : wStopSig status ≠ syscallExitSig)
    (hmsg : o.eventMsg = .ok tag) (pid : Pid) (m : Monitor) :
    stateProcessStopped c o pid status m =
      eventPtraceSeccomp c o pid tag (dumpRequestedStack c pid m) := by
  simp [stateProcessStopped, dispatchPtraceEvent, hsec, hsig, hmsg, ptraceEventSeccomp,
    ptraceEventFork, ptraceEventVfork, ptraceEventClone, ptraceEventVforkDone, ptraceEventExec,
    ptraceEventExit, ptraceEventStop]

theorem dumpRequestedStack_frame (pid : Pid) (m : Monitor) :
    (dumpRequestedStack c pid m).log = m.log ∧ (dumpRequestedStack c pid m).result = m.result ∧
      (dumpRequestedStack c pid m).waitForExecve = m.waitForExecve := by
  unfold dumpRequestedStack
  split <;> exact ⟨rfl, rfl, rfl⟩

theorem leaveLoop_kills (sandboxeeExited : Bool) (m : Monitor) :
    ∃ acts, (leaveLoop c sandboxeeExited m).monitor.log = m.log ++ acts ∧
      ∀ a ∈ acts, a = .kill c.mainPid := by
  unfold leaveLoop
  split
  · exact ⟨[], by simp, by simp⟩
  · dsimp only
    split
    · exact ⟨[.kill c.mainPid], rfl, by simp⟩
    · exact ⟨[], by simp, by simp⟩

/-- The end of a pass of the main loop whose `Wait` returned `(m, sandboxeeExited)`: the pass
    stays in the loop or leaves it, killing at most the main PID and keeping the result. -/
theorem passEnd_kills (m : Monitor) (sandboxeeExited : Bool) :
    let s : RunState :=
      if m.result.finalStatus == .unset then ⟨m, .loop⟩ else leaveLoop c sandboxeeExited m
    (∃ acts, s.monitor.log = m.log ++ acts ∧ ∀ a ∈ acts, a = .kill c.mainPid) ∧
      s.monitor.result = m.result := by
  dsimp only
  split
  · exact ⟨⟨[], by simp, by simp⟩, rfl⟩
  · exact ⟨leaveLoop_kills c _ m, (leaveLoop_keeps c _ m).result⟩

/-- In every run, a task at a seccomp stop is resumed from it only if the event message's tag
    is the host architecture and the syscall is admitted: an `execveat` while no
    `PTRACE_EVENT_EXEC` has been handled, a verdict of `Notify` other than `kDeny`, or the log
    file or `sandbox2_danger_danger_permit_all`. `Notify` is asked at that stop only about a tag
    in range that is the host's. A syscall with a tag in range and readable registers that is not
    admitted ends the run as a `VIOLATION` recording it, and no later step of the run resumes the
    task from that stop. The stop is the one the pass after `es₁` reports, and `stopActs` is what
    that pass does after reporting it. -/
theorem seccompStop_resumed_only_if_admitted (es₁ es₂ : List Event) (p : Pass) (m₀ : Monitor)
    (pid : Pid) (status tag : Int) (hloop : (run c es₁).phase = .loop)
    (hreq : loopRequests c p (run c es₁).monitor = .ok m₀) (hwait : p.wait = .child pid status)
    (hstop : wIfStopped status = true) (hsec : wPtraceEvent status = ptraceEventSeccomp)
    (hsig : wStopSig status ≠ syscallExitSig) (hmsg : p.replies.eventMsg = .ok tag) :
    ∃ stopActs later,
      (run c (es₁ ++ [.pass p])).monitor.log = m₀.log ++ .report pid status :: stopActs ∧
      (run c (es₁ ++ .pass p :: es₂)).monitor.log =
        m₀.log ++ .report pid status :: (stopActs ++ later) ∧
      (resumedBeforeReport pid (stopActs ++ later) = true →
        tag = c.host.arch ∧ ∃ user, p.replies.fetch = .ok user ∧
          ((user.nr = c.host.nrExecveat ∧ m₀.execSeen = false) ∨ p.replies.verdict ≠ .deny ∨
            c.logFile = true ∨ c.dangerPermitAll = true)) ∧
      (∀ sc, .eventSyscallTrace sc ∈ stopActs →
        c.host.kUnknown ≤ tag ∧ tag ≤ c.host.kMax ∧ tag = c.host.arch) ∧
      (∀ user, c.host.kUnknown ≤ tag → tag ≤ c.host.kMax → p.replies.fetch = .ok user →
        ¬(tag = c.host.arch ∧ ((user.nr = c.host.nrExecveat ∧ m₀.execSeen = false) ∨
          p.replies.verdict ≠ .deny ∨ c.logFile = true ∨ c.dangerPermitAll = true)) →
        (run c (es₁ ++ .pass p :: es₂)).monitor.result.finalStatus = .violation ∧
        (run c (es₁ ++ .pass p :: es₂)).monitor.result.syscall =
          some (Regs.toSyscall ⟨pid, user⟩ tag) ∧
        resumedBeforeReport pid (stopActs ++ later) = false) := by
  -- the state the stop is handled in
  have h₁ := run_inv c es₁
  have hk₀ : Keeps (run c es₁).monitor m₀ := by
    simpa [RequestOutcome, hreq] using loopRequests_outcome c p (run c es₁).monitor
  have hu₀ : m₀.result.finalStatus = .unset :=
    hk₀.result ▸ h₁.running.1 (by simp [hloop, Phase.running])
  have hs₀ : Sound c m₀ := hk₀.sound h₁.sound
  have hseccomp := stateProcessStopped_seccomp c p.replies hsec hsig hmsg pid
    (m₀.emit (.report pid status))
  have hhandler := stateProcessStopped_ok c p.replies pid status (m₀.emit (.report pid status))
  -- the pass that reports it
  have hpass : run c (es₁ ++ [.pass p]) =
      if (stateProcessStopped c p.replies pid status (m₀.emit (.report pid status))).result.finalStatus
        == .unset then ⟨stateProcessStopped c p.replies pid status (m₀.emit (.report pid status)), .loop⟩
      else leaveLoop c false (stateProcessStopped c p.replies pid status (m₀.emit (.report pid status))) := by
    rw [run, runFrom_append, runFrom_cons, runFrom_nil, ← run, step_pass_of_loop c hloop]
    simp [mainLoopPass, hreq, hwait, dispatchWait_stopped c p.replies hstop]
  obtain ⟨hdl, hdr, hdw⟩ := dumpRequestedStack_frame c pid (m₀.emit (.report pid status))
  rw [hseccomp] at hhandler hpass
  generalize dumpRequestedStack c pid (m₀.emit (.report pid status)) = md at hdl hdr hdw hhandler hpass
  have hud : md.result.finalStatus = .unset := by rw [hdr]; exact hu₀
  obtain ⟨hres, htrace, hviol⟩ := eventPtraceSeccomp_admission c p.replies pid tag hud
  generalize eventPtraceSeccomp c p.replies pid tag md = m₂ at hres htrace hviol hhandler hpass
  have hpre : m₂.log = m₀.log ++ .report pid status :: appended md m₂ := by
    rw [hhandler.log_eq, appended_of_log_eq hdl]; simp
  have hok : stopActsOk pid (appended md m₂) = true := by
    rw [← appended_of_log_eq hdl]; exact hhandler.2
  obtain ⟨⟨leave, hleave, hkill⟩, hres₂⟩ := passEnd_kills c m₂ false
  rw [← hpass] at hleave hres₂
  -- the later steps
  have h₂ := run_inv c (es₁ ++ [.pass p])
  obtain ⟨later, hlater, hans⟩ := runFrom_answers c h₂ es₂
  have hrun : run c (es₁ ++ .pass p :: es₂) = runFrom c (run c (es₁ ++ [.pass p])) es₂ := by
    rw [show es₁ ++ .pass p :: es₂ = es₁ ++ [.pass p] ++ es₂ by simp, run, runFrom_append]; rfl
  have hquiet : AnswersReports (leave ++ later) :=
    (answersReports_of_quiet fun a ha => by simp [hkill a ha, Action.resumed]).append hans
  have hrbr : resumedBeforeReport pid (appended md m₂ ++ leave ++ later) =
      (appended md m₂).any (·.resumed == some pid) := by
    rw [List.append_assoc, resumedBeforeReport_append,
      resumedBeforeReport_of_noReport pid (stopActsOk_noReport hok), hquiet pid]
    simp
  have hwfe : md.waitForExecve = true → m₀.execSeen = false := fun h =>
    hs₀.exec (by rw [hdw] at h; exact h)
  refine ⟨appended md m₂ ++ leave, later, by simp [hleave, hpre], ?_, fun h => ?_,
    fun sc hsc => ?_, fun user h1 h2 hf hna => ?_⟩
  · rw [hrun, hlater, hleave, hpre]; simp
  · rw [hrbr, List.any_eq_true] at h
    obtain ⟨a, ha, har⟩ := h
    obtain ⟨harch, user, hf, had⟩ :=
      hres (List.any_eq_true.2 ⟨a, ha, by simp at har; simp [har]⟩)
    exact ⟨harch, user, hf, ((admits_iff c _ md _).1 had).imp_left fun h => ⟨h.1, hwfe h.2⟩⟩
  · rcases List.mem_append.1 hsc with hsc | hsc
    · exact htrace sc hsc
    · exact absurd (hkill _ hsc) (by simp)
  · have hadm : tag = c.host.arch → admits c p.replies md user.nr = false := fun harch =>
      Bool.eq_false_iff.2 fun h =>
        hna ⟨harch, ((admits_iff c _ md _).1 h).imp_left fun h => ⟨h.1, hwfe h.2⟩⟩
    obtain ⟨hst, hsc, hnone⟩ := hviol user h1 h2 hf hadm
    have hstop₂ : (run c (es₁ ++ [.pass p])).phase.running = false := by
      simpa [hres₂, hst] using h₂.running
    rw [hrun, (runFrom_keeps_of_stopped c hstop₂ es₂).1.result, hres₂, hrbr]
    refine ⟨hst, hsc, ?_⟩
    simp only [resumesAny, List.any_eq_false, Option.isSome_iff_ne_none, not_not] at hnone
    simpa using fun a ha => by simp [hnone a ha]

/-- A pass that reports a seccomp stop of PID 100 for a syscall tagged x86-64. -/
def seccompStopPass : Pass :=
  .ofWait (.child 100 (stoppedStatus sigtrap ptraceEventSeccomp))
    { Replies.sample with eventMsg := .ok 1 }

theorem seccompStop_resumed_only_if_admitted_sample :
    (run Config.sample [.setup true true]).phase = .loop ∧
    ∃ stopActs later,
      (run Config.sample [.setup true true, .pass seccompStopPass]).monitor.log =
        (run Config.sample [.setup true true]).monitor.log ++
          .report 100 (stoppedStatus sigtrap ptraceEventSeccomp) :: stopActs ∧
      (resumedBeforeReport 100 (stopActs ++ later) = true → 1 = Config.sample.host.arch) := by
  obtain ⟨stopActs, later, hlog, -, hres, -⟩ := seccompStop_resumed_only_if_admitted Config.sample
    [.setup true true] [] seccompStopPass (run Config.sample [.setup true true]).monitor 100
    (stoppedStatus sigtrap ptraceEventSeccomp) 1 (by decide) rfl rfl (by decide) (by decide)
    (by decide) rfl
  exact ⟨by decide, stopActs, later, hlog, fun h => (hres h).1⟩

end Sandbox2
