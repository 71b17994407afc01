import Sandbox2.Monitor.HandlerProps

/-!
# What a handler records, and what it does after

The handler of one stop writes at most one status (`stopActsOk`). This module says why it may
write the one it writes, and what it may still do once it has. `StopCause` names, for each final
status, what the handler must have seen: an internal error needs nothing; a `VIOLATION` with a
syscall number comes right after `Notify::EventSyscallViolation` of that syscall, and the
`Result` records that syscall; `OK`, `SIGNALED`, `TIMEOUT`, `EXTERNAL_KILL` and
`VIOLATION_NETWORK` come only from the main PID's exit stop, the last three only with their flag
set (`monitor_ptrace.cc:842-853`). After the write, the handler records the additional result
information, skips the syscall's return, and, only at an exit stop, continues the task with no
signal (`tailOk`). No handler changes the flags of the main loop's requests.

The lemmas go bottom-up through the call graph of `StateProcessStopped`, as in `HandlerProps`.
-/

namespace Sandbox2

/-- The flags the requests of the main loop set: `timed_out_`, `external_kill_` and
    `network_violation_`. -/
def Monitor.flags (m : Monitor) : Bool × Bool × Bool := (m.timedOut, m.externalKill, m.networkViolation)

@[simp] theorem Monitor.flags_emit (m : Monitor) (a : Action) : (m.emit a).flags = m.flags := rfl

@[simp] theorem Monitor.flags_setExitStatusCode (m : Monitor) (st : FinalStatus)
    (code : ReasonCode) : (m.setExitStatusCode st code).flags = m.flags := rfl

/-- What may follow the status write in the handling of a stop of `pid`: the additional result
    information and the skip of the syscall's return for `pid`, and, at an exit stop, a
    `PTRACE_CONT` of `pid` with no signal. -/
def tailOk (pid : Pid) (atExit : Bool) : Action → Bool
  | .setAdditionalResultInfo q | .skipSyscallReturnValue q => q == pid
  | .ptraceCont q sig => atExit && q == pid && sig == 0
  | _ => false

/-- Why the handler of a stop of `pid` may record `(st, code)`, with `before` the actions it
    appended before the write and `m` the monitor it leaves. -/
def StopCause (c : Config) (pid : Pid) (atExit : Bool) (before : List Action) (m : Monitor) :
    FinalStatus → ReasonCode → Prop
  | .internalError, _ => True
  | .violation, code =>
    (∃ pre sc v, before = pre ++ [.eventSyscallViolation sc v] ∧ code = .code sc.nr ∧
      m.result.syscall = some sc) ∨
    (pid = c.mainPid ∧ atExit = true ∧ code = .violationNetwork ∧ m.networkViolation = true)
  | .ok, _ | .signaled, _ => pid = c.mainPid ∧ atExit = true
  | .timeout, _ => pid = c.mainPid ∧ atExit = true ∧ m.timedOut = true
  | .externalKill, _ => pid = c.mainPid ∧ atExit = true ∧ m.externalKill = true
  | .unset, _ | .setupError, _ => False

/-- A cause stays a cause with actions in front of the ones before the write. -/
theorem StopCause.cons {c : Config} {pid : Pid} {atExit : Bool} {before : List Action}
    {m : Monitor} {st : FinalStatus} {code : ReasonCode} (a : Action)
    (h : StopCause c pid atExit before m st code) : StopCause c pid atExit (a :: before) m st code := by
  cases st with
  | violation =>
    refine h.imp (fun ⟨pre, sc, v, hb, hc⟩ => ⟨a :: pre, sc, v, by rw [hb]; rfl, hc⟩) id
  | _ => exact h

/-- The handler of a stop of `pid` took `m` to `m'`: it kept the flags, and the actions it
    appended write no status, or write one for a cause `StopCause` names, followed only by
    actions `tailOk` allows. -/
structure StopVerdict (c : Config) (pid : Pid) (atExit : Bool) (m m' : Monitor) : Prop where
  flags : m'.flags = m.flags
  acts : ∃ acts, m'.log = m.log ++ acts ∧ (statusWrites acts = 0 ∨
    ∃ before st code after, acts = before ++ .setExitStatusCode st code :: after ∧
      StopCause c pid atExit before m' st code ∧ after.all (tailOk pid atExit) = true)

namespace StopVerdict

variable {c : Config} {pid : Pid} {atExit : Bool} {m m₀ m' : Monitor}

theorem of_quiet (hf : m'.flags = m.flags) (acts : List Action) (hl : m'.log = m.log ++ acts)
    (hw : statusWrites acts = 0) : StopVerdict c pid atExit m m' :=
  ⟨hf, acts, hl, .inl hw⟩

theorem refl (m : Monitor) : StopVerdict c pid atExit m m :=
  .of_quiet rfl [] (List.append_nil _).symm rfl

/-- A handler that only writes an internal error. -/
theorem internalError (code : ReasonCode) :
    StopVerdict c pid atExit m (m.setExitStatusCode .internalError code) :=
  ⟨rfl, _, rfl, .inr ⟨[], _, _, [], rfl, trivial, rfl⟩⟩

/-- An action other than a status write in front of what a handler appends. -/
theorem of_emit {a : Action} (ha : a.isStatusWrite = false) (h : StopVerdict c pid atExit (m.emit a) m') :
    StopVerdict c pid atExit m m' := by
  obtain ⟨hf, acts, hl, hacts⟩ := h
  refine ⟨hf, a :: acts, by simpa using hl, ?_⟩
  rcases hacts with hw | ⟨before, st, code, after, rfl, hc, ht⟩
  · exact .inl (by simp [hw, ha])
  · exact .inr ⟨a :: before, st, code, after, rfl, hc.cons a, ht⟩

theorem of_log_eq (hl : m₀.log = m.log) (hf : m₀.flags = m.flags)
    (h : StopVerdict c pid atExit m₀ m') : StopVerdict c pid atExit m m' := by
  obtain ⟨hf', acts, hl', hacts⟩ := h
  exact ⟨hf'.trans hf, acts, by rw [hl', hl], hacts⟩

end StopVerdict

theorem continueProcess_verdict {c : Config} {atExit : Bool} (pid : Pid) (m : Monitor) :
    StopVerdict c pid atExit m (continueProcess pid 0 m) := .of_quiet rfl _ rfl rfl

variable (c : Config) (o : Replies)

theorem actionProcessSyscallViolation_verdict {atExit : Bool} (regs : Regs) (sc : Syscall)
    (v : ViolationType) (m : Monitor) :
    StopVerdict c regs.pid atExit m (actionProcessSyscallViolation c o regs sc v m) :=
  ⟨rfl, [.eventSyscallViolation sc v, .setExitStatusCode .violation (.code sc.nr),
      .setAdditionalResultInfo regs.pid, .skipSyscallReturnValue regs.pid],
    by simp [actionProcessSyscallViolation], .inr ⟨[.eventSyscallViolation sc v], .violation,
      .code sc.nr, _, rfl, Or.inl ⟨[], sc, v, rfl, rfl, rfl⟩, by simp [tailOk]⟩⟩

theorem actionProcessSyscall_verdict {atExit : Bool} (regs : Regs) (sc : Syscall) (m : Monitor) :
    StopVerdict c regs.pid atExit m (actionProcessSyscall c o regs sc m) := by
  unfold actionProcessSyscall
  split
  · exact continueProcess_verdict _ _
  · refine StopVerdict.of_emit (a := .eventSyscallTrace sc) rfl ?_
    split
    · exact continueProcess_verdict _ _
    · exact .of_quiet rfl _ rfl rfl
    · split
      · exact continueProcess_verdict _ _
      · split
        · exact continueProcess_verdict _ _
        · exact actionProcessSyscallViolation_verdict c o regs sc _ _

theorem eventPtraceSeccomp_verdict {atExit : Bool} (pid : Pid) (eventMsg : Int) (m : Monitor) :
    StopVerdict c pid atExit m (eventPtraceSeccomp c o pid eventMsg m) := by
  unfold eventPtraceSeccomp
  dsimp only
  split
  · exact .refl m
  · split
    · exact .refl m
    · exact .internalError _
    · split
      · exact actionProcessSyscallViolation_verdict c o ⟨pid, _⟩ _ _ m
      · exact actionProcessSyscall_verdict c o ⟨pid, _⟩ _ m

/-- The end of `EventSyscallExit`, `EventPtraceNewProcess` and `EventPtraceExec`. -/
theorem continueAfterReturn_verdict {atExit : Bool} (pid : Pid) (sc : Syscall) (ret : Int)
    (m : Monitor) : StopVerdict c pid atExit m
      (continueProcess pid 0 ((m.emit (.eventSyscallReturn sc ret)).eraseInProgress pid)) :=
  .of_quiet rfl [.eventSyscallReturn sc ret, .ptraceCont pid 0] (by simp [continueProcess])
    (by simp [Action.isStatusWrite])

theorem eventSyscallExit_verdict {atExit : Bool} (pid : Pid) (m : Monitor) :
    StopVerdict c pid atExit m (eventSyscallExit o pid m) := by
  unfold eventSyscallExit
  split
  · exact .internalError _
  · split
    · exact .refl m
    · exact .internalError _
    · exact continueAfterReturn_verdict c _ _ _ _

theorem eventPtraceNewProcess_verdict {atExit : Bool} (pid : Pid) (eventMsg : Int) (m : Monitor) :
    StopVerdict c pid atExit m (eventPtraceNewProcess c pid eventMsg m) := by
  unfold eventPtraceNewProcess
  split
  · exact continueProcess_verdict _ _
  · split
    · exact .internalError _
    · exact continueAfterReturn_verdict c _ _ _ _

theorem eventPtraceExec_verdict {atExit : Bool} (pid : Pid) (m : Monitor) :
    StopVerdict c pid atExit m (eventPtraceExec c pid m) := by
  unfold eventPtraceExec
  dsimp only
  split
  · refine .of_log_eq ?_ ?_ (continueProcess_verdict _ _) <;> rfl
  · split
    · refine .of_log_eq ?_ ?_ (continueProcess_verdict _ _) <;> rfl
    · split
      · refine .of_log_eq ?_ ?_ (.internalError _) <;> rfl
      · refine .of_log_eq ?_ ?_ (continueAfterReturn_verdict c _ _ _ _) <;> rfl

/-- The status `attributeDeath` writes: the flags' statuses, each with its flag set, or what
    `fallback` writes. -/
theorem attributeDeath_verdict (fallback : Monitor → Monitor) {P : FinalStatus → Prop}
    {m : Monitor} (hfb : ∃ st code, (fallback m).log = m.log ++ [.setExitStatusCode st code] ∧
      (fallback m).flags = m.flags ∧ P st) :
    ∃ st code, (attributeDeath o fallback m).log = m.log ++ [.setExitStatusCode st code] ∧
      (attributeDeath o fallback m).flags = m.flags ∧
      ((st = .violation ∧ code = .violationNetwork ∧ m.networkViolation = true) ∨
        (st = .externalKill ∧ m.externalKill = true) ∨ (st = .timeout ∧ m.timedOut = true) ∨
        P st) := by
  unfold attributeDeath
  split
  · exact ⟨_, _, rfl, rfl, .inl ⟨rfl, rfl, ‹_›⟩⟩
  split
  · exact ⟨_, _, rfl, rfl, .inr (.inl ⟨rfl, ‹_›⟩)⟩
  split
  · exact ⟨_, _, rfl, rfl, .inr (.inr (.inl ⟨rfl, ‹_›⟩))⟩
  · obtain ⟨st, code, hl, hf, hp⟩ := hfb
    exact ⟨st, code, hl, hf, .inr (.inr (.inr hp))⟩

theorem recordExitOrSignal_verdict (eventMsg : Int) (m : Monitor) :
    ∃ st code, (recordExitOrSignal eventMsg m).log = m.log ++ [.setExitStatusCode st code] ∧
      (recordExitOrSignal eventMsg m).flags = m.flags ∧ (st = .ok ∨ st = .signaled) := by
  unfold recordExitOrSignal
  split
  · exact ⟨_, _, rfl, rfl, .inl rfl⟩
  · exact ⟨_, _, rfl, rfl, .inr rfl⟩

/-- `EventPtraceExit` (`monitor_ptrace.cc:800-868`) at an exit stop: the main PID's death
    statuses, a `SIGSYS` violation, or a failed fetch, and a `PTRACE_CONT` only after the first. -/
theorem eventPtraceExit_verdict (pid : Pid) (eventMsg : Int) (m : Monitor) :
    StopVerdict c pid true m (eventPtraceExit c o pid eventMsg m) := by
  have herase : (m.eraseInProgress pid).log = m.log := rfl
  unfold eventPtraceExit
  dsimp only
  split
  · exact (continueProcess_verdict _ _).of_log_eq herase rfl
  · split
    · split
      · exact (StopVerdict.internalError _).of_log_eq herase rfl
      · rename_i user _
        split
        · exact (actionProcessSyscallViolation_verdict c o ⟨pid, user⟩ _ _ _).of_log_eq herase rfl
        · split
          · next hmain =>
            obtain ⟨st, code, hl, hf, hst⟩ :=
              attributeDeath_verdict o _ (recordExitOrSignal_verdict eventMsg (m.eraseInProgress pid))
            have hpid : pid = c.mainPid := by simpa using hmain
            refine ⟨hf, _, by simp [continueProcess, hl, herase], .inr ⟨[], st, code,
              [.setAdditionalResultInfo pid, .ptraceCont pid 0], rfl, ?_, by simp [tailOk]⟩⟩
            have hf' : (continueProcess pid 0 (setAdditionalResultInfo c o ⟨pid, user⟩
                (attributeDeath o (recordExitOrSignal eventMsg) (m.eraseInProgress pid)))).flags =
                m.flags := hf
            simp only [Monitor.flags, Prod.mk.injEq] at hf'
            obtain ⟨ht, hk, hn⟩ := hf'
            rcases hst with ⟨rfl, rfl, h⟩ | ⟨rfl, h⟩ | ⟨rfl, h⟩ | rfl | rfl
            · exact .inr ⟨hpid, rfl, rfl, hn.trans h⟩
            · exact ⟨hpid, rfl, hk.trans h⟩
            · exact ⟨hpid, rfl, ht.trans h⟩
            · exact ⟨hpid, rfl⟩
            · exact ⟨hpid, rfl⟩
          · exact (continueProcess_verdict _ _).of_log_eq herase rfl
    · exact (continueProcess_verdict _ _).of_log_eq herase rfl

theorem eventPtraceStop_verdict {atExit : Bool} (pid : Pid) (stopsig : Int) (m : Monitor) :
    StopVerdict c pid atExit m (eventPtraceStop pid stopsig m) := by
  unfold eventPtraceStop
  split
  · exact continueProcess_verdict _ _
  · exact .of_quiet rfl _ rfl rfl

/-- The dispatch of a stop by its kind: only the exit stop may continue the task after a status. -/
theorem dispatchPtraceEvent_verdict (pid : Pid) (status eventMsg : Int) (m : Monitor) :
    StopVerdict c pid (wPtraceEvent status == ptraceEventExit) m
      (dispatchPtraceEvent c o pid status eventMsg m) := by
  unfold dispatchPtraceEvent
  dsimp only
  by_cases hexit : (wStopSig status == syscallExitSig) = true
  · rw [if_pos hexit]; exact eventSyscallExit_verdict c o pid m
  rw [if_neg hexit]
  by_cases hnew : (wPtraceEvent status == ptraceEventFork || wPtraceEvent status == ptraceEventVfork ||
      wPtraceEvent status == ptraceEventClone) = true
  · rw [if_pos hnew]; exact eventPtraceNewProcess_verdict c pid eventMsg m
  rw [if_neg hnew]
  by_cases hdone : (wPtraceEvent status == ptraceEventVforkDone) = true
  · rw [if_pos hdone]; exact continueProcess_verdict pid m
  rw [if_neg hdone]
  by_cases hexec : (wPtraceEvent status == ptraceEventExec) = true
  · rw [if_pos hexec]; exact eventPtraceExec_verdict c pid m
  rw [if_neg hexec]
  by_cases hquit : (wPtraceEvent status == ptraceEventExit) = true
  · rw [if_pos hquit, hquit]; exact eventPtraceExit_verdict c o pid eventMsg m
  rw [if_neg hquit]
  by_cases hstop : (wPtraceEvent status == ptraceEventStop) = true
  · rw [if_pos hstop]; exact eventPtraceStop_verdict c pid _ m
  rw [if_neg hstop]
  by_cases hsec : (wPtraceEvent status == ptraceEventSeccomp) = true
  · rw [if_pos hsec]; exact eventPtraceSeccomp_verdict c o pid eventMsg m
  · rw [if_neg hsec]; exact .refl m

/-- `StateProcessStopped` keeps the flags, writes a status only for a cause `StopCause` names,
    and after it continues the task only at its exit stop, for every stop and every set of
    replies. -/
theorem stateProcessStopped_verdict (pid : Pid) (status : Int) (m : Monitor) :
    StopVerdict c pid (wPtraceEvent status == ptraceEventExit) m
      (stateProcessStopped c o pid status m) := by
  unfold stateProcessStopped
  dsimp only
  split
  · exact .of_quiet rfl [.eventSignal pid (wStopSig status), .ptraceCont pid (wStopSig status)]
      (by simp [continueProcess]) (by simp [Action.isStatusWrite])
  · split
    · split
      · exact .refl m
      · exact .internalError _
    · refine (dispatchPtraceEvent_verdict c o pid status _ _).of_log_eq ?_ ?_ <;>
        unfold dumpRequestedStack <;> split <;> rfl

end Sandbox2
