import Sandbox2.Monitor.Handlers
import Sandbox2.Monitor.Log

/-!
# What a handler appends

Every handler of one stop only appends to the log, and what it appends passes `stopActsOk`: no
report, no resume of another task, at most one resume, at most one status write, and
`SetAdditionalResultInfo` only after a status write. The lemmas go bottom-up through the call
graph of `StateProcessStopped`, one per handler.
-/

namespace Sandbox2

/-- The actions `m'` appended to `m`'s log. -/
def appended (m m' : Monitor) : List Action := m'.log.drop m.log.length

/-- `m'` extends `m`'s log by actions a handler of a stop of `pid` may append. -/
def HandlerOk (pid : Pid) (m m' : Monitor) : Prop :=
  m.log <+: m'.log ∧ stopActsOk pid (appended m m') = true

/-- `HandlerOk`, every resume a plain one (`plainResumes`), and the task resumed or a status
    recorded unless `gone` holds. -/
def Handles (pid : Pid) (gone : Prop) (m m' : Monitor) : Prop :=
  HandlerOk pid m m' ∧ plainResumes pid (appended m m') = true ∧
    (answers (appended m m') = true ∨ gone)

theorem HandlerOk.of_log_eq {pid : Pid} {m₀ m m' : Monitor} (hl : m₀.log = m.log)
    (h : HandlerOk pid m₀ m') : HandlerOk pid m m' := by
  simpa [HandlerOk, appended, hl] using h

theorem HandlerOk.refl (pid : Pid) (m : Monitor) : HandlerOk pid m m :=
  ⟨List.prefix_refl _, by simp [appended, stopActsOk, infoAfterStatus]⟩

theorem Handles.refl (pid : Pid) {gone : Prop} (hg : gone) (m : Monitor) : Handles pid gone m m :=
  ⟨.refl pid m, by simp [appended, plainResumes], .inr hg⟩

theorem Handles.mono {pid : Pid} {g g' : Prop} {m m' : Monitor} (h : Handles pid g m m')
    (hg : g → g') : Handles pid g' m m' :=
  ⟨h.1, h.2.1, h.2.2.imp id hg⟩

theorem Handles.of_log_eq {pid : Pid} {g : Prop} {m₀ m m' : Monitor} (hl : m₀.log = m.log)
    (h : Handles pid g m₀ m') : Handles pid g m m' := by
  simpa [Handles, HandlerOk, appended, hl] using h

/-- A quiet action in front of what a handler appends changes nothing `Handles` checks. -/
theorem Handles.of_emit {pid : Pid} {g : Prop} {m m' : Monitor} {a : Action} (ha : a.quiet)
    (h : Handles pid g (m.emit a) m') : Handles pid g m m' := by
  obtain ⟨⟨⟨rest, hrest⟩, hok⟩, hplain, hans⟩ := h
  have hlog : m'.log = m.log ++ a :: rest := by simpa using hrest.symm
  have hdrop : appended (m.emit a) m' = rest := by simp [appended, hlog]
  have hdrop' : appended m m' = a :: rest := by simp [appended, hlog]
  rw [hdrop] at hok hplain hans
  refine ⟨⟨⟨a :: rest, hlog.symm⟩, ?_⟩, ?_, ?_⟩ <;> rw [hdrop']
  · rwa [stopActsOk_cons_of_quiet ha]
  · rwa [plainResumes_cons_of_quiet ha]
  · rwa [answers_cons_of_quiet ha]

/-- A handler that appends `acts` handles the stop as `acts` do. -/
theorem Handles.of_log {pid : Pid} {g : Prop} {m m' : Monitor} {acts : List Action}
    (hlog : m'.log = m.log ++ acts) (hok : stopActsOk pid acts = true)
    (hplain : plainResumes pid acts = true) (hans : answers acts = true ∨ g) :
    Handles pid g m m' := by
  have happ : appended m m' = acts := by simp [appended, hlog]
  exact ⟨⟨⟨acts, hlog.symm⟩, happ ▸ hok⟩, happ ▸ hplain, happ ▸ hans⟩

theorem continueProcess_handles {g : Prop} (pid : Pid) (m : Monitor) :
    Handles pid g m (continueProcess pid 0 m) :=
  .of_log rfl (by simp [stopActsOk, infoAfterStatus, Action.reported, Action.resumed,
    Action.isStatusWrite, Action.isInfoWrite]) (by simp [plainResumes])
    (.inl (by simp [answers, Action.resumed]))

theorem completeSyscall_handles {g : Prop} (pid : Pid) (m : Monitor) :
    Handles pid g m (completeSyscall pid 0 m) :=
  .of_log rfl (by simp [stopActsOk, infoAfterStatus, Action.reported, Action.resumed,
    Action.isStatusWrite, Action.isInfoWrite]) (by simp [plainResumes])
    (.inl (by simp [answers, Action.resumed]))

theorem setExitStatusCode_handles {g : Prop} (pid : Pid) (m : Monitor) (st : FinalStatus)
    (code : ReasonCode) : Handles pid g m (m.setExitStatusCode st code) :=
  .of_log rfl (by simp [stopActsOk, infoAfterStatus, Action.reported, Action.resumed,
    Action.isStatusWrite]) (by simp [plainResumes, Action.resumed])
    (.inl (by simp [answers, Action.isStatusWrite]))

/-- The end of `EventSyscallExit`, `EventPtraceNewProcess` and `EventPtraceExec`: the syscall's
    return passed to `Notify`, its entry erased, and the task continued. -/
theorem continueAfterReturn_handles {g : Prop} (pid : Pid) (sc : Syscall) (ret : Int)
    (m : Monitor) : Handles pid g m
      (continueProcess pid 0 ((m.emit (.eventSyscallReturn sc ret)).eraseInProgress pid)) :=
  ((continueProcess_handles pid _).of_log_eq rfl).of_emit
    (by simp [Action.quiet, Action.reported, Action.resumed, Action.isStatusWrite,
      Action.isInfoWrite])

variable (c : Config) (o : Replies)

@[simp] theorem setAdditionalResultInfo_log (regs : Regs) (m : Monitor) :
    (setAdditionalResultInfo c o regs m).log = m.log ++ [.setAdditionalResultInfo regs.pid] := rfl

@[simp] theorem setAdditionalResultInfo_waitForExecve (regs : Regs) (m : Monitor) :
    (setAdditionalResultInfo c o regs m).waitForExecve = m.waitForExecve := rfl

@[simp] theorem setAdditionalResultInfo_execSeen (regs : Regs) (m : Monitor) :
    (setAdditionalResultInfo c o regs m).execSeen = m.execSeen := rfl

@[simp] theorem setAdditionalResultInfo_finalStatus (regs : Regs) (m : Monitor) :
    (setAdditionalResultInfo c o regs m).result.finalStatus = m.result.finalStatus := rfl

@[simp] theorem setAdditionalResultInfo_reasonCode (regs : Regs) (m : Monitor) :
    (setAdditionalResultInfo c o regs m).result.reasonCode = m.result.reasonCode := rfl

@[simp] theorem setAdditionalResultInfo_syscall (regs : Regs) (m : Monitor) :
    (setAdditionalResultInfo c o regs m).result.syscall = m.result.syscall := rfl

@[simp] theorem setAdditionalResultInfo_regs (regs : Regs) (m : Monitor) :
    (setAdditionalResultInfo c o regs m).result.regs = some regs := rfl

theorem setAdditionalResultInfo_stackTrace (regs : Regs) (m : Monitor) :
    (setAdditionalResultInfo c o regs m).result.stackTrace =
      if c.policy.shouldCollectStackTrace m.result.finalStatus then
        o.stackTrace.getD m.result.stackTrace
      else m.result.stackTrace := rfl

theorem actionProcessSyscallViolation_handles (regs : Regs) (sc : Syscall) (v : ViolationType)
    (m : Monitor) : Handles regs.pid False m (actionProcessSyscallViolation c o regs sc v m) := by
  simp [Handles, HandlerOk, appended, actionProcessSyscallViolation, stopActsOk, infoAfterStatus,
    plainResumes, answers, Action.reported, Action.resumed, Action.isStatusWrite,
    Action.isInfoWrite]

theorem actionProcessSyscall_handles (regs : Regs) (sc : Syscall) (m : Monitor) :
    Handles regs.pid False m (actionProcessSyscall c o regs sc m) := by
  unfold actionProcessSyscall
  split
  · exact continueProcess_handles _ _
  · refine Handles.of_emit (a := .eventSyscallTrace sc) (by simp [Action.quiet, Action.reported,
      Action.resumed, Action.isStatusWrite, Action.isInfoWrite]) ?_
    split
    · exact continueProcess_handles _ _
    · exact (completeSyscall_handles _ _).of_log_eq rfl
    · split
      · exact continueProcess_handles _ _
      · split
        · exact continueProcess_handles _ _
        · exact actionProcessSyscallViolation_handles c o regs sc _ _

/-- `EventPtraceSeccomp` answers its stop unless the registers are gone or the event message is
    outside the architectures' range. -/
theorem eventPtraceSeccomp_handles (pid : Pid) (eventMsg : Int) (m : Monitor) :
    Handles pid (o.fetch = .error .notFound ∨ eventMsg < c.host.kUnknown ∨ c.host.kMax < eventMsg)
      m (eventPtraceSeccomp c o pid eventMsg m) := by
  unfold eventPtraceSeccomp
  dsimp only
  split
  · next h => exact .refl pid (.inr (by simpa using h)) m
  · split
    · next h => exact .refl pid (.inl h) m
    · exact setExitStatusCode_handles _ _ _ _
    · split
      · exact (actionProcessSyscallViolation_handles c o ⟨pid, _⟩ _ _ m).mono False.elim
      · exact (actionProcessSyscall_handles c o ⟨pid, _⟩ _ m).mono False.elim

theorem eventSyscallExit_handles (pid : Pid) (m : Monitor) :
    Handles pid (o.fetch = .error .notFound) m (eventSyscallExit o pid m) := by
  unfold eventSyscallExit
  split
  · exact setExitStatusCode_handles _ _ _ _
  · split
    · next h => exact .refl pid h m
    · exact setExitStatusCode_handles _ _ _ _
    · exact continueAfterReturn_handles _ _ _ _

theorem eventPtraceNewProcess_handles (pid : Pid) (eventMsg : Int) (m : Monitor) :
    Handles pid False m (eventPtraceNewProcess c pid eventMsg m) := by
  unfold eventPtraceNewProcess
  split
  · exact continueProcess_handles _ _
  · split
    · exact setExitStatusCode_handles _ _ _ _
    · exact continueAfterReturn_handles _ _ _ _

theorem eventPtraceExec_handles (pid : Pid) (m : Monitor) :
    Handles pid False m (eventPtraceExec c pid m) := by
  unfold eventPtraceExec
  dsimp only
  split
  · exact (continueProcess_handles _ _).of_log_eq rfl
  · split
    · exact (continueProcess_handles _ _).of_log_eq rfl
    · split
      · exact (setExitStatusCode_handles _ _ _ _).of_log_eq rfl
      · exact (continueAfterReturn_handles _ _ _ _).of_log_eq rfl

/-- Whatever branch it takes, `attributeDeath` writes the status exactly once, if `fallback`
    does. -/
theorem attributeDeath_log {fallback : Monitor → Monitor}
    (hfb : ∀ m, ∃ st code, (fallback m).log = m.log ++ [.setExitStatusCode st code])
    (m : Monitor) :
    ∃ st code, (attributeDeath o fallback m).log = m.log ++ [.setExitStatusCode st code] := by
  unfold attributeDeath
  split
  · exact ⟨_, _, rfl⟩
  · split
    · exact ⟨_, _, rfl⟩
    · split
      · exact ⟨_, _, rfl⟩
      · exact hfb m

theorem recordExitOrSignal_log (eventMsg : Int) (m : Monitor) :
    ∃ st code, (recordExitOrSignal eventMsg m).log = m.log ++ [.setExitStatusCode st code] := by
  unfold recordExitOrSignal
  split
  · exact ⟨_, _, rfl⟩
  · exact ⟨_, _, rfl⟩

theorem eventPtraceExit_handles (pid : Pid) (eventMsg : Int) (m : Monitor) :
    Handles pid False m (eventPtraceExit c o pid eventMsg m) := by
  have herase : (m.eraseInProgress pid).log = m.log := rfl
  unfold eventPtraceExit
  dsimp only
  split
  · exact (continueProcess_handles _ _).of_log_eq herase
  · split
    · split
      · exact (setExitStatusCode_handles _ _ _ _).of_log_eq herase
      · rename_i user _
        split
        · exact (actionProcessSyscallViolation_handles c o ⟨pid, user⟩ _ _ _).of_log_eq herase
        · split
          · obtain ⟨st, code, h⟩ := attributeDeath_log o (recordExitOrSignal_log eventMsg)
              (m.eraseInProgress pid)
            have hlog : (continueProcess pid 0 (setAdditionalResultInfo c o ⟨pid, user⟩
                (attributeDeath o (recordExitOrSignal eventMsg) (m.eraseInProgress pid)))).log =
                m.log ++ [.setExitStatusCode st code, .setAdditionalResultInfo pid,
                  .ptraceCont pid 0] := by simp [continueProcess, h, herase]
            refine .of_log hlog ?_ ?_ ?_ <;>
              simp [stopActsOk, infoAfterStatus, plainResumes, answers, Action.reported,
                Action.resumed, Action.isStatusWrite, Action.isInfoWrite]
          · exact (continueProcess_handles _ _).of_log_eq herase
    · exact (continueProcess_handles _ _).of_log_eq herase

theorem eventPtraceStop_ok (pid : Pid) (stopsig : Int) (m : Monitor) :
    HandlerOk pid m (eventPtraceStop pid stopsig m) := by
  unfold eventPtraceStop
  split <;> simp [HandlerOk, appended, continueProcess, stopProcess, stopActsOk, infoAfterStatus,
    Action.reported, Action.resumed, Action.isStatusWrite, Action.isInfoWrite]

theorem dispatchPtraceEvent_ok (pid : Pid) (status eventMsg : Int) (m : Monitor) :
    HandlerOk pid m (dispatchPtraceEvent c o pid status eventMsg m) := by
  unfold dispatchPtraceEvent
  dsimp only
  by_cases hexit : (wStopSig status == syscallExitSig) = true
  · rw [if_pos hexit]; exact (eventSyscallExit_handles o pid m).1
  rw [if_neg hexit]
  by_cases hnew : (wPtraceEvent status == ptraceEventFork || wPtraceEvent status == ptraceEventVfork ||
      wPtraceEvent status == ptraceEventClone) = true
  · rw [if_pos hnew]; exact (eventPtraceNewProcess_handles c pid eventMsg m).1
  rw [if_neg hnew]
  by_cases hdone : (wPtraceEvent status == ptraceEventVforkDone) = true
  · rw [if_pos hdone]; exact (continueProcess_handles (g := False) pid m).1
  rw [if_neg hdone]
  by_cases hexec : (wPtraceEvent status == ptraceEventExec) = true
  · rw [if_pos hexec]; exact (eventPtraceExec_handles c pid m).1
  rw [if_neg hexec]
  by_cases hquit : (wPtraceEvent status == ptraceEventExit) = true
  · rw [if_pos hquit]; exact (eventPtraceExit_handles c o pid eventMsg m).1
  rw [if_neg hquit]
  by_cases hstop : (wPtraceEvent status == ptraceEventStop) = true
  · rw [if_pos hstop]; exact eventPtraceStop_ok pid _ m
  rw [if_neg hstop]
  by_cases hsec : (wPtraceEvent status == ptraceEventSeccomp) = true
  · rw [if_pos hsec]; exact (eventPtraceSeccomp_handles c o pid eventMsg m).1
  · rw [if_neg hsec]; exact .refl pid m

/-- `StateProcessStopped` appends only what `stopActsOk` allows, for every stop and every set of
    replies. -/
theorem stateProcessStopped_ok (pid : Pid) (status : Int) (m : Monitor) :
    HandlerOk pid m (stateProcessStopped c o pid status m) := by
  unfold stateProcessStopped
  dsimp only
  split
  · simp [HandlerOk, appended, continueProcess, stopActsOk, infoAfterStatus, Action.reported,
      Action.resumed, Action.isStatusWrite, Action.isInfoWrite]
  · split
    · split
      · exact .refl pid m
      · exact (setExitStatusCode_handles (g := False) _ _ _ _).1
    · refine HandlerOk.of_log_eq ?_ (dispatchPtraceEvent_ok c o pid status _ _)
      unfold dumpRequestedStack
      split <;> rfl

end Sandbox2
