import Sandbox2.Monitor.HandlerProps

/-!
# The state invariant of the handlers

`Sound` ties the `Result` to the log. The status is unset exactly when no status was written,
and a written status is the one recorded. A stack trace is kept only when the policy allows one
for the recorded status. Registers are recorded only by a `SetAdditionalResultInfo` for their
task, and until one is, the fields it writes keep their defaults. `wait_for_execve_` is set only
while no `PTRACE_EVENT_EXEC` has been handled.

A handler keeps `Sound` when it starts with the status unset, as every handler of the main
loop does. There is one lemma per primitive update and one per handler, and each handler's
proof follows its branches.
-/

namespace Sandbox2

/-- The state invariant. -/
structure Sound (c : Config) (m : Monitor) : Prop where
  unset_iff : m.result.finalStatus = .unset ↔ statusWrites m.log = 0
  written : ∀ st code, .setExitStatusCode st code ∈ m.log →
    m.result.finalStatus = st ∧ m.result.reasonCode = code
  stack : m.result.stackTrace ≠ [] → c.policy.shouldCollectStackTrace m.result.finalStatus = true
  regs : ∀ r, m.result.regs = some r → .setAdditionalResultInfo r.pid ∈ m.log
  fresh : m.result.regs = none → infoWrites m.log = 0 ∧ m.result.progName = "" ∧
    m.result.procMaps = "" ∧ m.result.stackTrace = []
  exec : m.waitForExecve = true → m.execSeen = false

theorem not_mem_of_statusWrites_eq_zero {log : List Action} (h : statusWrites log = 0)
    (st : FinalStatus) (code : ReasonCode) : .setExitStatusCode st code ∉ log := fun hm => by
  simpa [statusWrites, Action.isStatusWrite] using List.countP_eq_zero.1 h _ hm

/-- The monitor before `Run`'s first step. -/
theorem Sound.init (c : Config) : Sound c (Monitor.init c) where
  unset_iff := by simp [Monitor.init]
  written := by simp [Monitor.init]
  stack := by simp [Monitor.init]
  regs := by simp [Monitor.init]
  fresh := by simp [Monitor.init]
  exec := by simp [Monitor.init]

namespace Sound

variable {c : Config} {m : Monitor}

theorem emit (h : Sound c m) {a : Action} (ha : a.isStatusWrite = false)
    (hi : a.isInfoWrite = false) : Sound c (m.emit a) where
  unset_iff := by simpa [ha] using h.unset_iff
  written st code hm := by
    rcases List.mem_append.1 hm with hm | hm
    · exact h.written st code hm
    · rw [List.mem_singleton] at hm
      subst hm
      simp [Action.isStatusWrite] at ha
  stack := h.stack
  regs r hr := List.mem_append_left _ (h.regs r hr)
  fresh hr := by simpa [hi] using h.fresh hr
  exec := h.exec

theorem setExitStatusCode (h : Sound c m) (hu : m.result.finalStatus = .unset) {st : FinalStatus}
    (hst : st ≠ .unset) (code : ReasonCode) : Sound c (m.setExitStatusCode st code) where
  unset_iff := by simp [Result.setExitStatusCode_of_unset hu, hst, Action.isStatusWrite]
  written st' code' hm := by
    have hnot := not_mem_of_statusWrites_eq_zero (h.unset_iff.1 hu) st' code'
    simp only [Monitor.setExitStatusCode_log, List.mem_append, hnot, List.mem_singleton,
      Action.setExitStatusCode.injEq, false_or] at hm
    simp [Result.setExitStatusCode_of_unset hu, hm]
  stack hs := absurd (h.stack (by simpa using hs)) (by simp [hu])
  regs r hr := List.mem_append_left _ (h.regs r (by simpa using hr))
  fresh hr := by
    simp only [Monitor.setExitStatusCode_result, Result.setExitStatusCode_of_unset hu] at hr ⊢
    simpa [Action.isInfoWrite] using h.fresh hr
  exec := h.exec

theorem setAdditionalResultInfo (h : Sound c m) (o : Replies) (regs : Regs) :
    Sound c (setAdditionalResultInfo c o regs m) where
  unset_iff := by simpa [Action.isStatusWrite] using h.unset_iff
  written st code hm := by
    simp only [setAdditionalResultInfo_log, List.mem_append, List.mem_singleton,
      reduceCtorEq, or_false] at hm
    simpa using h.written st code hm
  stack hs := by
    rw [setAdditionalResultInfo_stackTrace] at hs
    rw [setAdditionalResultInfo_finalStatus]
    split at hs
    · assumption
    · exact h.stack hs
  regs r hr := by simp_all
  fresh hr := by simp at hr
  exec := h.exec

theorem eraseInProgress (h : Sound c m) (pid : Pid) : Sound c (m.eraseInProgress pid) :=
  ⟨h.1, h.2, h.3, h.4, h.5, h.6⟩

theorem withSyscallsInProgress (h : Sound c m) (f : Pid → Option Syscall) :
    Sound c { m with syscallsInProgress := f } :=
  ⟨h.1, h.2, h.3, h.4, h.5, h.6⟩

theorem withSyscall (h : Sound c m) (sc : Option Syscall) :
    Sound c { m with result := { m.result with syscall := sc } } :=
  ⟨h.1, h.2, h.3, h.4, h.5, h.6⟩

theorem withNetworkViolation (h : Sound c m) (msg : String) :
    Sound c { m with result := { m.result with networkViolation := msg } } :=
  ⟨h.1, h.2, h.3, h.4, h.5, h.6⟩

end Sound

variable {c : Config} (o : Replies) {m : Monitor}

theorem actionProcessSyscallViolation_sound (h : Sound c m) (hu : m.result.finalStatus = .unset)
    (regs : Regs) (sc : Syscall) (v : ViolationType) :
    Sound c (actionProcessSyscallViolation c o regs sc v m) := by
  exact ((((h.emit (by rfl) (by rfl)).setExitStatusCode hu (by decide) _).withSyscall _
    ).setAdditionalResultInfo o regs).emit (by rfl) (by rfl)

theorem actionProcessSyscall_sound (h : Sound c m) (hu : m.result.finalStatus = .unset)
    (regs : Regs) (sc : Syscall) : Sound c (actionProcessSyscall c o regs sc m) := by
  unfold actionProcessSyscall
  have h₁ : Sound c (m.emit (.eventSyscallTrace sc)) := h.emit rfl rfl
  split
  · exact h.emit rfl rfl
  split
  · exact h₁.emit rfl rfl
  · exact (h₁.withSyscallsInProgress _).emit (by rfl) (by rfl)
  split
  · exact h₁.emit rfl rfl
  split
  · exact h₁.emit rfl rfl
  · exact actionProcessSyscallViolation_sound o h₁ hu regs sc _

theorem eventPtraceSeccomp_sound (h : Sound c m) (hu : m.result.finalStatus = .unset)
    (pid : Pid) (eventMsg : Int) : Sound c (eventPtraceSeccomp c o pid eventMsg m) := by
  unfold eventPtraceSeccomp
  dsimp only
  split
  · exact h
  split
  · exact h
  · exact h.setExitStatusCode hu (by decide) _
  split
  · exact actionProcessSyscallViolation_sound o h hu _ _ _
  · exact actionProcessSyscall_sound o h hu _ _

theorem eventSyscallExit_sound (h : Sound c m) (hu : m.result.finalStatus = .unset) (pid : Pid) :
    Sound c (eventSyscallExit o pid m) := by
  unfold eventSyscallExit
  split
  · exact h.setExitStatusCode hu (by decide) _
  split
  · exact h
  · exact h.setExitStatusCode hu (by decide) _
  · exact ((h.emit (by rfl) (by rfl)).eraseInProgress pid).emit (by rfl) (by rfl)

theorem eventPtraceNewProcess_sound (h : Sound c m) (hu : m.result.finalStatus = .unset)
    (pid : Pid) (eventMsg : Int) : Sound c (eventPtraceNewProcess c pid eventMsg m) := by
  unfold eventPtraceNewProcess
  split
  · exact h.emit rfl rfl
  split
  · exact h.setExitStatusCode hu (by decide) _
  · exact ((h.emit (by rfl) (by rfl)).eraseInProgress pid).emit (by rfl) (by rfl)

/-- `EventPtraceExec` records the exec and clears `wait_for_execve_` together. -/
theorem eventPtraceExec_sound (h : Sound c m) (hu : m.result.finalStatus = .unset) (pid : Pid) :
    Sound c (eventPtraceExec c pid m) := by
  unfold eventPtraceExec
  dsimp only
  have h₁ : Sound c { m with execSeen := true, waitForExecve := false } :=
    ⟨h.1, h.2, h.3, h.4, h.5, by simp⟩
  split
  · exact h₁.emit rfl rfl
  · next hact =>
    have h₂ : Sound c { m with execSeen := true } :=
      ⟨h.1, h.2, h.3, h.4, h.5, by simpa [Monitor.isActivelyMonitoring] using hact⟩
    split
    · exact h₂.emit rfl rfl
    split
    · exact h₂.setExitStatusCode hu (by decide) _
    · exact ((h₂.emit (by rfl) (by rfl)).eraseInProgress pid).emit (by rfl) (by rfl)

theorem attributeDeath_sound {fallback : Monitor → Monitor}
    (hfb : ∀ m, Sound c m → m.result.finalStatus = .unset → Sound c (fallback m))
    (h : Sound c m) (hu : m.result.finalStatus = .unset) : Sound c (attributeDeath o fallback m) := by
  unfold attributeDeath
  split
  · exact (h.setExitStatusCode hu (by decide) _).withNetworkViolation _
  split
  · exact h.setExitStatusCode hu (by decide) _
  split
  · exact h.setExitStatusCode hu (by decide) _
  · exact hfb m h hu

theorem recordExitOrSignal_sound (eventMsg : Int) (h : Sound c m)
    (hu : m.result.finalStatus = .unset) : Sound c (recordExitOrSignal eventMsg m) := by
  unfold recordExitOrSignal
  split
  · exact h.setExitStatusCode hu (by decide) _
  · exact h.setExitStatusCode hu (by decide) _

theorem eventPtraceExit_sound (h : Sound c m) (hu : m.result.finalStatus = .unset) (pid : Pid)
    (eventMsg : Int) : Sound c (eventPtraceExit c o pid eventMsg m) := by
  unfold eventPtraceExit
  dsimp only
  have h₀ := h.eraseInProgress pid
  split
  · exact h₀.emit rfl rfl
  split
  · split
    · exact h₀.setExitStatusCode hu (by decide) _
    split
    · exact actionProcessSyscallViolation_sound o h₀ hu _ _ _
    split
    · exact ((attributeDeath_sound o (fun _ => recordExitOrSignal_sound eventMsg) h₀
        hu).setAdditionalResultInfo o _).emit (by rfl) (by rfl)
    · exact h₀.emit rfl rfl
  · exact h₀.emit rfl rfl

theorem eventPtraceStop_sound (h : Sound c m) (pid : Pid) (stopsig : Int) :
    Sound c (eventPtraceStop pid stopsig m) := by
  unfold eventPtraceStop
  split
  · exact h.emit rfl rfl
  · exact h.emit rfl rfl

theorem dispatchPtraceEvent_sound (h : Sound c m) (hu : m.result.finalStatus = .unset) (pid : Pid)
    (status eventMsg : Int) : Sound c (dispatchPtraceEvent c o pid status eventMsg m) := by
  unfold dispatchPtraceEvent
  dsimp only
  split
  · exact eventSyscallExit_sound o h hu pid
  split
  · exact eventPtraceNewProcess_sound h hu pid eventMsg
  split
  · exact h.emit rfl rfl
  split
  · exact eventPtraceExec_sound h hu pid
  split
  · exact eventPtraceExit_sound o h hu pid eventMsg
  split
  · exact eventPtraceStop_sound h pid _
  split
  · exact eventPtraceSeccomp_sound o h hu pid eventMsg
  · exact h

/-- `StateProcessStopped` keeps `Sound` for every stop and every set of replies. -/
theorem stateProcessStopped_sound (h : Sound c m) (hu : m.result.finalStatus = .unset) (pid : Pid)
    (status : Int) : Sound c (stateProcessStopped c o pid status m) := by
  unfold stateProcessStopped
  dsimp only
  split
  · exact (h.emit (by rfl) (by rfl)).emit (by rfl) (by rfl)
  split
  · split
    · exact h
    · exact h.setExitStatusCode hu (by decide) _
  · have h₁ : Sound c (dumpRequestedStack c pid m) := by
      unfold dumpRequestedStack; split
      · exact ⟨h.1, h.2, h.3, h.4, h.5, h.6⟩
      · exact h
    have hu₁ : (dumpRequestedStack c pid m).result.finalStatus = .unset := by
      unfold dumpRequestedStack; split <;> exact hu
    exact dispatchPtraceEvent_sound o h₁ hu₁ pid status _

end Sandbox2
