import Sandbox2.Monitor.Tracees
import Sandbox2.Monitor.Seccomp

/-!
# When the inspections stay exact

`syscalls_in_progress_` holds the syscalls `Notify::EventSyscallTrace` asked to inspect after
their return (`monitor_ptrace.cc:637-644`). `EventSyscallExit`, `EventPtraceNewProcess` and
`EventPtraceExec` pass an entry to `Notify::EventSyscallReturn` and erase it, and
`EventPtraceExit` erases the entry of a task that exits. The two runs of `Tracees.lean` lose an
inspection through an exec: one made before sandboxing is active, or one made by a thread that is
not its group's leader. Without these, the table is exact in every run that the kernel's rules
allow, for any number of tracees. A task has an entry only while it is in the syscall of that
entry, resumed with `PTRACE_SYSCALL`, or while the monitor leaves it stopped. So a seccomp stop
never finds an entry to overwrite, and an entry leaves the table only through
`EventSyscallReturn` or at its task's exit stop.
-/

namespace Sandbox2

variable (c : Config) (o : Replies)

/-! ## What each handler does to the table -/

@[simp] theorem dumpRequestedStack_syscallsInProgress (pid : Pid) (m : Monitor) :
    (dumpRequestedStack c pid m).syscallsInProgress = m.syscallsInProgress := by
  unfold dumpRequestedStack; split <;> rfl

/-- `ActionProcessSyscall` leaves the table as it is, or stores the syscall for its task and
    then only `PTRACE_SYSCALL`s it (`monitor_ptrace.cc:637-644`). -/
theorem actionProcessSyscall_inProgress (regs : Regs) (sc : Syscall) (m : Monitor) :
    (actionProcessSyscall c o regs sc m).waitForExecve = m.waitForExecve ∧
    ((actionProcessSyscall c o regs sc m).syscallsInProgress = m.syscallsInProgress ∨
      (actionProcessSyscall c o regs sc m).syscallsInProgress =
          Function.update m.syscallsInProgress regs.pid (some sc) ∧
        appended m (actionProcessSyscall c o regs sc m) =
          [.eventSyscallTrace sc, .ptraceSyscall regs.pid 0]) := by
  unfold actionProcessSyscall
  split
  · exact ⟨rfl, .inl rfl⟩
  · split
    · exact ⟨rfl, .inl rfl⟩
    · exact ⟨rfl, .inr ⟨rfl, by simp [appended, completeSyscall]⟩⟩
    · split <;> (try split) <;> exact ⟨rfl, .inl rfl⟩

/-- `EventPtraceSeccomp` leaves the table as it is, or stores the syscall of the registers it
    read for the task, and then only `PTRACE_SYSCALL`s it. -/
theorem eventPtraceSeccomp_inProgress (pid : Pid) (tag : Int) (m : Monitor) :
    (eventPtraceSeccomp c o pid tag m).waitForExecve = m.waitForExecve ∧
    ((eventPtraceSeccomp c o pid tag m).syscallsInProgress = m.syscallsInProgress ∨
      ∃ user sc, o.fetch = .ok user ∧ sc.nr = user.nr ∧
        (eventPtraceSeccomp c o pid tag m).syscallsInProgress =
          Function.update m.syscallsInProgress pid (some sc) ∧
        appended m (eventPtraceSeccomp c o pid tag m) = [.eventSyscallTrace sc, .ptraceSyscall pid 0]) := by
  unfold eventPtraceSeccomp
  dsimp only
  split
  · exact ⟨rfl, .inl rfl⟩
  · split
    · exact ⟨rfl, .inl rfl⟩
    · exact ⟨rfl, .inl rfl⟩
    · next user hf =>
      split
      · exact ⟨rfl, .inl rfl⟩
      · obtain ⟨hw, h | ⟨h, hacts⟩⟩ :=
          actionProcessSyscall_inProgress c o ⟨pid, user⟩ (Regs.toSyscall ⟨pid, user⟩ tag) m
        · exact ⟨hw, .inl h⟩
        · exact ⟨hw, .inr ⟨user, _, hf, rfl, h, hacts⟩⟩

/-- `EventSyscallExit` of a task whose registers it reads passes the task's entry to
    `EventSyscallReturn` and erases it. -/
theorem eventSyscallExit_inProgress {user : UserRegs} (hf : o.fetch = .ok user) (pid : Pid)
    (m : Monitor) :
    (eventSyscallExit o pid m).waitForExecve = m.waitForExecve ∧
    (eventSyscallExit o pid m).syscallsInProgress = Function.update m.syscallsInProgress pid none ∧
    ∀ sc, m.syscallsInProgress pid = some sc →
      ∃ ret, .eventSyscallReturn sc ret ∈ appended m (eventSyscallExit o pid m) := by
  unfold eventSyscallExit
  split
  · next h => exact ⟨rfl, by rw [← h, Function.update_eq_self]; rfl, by simp [h]⟩
  · next sc h =>
    simp only [hf]
    exact ⟨rfl, rfl, fun sc' h' => ⟨user.ret, by
      simp [appended, continueProcess, ← Option.some.inj (h.symm.trans h')]⟩⟩

/-- `EventPtraceNewProcess` of a task whose entry, if any, creates a process passes the entry
    to `EventSyscallReturn` and erases it. -/
theorem eventPtraceNewProcess_inProgress (pid : Pid) (eventMsg : Int) {m : Monitor}
    (hcreates : (m.syscallsInProgress pid).all (c.host.createsProcess ·.nr) = true) :
    (eventPtraceNewProcess c pid eventMsg m).waitForExecve = m.waitForExecve ∧
    (eventPtraceNewProcess c pid eventMsg m).syscallsInProgress =
      Function.update m.syscallsInProgress pid none ∧
    ∀ sc, m.syscallsInProgress pid = some sc →
      ∃ ret, .eventSyscallReturn sc ret ∈ appended m (eventPtraceNewProcess c pid eventMsg m) := by
  unfold eventPtraceNewProcess
  split
  · next h => exact ⟨rfl, by rw [← h, Function.update_eq_self]; rfl, by simp [h]⟩
  · next sc h =>
    rw [h] at hcreates
    rw [if_neg (by simpa using hcreates)]
    exact ⟨rfl, rfl, fun sc' h' => ⟨eventMsg, by
      simp [appended, continueProcess, ← Option.some.inj (h.symm.trans h')]⟩⟩

/-- `EventPtraceExec`, while sandboxing is active, of a task whose entry, if any, is an
    `execve` or `execveat` passes the entry to `EventSyscallReturn` and erases it. -/
theorem eventPtraceExec_inProgress (pid : Pid) {m : Monitor} (hact : m.waitForExecve = false)
    (hexec : (m.syscallsInProgress pid).all
      (fun sc => sc.nr == c.host.nrExecve || sc.nr == c.host.nrExecveat) = true) :
    (eventPtraceExec c pid m).waitForExecve = false ∧
    (eventPtraceExec c pid m).syscallsInProgress = Function.update m.syscallsInProgress pid none ∧
    ∀ sc, m.syscallsInProgress pid = some sc →
      ∃ ret, .eventSyscallReturn sc ret ∈ appended m (eventPtraceExec c pid m) := by
  unfold eventPtraceExec
  dsimp only
  rw [if_neg (by simp [Monitor.isActivelyMonitoring, hact])]
  split
  · next h => exact ⟨hact, by rw [← h, Function.update_eq_self]; rfl, by simp [h]⟩
  · next sc h =>
    rw [h] at hexec
    rw [if_neg (by simp at hexec ⊢; exact hexec.resolve_left)]
    exact ⟨hact, rfl, fun sc' h' => ⟨0, by
      simp [appended, continueProcess, ← Option.some.inj (h.symm.trans h')]⟩⟩

theorem attributeDeath_inProgress {fallback : Monitor → Monitor}
    (hfb : ∀ m, (fallback m).waitForExecve = m.waitForExecve ∧
      (fallback m).syscallsInProgress = m.syscallsInProgress) (m : Monitor) :
    (attributeDeath o fallback m).waitForExecve = m.waitForExecve ∧
      (attributeDeath o fallback m).syscallsInProgress = m.syscallsInProgress := by
  unfold attributeDeath
  split
  · exact ⟨rfl, rfl⟩
  · split
    · exact ⟨rfl, rfl⟩
    · split
      · exact ⟨rfl, rfl⟩
      · exact hfb m

/-- `EventPtraceExit` erases the task's entry first, and changes nothing else in the table. -/
theorem eventPtraceExit_inProgress (pid : Pid) (eventMsg : Int) (m : Monitor) :
    (eventPtraceExit c o pid eventMsg m).waitForExecve = m.waitForExecve ∧
    (eventPtraceExit c o pid eventMsg m).syscallsInProgress =
      Function.update m.syscallsInProgress pid none := by
  have hrec : ∀ m, (recordExitOrSignal eventMsg m).waitForExecve = m.waitForExecve ∧
      (recordExitOrSignal eventMsg m).syscallsInProgress = m.syscallsInProgress := fun m => by
    unfold recordExitOrSignal; split <;> exact ⟨rfl, rfl⟩
  unfold eventPtraceExit
  dsimp only
  split
  · exact ⟨rfl, rfl⟩
  · split
    · split
      · exact ⟨rfl, rfl⟩
      · split
        · exact ⟨rfl, rfl⟩
        · split
          · exact attributeDeath_inProgress o hrec (m.eraseInProgress pid)
          · exact ⟨rfl, rfl⟩
    · exact ⟨rfl, rfl⟩

/-- `EventPtraceStop` only continues or listens: the table and sandboxing stay. -/
theorem eventPtraceStop_frame (pid : Pid) (stopsig : Int) (m : Monitor) :
    (eventPtraceStop pid stopsig m).waitForExecve = m.waitForExecve ∧
    (eventPtraceStop pid stopsig m).syscallsInProgress = m.syscallsInProgress := by
  unfold eventPtraceStop; split <;> exact ⟨rfl, rfl⟩

/-! ## The stops of a run -/

/-- `StateProcessStopped` hands each stop of a run, with the replies the stop carries, to its
    handler. -/
theorem stateProcessStopped_stop (tid pid : Pid) (stop : Stop) (m : Monitor) :
    stateProcessStopped c (stop.replies c.host tid o) pid stop.status m =
      match stop with
      | .seccomp _ => eventPtraceSeccomp c (stop.replies c.host tid o) pid c.host.arch
          (dumpRequestedStack c pid m)
      | .syscallExit _ =>
        eventSyscallExit (stop.replies c.host tid o) pid (dumpRequestedStack c pid m)
      | .newTask _ child => eventPtraceNewProcess c pid child (dumpRequestedStack c pid m)
      | .exec => eventPtraceExec c pid (dumpRequestedStack c pid m)
      | .exit status =>
        eventPtraceExit c (stop.replies c.host tid o) pid status (dumpRequestedStack c pid m)
      | .signal sig => continueProcess pid sig.num (m.emit (.eventSignal pid sig.num))
      | .groupStop sig _ => eventPtraceStop pid sig.num (dumpRequestedStack c pid m)
      | .vforkDone _ => continueProcess pid 0 (dumpRequestedStack c pid m) := by
  cases stop with
  | newTask ev child => cases ev <;> rfl
  | signal sig =>
    have hev := @wPtraceEvent_stoppedStatus sig.num 0 sig.range (by decide)
    simp [stateProcessStopped, Stop.status, hev, wStopSig_stoppedStatus _ sig.range,
      sig.ne_syscallExitSig]
  | groupStop sig msg =>
    have hev := @wPtraceEvent_stoppedStatus sig.num ptraceEventStop sig.range (by decide)
    simp only [stateProcessStopped, dispatchPtraceEvent, Stop.status, Stop.replies, hev,
      wStopSig_stoppedStatus _ sig.range]
    simp [sig.ne_syscallExitSig, ptraceEventStop, ptraceEventFork, ptraceEventVfork,
      ptraceEventClone, ptraceEventVforkDone, ptraceEventExec, ptraceEventExit]
  | _ => rfl

/-- What handling a stop of `tid` does to the table: sandboxing stays active; the other tasks'
    entries stay; `tid`'s entry goes, unless the stop is a seccomp stop that stored the syscall
    of its registers and resumed `tid` with `PTRACE_SYSCALL`; and an entry that goes is passed
    to `EventSyscallReturn`, unless the stop is `tid`'s exit stop. -/
structure StopOutcome (tid : Pid) (stop : Stop) (m m' : Monitor) : Prop where
  active : m'.waitForExecve = false
  others : ∀ q, q ≠ tid → m'.syscallsInProgress q = m.syscallsInProgress q
  own : m'.syscallsInProgress tid = none ∨ ∃ regs sc, stop = .seccomp regs ∧ sc.nr = regs.nr ∧
    m'.syscallsInProgress tid = some sc ∧ resumeOf (appended m m') tid = some true
  returned : ∀ sc, m.syscallsInProgress tid = some sc →
    (∃ status, stop = .exit status) ∨ ∃ ret, .eventSyscallReturn sc ret ∈ appended m m'

/-- A handler that erases `tid`'s entry, keeps the others and sandboxing active, and passes
    the entry to `EventSyscallReturn`, has the outcome of a stop. -/
theorem StopOutcome.of_erase {tid : Pid} {stop : Stop} {m md m' : Monitor}
    (hlog : md.log = m.log) (htable : md.syscallsInProgress = m.syscallsInProgress)
    (hw : m'.waitForExecve = false)
    (herase : m'.syscallsInProgress = Function.update md.syscallsInProgress tid none)
    (hret : ∀ sc, md.syscallsInProgress tid = some sc →
      (∃ status, stop = .exit status) ∨ ∃ ret, .eventSyscallReturn sc ret ∈ appended md m') :
    StopOutcome tid stop m m' := by
  rw [htable] at herase hret
  rw [← appended_of_log_eq hlog] at hret
  exact ⟨hw, fun q hq => by simp [herase, Function.update_noteq hq], .inl (by simp [herase]),
    hret⟩

/-- A handler that changes neither the table nor sandboxing, for a task with no entry, has the
    outcome of a stop. -/
theorem StopOutcome.of_same {tid : Pid} {stop : Stop} {m m' : Monitor}
    (hnone : m.syscallsInProgress tid = none) (hact : m.waitForExecve = false)
    (hw : m'.waitForExecve = m.waitForExecve)
    (htable : m'.syscallsInProgress = m.syscallsInProgress) : StopOutcome tid stop m m' :=
  ⟨hw.trans hact, fun q _ => by rw [htable], .inl (by rw [htable, hnone]),
    fun sc h => by simp [hnone] at h⟩

/-- Each entry of `syscalls_in_progress_` belongs to a task in the syscall it records, resumed
    with `PTRACE_SYSCALL`, or to a task the monitor left stopped; and sandboxing is active. -/
structure Tracing.Exact (s : Tracing) : Prop where
  active : s.monitor.waitForExecve = false
  entry : ∀ tid sc, s.monitor.syscallsInProgress tid = some sc →
    (∃ regs, s.tracees tid = .inSyscall regs true ∧ regs.nr = sc.nr) ∨ s.tracees tid = .stopped

namespace Tracing.Exact

variable {c} {s : Tracing}

/-- A monitor that sandboxes from the start begins exact, whatever its tracees. -/
theorem init (hc : c.enableSandboxingPreExecve = false) (tracees : Pid → Tracee)
    (leader : Pid → Pid) : Tracing.Exact ⟨Monitor.init c, tracees, leader⟩ :=
  ⟨hc, fun _ _ h => by simp [Monitor.init] at h⟩

/-- A task neither in a syscall resumed with `PTRACE_SYSCALL` nor stopped has no entry. -/
theorem inProgress_eq_none {tid : Pid} (hs : s.Exact)
    (h : ¬(s.tracees tid matches .inSyscall _ true | .stopped)) :
    s.monitor.syscallsInProgress tid = none := by
  cases hsc : s.monitor.syscallsInProgress tid with
  | none => rfl
  | some sc => rcases hs.entry tid sc hsc with ⟨regs, hr, -⟩ | hr <;> simp [hr] at h

/-- A task has no entry when the kernel can report for it a stop that is not its exit stop and
    that no task reports in a syscall resumed with `PTRACE_SYSCALL`: a seccomp stop, a stop of a
    signal, a `PTRACE_EVENT_VFORK_DONE` stop. So `ActionProcessSyscall` overwrites none. -/
theorem inProgress_eq_none_of_report (hs : s.Exact) {tid : Pid} {stop : Stop}
    (h : (s.tracees tid).canReport c.host stop = true)
    (hsys : ∀ regs, (Tracee.inSyscall regs true).canReport c.host stop = false)
    (hexit : ∀ status, stop ≠ .exit status) :
    s.monitor.syscallsInProgress tid = none :=
  hs.inProgress_eq_none fun hm => by
    generalize s.tracees tid = t at h hm
    rcases t with _ | ⟨regs, _ | _⟩ | _ | _
    · simp at hm
    · simp at hm
    · simp [hsys regs] at h
    · cases stop <;> simp_all [Tracee.canReport]
    · simp [Tracee.canReport] at h

/-- A task with an entry, that the kernel can report a stop other than its exit stop for, is in
    the syscall of the entry: the entry has each property of syscall numbers that the stop asks
    of the task's syscall. -/
theorem entry_all (hs : s.Exact) {tid : Pid} {stop : Stop}
    (h : (s.tracees tid).canReport c.host stop = true) (hexit : ¬(stop matches .exit _))
    {p : Int → Bool}
    (hp : ∀ regs, (Tracee.inSyscall regs true).canReport c.host stop = true → p regs.nr = true) :
    (s.monitor.syscallsInProgress tid).all (p ·.nr) = true := by
  cases hsc : s.monitor.syscallsInProgress tid with
  | none => rfl
  | some sc =>
    rcases hs.entry tid sc hsc with ⟨regs, hr, hnr⟩ | hr
    · simpa [← hnr] using hp regs (hr ▸ h)
    · rw [hr] at h; cases stop <;> simp_all [Tracee.canReport]

/-- In an exact run, the monitor's handling of a stop the kernel can report has the outcome of
    a stop. -/
theorem stateProcessStopped_outcome (hs : s.Exact) {tid : Pid} {stop : Stop}
    (h : (s.tracees tid).canReport c.host stop = true) (o : Replies) :
    StopOutcome tid stop s.monitor
      (stateProcessStopped c (stop.replies c.host tid o) tid stop.status s.monitor) := by
  obtain ⟨hlog, -, hactive⟩ := dumpRequestedStack_frame c tid s.monitor
  have htable := dumpRequestedStack_syscallsInProgress c tid s.monitor
  have hact : (dumpRequestedStack c tid s.monitor).waitForExecve = false := hactive.trans hs.active
  rw [stateProcessStopped_stop]
  cases stop with
  | seccomp regs =>
    have hnone := hs.inProgress_eq_none_of_report h (fun _ => rfl) (by simp)
    obtain ⟨hw, hsame | ⟨user, sc, hf, hnr, hsc, hacts⟩⟩ :=
      eventPtraceSeccomp_inProgress c ((Stop.seccomp regs).replies c.host tid o) tid c.host.arch
        (dumpRequestedStack c tid s.monitor)
    · exact .of_same hnone hs.active (hw.trans hactive) (hsame.trans htable)
    · obtain rfl : user = regs := by simpa [Stop.replies] using hf.symm
      refine ⟨hw.trans hact, fun q hq => by rw [hsc, Function.update_noteq hq, htable],
        .inr ⟨user, sc, rfl, hnr, by simp [hsc], ?_⟩, fun sc h => by simp [hnone] at h⟩
      rw [appended_of_log_eq hlog, hacts]
      simp [resumeOf]
  | syscallExit regs =>
    have hf : ((Stop.syscallExit regs).replies c.host tid o).fetch = .ok regs := rfl
    obtain ⟨hw, herase, hret⟩ := eventSyscallExit_inProgress _ hf tid
      (dumpRequestedStack c tid s.monitor)
    exact .of_erase hlog htable (hw.trans hact) herase fun sc h => .inr (hret sc h)
  | newTask ev child =>
    have hcreates := hs.entry_all h (by simp) (p := c.host.createsProcess)
      fun regs hr => by simpa [Tracee.canReport] using hr
    rw [← htable] at hcreates
    obtain ⟨hw, herase, hret⟩ := eventPtraceNewProcess_inProgress c tid child hcreates
    exact .of_erase hlog htable (hw.trans hact) herase fun sc h => .inr (hret sc h)
  | exec =>
    have hexec := hs.entry_all h (by simp) (p := fun nr => nr == c.host.nrExecve ||
      nr == c.host.nrExecveat) fun regs hr => hr
    rw [← htable] at hexec
    obtain ⟨hw, herase, hret⟩ := eventPtraceExec_inProgress c tid hact hexec
    exact .of_erase hlog htable hw herase fun sc h => .inr (hret sc h)
  | exit status =>
    obtain ⟨hw, herase⟩ := eventPtraceExit_inProgress c ((Stop.exit status).replies c.host tid o)
      tid status (dumpRequestedStack c tid s.monitor)
    exact .of_erase hlog htable (hw.trans hact) herase fun _ _ => .inl ⟨status, rfl⟩
  | signal sig =>
    exact .of_same (hs.inProgress_eq_none_of_report h (fun _ => rfl) (by simp)) hs.active rfl rfl
  | groupStop sig msg =>
    obtain ⟨hw, hsame⟩ := eventPtraceStop_frame tid sig.num (dumpRequestedStack c tid s.monitor)
    exact .of_same (hs.inProgress_eq_none_of_report h (fun _ => rfl) (by simp)) hs.active
      (hw.trans hactive) (hsame.trans htable)
  | vforkDone msg =>
    exact .of_same (hs.inProgress_eq_none_of_report h (fun _ => rfl) (by simp)) hs.active
      hactive htable

/-- One step of an exact run keeps it exact, unless it is an exec of a thread that is not its
    group's leader. -/
theorem step (hs : s.Exact) {tid : Pid} {stop : Stop} {o : Replies} {s' : Tracing}
    (hlead : stop = .exec → s.leader tid = tid) (h : s.step c tid stop o = some s') :
    s'.Exact := by
  obtain ⟨hrep, hfresh, -, hm, htr⟩ := Tracing.step_eq_some h
  have hpid : (if stop = .exec then s.leader tid else tid) = tid := by
    split
    · exact hlead ‹_›
    · rfl
  rw [hpid] at hm htr
  have ho := hs.stateProcessStopped_outcome hrep o
  rw [← hm] at ho
  refine ⟨ho.active, fun q sc hq => ?_⟩
  rw [htr q]
  by_cases hchild : stop.child? = some q
  · -- a new task: its TID was no live task's, and so had no entry
    have hgone := hfresh q hchild
    have hq' : q ≠ tid := by rintro rfl; simp [hgone, Tracee.canReport] at hrep
    rw [ho.others q hq', hs.inProgress_eq_none (by simp [hgone])] at hq
    cases hq
  · rw [if_neg hchild]
    by_cases hq' : q = tid
    · subst hq'
      rw [if_pos rfl]
      rcases ho.own with h0 | ⟨regs, sc', rfl, hnr, hsc, hres⟩
      · simp [h0] at hq
      · obtain rfl : sc' = sc := Option.some.inj (hsc.symm.trans hq)
        exact .inl ⟨regs, by rw [hres]; rfl, hnr.symm⟩
    · rw [if_neg hq', if_neg hq']
      rw [ho.others q hq'] at hq
      exact hs.entry q sc hq

/-- A run from an exact state stays exact, as long as only group leaders exec. -/
theorem run (hs : s.Exact) {evs : List (Pid × Stop × Replies)} {s' : Tracing}
    (hlead : ∀ tid stop o, (tid, stop, o) ∈ evs → stop = .exec → s.leader tid = tid)
    (h : s.run c evs = some s') : s'.Exact := by
  induction evs generalizing s with
  | nil => exact Option.some.inj h ▸ hs
  | cons e evs ih =>
    obtain ⟨tid, stop, o⟩ := e
    obtain ⟨s₁, h₁, h₂⟩ := Option.bind_eq_some.1 h
    have hleader := (Tracing.step_eq_some h₁).2.2.1
    exact ih (hs.step (hlead tid stop o (.head _)) h₁)
      (fun t st o' hm => hleader ▸ hlead t st o' (.tail _ hm)) h₂

end Tracing.Exact

/-! ## Over whole runs -/

section Runs

variable {c} (hc : c.enableSandboxingPreExecve = false) (tracees : Pid → Tracee)
  (leader : Pid → Pid) {pre : List (Pid × Stop × Replies)} {s₁ s₂ : Tracing}
  (hlead : ∀ tid stop o, (tid, stop, o) ∈ pre → stop = .exec → leader tid = tid)
  (h₁ : (Tracing.mk (Monitor.init c) tracees leader).run c pre = some s₁)

include hc hlead h₁

/-- Sandboxing from the start, in any run the kernel's rules allow where only group leaders
    exec: when the monitor handles a seccomp stop of a task, the task has no entry, so
    `ActionProcessSyscall` never overwrites a pending inspection. -/
theorem run_seccomp_finds_no_entry {tid : Pid} {regs : UserRegs} {o : Replies}
    (h₂ : s₁.step c tid (.seccomp regs) o = some s₂) :
    s₁.monitor.syscallsInProgress tid = none :=
  ((Tracing.Exact.init hc tracees leader).run hlead h₁).inProgress_eq_none_of_report
    (Tracing.step_eq_some h₂).1 (fun _ => rfl) (by simp)

/-- In the same runs, an entry leaves the table only at a stop of its own task, and only when
    its syscall is passed to `EventSyscallReturn` or at the task's exit stop. -/
theorem run_entry_leaves_by_return {tid : Pid} {stop : Stop} {o : Replies}
    (hexec : stop = .exec → leader tid = tid) (h₂ : s₁.step c tid stop o = some s₂)
    {q : Pid} {sc : Syscall} (hq : s₁.monitor.syscallsInProgress q = some sc)
    (hq' : s₂.monitor.syscallsInProgress q ≠ some sc) :
    q = tid ∧ ((∃ status, stop = .exit status) ∨
      ∃ ret, .eventSyscallReturn sc ret ∈ appended s₁.monitor s₂.monitor) := by
  have hs := (Tracing.Exact.init hc tracees leader).run hlead h₁
  obtain ⟨hrep, -, -, hm, -⟩ := Tracing.step_eq_some h₂
  have hpid : (if stop = .exec then s₁.leader tid else tid) = tid := by
    split
    · exact (Tracing.run_leader h₁).symm ▸ hexec ‹_›
    · rfl
  rw [hpid] at hm
  have ho := hs.stateProcessStopped_outcome hrep o
  rw [← hm] at ho
  by_cases hqt : q = tid
  · subst hqt
    exact ⟨rfl, ho.returned sc hq⟩
  · exact absurd (by rw [ho.others q hqt, hq]) hq'

end Runs

/-- With sandboxing active from the start, PID 100 has a `getpid` inspected after return, and
    its syscall-exit-stop comes. -/
def getpidInspected : List (Pid × Stop × Replies) :=
  [(100, .seccomp getpidRegs, .inspect), (100, .syscallExit ⟨39, [], 100⟩, .sample)]

theorem run_seccomp_finds_no_entry_getpid :
    Config.sample.enableSandboxingPreExecve = false ∧
    ∃ s₁ s₂, (Tracing.mainOnly .sample).run .sample getpidInspected = some s₁ ∧
      s₁.step .sample 100 (.seccomp getpidRegs) .inspect = some s₂ ∧
      s₁.monitor.syscallsInProgress 100 = none :=
  ⟨rfl, _, _, rfl, rfl, @run_seccomp_finds_no_entry .sample rfl (Tracing.mainOnly .sample).tracees
    id getpidInspected _ _ (fun _ _ _ _ _ => rfl) rfl 100 getpidRegs .inspect rfl⟩

theorem run_entry_leaves_by_return_getpid :
    ∃ s₁ s₂, (Tracing.mainOnly .sample).run .sample (getpidInspected.take 1) = some s₁ ∧
      s₁.step .sample 100 (.syscallExit ⟨39, [], 100⟩) .sample = some s₂ ∧
      s₁.monitor.syscallsInProgress 100 = some ⟨1, 39, [], 100⟩ ∧
      s₂.monitor.syscallsInProgress 100 ≠ some ⟨1, 39, [], 100⟩ ∧
      ((100 : Pid) = 100 ∧ ((∃ status, Stop.syscallExit ⟨39, [], 100⟩ = .exit status) ∨
        ∃ ret, .eventSyscallReturn ⟨1, 39, [], 100⟩ ret ∈ appended s₁.monitor s₂.monitor)) :=
  ⟨_, _, rfl, rfl, rfl, by decide, @run_entry_leaves_by_return .sample rfl
    (Tracing.mainOnly .sample).tracees id (getpidInspected.take 1) _ _ (fun _ _ _ _ _ => rfl) rfl
    100 (.syscallExit ⟨39, [], 100⟩) .sample (fun h => by cases h) rfl 100 ⟨1, 39, [], 100⟩ rfl
    (by decide)⟩

end Sandbox2
