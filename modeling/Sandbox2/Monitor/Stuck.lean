import Sandbox2.Monitor.Inspections
import Sandbox2.Monitor.RunInv

/-!
# No tracee is left in a stop

A tracee the kernel reports in a ptrace stop stays in it until the monitor resumes it. The handler
of every stop the kernel can report resumes the task (with its signal at a signal-delivery-stop,
with `PTRACE_LISTEN` at a group-stop), except where it records a final status, on which `Run`
leaves its main loop. So in every run that the kernel's rules allow, over any number of
tracees, a tracee is left in a stop only once a final status has been written. This needs only
that the host's own architecture tag lies in the range `EventPtraceSeccomp` accepts
(`monitor_ptrace.cc:681-691`): a stop of a run carries its event message (at a seccomp stop, that
tag), and a seccomp stop or a syscall-exit-stop the task's registers, so neither
`PTRACE_GETEVENTMSG` nor `Regs::Fetch` finds the task gone there.
-/

namespace Sandbox2

/-- Actions in which `resumeOf` finds no resume of `pid` resume `pid` nowhere. -/
theorem resumeOf_eq_none {acts : List Action} {pid : Pid} (h : resumeOf acts pid = none) :
    ∀ a ∈ acts, a.resumed ≠ some pid := fun a ha hr => by
  have ha' := List.findSome?_eq_none_iff.1 h a ha
  cases a <;> simp_all [Action.resumed]

/-- What a handler of a stop of `pid` appends, if it answers the stop and resumes `pid` nowhere,
    writes a status. -/
theorem statusWrites_pos_of_answers {pid : Pid} {acts : List Action}
    (hok : stopActsOk pid acts = true) (hans : answers acts = true)
    (hr : resumeOf acts pid = none) : 0 < statusWrites acts := by
  refine answers_statusWrites hans (List.all_eq_true.2 fun a ha => ?_)
  cases hp : a.resumed with
  | none => rfl
  | some p => exact absurd (stopActsOk_resumed hok a ha p hp ▸ hp) (resumeOf_eq_none hr a ha)

/-- `EventPtraceStop` continues the task, or listens on it. -/
theorem eventPtraceStop_answers (pid : Pid) (stopsig : Int) (m : Monitor) :
    answers (appended m (eventPtraceStop pid stopsig m)) = true := by
  unfold eventPtraceStop
  split <;> simp [appended, continueProcess, stopProcess, answers, Action.resumed]

variable {c : Config}

/-- With the host's architecture tag in range, the monitor answers every stop of a run: it
    resumes the task, or writes a status. -/
theorem stateProcessStopped_answers_stop (harch : c.host.kUnknown ≤ c.host.arch ∧
    c.host.arch ≤ c.host.kMax) (tid pid : Pid) (stop : Stop) (o : Replies) (m : Monitor) :
    answers (appended m (stateProcessStopped c (stop.replies c.host tid o) pid stop.status m)) =
      true := by
  have hlog := (dumpRequestedStack_frame c pid m).1
  have hans : ∀ {g : Prop} {m'}, Handles pid g (dumpRequestedStack c pid m) m' → ¬g →
      answers (appended m m') = true := fun h hg =>
    appended_of_log_eq hlog ▸ h.2.2.resolve_right hg
  rw [stateProcessStopped_stop]
  cases stop with
  | seccomp regs =>
    refine hans (eventPtraceSeccomp_handles c _ pid _ _) ?_
    rintro (h | h | h)
    · simp [Stop.replies] at h
    all_goals omega
  | syscallExit regs => exact hans (eventSyscallExit_handles _ pid _) (by simp [Stop.replies])
  | newTask ev child => exact hans (eventPtraceNewProcess_handles c pid child _) id
  | exec => exact hans (eventPtraceExec_handles c pid _) id
  | exit status => exact hans (eventPtraceExit_handles c _ pid status _) id
  | signal sig => simp [appended, continueProcess, answers, Action.resumed]
  | groupStop sig msg => exact appended_of_log_eq hlog ▸ eventPtraceStop_answers pid sig.num _
  | vforkDone msg => exact hans (continueProcess_handles pid _) id

namespace Tracing

/-- Every tracee in a stop the monitor left it in is there after a status was written. -/
def NoneLeftStopped (s : Tracing) : Prop :=
  ∀ q, s.tracees q = .stopped → 0 < statusWrites s.monitor.log

/-- One stop keeps `NoneLeftStopped`: the task of the stop is left stopped only after its handler
    wrote a status, and every other task's state either stays or leaves the stop. -/
theorem NoneLeftStopped.step (harch : c.host.kUnknown ≤ c.host.arch ∧ c.host.arch ≤ c.host.kMax)
    {s s' : Tracing} {tid : Pid} {stop : Stop} {o : Replies} (hs : s.NoneLeftStopped)
    (h : s.step c tid stop o = some s') : s'.NoneLeftStopped := by
  obtain ⟨-, -, -, hm, htr⟩ := step_eq_some h
  generalize (if stop = .exec then s.leader tid else tid) = pid at hm htr
  have hok := stateProcessStopped_ok c (stop.replies c.host tid o) pid stop.status s.monitor
  have hans := stateProcessStopped_answers_stop harch tid pid stop o s.monitor
  rw [← hm] at hok hans
  intro q hq
  rw [htr q] at hq
  rw [hok.log_eq, statusWrites_append]
  split_ifs at hq with hchild hpid htid
  · have hr : resumeOf (appended s.monitor s'.monitor) pid = none := by
      revert hq; cases stop <;> cases resumeOf (appended s.monitor s'.monitor) pid <;>
        simp [Tracee.afterStop]
    exact Nat.lt_add_left _ (statusWrites_pos_of_answers hok.2 hans hr)
  · exact Nat.lt_add_right _ (hs q hq)

/-- A run keeps `NoneLeftStopped`. -/
theorem NoneLeftStopped.run (harch : c.host.kUnknown ≤ c.host.arch ∧ c.host.arch ≤ c.host.kMax)
    {s s' : Tracing} {evs : List (Pid × Stop × Replies)} (hs : s.NoneLeftStopped)
    (h : s.run c evs = some s') : s'.NoneLeftStopped := by
  induction evs generalizing s with
  | nil => exact Option.some.inj h ▸ hs
  | cons e evs ih =>
    obtain ⟨s₁, h₁, h₂⟩ := Option.bind_eq_some.1 h
    exact ih (hs.step harch h₁) h₂

end Tracing

/-- In every run that the kernel's rules allow, from the monitor's start with no tracee in a stop,
    a tracee is in a stop at the end only if a final status has been written. -/
theorem run_leaves_stopped_only_after_status (harch : c.host.kUnknown ≤ c.host.arch ∧
    c.host.arch ≤ c.host.kMax) (tracees : Pid → Tracee) (leader : Pid → Pid)
    (hinit : ∀ q, tracees q ≠ .stopped) (evs : List (Pid × Stop × Replies)) {s' : Tracing}
    (h : (Tracing.mk (Monitor.init c) tracees leader).run c evs = some s') (q : Pid)
    (hq : s'.tracees q = .stopped) : 0 < statusWrites s'.monitor.log :=
  Tracing.NoneLeftStopped.run harch (fun q hq => absurd hq (hinit q)) h q hq

/-- The main PID's `getpid`, which `Notify::EventSyscallTrace` denies. -/
def deniedGetpid : List (Pid × Stop × Replies) :=
  [(100, .seccomp getpidRegs, { Replies.sample with verdict := .deny })]

/-- The violation leaves PID 100 in its seccomp stop, with the status written. -/
theorem run_leaves_stopped_only_after_status_denied :
    ∃ s', (Tracing.mainOnly .sample).run .sample deniedGetpid = some s' ∧
      s'.tracees 100 = .stopped ∧ 0 < statusWrites s'.monitor.log :=
  ⟨_, rfl, rfl, @run_leaves_stopped_only_after_status .sample (by decide)
    (Tracing.mainOnly .sample).tracees id (fun q => by dsimp only [Tracing.mainOnly]; split <;> decide)
    deniedGetpid _ rfl 100 rfl⟩

end Sandbox2
