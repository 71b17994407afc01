import Sandbox2.Monitor.Stops

/-!
# The tracees and the kernel

The monitor and the kernel as one system: the kernel reports a stop of one tracee, the monitor
handles it with `StateProcessStopped`, and how it resumes the tracee decides which stops the kernel
can report for it next. Each tracee's ptrace state follows these rules. After `PTRACE_SYSCALL` from
a seccomp stop, the next stop is the syscall-exit-stop, a `PTRACE_EVENT_FORK`/`VFORK`/`CLONE` stop
if the syscall creates a task, a `PTRACE_EVENT_EXEC` stop if it is `execve` or `execveat`, or a
`PTRACE_EVENT_EXIT` stop. After `PTRACE_CONT`, there is no syscall-exit-stop for the syscall.
When a thread that is not its group's leader execs, its exec stop is reported under the leader's
PID, with its former TID as event message, and the former TID is gone. A signal that comes while a
task is in a syscall resumed with `PTRACE_SYSCALL` ends the syscall: its signal-delivery-stop or
group-stop comes after the syscall-exit-stop. A task that runs can report any stop but a
syscall-exit-stop. A new task gets a TID that no live task has. A run is any interleaving of the
stops of any number of tracees that these rules allow.

`syscalls_in_progress_` is meant to hold each syscall inspected after its return until
`EventSyscallReturn` is called for it. Two admissible runs lose an inspection. In one, the first
exec comes before sandboxing is active: `EventPtraceExec` only starts monitoring, and the entry
of the `execve` stays until the next inspected syscall of the task overwrites it. In the other,
a thread execs as a non-leader: the exec is reported under the leader's PID, and the entry of the
former TID outlives it.
-/

namespace Sandbox2

/-- A tracee as the kernel's ptrace rules see it: running, in the syscall of a seccomp stop it was
    resumed from with `PTRACE_SYSCALL` (`traced`) or `PTRACE_CONT`, in a stop the monitor left it
    in, or gone. -/
inductive Tracee where
  | running
  | inSyscall (regs : UserRegs) (traced : Bool)
  | stopped
  | gone
  deriving DecidableEq, Repr

/-- A signal number, 1 to 64 (`SIGRTMAX` on Linux): the stop signal of a signal-delivery-stop or
    of a group-stop. -/
structure Signal where
  num : Int
  pos : 0 < num
  le_max : num ≤ 64
  deriving DecidableEq, Repr

theorem Signal.range (sig : Signal) : 0 ≤ sig.num ∧ sig.num < 256 :=
  ⟨sig.pos.le, lt_of_le_of_lt sig.le_max (by decide)⟩

/-- A signal is not the stop signal of a syscall-exit-stop, `SIGTRAP | 0x80`. -/
theorem Signal.ne_syscallExitSig (sig : Signal) : sig.num ≠ syscallExitSig :=
  ne_of_lt (lt_of_le_of_lt sig.le_max (by decide))

/-- The events of the stops that report a new task. -/
inductive NewTaskEvent where
  | fork
  | vfork
  | clone
  deriving DecidableEq, Repr

/-- `PTRACE_EVENT_FORK`, `PTRACE_EVENT_VFORK` or `PTRACE_EVENT_CLONE`. -/
def NewTaskEvent.code : NewTaskEvent → Int
  | .fork => ptraceEventFork
  | .vfork => ptraceEventVfork
  | .clone => ptraceEventClone

/-- A stop the kernel reports for a tracee: a seccomp stop at the entry of the syscall in `regs`,
    a syscall-exit-stop with the registers at the exit, a stop for a new task `child`, an exec
    stop, an exit stop with the status the task will exit with, a signal-delivery-stop, a
    `PTRACE_EVENT_STOP` stop with its stop signal and event message (a group-stop, or with
    `SIGTRAP` the stop of `PTRACE_INTERRUPT` or of a new task, `monitor_ptrace.cc:870-872`), or a
    `PTRACE_EVENT_VFORK_DONE` stop with its event message. -/
inductive Stop where
  | seccomp (regs : UserRegs)
  | syscallExit (regs : UserRegs)
  | newTask (ev : NewTaskEvent) (child : Pid)
  | exec
  | exit (status : Int)
  | signal (sig : Signal)
  | groupStop (sig : Signal) (msg : Int)
  | vforkDone (msg : Int)
  deriving DecidableEq, Repr

namespace Stop

/-- The wait status of the stop, as `waitpid` reports it. -/
def status : Stop → Int
  | .seccomp _ => stoppedStatus sigtrap ptraceEventSeccomp
  | .syscallExit _ => stoppedStatus syscallExitSig 0
  | .newTask ev _ => stoppedStatus sigtrap ev.code
  | .exec => stoppedStatus sigtrap ptraceEventExec
  | .exit _ => stoppedStatus sigtrap ptraceEventExit
  | .signal sig => stoppedStatus sig.num 0
  | .groupStop sig _ => stoppedStatus sig.num ptraceEventStop
  | .vforkDone _ => stoppedStatus sigtrap ptraceEventVforkDone

/-- What the monitor reads while it handles the stop of task `tid`: the event message the stop
    carries (the host's architecture for a seccomp stop, the new task, the former TID, the exit
    status, the message of a `PTRACE_EVENT_STOP` or `PTRACE_EVENT_VFORK_DONE` stop), the registers
    of a stopped task, and otherwise the collaborators' replies `o`. -/
def replies (h : Host) (tid : Pid) (o : Replies) : Stop → Replies
  | .seccomp regs => { o with eventMsg := .ok h.arch, fetch := .ok regs }
  | .syscallExit regs => { o with eventMsg := .ok 0, fetch := .ok regs }
  | .newTask _ child => { o with eventMsg := .ok child }
  | .exec => { o with eventMsg := .ok tid }
  | .exit status => { o with eventMsg := .ok status }
  | .signal _ => o
  | .groupStop _ msg | .vforkDone msg => { o with eventMsg := .ok msg }

/-- The new task a stop reports, if it reports one. -/
def child? : Stop → Option Pid
  | .newTask _ child => some child
  | _ => none

end Stop

/-- Whether the kernel can next report `stop` for a tracee in state `t`. After `PTRACE_SYSCALL`
    from a seccomp stop: its syscall-exit-stop, a new-task stop if the syscall creates one, an
    exec stop if it execs, an exit stop, and no stop of a signal before the syscall-exit-stop.
    After `PTRACE_CONT`, or when running, anything but a syscall-exit-stop. In a stop, only the
    exit stop of a `SIGKILL`. -/
def Tracee.canReport (h : Host) : Tracee → Stop → Bool
  | .inSyscall _ true, .syscallExit _ => true
  | .inSyscall regs true, .newTask _ _ => h.createsProcess regs.nr
  | .inSyscall regs true, .exec => regs.nr == h.nrExecve || regs.nr == h.nrExecveat
  | .inSyscall _ true, .exit _ => true
  | .inSyscall _ true, _ => false
  | .inSyscall _ false, stop | .running, stop => !(stop matches .syscallExit _)
  | .stopped, stop => (stop matches .exit _)
  | .gone, _ => false

/-- How the actions `acts` resume the task `pid`: `PTRACE_SYSCALL` (`some true`), `PTRACE_CONT`
    or `PTRACE_LISTEN` (`some false`), or not at all. -/
def resumeOf (acts : List Action) (pid : Pid) : Option Bool :=
  acts.findSome? fun
    | .ptraceSyscall p _ => if p = pid then some true else none
    | .ptraceCont p _ | .ptraceListen p _ => if p = pid then some false else none
    | _ => none

/-- A tracee once the monitor has handled its stop `stop` and resumed it as `resume` says. -/
def Tracee.afterStop : Stop → Option Bool → Tracee
  | .seccomp regs, some traced => .inSyscall regs traced
  | .exit _, some _ => .gone
  | _, some _ => .running
  | _, none => .stopped

/-- The monitor, every task's ptrace state, and every task's thread-group leader. -/
structure Tracing where
  monitor : Monitor
  tracees : Pid → Tracee
  leader : Pid → Pid

namespace Tracing

variable (c : Config)

/-- One stop: the kernel reports `stop` of the task `tid`, if its rules allow it, and the monitor
    handles it with the collaborators' replies `o`. An exec stop is reported under the leader's
    PID, and a non-leader's former TID is then gone; a new task, whose TID no live task has,
    starts running. -/
def step (s : Tracing) (tid : Pid) (stop : Stop) (o : Replies) : Option Tracing :=
  if (s.tracees tid).canReport c.host stop && stop.child?.all (s.tracees · == .gone) then
    let pid := if stop = .exec then s.leader tid else tid
    let m := stateProcessStopped c (stop.replies c.host tid o) pid stop.status s.monitor
    let tracees := Function.update (Function.update s.tracees tid .gone) pid
      (Tracee.afterStop stop (resumeOf (appended s.monitor m) pid))
    some { s with
      monitor := m
      tracees := match stop with
        | .newTask _ child => Function.update tracees child .running
        | _ => tracees }
  else none

/-- A run: the stops in order, each with its task and the collaborators' replies; `none` when the
    kernel's rules forbid one. -/
def run (s : Tracing) : List (Pid × Stop × Replies) → Option Tracing
  | [] => some s
  | (tid, stop, o) :: rest => (s.step c tid stop o).bind (run · rest)

variable {c}

/-- Everything a step does: the kernel's rules allowed the stop, the leaders stay, the monitor
    handled the stop under the PID it is reported under, and the tracees changed only there, at
    the former TID and at a new task. -/
theorem step_eq_some {s s' : Tracing} {tid : Pid} {stop : Stop} {o : Replies}
    (h : s.step c tid stop o = some s') :
    (s.tracees tid).canReport c.host stop = true ∧
    (∀ child, stop.child? = some child → s.tracees child = .gone) ∧ s'.leader = s.leader ∧
    s'.monitor = stateProcessStopped c (stop.replies c.host tid o)
      (if stop = .exec then s.leader tid else tid) stop.status s.monitor ∧
    ∀ q, s'.tracees q =
      if stop.child? = some q then .running
      else if q = (if stop = .exec then s.leader tid else tid) then
        Tracee.afterStop stop (resumeOf (appended s.monitor s'.monitor)
          (if stop = .exec then s.leader tid else tid))
      else if q = tid then .gone else s.tracees q := by
  unfold step at h
  by_cases hok : ((s.tracees tid).canReport c.host stop &&
      stop.child?.all (s.tracees · == .gone)) = true
  · rw [if_pos hok, Option.some.injEq] at h
    subst h
    simp only [Bool.and_eq_true] at hok
    refine ⟨hok.1, fun child hc => by simpa [hc] using hok.2, rfl, rfl, fun q => ?_⟩
    cases stop <;> simp [Stop.child?, Function.update_apply, eq_comm]
    split_ifs <;> rfl
  · rw [if_neg hok] at h
    cases h

theorem run_leader {s s' : Tracing} {evs : List (Pid × Stop × Replies)} (h : s.run c evs = some s') :
    s'.leader = s.leader := by
  induction evs generalizing s with
  | nil => rw [← Option.some.inj h]
  | cons e evs ih =>
    obtain ⟨s₁, h₁, h₂⟩ := Option.bind_eq_some.1 h
    exact (ih h₂).trans (step_eq_some h₁).2.2.1

end Tracing

/-- The syscalls the log passes to `Notify::EventSyscallReturn`, with their return values. -/
def returnedSyscalls (log : List Action) : List (Syscall × Int) :=
  log.filterMap fun
    | .eventSyscallReturn sc ret => some (sc, ret)
    | _ => none

/-! ## Two runs that lose an inspection -/

/-- `Config.sample` with sandboxing before `execve`: the monitor is not actively monitoring until
    the first exec. -/
def Config.preExecve : Config := { Config.sample with enableSandboxingPreExecve := true }

/-- The main PID 100 alone, running. -/
def Tracing.mainOnly (c : Config) : Tracing :=
  ⟨Monitor.init c, fun p => if p = 100 then .running else .gone, id⟩

/-- The registers of an `execve` (59) at its entry. -/
def execveRegs : UserRegs := ⟨59, [], 0⟩

/-- The registers of a `getpid` (39) at its entry. -/
def getpidRegs : UserRegs := ⟨39, [], 0⟩

/-- `Replies.sample` with `Notify::EventSyscallTrace` answering `kInspectAfterReturn`. -/
def Replies.inspect : Replies := { Replies.sample with verdict := .inspectAfterReturn }

/-- Before sandboxing is active, PID 100's `execve` is inspected after return; the exec stop
    comes; then its `getpid` is inspected after return, and its syscall-exit-stop comes. -/
def firstExecInspected : List (Pid × Stop × Replies) :=
  [(100, .seccomp execveRegs, .inspect), (100, .exec, .sample),
    (100, .seccomp getpidRegs, .inspect), (100, .syscallExit ⟨39, [], 100⟩, .sample)]

/-- The kernel's rules allow that run. The first exec leaves the `execve` pending; the next
    inspected syscall overwrites it; and only the `getpid` is passed to `EventSyscallReturn`, though
    PID 100's exit stop never came. -/
theorem first_exec_leaves_inspection_pending :
    ((Tracing.mainOnly .preExecve).run .preExecve (firstExecInspected.take 2)).map
        (·.monitor.syscallsInProgress 100) = some (some ⟨1, 59, [], 100⟩) ∧
    ((Tracing.mainOnly .preExecve).run .preExecve (firstExecInspected.take 3)).map
        (·.monitor.syscallsInProgress 100) = some (some ⟨1, 39, [], 100⟩) ∧
    ((Tracing.mainOnly .preExecve).run .preExecve firstExecInspected).map
        (returnedSyscalls ·.monitor.log) = some [(⟨1, 39, [], 100⟩, 100)] := by
  decide

/-- PIDs 100 and 101, both running, threads of the group led by 100. -/
def Tracing.twoThreads (c : Config) : Tracing :=
  ⟨Monitor.init c, fun p => if p = 100 ∨ p = 101 then .running else .gone, fun _ => 100⟩

/-- While sandboxing is active, thread 101 has its `execve` inspected after return, and the exec
    stop is reported under PID 100. -/
def nonLeaderExecInspected : List (Pid × Stop × Replies) :=
  [(101, .seccomp execveRegs, .inspect), (101, .exec, .sample)]

/-- The kernel's rules allow that run. It leaves the `execve` of TID 101 in the table, never
    passed to `EventSyscallReturn`, and TID 101 gone, so no later stop can close it. -/
theorem nonLeader_exec_leaves_inspection_pending :
    ((Tracing.twoThreads .sample).run .sample nonLeaderExecInspected).map
        (fun s => (s.monitor.syscallsInProgress 101, s.tracees 101, returnedSyscalls s.monitor.log)) =
      some (some ⟨1, 59, [], 101⟩, .gone, []) := by
  decide

end Sandbox2
