import Sandbox2.Monitor.RunInv
import Sandbox2.Monitor.Stops

/-!
# A resume answers a reported stop

`PTRACE_CONT`, `PTRACE_SYSCALL` and `PTRACE_LISTEN` act only on a tracee in a ptrace stop, and a
tracee they resume runs until the kernel reports its next stop. Over every run, the monitor keeps
to this: each resume of a task follows a report by `PidWaiter::Wait` of a ptrace stop of that
task, with no other report or resume of the task in between (`run_resume_answers_stop`). So it
never resumes a task it has not seen stopped, and resumes it at most once per stop, whatever the
order in which the stops of its tasks come.

A step appends blocks of two kinds (`StopBlock`): actions that neither report nor resume (the kill
and interrupt requests, status writes), or the report of a task and what its handler then did,
which resumes only that task, at most once, and only when the report was a stop. Every such block
passes `ResumesAnswered`, and a log of blocks does too.
-/

namespace Sandbox2

/-- Every resume in `log` answers a report: the last report of its task before it was a ptrace
    stop, and the task was not resumed since. -/
def ResumesAnswered (log : List Action) : Prop :=
  ∀ pre a post p, log = pre ++ a :: post → a.resumed = some p →
    ∃ pre' s mid, pre = pre' ++ .report p s :: mid ∧ wIfStopped s = true ∧
      ∀ b ∈ mid, b.reported ≠ some p ∧ b.resumed ≠ some p

namespace ResumesAnswered

theorem of_noResume {l : List Action} (h : ∀ a ∈ l, a.resumed = none) : ResumesAnswered l := by
  rintro pre a post p rfl hr
  simp [h a (by simp)] at hr

theorem append {l l' : List Action} (h : ResumesAnswered l) (h' : ResumesAnswered l') :
    ResumesAnswered (l ++ l') := by
  intro pre a post p heq hr
  rcases List.append_eq_append_iff.1 heq with ⟨c, rfl, hc⟩ | ⟨c, hl, hc⟩
  · -- the resume is in `l'`, and so is its report
    obtain ⟨pre', s, mid, rfl, hs, hmid⟩ := h' c a post p hc hr
    exact ⟨l ++ pre', s, mid, by simp, hs, hmid⟩
  · cases c with
    | nil =>
      obtain ⟨pre', s, mid, he, -⟩ := h' [] a post p (by simpa using hc.symm) hr
      simp at he
    | cons b c =>
      obtain ⟨rfl, -⟩ := List.cons.inj hc
      exact h pre a c p hl hr

end ResumesAnswered

/-- What one step appends, block by block: actions that neither report nor resume, or a report
    and what the handler of it did, which resumes only the reported task, at most once, and only
    when the report was a stop. -/
def StopBlock (acts : List Action) : Prop :=
  (∀ a ∈ acts, a.resumed = none) ∨
    ∃ q s stop, acts = .report q s :: stop ∧ stopActsOk q stop = true ∧
      (wIfStopped s = true ∨ ∀ a ∈ stop, a.resumed = none)

/-- Two resumes in actions that resume at most once are the same one. -/
theorem resumes_le_one {l : List Action} (h : l.countP (fun a => a.resumed.isSome) ≤ 1)
    {pre post : List Action} {a b : Action} (hl : l = pre ++ a :: post) (ha : a.resumed.isSome)
    (hb : b ∈ pre) (hb' : b.resumed.isSome) : False := by
  subst hl
  have : 0 < pre.countP (fun a => a.resumed.isSome) := List.countP_pos_iff.2 ⟨b, hb, hb'⟩
  simp [List.countP_append, List.countP_cons, ha] at h
  omega

theorem StopBlock.resumesAnswered {acts : List Action} (h : StopBlock acts) :
    ResumesAnswered acts := by
  rcases h with h | ⟨q, s, stop, rfl, hok, hs⟩
  · exact .of_noResume h
  rintro pre a post p heq hr
  cases pre with
  | nil => cases List.cons.inj heq |>.1 ▸ hr
  | cons b mid =>
    obtain ⟨rfl, hstop⟩ := List.cons.inj heq
    have hp : p = q := stopActsOk_resumed hok a (by simp [hstop]) p hr
    subst hp
    refine ⟨[], s, mid, rfl, hs.resolve_right fun h => by simp [h a (by simp [hstop])] at hr,
      fun b hb => ⟨?_, fun hb' => ?_⟩⟩
    · simp [stopActsOk_noReport hok b (by simp [hstop, hb])]
    · exact resumes_le_one (stopActsOk_resumes_le hok) hstop (by simp [hr]) hb (by simp [hb'])

/-- `m'` is `m` with actions appended whose resumes each answer a report among them. -/
def Grows (m m' : Monitor) : Prop := ∃ acts, m'.log = m.log ++ acts ∧ ResumesAnswered acts

namespace Grows

variable {m m' m'' : Monitor}

theorem refl (m : Monitor) : Grows m m := ⟨[], by simp, .of_noResume (by simp)⟩

theorem trans (h : Grows m m') (h' : Grows m' m'') : Grows m m'' := by
  obtain ⟨acts, hl, ha⟩ := h
  obtain ⟨acts', hl', ha'⟩ := h'
  exact ⟨acts ++ acts', by simp [hl, hl'], ha.append ha'⟩

theorem of_log_eq (hl : m'.log = m.log) : Grows m m' := ⟨[], by simp [hl], .of_noResume (by simp)⟩

theorem of_block {acts : List Action} (hl : m'.log = m.log ++ acts) (h : StopBlock acts) :
    Grows m m' :=
  ⟨acts, hl, h.resumesAnswered⟩

theorem of_quiet {acts : List Action} (hl : m'.log = m.log ++ acts)
    (h : ∀ a ∈ acts, a.resumed = none) : Grows m m' :=
  .of_block hl (.inl h)

/-- A report of `pid`, then a handler's actions. -/
theorem of_handler {pid : Pid} {status : Int} (h : HandlerOk pid (m.emit (.report pid status)) m')
    (hs : wIfStopped status = true ∨ ∀ a ∈ appended (m.emit (.report pid status)) m',
      a.resumed = none) : Grows m m' :=
  .of_block (by rw [h.log_eq]; simp) (.inr ⟨pid, status, _, rfl, h.2, hs⟩)

end Grows

variable (c : Config)

/-- What a request at the head of a pass appends, whether the pass goes on or breaks. -/
def RequestGrows (m : Monitor) : Except Monitor Monitor → Prop
  | .ok m' | .error m' => Grows m m'

theorem RequestGrows.of_grows {m m' : Monitor} {x : Except Monitor Monitor} (h : Grows m m')
    (hx : RequestGrows m' x) : RequestGrows m x := by
  cases x <;> exact h.trans hx

theorem RequestGrows.bind {m : Monitor} {x : Except Monitor Monitor}
    {f : Monitor → Except Monitor Monitor} (hx : RequestGrows m x)
    (hf : ∀ m', Grows m m' → RequestGrows m' (f m')) : RequestGrows m (x >>= f) := by
  cases x with
  | error m' => exact hx
  | ok m' => exact .of_grows hx (hf m' hx)

theorem killSandboxee_grows (ok : Bool) (m : Monitor) : RequestGrows m (killSandboxee c ok m) := by
  unfold killSandboxee
  split
  · exact .of_quiet (show _ = _ ++ [.kill c.mainPid] from rfl) (by simp [Action.resumed])
  · exact .of_quiet (show _ = _ ++ [.kill c.mainPid, .setExitStatusCode .internalError .failedKill]
      by simp) (by simp [Action.resumed])

theorem interruptSandboxee_grows (ok : Bool) (m : Monitor) :
    RequestGrows m (interruptSandboxee c ok m) := by
  unfold interruptSandboxee
  split
  · exact .of_quiet (show _ = _ ++ [.ptraceInterrupt c.mainPid] from rfl) (by simp [Action.resumed])
  · exact .of_quiet (show _ = _ ++ [.ptraceInterrupt c.mainPid,
      .setExitStatusCode .internalError .failedInterrupt] by simp) (by simp [Action.resumed])

/-- The requests at the head of a pass resume no task. -/
theorem loopRequests_grows (p : Pass) (m : Monitor) : RequestGrows m (loopRequests c p m) := by
  unfold loopRequests
  refine .bind ?_ fun m₁ _ => .bind ?_ fun m₂ _ => .bind ?_ fun m₃ _ => ?_
  · split
    · exact .of_grows (.of_log_eq rfl) (killSandboxee_grows c _ _)
    · exact Grows.refl m
  · split
    · exact .of_grows (.of_log_eq rfl) (interruptSandboxee_grows c _ _)
    · exact Grows.refl m₁
  · split
    · exact .of_grows (.of_log_eq rfl) (killSandboxee_grows c _ _)
    · exact Grows.refl m₂
  · split
    · exact .of_grows (.of_log_eq rfl) (killSandboxee_grows c _ _)
    · exact Grows.refl m₃

variable (o : Replies)

/-- The dispatch of what `PidWaiter::Wait` returned resumes only the task it reports, at most
    once, and only when the report is a stop. -/
theorem dispatchWait_grows (w : WaitRet) (m : Monitor) : Grows m (dispatchWait c o w m).1 := by
  unfold dispatchWait
  split
  · exact .refl m
  · dsimp only
    split
    · exact .of_quiet (show _ = _ ++ [.setExitStatusCode .internalError .failedChild] from rfl)
        (by simp [Action.resumed])
    · exact .refl m
  · next pid status =>
    dsimp only
    have hstatus : ∀ {st code}, Grows m ((m.emit (.report pid status)).setExitStatusCode st code) :=
      .of_handler (.of_status rfl) (.inr (by simp [appended, Action.resumed]))
    have hreport : Grows m (m.emit (.report pid status)) :=
      .of_handler (.refl _ _) (.inr (by simp [appended]))
    by_cases hx : wIfExited status = true
    · rw [if_pos hx]
      by_cases hp : (pid == c.mainPid) = true
      · rw [if_pos hp]
        split <;> exact hstatus
      · rw [if_neg hp]
        exact hreport
    rw [if_neg hx]
    by_cases hx : wIfSignaled status = true
    · rw [if_pos hx]
      by_cases hp : (pid == c.mainPid) = true
      · rw [if_pos hp]
        obtain ⟨st, code, hl⟩ := @attributeDeath_log o
          (·.setExitStatusCode .signaled (.code (wTermSig status))) (fun _ => ⟨_, _, rfl⟩) _
        exact .of_handler (.of_status hl) (.inr (by simp [appended, hl, Action.resumed]))
      · rw [if_neg hp]
        exact hreport
    rw [if_neg hx]
    by_cases hs : wIfStopped status = true
    · rw [if_pos hs]
      exact .of_handler (stateProcessStopped_ok c o pid status _) (.inl hs)
    · rw [if_neg hs]
      exact hreport

theorem leaveLoop_grows (sandboxeeExited : Bool) (m : Monitor) :
    Grows m (leaveLoop c sandboxeeExited m).monitor := by
  unfold leaveLoop
  split
  · exact .refl m
  · dsimp only
    split
    · exact .of_quiet (show _ = _ ++ [.kill c.mainPid] from rfl) (by simp [Action.resumed])
    · exact .refl m

theorem mainLoopPass_grows (p : Pass) (m : Monitor) : Grows m (mainLoopPass c p m).monitor := by
  have hr := loopRequests_grows c p m
  unfold mainLoopPass
  split
  · next m₁ heq =>
    rw [heq] at hr
    exact hr.trans (leaveLoop_grows c false m₁)
  · next m₁ heq =>
    rw [heq] at hr
    have hd := dispatchWait_grows c p.replies p.wait m₁
    rcases hdw : dispatchWait c p.replies p.wait m₁ with ⟨m₂, ex⟩
    rw [hdw] at hd
    dsimp only
    split
    · exact hr.trans hd
    · exact hr.trans (hd.trans (leaveLoop_grows c ex m₂))

/-- A pass of the drain resumes only a task it reports at its `PTRACE_EVENT_EXIT` stop. -/
theorem drainPass_grows (logStackTraces deadlinePassed : Bool) (w : WaitRet) (m : Monitor) :
    Grows m (drainPass c logStackTraces deadlinePassed w m).monitor := by
  unfold drainPass
  split
  · exact .refl m
  split
  · exact .refl m
  · exact .refl m
  · next pid status =>
    dsimp only
    have hquiet : ∀ acts : List Action, stopActsOk pid acts = true →
        (∀ a ∈ acts, a.resumed = none) → ∀ {m'}, m'.log = m.log ++ .report pid status :: acts →
          Grows m m' :=
      fun acts hok hno _ hl => .of_block hl (.inr ⟨pid, status, acts, rfl, hok, .inr hno⟩)
    by_cases hend : (!logStackTraces && pid == c.mainPid && (wIfSignaled status || wIfExited status))
        = true
    · rw [if_pos hend]
      exact hquiet [] (by simp [stopActsOk, infoAfterStatus]) (by simp) rfl
    rw [if_neg hend]
    by_cases hs : (wIfStopped status && wPtraceEvent status == ptraceEventExit) = true
    · rw [if_pos hs]
      refine .of_block (show _ = _ ++ [.report pid status, .ptraceCont pid 0] by
        simp [continueProcess]) (.inr ⟨pid, status, _, rfl, ?_, .inl ?_⟩)
      · simp [stopActsOk, infoAfterStatus, Action.reported, Action.resumed, Action.isStatusWrite,
          Action.isInfoWrite]
      · simp only [Bool.and_eq_true] at hs
        exact hs.1
    rw [if_neg hs]
    by_cases hl : (!logStackTraces) = true
    · rw [if_pos hl]
      exact hquiet [.kill c.mainPid] (by simp [stopActsOk, infoAfterStatus, Action.reported,
        Action.resumed, Action.isStatusWrite, Action.isInfoWrite]) (by simp [Action.resumed]) (by simp)
    · rw [if_neg hl]
      exact hquiet [] (by simp [stopActsOk, infoAfterStatus]) (by simp) rfl

theorem setup_grows (signalsOk attachOk : Bool) (m : Monitor) :
    Grows m (setup signalsOk attachOk m).monitor := by
  unfold setup
  split
  · exact .of_quiet (show _ = _ ++ [.setExitStatusCode .setupError .failedSignals] by simp)
      (by simp [Action.resumed])
  split
  · exact .of_quiet (show _ = _ ++ [.setExitStatusCode .setupError .failedPtrace] by simp)
      (by simp [Action.resumed])
  · exact .refl m

theorem step_grows (s : RunState) (e : Event) : Grows s.monitor (step c s e).monitor := by
  unfold step
  split
  · exact setup_grows _ _ _
  · exact mainLoopPass_grows c _ _
  · exact drainPass_grows c _ _ _ _
  · exact .refl _

theorem runFrom_resumesAnswered {s : RunState} (h : ResumesAnswered s.monitor.log)
    (es : List Event) : ResumesAnswered (runFrom c s es).monitor.log := by
  induction es generalizing s with
  | nil => exact h
  | cons e es ih =>
    obtain ⟨acts, hl, ha⟩ := step_grows c s e
    exact ih (by rw [hl]; exact h.append ha)

/-- In every run, the monitor resumes a task only in answer to a ptrace stop of it: before each
    `PTRACE_CONT`, `PTRACE_SYSCALL` or `PTRACE_LISTEN` of a task stands a report by
    `PidWaiter::Wait` of a stop of that task, with no other report or resume of the task in
    between. So the monitor never resumes a task it has not seen stopped, and resumes a task at
    most once per stop, however the stops of its tasks interleave. -/
theorem run_resume_answers_stop (es : List Event) (pre : List Action) (a : Action)
    (post : List Action) (p : Pid) (h : (run c es).monitor.log = pre ++ a :: post)
    (hr : a.resumed = some p) :
    ∃ pre' s mid, pre = pre' ++ .report p s :: mid ∧ wIfStopped s = true ∧
      ∀ b ∈ mid, b.reported ≠ some p ∧ b.resumed ≠ some p :=
  runFrom_resumesAnswered c (s := RunState.init c) (.of_noResume (by simp [RunState.init,
    Monitor.init])) es pre a post p h hr

/-- A run of `Config.sample` in which PID 100 stops at a `getpid` that `Notify` allows. -/
def allowedSyscallRun : List Event :=
  [.setup true true, .pass (.ofWait (.child 100 (stoppedStatus sigtrap ptraceEventSeccomp))
    { Replies.sample with eventMsg := .ok 1 })]

theorem run_resume_answers_stop_allowed :
    (run Config.sample allowedSyscallRun).monitor.log =
      [.report 100 (stoppedStatus sigtrap ptraceEventSeccomp), .eventSyscallTrace ⟨1, 39, [], 100⟩] ++
        [.ptraceCont 100 0] ∧
    ∃ pre' s mid, [Action.report 100 (stoppedStatus sigtrap ptraceEventSeccomp),
        .eventSyscallTrace ⟨1, 39, [], 100⟩] = pre' ++ .report 100 s :: mid ∧
      wIfStopped s = true ∧ ∀ b ∈ mid, b.reported ≠ some 100 ∧ b.resumed ≠ some 100 :=
  ⟨by decide, run_resume_answers_stop Config.sample allowedSyscallRun
    [.report 100 (stoppedStatus sigtrap ptraceEventSeccomp), .eventSyscallTrace ⟨1, 39, [], 100⟩]
    (.ptraceCont 100 0) [] 100 (by decide) rfl⟩

end Sandbox2
