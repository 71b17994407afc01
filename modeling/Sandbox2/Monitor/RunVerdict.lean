import Sandbox2.Monitor.RunInv
import Sandbox2.Monitor.Verdict

/-!
# The verdict of a run

`Run` writes the status once (`run_status_written_once`). This module reads the log around that
write, in every run. A `VIOLATION` is recorded right after `Notify::EventSyscallViolation` of the
syscall the `Result` records, whose number is the reason code, or for a network violation the
proxy reported, at the main PID's end. `OK`, `SIGNALED`, `TIMEOUT` and `EXTERNAL_KILL` are
recorded only in the handling of a report of the main PID's end: its exit, its death by a signal,
or its `PTRACE_EVENT_EXIT` stop; `TIMEOUT` only after a pass saw the deadline, `EXTERNAL_KILL` only
after an external kill was requested. Once the status is written, the monitor no longer calls
`Notify`, interrupts, or resumes a task with `PTRACE_SYSCALL` or `PTRACE_LISTEN`: it only reports,
kills the main PID, records the additional result information, skips a syscall's return, and
continues with no signal a task at its exit stop.

`VerdictInv` is the invariant; `StopVerdict` (`Verdict.lean`) gives each stop's part of it.
-/

namespace Sandbox2

/-! ## Reading the log around the verdict -/

/-- The wait status of a stop at `PTRACE_EVENT_EXIT`. -/
def isExitStop (s : Int) : Bool := wIfStopped s && wPtraceEvent s == ptraceEventExit

/-- The wait status of a report shows the end of its task: an exit, a death by a signal, or its
    `PTRACE_EVENT_EXIT` stop. -/
def endsTask (s : Int) : Bool := wIfExited s || wIfSignaled s || isExitStop s

/-- The last report in `pre` is a report of the main PID's end. -/
def MainEndLast (c : Config) (pre : List Action) : Prop :=
  ∃ pre' s mid, pre = pre' ++ .report c.mainPid s :: mid ∧ (∀ a ∈ mid, a.reported = none) ∧
    endsTask s = true

/-- The last report of `l`, or `last` if `l` has none. -/
def lastReport (last : Option (Pid × Int)) : List Action → Option (Pid × Int)
  | [] => last
  | .report p s :: l => lastReport (some (p, s)) l
  | _ :: l => lastReport last l

/-- What the monitor may do once the verdict is in, reading each `PTRACE_CONT` against `last`, the
    last report before it: report, kill the main PID, record the additional result information,
    skip a syscall's return, and continue with no signal a task whose last report is its exit
    stop. -/
def afterVerdictOk (mainPid : Pid) : Option (Pid × Int) → List Action → Bool
  | _, [] => true
  | _, .report p s :: l => afterVerdictOk mainPid (some (p, s)) l
  | last, .ptraceCont p sig :: l =>
    sig == 0 && last.any (fun r => r.1 == p && isExitStop r.2) && afterVerdictOk mainPid last l
  | last, .kill p :: l => p == mainPid && afterVerdictOk mainPid last l
  | last, .setAdditionalResultInfo _ :: l => afterVerdictOk mainPid last l
  | last, .skipSyscallReturnValue _ :: l => afterVerdictOk mainPid last l
  | _, _ :: _ => false

theorem lastReport_append (last : Option (Pid × Int)) (l l' : List Action) :
    lastReport last (l ++ l') = lastReport (lastReport last l) l' := by
  induction l generalizing last with
  | nil => rfl
  | cons a l ih => cases a <;> exact ih _

theorem lastReport_of_noReport (last : Option (Pid × Int)) {l : List Action}
    (h : ∀ a ∈ l, a.reported = none) : lastReport last l = last := by
  induction l with
  | nil => rfl
  | cons a l ih =>
    simp only [List.mem_cons, forall_eq_or_imp] at h
    cases a <;> first | exact ih h.2 | cases h.1

theorem afterVerdictOk_append (mainPid : Pid) (last : Option (Pid × Int)) (l l' : List Action) :
    afterVerdictOk mainPid last (l ++ l') =
      (afterVerdictOk mainPid last l && afterVerdictOk mainPid (lastReport last l) l') := by
  induction l generalizing last with
  | nil => rfl
  | cons a l ih => cases a <;> simp [afterVerdictOk, lastReport, ih, Bool.and_assoc]

/-- What a stop's handler may do after the write, read after the report of that stop. -/
theorem afterVerdictOk_of_tailOk (mainPid pid : Pid) {s : Int} {after : List Action}
    (hs : wIfStopped s = true) (h : after.all (tailOk pid (wPtraceEvent s == ptraceEventExit)) = true) :
    afterVerdictOk mainPid (some (pid, s)) after = true := by
  induction after with
  | nil => rfl
  | cons a after ih =>
    simp only [List.all_cons, Bool.and_eq_true] at h
    cases a <;> first | exact ih h.2 | cases h.1 | skip
    case ptraceCont q sig => simp_all [tailOk, afterVerdictOk, isExitStop]

/-- Why a run may record `(st, code)`, with `pre` before the write in the log and `m` the
    monitor now. -/
def RunCause (c : Config) (m : Monitor) (pre : List Action) : FinalStatus → ReasonCode → Prop
  | .violation, code =>
    (∃ pre' sc v, pre = pre' ++ [.eventSyscallViolation sc v] ∧ code = .code sc.nr ∧
      m.result.syscall = some sc) ∨
    (code = .violationNetwork ∧ m.networkViolation = true ∧ MainEndLast c pre)
  | .ok, _ | .signaled, _ => MainEndLast c pre
  | .timeout, _ => m.timedOut = true ∧ MainEndLast c pre
  | .externalKill, _ => m.externalKill = true ∧ MainEndLast c pre
  | .setupError, code =>
    code = .failedSignals ∨ code = .failedPtrace ∨ (code = .failedMonitor ∧ MainEndLast c pre)
  | .internalError, _ => True
  | .unset, _ => False

/-- A cause depends on the monitor only through its flags and the recorded syscall. -/
theorem RunCause.congr {c : Config} {m m' : Monitor} {pre : List Action} {st : FinalStatus}
    {code : ReasonCode} (hf : m'.flags = m.flags) (hs : m'.result.syscall = m.result.syscall)
    (h : RunCause c m pre st code) : RunCause c m' pre st code := by
  simp only [Monitor.flags, Prod.mk.injEq] at hf
  obtain ⟨ht, hk, hn⟩ := hf
  cases st <;> simp_all [RunCause]

/-- A stop's cause, read in the log with the stop's report in front. -/
theorem StopCause.runCause {c : Config} {pid : Pid} {status : Int} {before l : List Action}
    {m : Monitor} {st : FinalStatus} {code : ReasonCode} (hs : wIfStopped status = true)
    (hno : ∀ a ∈ before, a.reported = none)
    (h : StopCause c pid (wPtraceEvent status == ptraceEventExit) before m st code) :
    RunCause c m (l ++ .report pid status :: before) st code := by
  have hend : pid = c.mainPid → (wPtraceEvent status == ptraceEventExit) = true →
      MainEndLast c (l ++ .report pid status :: before) := fun hp he =>
    ⟨l, status, before, by rw [hp], hno, by simp_all [endsTask, isExitStop]⟩
  cases st with
  | internalError => trivial
  | violation =>
    rcases h with ⟨pre, sc, v, rfl, hc, hsc⟩ | ⟨hp, he, hc, hn⟩
    · exact .inl ⟨l ++ .report pid status :: pre, sc, v, by simp, hc, hsc⟩
    · exact .inr ⟨hc, hn, hend hp he⟩
  | ok | signaled => exact hend h.1 h.2
  | timeout | externalKill => exact ⟨h.2.2, hend h.1 h.2.1⟩
  | unset | setupError => exact h.elim

/-- Every status write in the log has its cause, and what follows it is what the monitor may do
    once the verdict is in. -/
def VerdictInv (c : Config) (m : Monitor) : Prop :=
  ∀ pre st code post, m.log = pre ++ .setExitStatusCode st code :: post →
    RunCause c m pre st code ∧ afterVerdictOk c.mainPid (lastReport none pre) post = true

/-- Two ways of cutting a log with at most one status write at a status write are one. -/
theorem eq_of_status_split {l a b a' b' : List Action} {x y : Action} (h : statusWrites l ≤ 1)
    (h1 : l = a ++ x :: b) (h2 : l = a' ++ y :: b') (hx : x.isStatusWrite = true)
    (hy : y.isStatusWrite = true) : a = a' ∧ x = y ∧ b = b' := by
  subst h1
  rcases List.append_eq_append_iff.1 h2 with ⟨m, rfl, hm⟩ | ⟨m, rfl, hm⟩
  · cases m with
    | nil => simp only [List.nil_append, List.cons.injEq] at hm; exact ⟨by simp, hm⟩
    | cons z m =>
      obtain ⟨rfl, rfl⟩ := List.cons.inj hm
      simp [hx, hy] at h
      omega
  · cases m with
    | nil => simp only [List.nil_append, List.cons.injEq] at hm; exact ⟨by simp, hm.1.symm, hm.2.symm⟩
    | cons z m =>
      obtain ⟨rfl, rfl⟩ := List.cons.inj hm
      simp [hx, hy] at h
      omega

theorem statusWrites_pos_of_split {l pre post : List Action} {st : FinalStatus}
    {code : ReasonCode} (h : l = pre ++ .setExitStatusCode st code :: post) : 0 < statusWrites l := by
  simp [h, Action.isStatusWrite]

namespace VerdictInv

variable {c : Config} {m m' : Monitor}

theorem of_noStatus (h : statusWrites m.log = 0) : VerdictInv c m := fun _ _ _ _ hl =>
  absurd (statusWrites_pos_of_split hl) (by omega)

/-- The step that writes the status: a log without one, extended by actions that write it for a
    cause, followed by what may follow it. -/
theorem of_write (hone : statusWrites m'.log ≤ 1) {before after : List Action} {st : FinalStatus}
    {code : ReasonCode} (hl : m'.log = m.log ++ (before ++ .setExitStatusCode st code :: after))
    (hc : RunCause c m' (m.log ++ before) st code)
    (ha : afterVerdictOk c.mainPid (lastReport none (m.log ++ before)) after = true) :
    VerdictInv c m' := by
  intro pre st' code' post hl'
  have h1 : m'.log = (m.log ++ before) ++ .setExitStatusCode st code :: after := by
    rw [hl, List.append_assoc]
  obtain ⟨rfl, he, rfl⟩ := eq_of_status_split hone h1 hl' rfl rfl
  cases he
  exact ⟨hc, ha⟩

/-- A step that writes no status, keeps the flags and the recorded syscall, and appends only what
    may follow a verdict. -/
theorem of_append (h : VerdictInv c m) {acts : List Action} (hl : m'.log = m.log ++ acts)
    (hw : statusWrites acts = 0) (hf : m'.flags = m.flags)
    (hs : m'.result.syscall = m.result.syscall)
    (ha : ∀ last, afterVerdictOk c.mainPid last acts = true) : VerdictInv c m' := by
  intro pre st code post hl'
  rw [hl] at hl'
  rcases List.append_eq_append_iff.1 hl' with ⟨mid, rfl, hmid⟩ | ⟨mid, hpre, hpost⟩
  · exact absurd (statusWrites_pos_of_split hmid) (by omega)
  · cases mid with
    | nil =>
      have hacts : acts = [] ++ .setExitStatusCode st code :: post := by simpa using hpost.symm
      exact absurd (statusWrites_pos_of_split hacts) (by omega)
    | cons y mid =>
      obtain ⟨rfl, rfl⟩ := List.cons.inj hpost
      obtain ⟨hc, hok⟩ := h pre st code mid (by simpa using hpre)
      exact ⟨hc.congr hf hs, by rw [List.append_eq, afterVerdictOk_append, hok, ha]; rfl⟩

end VerdictInv

/-! ## The flags of the main loop's requests -/

/-- `m'` has set no flag `m` lacks but those the pass `p` asked for. -/
def FlagsFrom (c : Config) (p : Pass) (m m' : Monitor) : Prop :=
  (m'.timedOut = true → m.timedOut = true ∨ p.deadlinePassed = true) ∧
  (m'.externalKill = true → m.externalKill = true ∨ p.killRequested = true) ∧
  (m'.networkViolation = true → m.networkViolation = true ∨
    (c.hasNetworkProxy = true ∧ p.proxyViolation = true))

namespace FlagsFrom

variable {c : Config} {p : Pass} {m m' m'' : Monitor}

theorem of_flags (h : m'.flags = m.flags) : FlagsFrom c p m m' := by
  simp only [Monitor.flags, Prod.mk.injEq] at h
  obtain ⟨ht, hk, hn⟩ := h
  exact ⟨fun h => .inl (ht ▸ h), fun h => .inl (hk ▸ h), fun h => .inl (hn ▸ h)⟩

theorem trans (h : FlagsFrom c p m m') (h' : FlagsFrom c p m' m'') : FlagsFrom c p m m'' :=
  ⟨fun ht => (h'.1 ht).elim h.1 .inr, fun hk => (h'.2.1 hk).elim h.2.1 .inr,
    fun hn => (h'.2.2 hn).elim h.2.2 .inr⟩

end FlagsFrom

/-- What a request at the head of a pass does, for the verdict: it goes on after actions that
    keep the result, or breaks after them by recording an internal error; either way it sets
    only the flags the pass asked for. -/
def RequestVerdict (c : Config) (p : Pass) (m : Monitor) : Except Monitor Monitor → Prop
  | .ok m' => Keeps m m' ∧ FlagsFrom c p m m'
  | .error m' => ∃ m'' code, Keeps m m'' ∧ FlagsFrom c p m m'' ∧
      m' = m''.setExitStatusCode .internalError code

theorem RequestVerdict.bind {c : Config} {p : Pass} {m : Monitor} {x : Except Monitor Monitor}
    {f : Monitor → Except Monitor Monitor} (hx : RequestVerdict c p m x)
    (hf : ∀ m', Keeps m m' → FlagsFrom c p m m' → RequestVerdict c p m' (f m')) :
    RequestVerdict c p m (x >>= f) := by
  cases x with
  | error m' => exact hx
  | ok m' =>
    obtain ⟨hk, hfl⟩ := hx
    show RequestVerdict c p m (f m')
    cases hfx : f m' with
    | ok m'' =>
      have h := hf m' hk hfl
      rw [hfx] at h
      exact ⟨hk.trans h.1, hfl.trans h.2⟩
    | error m'' =>
      have h := hf m' hk hfl
      rw [hfx] at h
      obtain ⟨m₃, code, hk₃, hf₃, rfl⟩ := h
      exact ⟨m₃, code, hk.trans hk₃, hfl.trans hf₃, rfl⟩

variable (c : Config)

/-- `KillSandboxee` and `InterruptSandboxee` from a monitor whose flags the pass asked for. -/
theorem killSandboxee_verdict {p : Pass} {m₀ m : Monitor} (ok : Bool) (hk : Keeps m₀ m)
    (hf : FlagsFrom c p m₀ m) : RequestVerdict c p m₀ (killSandboxee c ok m) := by
  unfold killSandboxee
  split
  · exact ⟨hk.trans (.emit (Action.quiet_kill _)), hf.trans (.of_flags rfl)⟩
  · exact ⟨_, _, hk.trans (.emit (Action.quiet_kill _)), hf.trans (.of_flags rfl), rfl⟩

theorem interruptSandboxee_verdict {p : Pass} {m₀ m : Monitor} (ok : Bool) (hk : Keeps m₀ m)
    (hf : FlagsFrom c p m₀ m) : RequestVerdict c p m₀ (interruptSandboxee c ok m) := by
  unfold interruptSandboxee
  split
  · exact ⟨hk.trans (.emit (Action.quiet_ptraceInterrupt _)), hf.trans (.of_flags rfl)⟩
  · exact ⟨_, _, hk.trans (.emit (Action.quiet_ptraceInterrupt _)), hf.trans (.of_flags rfl),
      rfl⟩

/-- The requests at the top of a pass (`monitor_ptrace.cc:295-326`) set a flag only when the pass
    asked for it, and break only after recording an internal error. -/
theorem loopRequests_verdict (p : Pass) (m : Monitor) :
    RequestVerdict c p m (loopRequests c p m) := by
  have hk : ∀ {m m' : Monitor}, m'.log = m.log → m'.result = m.result →
      m'.waitForExecve = m.waitForExecve → m'.execSeen = m.execSeen → Keeps m m' :=
    fun hl hr hx he => ⟨⟨[], by simp [hl], .of_quiet (by simp), rfl⟩, hr, hx, he⟩
  have hpure : ∀ m : Monitor, RequestVerdict c p m (pure m) := fun m => ⟨.refl m, .of_flags rfl⟩
  unfold loopRequests
  refine .bind ?_ fun m₁ _ _ => .bind ?_ fun m₂ _ _ => .bind ?_ fun m₃ _ _ => ?_
  · split
    · next hd =>
      refine killSandboxee_verdict c _ ?_ ⟨fun _ => .inr hd, .inl, .inl⟩
      exact hk rfl rfl rfl rfl
    · exact hpure m
  · split
    · refine interruptSandboxee_verdict c _ ?_ (.of_flags rfl)
      exact hk rfl rfl rfl rfl
    · exact hpure m₁
  · split
    · next hd =>
      refine killSandboxee_verdict c _ ?_ ⟨.inl, fun _ => .inr hd, .inl⟩
      exact hk rfl rfl rfl rfl
    · exact hpure m₂
  · split
    · next hd =>
      simp only [Bool.and_eq_true] at hd
      refine killSandboxee_verdict c _ ?_ ⟨.inl, .inl, fun _ => .inr hd.1⟩
      exact hk rfl rfl rfl rfl
    · exact hpure m₃

/-- Leaving the main loop kills at most the main PID, and keeps the flags. -/
theorem leaveLoop_after (sandboxeeExited : Bool) (m : Monitor) :
    ∃ acts, (leaveLoop c sandboxeeExited m).monitor.log = m.log ++ acts ∧
      (∀ last, afterVerdictOk c.mainPid last acts = true) ∧
      (leaveLoop c sandboxeeExited m).monitor.flags = m.flags := by
  unfold leaveLoop
  split
  · exact ⟨[], by simp, fun _ => rfl, rfl⟩
  · dsimp only
    split
    · exact ⟨[.kill c.mainPid], rfl, fun _ => by simp [afterVerdictOk], rfl⟩
    · exact ⟨[], by simp, fun _ => rfl, rfl⟩

/-- A pass of the drain reports, and then continues a task only at its exit stop, or kills the
    main PID. -/
theorem drainPass_after (logStackTraces deadlinePassed : Bool) (w : WaitRet) (m : Monitor) :
    ∃ acts, (drainPass c logStackTraces deadlinePassed w m).monitor.log = m.log ++ acts ∧
      (∀ last, afterVerdictOk c.mainPid last acts = true) ∧
      (drainPass c logStackTraces deadlinePassed w m).monitor.flags = m.flags := by
  unfold drainPass
  split
  · exact ⟨[], by simp, fun _ => rfl, rfl⟩
  split
  · exact ⟨[], by simp, fun _ => rfl, rfl⟩
  · exact ⟨[], by simp, fun _ => rfl, rfl⟩
  · next pid status =>
    dsimp only
    split
    · exact ⟨[.report pid status], rfl, fun _ => rfl, rfl⟩
    split
    · next hx =>
      refine ⟨[.report pid status, .ptraceCont pid 0], by simp [continueProcess], fun _ => ?_, rfl⟩
      simpa [afterVerdictOk, isExitStop] using hx
    split
    · exact ⟨[.report pid status, .kill c.mainPid], by simp, fun _ => by simp [afterVerdictOk], rfl⟩
    · exact ⟨[.report pid status], rfl, fun _ => rfl, rfl⟩

variable (o : Replies)

/-- What `Run`'s dispatch of a wait result appends (`monitor_ptrace.cc:328-392`): no status write,
    or one for a cause `RunCause` names, followed only by what may follow a verdict. It keeps
    the flags. -/
theorem dispatchWait_verdict (w : WaitRet) (m : Monitor) :
    (dispatchWait c o w m).1.flags = m.flags ∧
    ∃ acts, (dispatchWait c o w m).1.log = m.log ++ acts ∧ (statusWrites acts = 0 ∨
      ∃ before st code after, acts = before ++ .setExitStatusCode st code :: after ∧
        RunCause c (dispatchWait c o w m).1 (m.log ++ before) st code ∧
        afterVerdictOk c.mainPid (lastReport none (m.log ++ before)) after = true) := by
  unfold dispatchWait
  split
  · exact ⟨rfl, [], by simp, .inl rfl⟩
  · dsimp only
    split
    · exact ⟨rfl, _, rfl, .inr ⟨[], _, _, [], rfl, trivial, rfl⟩⟩
    · exact ⟨rfl, [], by simp, .inl rfl⟩
  · next pid status =>
    dsimp only
    have hend : pid = c.mainPid → endsTask status = true →
        MainEndLast c (m.log ++ [.report pid status]) := fun hp he =>
      ⟨m.log, status, [], by rw [hp], by simp, he⟩
    by_cases hx : wIfExited status = true
    · rw [if_pos hx]
      by_cases hp : (pid == c.mainPid) = true
      · rw [if_pos hp]
        have hm := hend (beq_iff_eq.1 hp) (by rw [endsTask, hx]; rfl)
        by_cases ha : (m.emit (.report pid status)).isActivelyMonitoring = true
        · rw [if_pos ha]
          exact ⟨rfl, [.report pid status, .setExitStatusCode .ok (.code (wExitStatus status))],
            List.append_assoc _ _ _, .inr ⟨[.report pid status], .ok, _, [], rfl, hm, rfl⟩⟩
        · rw [if_neg ha]
          exact ⟨rfl, [.report pid status, .setExitStatusCode .setupError .failedMonitor],
            List.append_assoc _ _ _,
            .inr ⟨[.report pid status], .setupError, .failedMonitor, [], rfl,
              Or.inr (Or.inr ⟨rfl, hm⟩), rfl⟩⟩
      · rw [if_neg hp]
        exact ⟨rfl, _, rfl, .inl rfl⟩
    rw [if_neg hx]
    by_cases hx : wIfSignaled status = true
    · rw [if_pos hx]
      by_cases hp : (pid == c.mainPid) = true
      · rw [if_pos hp]
        have hm := hend (beq_iff_eq.1 hp) (by rw [endsTask, hx, Bool.or_true]; rfl)
        obtain ⟨st, code, hl, hf, hst⟩ := attributeDeath_verdict o
          (·.setExitStatusCode .signaled (.code (wTermSig status))) (P := (· = .signaled))
          (m := m.emit (.report pid status)) ⟨_, _, rfl, rfl, rfl⟩
        refine ⟨hf, [.report pid status, .setExitStatusCode st code], by rw [hl]; simp,
          .inr ⟨[.report pid status], st, code, [], rfl, ?_, rfl⟩⟩
        simp only [Monitor.flags, Monitor.emit, Prod.mk.injEq] at hf
        obtain ⟨ht, hk, hn⟩ := hf
        rcases hst with ⟨rfl, rfl, h⟩ | ⟨rfl, h⟩ | ⟨rfl, h⟩ | rfl
        · exact .inr ⟨rfl, hn.trans h, hm⟩
        · exact ⟨hk.trans h, hm⟩
        · exact ⟨ht.trans h, hm⟩
        · exact hm
      · rw [if_neg hp]
        exact ⟨rfl, _, rfl, .inl rfl⟩
    rw [if_neg hx]
    by_cases hs : wIfStopped status = true
    · rw [if_pos hs]
      obtain ⟨hf, acts, hl, hacts⟩ := stateProcessStopped_verdict c o pid status
        (m.emit (.report pid status))
      have hok := (stateProcessStopped_ok c o pid status (m.emit (.report pid status))).2
      have happ : appended (m.emit (.report pid status))
          (stateProcessStopped c o pid status (m.emit (.report pid status))) = acts := by
        rw [appended, hl, List.drop_left]
      rw [happ] at hok
      have hno := stopActsOk_noReport hok
      refine ⟨hf, .report pid status :: acts, by rw [hl, Monitor.emit_log, List.append_assoc]; rfl, ?_⟩
      rcases hacts with hw | ⟨before, st, code, after, rfl, hc, ht⟩
      · exact .inl (by simpa [Action.isStatusWrite] using hw)
      · have hnob : ∀ a ∈ before, a.reported = none := fun a ha => hno a (by simp [ha])
        refine .inr ⟨.report pid status :: before, st, code, after, rfl, hc.runCause hs hnob, ?_⟩
        rw [lastReport_append, lastReport, lastReport_of_noReport _ hnob]
        exact afterVerdictOk_of_tailOk c.mainPid pid hs ht
    · rw [if_neg hs]
      exact ⟨rfl, _, rfl, .inl rfl⟩

/-! ## Every run -/

/-- Set-up records only its own failures. -/
theorem setup_verdict {m : Monitor} (h : RunInv c ⟨m, .setup⟩) (signalsOk attachOk : Bool) :
    VerdictInv c (setup signalsOk attachOk m).monitor := by
  have hinv := (h.setup signalsOk attachOk).inv
  have h0 : statusWrites m.log = 0 := h.sound.unset_iff.1 (h.running.1 rfl)
  revert hinv
  unfold setup
  split
  · intro hinv
    have hl : (m.setExitStatusCode .setupError .failedSignals).log =
        m.log ++ ([] ++ .setExitStatusCode .setupError .failedSignals :: []) := by simp
    exact .of_write hinv.statusOnce hl (Or.inl rfl) rfl
  split
  · intro hinv
    have hl : (m.setExitStatusCode .setupError .failedPtrace).log =
        m.log ++ ([] ++ .setExitStatusCode .setupError .failedPtrace :: []) := by simp
    exact .of_write hinv.statusOnce hl (Or.inr (Or.inl rfl)) rfl
  · exact fun _ => .of_noStatus h0

/-- A pass of the main loop keeps `VerdictInv`: its requests break only after an internal error,
    and its dispatch writes a status only for a cause. -/
theorem mainLoopPass_verdict {m : Monitor} (h : RunInv c ⟨m, .loop⟩) (p : Pass) :
    VerdictInv c (mainLoopPass c p m).monitor := by
  have hinv := (h.mainLoopPass p).inv
  have h0 : statusWrites m.log = 0 := h.sound.unset_iff.1 (h.running.1 rfl)
  have hr := loopRequests_verdict c p m
  revert hinv
  unfold mainLoopPass
  split
  · next m₁ heq =>
    intro hinv
    rw [heq] at hr
    obtain ⟨m₂, code, hk, -, rfl⟩ := hr
    obtain ⟨acts₁, hl₁, -, -⟩ := hk.log
    obtain ⟨acts₃, hl₃, ha₃, -⟩ := leaveLoop_after c false (m₂.setExitStatusCode .internalError code)
    have hl : (leaveLoop c false (m₂.setExitStatusCode .internalError code)).monitor.log =
        m.log ++ (acts₁ ++ .setExitStatusCode .internalError code :: acts₃) := by simp [hl₃, hl₁]
    exact .of_write hinv.statusOnce hl trivial (ha₃ _)
  · next m₁ heq =>
    intro hinv
    rw [heq] at hr
    obtain ⟨acts₁, hl₁, -, hw₁⟩ := hr.1.log
    obtain ⟨hf₂, acts₂, hl₂, hacts⟩ := dispatchWait_verdict c p.replies p.wait m₁
    rcases hd : dispatchWait c p.replies p.wait m₁ with ⟨m₂, ex⟩
    rw [hd] at hf₂ hl₂ hacts hinv
    dsimp only at hf₂ hl₂ hacts hinv ⊢
    have key : ∀ {m' : Monitor} {acts₃ : List Action}, statusWrites m'.log ≤ 1 →
        m'.log = m₂.log ++ acts₃ → statusWrites acts₃ = 0 →
        (∀ last, afterVerdictOk c.mainPid last acts₃ = true) → m'.flags = m₂.flags →
        m'.result.syscall = m₂.result.syscall → VerdictInv c m' := by
      intro m' acts₃ hone hl₃ hw₃ ha₃ hf₃ hs₃
      rcases hacts with hw₂ | ⟨before, st, code, after, rfl, hc, ha⟩
      · exact .of_noStatus (by simp [hl₃, hl₂, hl₁, h0, hw₁, hw₂, hw₃])
      · have hl : m'.log = m.log ++ ((acts₁ ++ before) ++ .setExitStatusCode st code ::
            (after ++ acts₃)) := by simp [hl₃, hl₂, hl₁]
        refine .of_write hone hl ?_ ?_
        · rw [← List.append_assoc, ← hl₁]; exact hc.congr hf₃ hs₃
        · rw [← List.append_assoc, ← hl₁, afterVerdictOk_append, ha, ha₃]; rfl
    by_cases hst : (m₂.result.finalStatus == .unset) = true
    · rw [if_pos hst] at hinv ⊢
      exact key hinv.statusOnce (List.append_nil _).symm rfl (fun _ => rfl) rfl rfl
    · rw [if_neg hst] at hinv ⊢
      obtain ⟨acts₃, hl₃, ha₃, hf₃⟩ := leaveLoop_after c ex m₂
      obtain ⟨⟨acts₃', hl₃', -, hw₃⟩, hr₃, -, -⟩ := leaveLoop_keeps c ex m₂
      rw [hl₃'] at hl₃
      obtain rfl := List.append_cancel_left hl₃
      exact key hinv.statusOnce hl₃' hw₃ ha₃ hf₃ (by rw [hr₃])

/-- A pass of the drain writes no status and does only what may follow a verdict. -/
theorem drainPass_verdict {m : Monitor} (hv : VerdictInv c m) (logStackTraces deadlinePassed : Bool)
    (w : WaitRet) : VerdictInv c (drainPass c logStackTraces deadlinePassed w m).monitor := by
  obtain ⟨acts, hl, ha, hf⟩ := drainPass_after c logStackTraces deadlinePassed w m
  obtain ⟨⟨acts', hl', -, hw⟩, hr, -, -⟩ := drainPass_keeps c logStackTraces deadlinePassed w m
  rw [hl'] at hl
  obtain rfl := List.append_cancel_left hl
  exact hv.of_append hl' hw hf (by rw [hr]) ha

/-- The step lemma: every step keeps `VerdictInv`. -/
theorem VerdictInv.step {s : RunState} (h : RunInv c s) (hv : VerdictInv c s.monitor) (e : Event) :
    VerdictInv c (Sandbox2.step c s e).monitor := by
  obtain ⟨m, ph⟩ := s
  cases ph <;> cases e
  all_goals first
    | exact hv
    | exact setup_verdict c h _ _
    | exact mainLoopPass_verdict c h _
    | exact drainPass_verdict c hv _ _ _

/-- The run lemma: `VerdictInv` holds after every sequence of events. -/
theorem runFrom_verdict {s : RunState} (h : RunInv c s) (hv : VerdictInv c s.monitor)
    (es : List Event) : VerdictInv c (runFrom c s es).monitor := by
  induction es generalizing s with
  | nil => exact hv
  | cons e es ih => exact ih (h.step e).inv (hv.step c h e)

theorem run_verdict (es : List Event) : VerdictInv c (run c es).monitor :=
  runFrom_verdict c (.init c) (.of_noStatus rfl) es

/-! ## The flags of a run -/

/-- The flags set in a run, each by a pass of `es` that asked for it. -/
def FlagsBy (c : Config) (es : List Event) (m : Monitor) : Prop :=
  (m.timedOut = true → ∃ p, .pass p ∈ es ∧ p.deadlinePassed = true) ∧
  (m.externalKill = true → ∃ p, .pass p ∈ es ∧ p.killRequested = true) ∧
  (m.networkViolation = true → c.hasNetworkProxy = true ∧ ∃ p, .pass p ∈ es ∧ p.proxyViolation = true)

theorem FlagsBy.step {es : List Event} {m m' : Monitor} {e : Event} (h : FlagsBy c es m)
    (hf : ∀ p, e = .pass p → FlagsFrom c p m m') (hk : (∀ p, e ≠ .pass p) → m'.flags = m.flags) :
    FlagsBy c (es ++ [e]) m' := by
  have hmem : ∀ {p}, Event.pass p ∈ es → Event.pass p ∈ es ++ [e] := List.mem_append_left _
  obtain ⟨ht, hk', hn⟩ := h
  by_cases he : ∃ p, e = .pass p
  · obtain ⟨p, rfl⟩ := he
    obtain ⟨ft, fk, fn⟩ := hf p rfl
    have hp : Event.pass p ∈ es ++ [.pass p] := by simp
    refine ⟨fun h => ?_, fun h => ?_, fun h => ?_⟩
    · exact (ft h).elim (fun h => (ht h).imp fun _ hq => ⟨hmem hq.1, hq.2⟩) fun hd => ⟨p, hp, hd⟩
    · exact (fk h).elim (fun h => (hk' h).imp fun _ hq => ⟨hmem hq.1, hq.2⟩) fun hd => ⟨p, hp, hd⟩
    · exact (fn h).elim (fun h => (hn h).imp id fun ⟨q, hq, hq'⟩ => ⟨q, hmem hq, hq'⟩)
        fun hd => ⟨hd.1, p, hp, hd.2⟩
  · have hfl := hk fun p hp => he ⟨p, hp⟩
    simp only [Monitor.flags, Prod.mk.injEq] at hfl
    obtain ⟨et, ek, en⟩ := hfl
    refine ⟨fun h => ?_, fun h => ?_, fun h => ?_⟩
    · exact (ht (et ▸ h)).imp fun _ hq => ⟨hmem hq.1, hq.2⟩
    · exact (hk' (ek ▸ h)).imp fun _ hq => ⟨hmem hq.1, hq.2⟩
    · exact (hn (en ▸ h)).imp id fun ⟨q, hq, hq'⟩ => ⟨q, hmem hq, hq'⟩

/-- A pass of the main loop sets only the flags it asked for. -/
theorem mainLoopPass_flags (p : Pass) (m : Monitor) : FlagsFrom c p m (mainLoopPass c p m).monitor := by
  have hr := loopRequests_verdict c p m
  unfold mainLoopPass
  split
  · next m₁ heq =>
    rw [heq] at hr
    obtain ⟨m₂, code, -, hf, rfl⟩ := hr
    exact hf.trans (.of_flags ((leaveLoop_after c false _).choose_spec.2.2))
  · next m₁ heq =>
    rw [heq] at hr
    have hf₂ := (dispatchWait_verdict c p.replies p.wait m₁).1
    rcases hd : dispatchWait c p.replies p.wait m₁ with ⟨m₂, ex⟩
    rw [hd] at hf₂
    dsimp only at hf₂ ⊢
    split
    · exact hr.2.trans (.of_flags hf₂)
    · exact hr.2.trans (.of_flags (((leaveLoop_after c ex m₂).choose_spec.2.2).trans hf₂))

theorem setup_flags (signalsOk attachOk : Bool) (m : Monitor) :
    (setup signalsOk attachOk m).monitor.flags = m.flags := by
  unfold setup; split <;> (try split) <;> rfl

/-- One step sets only the flags its event asked for. -/
theorem FlagsBy.of_step {es : List Event} {s : RunState} (h : FlagsBy c es s.monitor) (e : Event) :
    FlagsBy c (es ++ [e]) (Sandbox2.step c s e).monitor := by
  obtain ⟨m, ph⟩ := s
  refine FlagsBy.step c h (fun p hp => ?_) fun hne => ?_
  · subst hp
    cases ph
    case loop => exact mainLoopPass_flags c p m
    all_goals exact .of_flags rfl
  · cases ph <;> cases e
    all_goals first
      | rfl
      | exact absurd rfl (hne _)
      | exact setup_flags _ _ m
      | exact (drainPass_after c _ _ _ m).choose_spec.2.2

theorem runFrom_flagsBy {es₀ : List Event} {s : RunState} (h : FlagsBy c es₀ s.monitor)
    (es : List Event) : FlagsBy c (es₀ ++ es) (runFrom c s es).monitor := by
  induction es generalizing es₀ s with
  | nil => simpa using h
  | cons e es ih => simpa using ih (h.of_step c e)

/-- Every flag of a run was asked for by one of its passes. -/
theorem run_flagsBy (es : List Event) : FlagsBy c es (run c es).monitor := by
  simpa using runFrom_flagsBy c (s := .init c)
    (by simp [FlagsBy, RunState.init, Monitor.init] : FlagsBy c [] _) es

end Sandbox2
