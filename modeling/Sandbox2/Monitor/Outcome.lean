import Sandbox2.Monitor.RunVerdict
import Sandbox2.Monitor.Seccomp

/-!
# What the outcome of a run rests on

The consequences of `VerdictInv` and `FlagsBy` for every run of `Run`
(`monitor_ptrace.cc:264-450`). A `VIOLATION` is never recorded without its reason: the syscall
`Notify::EventSyscallViolation` was just told about, or a network violation the proxy reported.
`OK`, `SIGNALED`, `TIMEOUT` and `EXTERNAL_KILL` are recorded only in the handling of a report of
the main PID's end. Once the status is written, the monitor no longer lets any task run on but
to its exit.
-/

namespace Sandbox2

/-- What the monitor may do once the verdict is in, one action at a time. -/
theorem afterVerdictOk_mem {mainPid : Pid} {last : Option (Pid × Int)} {l : List Action}
    (h : afterVerdictOk mainPid last l = true) {a : Action} (ha : a ∈ l) :
    (∃ p s, a = .report p s) ∨ a = .kill mainPid ∨ (∃ p, a = .ptraceCont p 0) ∨
      (∃ p, a = .setAdditionalResultInfo p) ∨ ∃ p, a = .skipSyscallReturnValue p := by
  induction l generalizing last with
  | nil => exact absurd ha (List.not_mem_nil a)
  | cons b l ih =>
    rcases List.mem_cons.1 ha with rfl | hmem
    · cases a <;> simp only [afterVerdictOk, Bool.and_eq_true, beq_iff_eq, Bool.false_eq_true] at h
      case report p s => exact .inl ⟨p, s, rfl⟩
      case kill p => exact .inr (.inl (by rw [h.1]))
      case ptraceCont p sig => exact .inr (.inr (.inl ⟨p, by rw [h.1.1]⟩))
      case setAdditionalResultInfo p => exact .inr (.inr (.inr (.inl ⟨p, rfl⟩)))
      case skipSyscallReturnValue p => exact .inr (.inr (.inr (.inr ⟨p, rfl⟩)))
    · clear ha
      cases b <;> simp only [afterVerdictOk, Bool.and_eq_true, Bool.false_eq_true] at h <;>
        first | exact ih h hmem | exact ih h.2 hmem

/-- Once the verdict is in, a `PTRACE_CONT` carries no signal and resumes a task whose last report
    is its exit stop. -/
theorem afterVerdictOk_cont {mainPid p : Pid} {sig : Int} {last : Option (Pid × Int)}
    {l₁ l₂ : List Action} (h : afterVerdictOk mainPid last (l₁ ++ .ptraceCont p sig :: l₂) = true) :
    sig = 0 ∧ ∃ s, lastReport last l₁ = some (p, s) ∧ isExitStop s = true := by
  rw [afterVerdictOk_append] at h
  simp only [afterVerdictOk, Bool.and_eq_true, beq_iff_eq] at h
  obtain ⟨-, ⟨hsig, hlast⟩, -⟩ := h
  refine ⟨hsig, ?_⟩
  cases hr : lastReport last l₁ with
  | none => simp [hr] at hlast
  | some r =>
    simp only [hr, Option.any_some, Bool.and_eq_true, beq_iff_eq] at hlast
    exact ⟨r.2, by rw [← hlast.1], hlast.2⟩

variable (c : Config)

/-- A run's recorded status was written, once, at one place of its log. -/
theorem run_status_split (es : List Event)
    (h : (run c es).monitor.result.finalStatus ≠ .unset) :
    ∃ pre post, (run c es).monitor.log = pre ++ .setExitStatusCode
      (run c es).monitor.result.finalStatus (run c es).monitor.result.reasonCode :: post := by
  have hs := (run_inv c es).sound
  have hpos : 0 < statusWrites (run c es).monitor.log := by
    have := mt hs.unset_iff.2 h; omega
  obtain ⟨a, ha, hw⟩ := List.countP_pos_iff.1 hpos
  obtain ⟨st, code, rfl⟩ := Action.isStatusWrite_iff.1 hw
  obtain ⟨hst, hcode⟩ := hs.written st code ha
  rw [hst, hcode]
  exact List.append_of_mem ha

/-- In every run, a `VIOLATION` is recorded right after `Notify::EventSyscallViolation` of the
    syscall the `Result` records, with that syscall's number as the reason code; or it is a
    `VIOLATION_NETWORK`, with the network proxy on, for a violation the proxy reported in a pass,
    recorded in the handling of a report of the main PID's end. -/
theorem run_violation_justified (es : List Event) :
    let m := (run c es).monitor
    m.result.finalStatus = .violation →
      (∃ pre sc v post, m.log = pre ++ .eventSyscallViolation sc v ::
          .setExitStatusCode .violation (.code sc.nr) :: post ∧
        m.result.syscall = some sc ∧ m.result.reasonCode = .code sc.nr) ∨
      (m.result.reasonCode = .violationNetwork ∧ c.hasNetworkProxy = true ∧
        (∃ p, .pass p ∈ es ∧ p.proxyViolation = true) ∧
        ∃ pre s mid post, m.log = pre ++ .report c.mainPid s ::
            (mid ++ .setExitStatusCode .violation .violationNetwork :: post) ∧
          (∀ a ∈ mid, a.reported = none) ∧ endsTask s = true) := by
  intro m hv
  obtain ⟨pre, post, hl⟩ := run_status_split c es (by rw [hv]; decide)
  rw [hv] at hl
  have hc := (run_verdict c es pre _ _ post hl).1
  rcases hc with ⟨pre', sc, v, rfl, hcode, hsc⟩ | ⟨hcode, hn, pre', s, mid, rfl, hno, hend⟩
  · exact .inl ⟨pre', sc, v, post, by simpa [hcode] using hl, hsc, hcode⟩
  · obtain ⟨hproxy, hp⟩ := (run_flagsBy c es).2.2 hn
    exact .inr ⟨hcode, hproxy, hp, pre', s, mid, post, by simpa [hcode] using hl, hno, hend⟩

/-- A run of `Config.sample` whose main PID makes a `getpid` at a seccomp stop that `Notify`
    denies, and is then reaped in the drain after `SIGKILL`. -/
def deniedSyscallRun : List Event :=
  [.setup true true,
    .pass (.ofWait (.child 100 (stoppedStatus sigtrap ptraceEventSeccomp))
      { Replies.sample with eventMsg := .ok 1, verdict := .deny }),
    .drainPass false (.child 100 (signaledStatus sigkill))]

theorem run_violation_justified_denied :
    let m := (run Config.sample deniedSyscallRun).monitor
    m.result.finalStatus = .violation ∧
      ((∃ pre sc v post, m.log = pre ++ .eventSyscallViolation sc v ::
          .setExitStatusCode .violation (.code sc.nr) :: post ∧
        m.result.syscall = some sc ∧ m.result.reasonCode = .code sc.nr) ∨
      (m.result.reasonCode = .violationNetwork ∧ Config.sample.hasNetworkProxy = true ∧
        (∃ p, .pass p ∈ deniedSyscallRun ∧ p.proxyViolation = true) ∧
        ∃ pre s mid post, m.log = pre ++ .report Config.sample.mainPid s ::
            (mid ++ .setExitStatusCode .violation .violationNetwork :: post) ∧
          (∀ a ∈ mid, a.reported = none) ∧ endsTask s = true)) :=
  ⟨by decide, run_violation_justified Config.sample deniedSyscallRun (by decide)⟩

/-- In every run, `OK`, `SIGNALED`, `TIMEOUT` and `EXTERNAL_KILL` are recorded only in the
    handling of a report of the main PID's end (its exit, its death by a signal, or its
    `PTRACE_EVENT_EXIT` stop), with no other report between the two; `TIMEOUT` only if a pass
    saw the deadline, `EXTERNAL_KILL` only if a pass saw an external kill request. -/
theorem run_death_status_justified (es : List Event) :
    let m := (run c es).monitor
    (m.result.finalStatus = .ok ∨ m.result.finalStatus = .signaled ∨
      m.result.finalStatus = .timeout ∨ m.result.finalStatus = .externalKill) →
      (∃ pre s mid post, m.log = pre ++ .report c.mainPid s ::
          (mid ++ .setExitStatusCode m.result.finalStatus m.result.reasonCode :: post) ∧
        (∀ a ∈ mid, a.reported = none) ∧ endsTask s = true) ∧
      (m.result.finalStatus = .timeout → ∃ p, .pass p ∈ es ∧ p.deadlinePassed = true) ∧
      (m.result.finalStatus = .externalKill → ∃ p, .pass p ∈ es ∧ p.killRequested = true) := by
  intro m hst
  have hne : m.result.finalStatus ≠ .unset := by rcases hst with h | h | h | h <;> rw [h] <;> decide
  obtain ⟨pre, post, hl⟩ := run_status_split c es hne
  have hc := (run_verdict c es pre _ _ post hl).1
  have hf := run_flagsBy c es
  have hend : MainEndLast c pre → ∃ pre' s mid post', m.log = pre' ++ .report c.mainPid s ::
      (mid ++ .setExitStatusCode m.result.finalStatus m.result.reasonCode :: post') ∧
      (∀ a ∈ mid, a.reported = none) ∧ endsTask s = true := fun ⟨pre', s, mid, hpre, hno, he⟩ =>
    ⟨pre', s, mid, post, by rw [hl, hpre]; simp, hno, he⟩
  refine ⟨?_, fun ht => ?_, fun hk => ?_⟩
  · rcases hst with h | h | h | h <;> rw [h] at hc
    · exact hend hc
    · exact hend hc
    · exact hend hc.2
    · exact hend hc.2
  · rw [ht] at hc; exact hf.1 hc.1
  · rw [hk] at hc; exact hf.2.1 hc.1

/-- A run of `Config.sample` whose main PID exits with code 0 after sandboxing began. -/
def mainExitsRun : List Event :=
  [.setup true true, .pass (.ofWait (.child 100 (exitedStatus 0)) Replies.sample)]

theorem run_death_status_justified_exit :
    let m := (run Config.sample mainExitsRun).monitor
    m.result.finalStatus = .ok ∧
      ∃ pre s mid post, m.log = pre ++ .report Config.sample.mainPid s ::
          (mid ++ .setExitStatusCode m.result.finalStatus m.result.reasonCode :: post) ∧
        (∀ a ∈ mid, a.reported = none) ∧ endsTask s = true :=
  ⟨by decide, (run_death_status_justified Config.sample mainExitsRun (.inl (by decide))).1⟩

/-- In every run, once the status is written the monitor no longer calls `Notify`, interrupts,
    `PTRACE_SYSCALL`s or `PTRACE_LISTEN`s: it only reports, kills the main PID, records the
    additional result information, skips a syscall's return, and continues with no signal a task
    whose last report is its exit stop. -/
theorem run_after_verdict (es : List Event) :
    let m := (run c es).monitor
    ∀ pre st code post, m.log = pre ++ .setExitStatusCode st code :: post →
      (∀ a ∈ post, (∃ p s, a = .report p s) ∨ a = .kill c.mainPid ∨ (∃ p, a = .ptraceCont p 0) ∨
        (∃ p, a = .setAdditionalResultInfo p) ∨ ∃ p, a = .skipSyscallReturnValue p) ∧
      ∀ post₁ p sig post₂, post = post₁ ++ .ptraceCont p sig :: post₂ →
        sig = 0 ∧ ∃ s, lastReport none (pre ++ .setExitStatusCode st code :: post₁) = some (p, s) ∧
          isExitStop s = true := by
  intro m pre st code post hl
  have hok := (run_verdict c es pre st code post hl).2
  refine ⟨fun a ha => afterVerdictOk_mem hok ha, fun post₁ p sig post₂ hpost => ?_⟩
  rw [hpost] at hok
  have h := afterVerdictOk_cont hok
  rwa [lastReport_append]

theorem run_after_verdict_denied :
    (run Config.sample deniedSyscallRun).monitor.log =
      [.report 100 (stoppedStatus sigtrap ptraceEventSeccomp), .eventSyscallTrace ⟨1, 39, [], 100⟩,
        .eventSyscallViolation ⟨1, 39, [], 100⟩ .syscallViolation] ++
      .setExitStatusCode .violation (.code 39) ::
        [.setAdditionalResultInfo 100, .skipSyscallReturnValue 100, .kill 100,
          .report 100 (signaledStatus sigkill)] ∧
    ∀ a ∈ [Action.setAdditionalResultInfo 100, .skipSyscallReturnValue 100, .kill 100,
        .report 100 (signaledStatus sigkill)],
      (∃ p s, a = .report p s) ∨ a = .kill Config.sample.mainPid ∨ (∃ p, a = .ptraceCont p 0) ∨
        (∃ p, a = .setAdditionalResultInfo p) ∨ ∃ p, a = .skipSyscallReturnValue p :=
  ⟨by decide, (run_after_verdict Config.sample deniedSyscallRun
    [.report 100 (stoppedStatus sigtrap ptraceEventSeccomp), .eventSyscallTrace ⟨1, 39, [], 100⟩,
      .eventSyscallViolation ⟨1, 39, [], 100⟩ .syscallViolation] .violation (.code 39)
    [.setAdditionalResultInfo 100, .skipSyscallReturnValue 100, .kill 100,
      .report 100 (signaledStatus sigkill)] (by decide)).1⟩

/-! ## What `Run` leaves behind -/

/-- The main PID is taken care of: set-up failed, or the main PID's exit or death by a signal was
    reported, or it was sent `SIGKILL`, or every stack trace is logged for a run that did not end
    `OK` (`monitor_ptrace.cc:395-402`). -/
def MainTakenCare (c : Config) (m : Monitor) : Prop :=
  (m.result.finalStatus = .setupError ∧
    (m.result.reasonCode = .failedSignals ∨ m.result.reasonCode = .failedPtrace)) ∨
  (∃ s, .report c.mainPid s ∈ m.log ∧ (wIfExited s = true ∨ wIfSignaled s = true)) ∨
  .kill c.mainPid ∈ m.log ∨ (c.logAllStackTraces = true ∧ m.result.finalStatus ≠ .ok)

/-- Returned only with the main PID taken care of; draining only after `SIGKILL`, unless every
    stack trace is logged for a run that did not end `OK`. -/
def ShutdownInv (c : Config) (s : RunState) : Prop :=
  match s.phase with
  | .done => MainTakenCare c s.monitor
  | .drain logStackTraces =>
    if logStackTraces then c.logAllStackTraces = true ∧ s.monitor.result.finalStatus ≠ .ok
    else .kill c.mainPid ∈ s.monitor.log
  | .setup | .loop => True

/-- `Run` returns right after a dispatch only if it reaped the main PID. -/
theorem dispatchWait_exited (o : Replies) (w : WaitRet) (m : Monitor)
    (h : (dispatchWait c o w m).2 = true) :
    ∃ s, .report c.mainPid s ∈ (dispatchWait c o w m).1.log ∧
      (wIfExited s = true ∨ wIfSignaled s = true) := by
  unfold dispatchWait at h ⊢
  split at h
  · exact absurd h Bool.false_ne_true
  · exact absurd h Bool.false_ne_true
  · next pid status =>
    dsimp only at h ⊢
    have hmem : ∀ {m' : Monitor}, (m.emit (.report pid status)).log <+: m'.log →
        .report pid status ∈ m'.log := fun hp => hp.subset (by simp)
    by_cases hx : wIfExited status = true
    · rw [if_pos hx] at h ⊢
      by_cases hp : (pid == c.mainPid) = true
      · obtain rfl : pid = c.mainPid := by simpa using hp
        rw [if_pos hp]
        dsimp only
        split <;> exact ⟨status, hmem ⟨_, rfl⟩, .inl hx⟩
      · rw [if_neg hp] at h; exact absurd h Bool.false_ne_true
    · rw [if_neg hx] at h ⊢
      by_cases hs : wIfSignaled status = true
      · rw [if_pos hs] at h ⊢
        by_cases hp : (pid == c.mainPid) = true
        · obtain rfl : pid = c.mainPid := by simpa using hp
          rw [if_pos hp]
          obtain ⟨st, code, hl, -⟩ := attributeDeath_verdict o
            (·.setExitStatusCode .signaled (.code (wTermSig status))) (P := fun _ => True)
            (m := m.emit (.report c.mainPid status)) ⟨_, _, rfl, rfl, trivial⟩
          exact ⟨status, hmem ⟨_, hl.symm⟩, .inr hs⟩
        · rw [if_neg hp] at h; exact absurd h Bool.false_ne_true
      · rw [if_neg hs] at h
        split at h <;> exact absurd h Bool.false_ne_true

/-- Leaving the main loop keeps `ShutdownInv`. -/
theorem leaveLoop_shutdown {m : Monitor} {sandboxeeExited : Bool}
    (h : sandboxeeExited = true → ∃ s, .report c.mainPid s ∈ m.log ∧
      (wIfExited s = true ∨ wIfSignaled s = true)) :
    ShutdownInv c (leaveLoop c sandboxeeExited m) := by
  unfold leaveLoop
  split
  · next hx => exact .inr (.inl (h hx))
  · dsimp only
    split
    · next hl =>
      have hl' : (m.result.finalStatus != .ok && c.logAllStackTraces) = false :=
        Bool.eq_false_iff.2 fun h => by simp [h] at hl
      simp [ShutdownInv, hl']
    · next hl =>
      have hl' : (m.result.finalStatus != .ok && c.logAllStackTraces) = true := by simpa using hl
      simp only [ShutdownInv, hl', if_true]
      simp only [Bool.and_eq_true, bne_iff_ne, ne_eq] at hl'
      exact ⟨hl'.2, hl'.1⟩

/-- A pass of the drain stays in the drain or returns. -/
theorem drainPass_phase (logStackTraces deadlinePassed : Bool) (w : WaitRet) (m : Monitor) :
    (drainPass c logStackTraces deadlinePassed w m).phase = .done ∨
      (drainPass c logStackTraces deadlinePassed w m).phase = .drain logStackTraces := by
  unfold drainPass
  split
  · exact .inl rfl
  split
  · exact .inl rfl
  · exact .inr rfl
  · dsimp only
    split
    · exact .inl rfl
    split
    · exact .inr rfl
    split <;> exact .inr rfl

/-- The step lemma of `ShutdownInv`. -/
theorem ShutdownInv.step {s : RunState} (h : RunInv c s) (hs : ShutdownInv c s) (e : Event) :
    ShutdownInv c (Sandbox2.step c s e) := by
  obtain ⟨m, ph⟩ := s
  cases ph <;> cases e
  all_goals first | exact hs | skip
  · -- set-up
    have hu : m.result.finalStatus = .unset := h.running.1 rfl
    show ShutdownInv c (setup _ _ m)
    unfold setup
    split
    · exact .inl ⟨by simp [Result.setExitStatusCode_of_unset hu],
        .inl (by simp [Result.setExitStatusCode_of_unset hu])⟩
    split
    · exact .inl ⟨by simp [Result.setExitStatusCode_of_unset hu],
        .inr (by simp [Result.setExitStatusCode_of_unset hu])⟩
    · trivial
  · -- a pass of the main loop
    rename_i p
    show ShutdownInv c (mainLoopPass c p m)
    unfold mainLoopPass
    split
    · exact leaveLoop_shutdown c (fun h => absurd h Bool.false_ne_true)
    · next m₁ _ =>
      have hx := dispatchWait_exited c p.replies p.wait m₁
      rcases hd : dispatchWait c p.replies p.wait m₁ with ⟨m₂, ex⟩
      rw [hd] at hx
      dsimp only
      split
      · trivial
      · exact leaveLoop_shutdown c hx
  · -- a pass of the drain
    next logStackTraces deadlinePassed w =>
    obtain ⟨⟨acts, hl, -, -⟩, hr, -, -⟩ := drainPass_keeps c logStackTraces deadlinePassed w m
    have hmem : ∀ {a}, a ∈ m.log → a ∈ (drainPass c logStackTraces deadlinePassed w m).monitor.log :=
      fun ha => by rw [hl]; exact List.mem_append_left _ ha
    have hkeep : ShutdownInv c ⟨(drainPass c logStackTraces deadlinePassed w m).monitor,
        .drain logStackTraces⟩ := by
      cases logStackTraces
      · exact hmem hs
      · simpa [ShutdownInv, hr] using hs
    have hdone : MainTakenCare c (drainPass c logStackTraces deadlinePassed w m).monitor := by
      cases logStackTraces
      · exact .inr (.inr (.inl (hmem hs)))
      · simp only [ShutdownInv, if_true] at hs
        exact .inr (.inr (.inr (by rw [hr]; exact hs)))
    show ShutdownInv c (drainPass c logStackTraces deadlinePassed w m)
    have hph := drainPass_phase c logStackTraces deadlinePassed w m
    rcases hph with hph | hph <;> simp only [ShutdownInv, hph] at hkeep ⊢
    · exact hdone
    · exact hkeep

/-- `Run` returns only with the main PID taken care of: set-up failed, or the main PID's exit or
    death by a signal was reported, or it was sent `SIGKILL`; or every stack trace is logged for a
    run that did not end `OK`, and then the main PID may be left running. -/
theorem run_returns_main_taken_care (es : List Event) (h : (run c es).phase = .done) :
    MainTakenCare c (run c es).monitor := by
  have key : ∀ {s : RunState}, RunInv c s → ShutdownInv c s → ∀ es,
      ShutdownInv c (runFrom c s es) := by
    intro s hi hs es
    induction es generalizing s with
    | nil => exact hs
    | cons e es ih => exact ih (hi.step e).inv (hs.step c hi e)
  have hs : ShutdownInv c (run c es) := key (.init c) trivial es
  unfold ShutdownInv at hs
  rw [h] at hs
  exact hs

theorem run_returns_main_taken_care_exit :
    (run Config.sample mainExitsRun).phase = .done ∧
      MainTakenCare Config.sample (run Config.sample mainExitsRun).monitor :=
  ⟨by decide, run_returns_main_taken_care Config.sample mainExitsRun (by decide)⟩

end Sandbox2
