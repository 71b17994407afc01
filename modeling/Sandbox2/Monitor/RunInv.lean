import Sandbox2.Monitor.Sound
import Sandbox2.Monitor.Run

/-!
# Invariants of whole runs

What holds after every sequence of events `Run` can see: every outcome of set-up, of the kill and
interrupt requests, of `PidWaiter::Wait` and of the calls the handlers make. What one step
appends passes `StepActs`, the monitor stays `Sound`, and the status is unset exactly while
`Run` is in set-up or in its main loop. `RunInv` bundles these facts. `RunInv.step` is the step
lemma and `run_inv` the run lemma.

From them: the status is written at most once, and is set when `Run` returns.
`SetAdditionalResultInfo` is called at most once, for the task whose stop fixed the status.
Every resume answers an earlier report.
-/

namespace Sandbox2

/-- Whether `Run` is in set-up or in its main loop. -/
def Phase.running : Phase → Bool
  | .setup | .loop => true
  | .drain _ | .done => false

theorem statusWrites_of_quiet {acts : List Action} (h : ∀ a ∈ acts, a.quiet) :
    statusWrites acts = 0 :=
  List.countP_eq_zero.2 fun a ha => by simp [(h a ha).2.2.1]

theorem infoWrites_of_quiet {acts : List Action} (h : ∀ a ∈ acts, a.quiet) :
    infoWrites acts = 0 :=
  List.countP_eq_zero.2 fun a ha => by simp [(h a ha).2.2.2]

theorem stopActsOk_noReport {pid : Pid} {acts : List Action} (h : stopActsOk pid acts = true) :
    ∀ a ∈ acts, a.reported = none := by
  simp only [stopActsOk, Bool.and_eq_true, List.all_eq_true, Option.isNone_iff_eq_none] at h
  exact fun a ha => (h.1.1.1 a ha).1

theorem stopActsOk_statusWrites {pid : Pid} {acts : List Action} (h : stopActsOk pid acts = true) :
    statusWrites acts ≤ 1 := by
  simp only [stopActsOk, Bool.and_eq_true, decide_eq_true_eq] at h
  exact h.1.2

theorem HandlerOk.log_eq {pid : Pid} {m m' : Monitor} (h : HandlerOk pid m m') :
    m'.log = m.log ++ appended m m' :=
  (List.prefix_iff_eq_append.1 h.1).symm

theorem eq_of_infoWrites_le_one {l : List Action} (h : infoWrites l ≤ 1) {q q' : Pid}
    (hq : .setAdditionalResultInfo q ∈ l) (hq' : .setAdditionalResultInfo q' ∈ l) : q = q' := by
  induction l with
  | nil => simp at hq
  | cons a l ih =>
    have hl : ∀ {p}, .setAdditionalResultInfo p ∈ l → 0 < infoWrites l := fun hp =>
      List.countP_pos_iff.2 ⟨_, hp, rfl⟩
    simp only [infoWrites_cons] at h
    rcases List.mem_cons.1 hq with rfl | hq₁ <;> rcases List.mem_cons.1 hq' with he | hq₁'
    · simpa using he.symm
    · have := hl hq₁'; simp [Action.isInfoWrite] at h; omega
    · have := hl hq₁; simp [← he, Action.isInfoWrite] at h; omega
    · exact ih (by omega) hq₁ hq₁'

theorem Action.isStatusWrite_iff {a : Action} :
    a.isStatusWrite = true ↔ ∃ st code, a = .setExitStatusCode st code := by
  cases a <;> simp [Action.isStatusWrite]

/-- What one step may append: resumes only of tasks it reported, `SetAdditionalResultInfo` only
    as `InfoAfterReport` allows, at most one status write, and no more info writes than status
    writes. -/
structure StepActs (acts : List Action) : Prop where
  answers : AnswersReports acts
  info : InfoAfterReport acts
  statusOnce : statusWrites acts ≤ 1
  infoLe : infoWrites acts ≤ statusWrites acts

namespace StepActs

theorem append {l l' : List Action} (h : StepActs l) (h' : StepActs l')
    (hw : statusWrites l = 0 ∨ statusWrites l' = 0) : StepActs (l ++ l') where
  answers := h.answers.append h'.answers
  info := h.info.append h'.info
  statusOnce := by have := h.statusOnce; have := h'.statusOnce; simp; omega
  infoLe := by have := h.infoLe; have := h'.infoLe; simp; omega

theorem of_quiet {acts : List Action} (h : ∀ a ∈ acts, a.quiet) : StepActs acts where
  answers := answersReports_of_quiet fun a ha => (h a ha).2.1
  info := infoAfterReport_of_infoWrites (infoWrites_of_quiet h)
  statusOnce := by simp [statusWrites_of_quiet h]
  infoLe := by simp [infoWrites_of_quiet h]

theorem report {q : Pid} (s : Int) {acts : List Action} (h : stopActsOk q acts = true) :
    StepActs (.report q s :: acts) where
  answers := answersReports_report (stopActsOk_noReport h) (stopActsOk_resumed h)
  info := infoAfterReport_report s h
  statusOnce := by simpa [Action.isStatusWrite] using stopActsOk_statusWrites h
  infoLe := by
    have := infoWrites_le_of_infoAfterStatus (by simp_all [stopActsOk] : infoAfterStatus q false acts = true)
    simpa [Action.isStatusWrite, Action.isInfoWrite] using this

theorem status (st : FinalStatus) (code : ReasonCode) : StepActs [.setExitStatusCode st code] where
  answers := answersReports_of_quiet (by simp [Action.resumed])
  info := infoAfterReport_of_infoWrites (by simp [Action.isInfoWrite])
  statusOnce := by simp [Action.isStatusWrite]
  infoLe := by simp [Action.isInfoWrite]

end StepActs

/-- `m'` is `m` after actions that write nothing of the result: they pass `StepActs` and write no
    status, and the result and the exec flags are unchanged. -/
structure Keeps (m m' : Monitor) : Prop where
  log : ∃ acts, m'.log = m.log ++ acts ∧ StepActs acts ∧ statusWrites acts = 0
  result : m'.result = m.result
  waitForExecve : m'.waitForExecve = m.waitForExecve
  execSeen : m'.execSeen = m.execSeen

namespace Keeps

variable {c : Config} {m m' m'' : Monitor}

theorem refl (m : Monitor) : Keeps m m := ⟨⟨[], by simp, .of_quiet (by simp), rfl⟩, rfl, rfl, rfl⟩

theorem trans (h : Keeps m m') (h' : Keeps m' m'') : Keeps m m'' := by
  obtain ⟨⟨acts, hl, ha, hw⟩, hr, hx, he⟩ := h
  obtain ⟨⟨acts', hl', ha', hw'⟩, hr', hx', he'⟩ := h'
  exact ⟨⟨acts ++ acts', by simp [hl, hl'], ha.append ha' (.inl hw), by simp [hw, hw']⟩,
    hr'.trans hr, hx'.trans hx, he'.trans he⟩

theorem emit {a : Action} (ha : a.quiet) : Keeps m (m.emit a) :=
  ⟨⟨[a], rfl, .of_quiet (by simpa using ha), statusWrites_of_quiet (by simpa using ha)⟩, rfl, rfl,
    rfl⟩

theorem sound (h : Keeps m m') (hs : Sound c m) : Sound c m' := by
  obtain ⟨⟨acts, hl, ha, hw⟩, hr, hx, he⟩ := h
  have hi : infoWrites acts = 0 := by have := ha.infoLe; omega
  refine ⟨?_, fun st code hm => ?_, by rw [hr]; exact hs.stack, fun r hrr => ?_,
    fun hrr => by simpa [hl, hr, hi] using hs.fresh (hr ▸ hrr), by rw [hx, he]; exact hs.exec⟩
  · simpa [hl, hr, hw] using hs.unset_iff
  · rw [hl, List.mem_append] at hm
    rcases hm with hm | hm
    · rw [hr]; exact hs.written st code hm
    · exact absurd hw (by
        simpa [statusWrites, Action.isStatusWrite] using List.countP_pos_iff.2 ⟨_, hm, rfl⟩)
  · rw [hl]; exact List.mem_append_left _ (hs.regs r (hr ▸ hrr))

end Keeps

theorem Action.quiet_kill (pid : Pid) : (Action.kill pid).quiet := by
  simp [Action.quiet, Action.reported, Action.resumed, Action.isStatusWrite, Action.isInfoWrite]

theorem Action.quiet_ptraceInterrupt (pid : Pid) : (Action.ptraceInterrupt pid).quiet := by
  simp [Action.quiet, Action.reported, Action.resumed, Action.isStatusWrite, Action.isInfoWrite]

/-- What a request at the head of a pass of the main loop can do: go on after actions that keep
    the result, or break after them with a status write. -/
def RequestOutcome (m : Monitor) : Except Monitor Monitor → Prop
  | .ok m' => Keeps m m'
  | .error m' => ∃ m'' st code, Keeps m m'' ∧ st ≠ .unset ∧ m' = m''.setExitStatusCode st code

theorem RequestOutcome.of_keeps {m m' : Monitor} {x : Except Monitor Monitor} (h : Keeps m m')
    (hx : RequestOutcome m' x) : RequestOutcome m x := by
  cases x with
  | ok m'' => exact h.trans hx
  | error m'' =>
    obtain ⟨m₁, st, code, hk, hst, rfl⟩ := hx
    exact ⟨m₁, st, code, h.trans hk, hst, rfl⟩

theorem RequestOutcome.bind {m : Monitor} {x : Except Monitor Monitor}
    {f : Monitor → Except Monitor Monitor} (hx : RequestOutcome m x)
    (hf : ∀ m', Keeps m m' → RequestOutcome m' (f m')) : RequestOutcome m (x >>= f) := by
  cases x with
  | ok m' => exact RequestOutcome.of_keeps hx (hf m' hx)
  | error m' => exact hx

variable (c : Config)

theorem killSandboxee_outcome (ok : Bool) (m : Monitor) :
    RequestOutcome m (killSandboxee c ok m) := by
  unfold killSandboxee
  split
  · exact Keeps.emit (Action.quiet_kill _)
  · exact ⟨_, _, _, Keeps.emit (Action.quiet_kill _), by decide, rfl⟩

theorem interruptSandboxee_outcome (ok : Bool) (m : Monitor) :
    RequestOutcome m (interruptSandboxee c ok m) := by
  unfold interruptSandboxee
  split
  · exact Keeps.emit (Action.quiet_ptraceInterrupt _)
  · exact ⟨_, _, _, Keeps.emit (Action.quiet_ptraceInterrupt _), by decide, rfl⟩

theorem loopRequests_outcome (p : Pass) (m : Monitor) : RequestOutcome m (loopRequests c p m) := by
  have hflag : ∀ {m m' : Monitor}, m.log = m'.log → m.result = m'.result →
      m.waitForExecve = m'.waitForExecve → m.execSeen = m'.execSeen → Keeps m m' :=
    fun hl hr hx he => ⟨⟨[], by simp [hl], .of_quiet (by simp), rfl⟩, hr.symm, hx.symm, he.symm⟩
  unfold loopRequests
  refine .bind ?_ fun m₁ _ => .bind ?_ fun m₂ _ => .bind ?_ fun m₃ _ => ?_
  · split
    · exact .of_keeps (by exact hflag rfl rfl rfl rfl) (killSandboxee_outcome c _ _)
    · exact Keeps.refl m
  · split
    · exact .of_keeps (by exact hflag rfl rfl rfl rfl) (interruptSandboxee_outcome c _ _)
    · exact Keeps.refl m₁
  · split
    · exact .of_keeps (by exact hflag rfl rfl rfl rfl) (killSandboxee_outcome c _ _)
    · exact Keeps.refl m₂
  · split
    · exact .of_keeps (by exact hflag rfl rfl rfl rfl) (killSandboxee_outcome c _ _)
    · exact Keeps.refl m₃

variable (o : Replies)

/-- A handler's whole output, when it is one status write. -/
theorem HandlerOk.of_status {pid : Pid} {m m' : Monitor} {st : FinalStatus} {code : ReasonCode}
    (h : m'.log = m.log ++ [.setExitStatusCode st code]) : HandlerOk pid m m' :=
  ⟨⟨_, h.symm⟩, by simp [appended, h, stopActsOk, infoAfterStatus, Action.reported, Action.resumed,
    Action.isStatusWrite, Action.isInfoWrite]⟩

theorem dispatchWait_sound {m : Monitor} (h : Sound c m) (hu : m.result.finalStatus = .unset)
    (w : WaitRet) : Sound c (dispatchWait c o w m).1 := by
  unfold dispatchWait
  split
  · exact h
  · dsimp only
    split
    · exact h.setExitStatusCode hu (by decide) _
    · exact h
  · next pid status =>
    dsimp only
    have h₁ : Sound c (m.emit (.report pid status)) := h.emit rfl rfl
    split
    · split
      · dsimp only
        split
        · exact h₁.setExitStatusCode hu (by decide) _
        · exact h₁.setExitStatusCode hu (by decide) _
      · exact h₁
    split
    · split
      · exact attributeDeath_sound o (fun _ h hu => h.setExitStatusCode hu (by decide) _) h₁ hu
      · exact h₁
    split
    · exact stateProcessStopped_sound o h₁ hu _ _
    · exact h₁

theorem dispatchWait_acts (w : WaitRet) (m : Monitor) :
    ∃ acts, (dispatchWait c o w m).1.log = m.log ++ acts ∧ StepActs acts := by
  have hnil : StepActs [] := .of_quiet (by simp)
  unfold dispatchWait
  split
  · exact ⟨[], by simp, hnil⟩
  · dsimp only
    split
    · exact ⟨_, rfl, .status _ _⟩
    · exact ⟨[], by simp, hnil⟩
  · next pid status =>
    dsimp only
    have hrep : ∀ {m'}, HandlerOk pid (m.emit (.report pid status)) m' →
        ∃ acts, m'.log = m.log ++ acts ∧ StepActs acts :=
      fun h => ⟨_, by rw [h.log_eq]; simp, .report status h.2⟩
    split
    · split
      · dsimp only
        split <;> exact hrep (.of_status rfl)
      · exact hrep (.refl _ _)
    split
    · split
      · obtain ⟨st, code, hl⟩ := @attributeDeath_log o
          (·.setExitStatusCode .signaled (.code (wTermSig status))) (fun _ => ⟨_, _, rfl⟩) _
        exact hrep (.of_status hl)
      · exact hrep (.refl _ _)
    split
    · exact hrep (stateProcessStopped_ok c o pid status _)
    · exact hrep (.refl _ _)

theorem leaveLoop_keeps (sandboxeeExited : Bool) (m : Monitor) :
    Keeps m (leaveLoop c sandboxeeExited m).monitor := by
  unfold leaveLoop
  split
  · exact .refl m
  · dsimp only
    split
    · exact .emit (Action.quiet_kill _)
    · exact .refl m

theorem leaveLoop_running (sandboxeeExited : Bool) (m : Monitor) :
    (leaveLoop c sandboxeeExited m).phase.running = false := by
  unfold leaveLoop
  split <;> rfl

/-- A report of `pid`, then actions that answer it and write no status, keep the result. -/
theorem Keeps.of_report {m m' : Monitor} (pid : Pid) (status : Int) (acts : List Action)
    (h : stopActsOk pid acts = true) (hw : statusWrites acts = 0)
    (hl : m'.log = m.log ++ .report pid status :: acts) (hr : m'.result = m.result)
    (hx : m'.waitForExecve = m.waitForExecve) (he : m'.execSeen = m.execSeen) : Keeps m m' :=
  ⟨⟨_, hl, .report status h, by simpa [Action.isStatusWrite] using hw⟩, hr, hx, he⟩

theorem drainPass_keeps (logStackTraces deadlinePassed : Bool) (w : WaitRet) (m : Monitor) :
    Keeps m (drainPass c logStackTraces deadlinePassed w m).monitor := by
  unfold drainPass
  split
  · exact .refl m
  split
  · exact .refl m
  · exact .refl m
  · next pid status =>
    dsimp only
    have hok : ∀ a : Action, a.reported = none → a.resumed = none ∨ a.resumed = some pid →
        a.isStatusWrite = false → a.isInfoWrite = false → stopActsOk pid [a] = true ∧
          statusWrites [a] = 0 := by
      intro a h1 h2 h3 h4
      rcases h2 with h2 | h2 <;> simp [stopActsOk, infoAfterStatus, h1, h2, h3, h4]
    split
    · exact .of_report pid status [] (by simp [stopActsOk, infoAfterStatus]) rfl (by simp) rfl rfl rfl
    split
    · obtain ⟨h1, h2⟩ := hok (.ptraceCont _ 0) rfl (.inr rfl) rfl rfl
      exact .of_report pid status _ h1 h2 (by simp [continueProcess]) rfl rfl rfl
    split
    · obtain ⟨h1, h2⟩ := hok (.kill c.mainPid) rfl (.inl rfl) rfl rfl
      exact .of_report pid status _ h1 h2 (by simp) rfl rfl rfl
    · exact .of_report pid status [] (by simp [stopActsOk, infoAfterStatus]) rfl (by simp) rfl rfl rfl

theorem drainPass_running (logStackTraces deadlinePassed : Bool) (w : WaitRet) (m : Monitor) :
    (drainPass c logStackTraces deadlinePassed w m).phase.running = false := by
  unfold drainPass
  split
  · rfl
  split
  · rfl
  · rfl
  · dsimp only
    split
    · rfl
    split
    · rfl
    split <;> rfl

/-- The invariant of every state `Run` reaches. -/
structure RunInv (c : Config) (s : RunState) : Prop where
  sound : Sound c s.monitor
  running : s.phase.running = true ↔ s.monitor.result.finalStatus = .unset
  statusOnce : statusWrites s.monitor.log ≤ 1
  infoLe : infoWrites s.monitor.log ≤ statusWrites s.monitor.log
  answers : AnswersReports s.monitor.log
  info : InfoAfterReport s.monitor.log

/-- `s'` follows `s` by a step that keeps `RunInv` and appends actions that pass `StepActs`. -/
structure Steps (c : Config) (s s' : RunState) : Prop where
  inv : RunInv c s'
  appends : ∃ acts, s'.monitor.log = s.monitor.log ++ acts ∧ StepActs acts

namespace RunInv

variable {c : Config} {s s' : RunState}

theorem init (c : Config) : RunInv c (RunState.init c) where
  sound := Sound.init c
  running := by simp [RunState.init, Monitor.init, Phase.running]
  statusOnce := by simp [RunState.init, Monitor.init]
  infoLe := by simp [RunState.init, Monitor.init]
  answers := fun _ => rfl
  info := infoAfterReport_of_infoWrites rfl

/-- `Run` stays where it is. -/
theorem stay (h : RunInv c s) : Steps c s s := ⟨h, [], by simp, .of_quiet (by simp)⟩

/-- A step from set-up or the main loop. -/
theorem of_running (h : RunInv c s) (hr : s.phase.running = true) (hs : Sound c s'.monitor)
    (acts : List Action) (hl : s'.monitor.log = s.monitor.log ++ acts) (ha : StepActs acts)
    (hrun : s'.phase.running = true ↔ s'.monitor.result.finalStatus = .unset) : Steps c s s' := by
  have h0 : statusWrites s.monitor.log = 0 := h.sound.unset_iff.1 (h.running.1 hr)
  refine ⟨⟨hs, hrun, ?_, ?_, ?_, ?_⟩, acts, hl, ha⟩
  · simpa [hl, h0] using ha.statusOnce
  · have := h.infoLe; have := ha.infoLe; simp [hl]; omega
  · rw [hl]; exact h.answers.append ha.answers
  · rw [hl]; exact h.info.append ha.info

/-- A step from the drain or the end. -/
theorem of_keeps (h : RunInv c s) (hr : s.phase.running = false) (hk : Keeps s.monitor s'.monitor)
    (hr' : s'.phase.running = false) : Steps c s s' := by
  obtain ⟨acts, hl, ha, hw⟩ := hk.log
  have hi : infoWrites acts = 0 := by have := ha.infoLe; omega
  refine ⟨⟨hk.sound h.sound, ?_, ?_, ?_, ?_, ?_⟩, acts, hl, ha⟩
  · simpa [hr', hk.result, hr] using h.running
  · simpa [hl, hw] using h.statusOnce
  · simpa [hl, hw, hi] using h.infoLe
  · rw [hl]; exact h.answers.append ha.answers
  · rw [hl]; exact h.info.append ha.info

theorem setup {m : Monitor} (h : RunInv c ⟨m, .setup⟩) (signalsOk attachOk : Bool) :
    Steps c ⟨m, .setup⟩ (setup signalsOk attachOk m) := by
  have hu : m.result.finalStatus = .unset := h.running.1 rfl
  unfold Sandbox2.setup
  split
  · exact h.of_running rfl (h.sound.setExitStatusCode hu (by decide) _) _ rfl (.status _ _)
      (by simp [Phase.running, Result.setExitStatusCode_of_unset hu])
  split
  · exact h.of_running rfl (h.sound.setExitStatusCode hu (by decide) _) _ rfl (.status _ _)
      (by simp [Phase.running, Result.setExitStatusCode_of_unset hu])
  · exact h.of_running rfl h.sound [] (by simp) (.of_quiet (by simp)) (by simpa using h.running)

theorem mainLoopPass {m : Monitor} (h : RunInv c ⟨m, .loop⟩) (p : Pass) :
    Steps c ⟨m, .loop⟩ (mainLoopPass c p m) := by
  have hu : m.result.finalStatus = .unset := h.running.1 rfl
  have ho := loopRequests_outcome c p m
  unfold Sandbox2.mainLoopPass
  split
  · next m₁ heq =>
    rw [heq] at ho
    obtain ⟨m₂, st, code, hk, hst, rfl⟩ := ho
    obtain ⟨acts₁, hl₁, ha₁, hw₁⟩ := hk.log
    have hu₂ : m₂.result.finalStatus = .unset := hk.result ▸ hu
    have hleave := leaveLoop_keeps c false (m₂.setExitStatusCode st code)
    obtain ⟨acts₂, hl₂, ha₂, hw₂⟩ := hleave.log
    refine h.of_running rfl (hleave.sound ((hk.sound h.sound).setExitStatusCode hu₂ hst code))
      (acts₁ ++ [.setExitStatusCode st code] ++ acts₂) (by simp [hl₂, hl₁])
      ((ha₁.append (.status st code) (.inl hw₁)).append ha₂ (.inr hw₂)) ?_
    simp [leaveLoop_running, hleave.result, Result.setExitStatusCode_of_unset hu₂, hst]
  · next m₁ heq =>
    rw [heq] at ho
    have hu₁ : m₁.result.finalStatus = .unset := ho.result ▸ hu
    obtain ⟨acts₁, hl₁, ha₁, hw₁⟩ := ho.log
    obtain ⟨acts₂, hl₂, ha₂⟩ := dispatchWait_acts c p.replies p.wait m₁
    have hs₂ := dispatchWait_sound c p.replies (ho.sound h.sound) hu₁ p.wait
    rcases hd : dispatchWait c p.replies p.wait m₁ with ⟨m₂, exited⟩
    rw [hd] at hl₂ hs₂
    dsimp only at hl₂ hs₂ ⊢
    split
    · next hst =>
      exact h.of_running rfl hs₂ (acts₁ ++ acts₂) (by simp [hl₂, hl₁])
        (ha₁.append ha₂ (.inl hw₁)) (by simpa [Phase.running] using hst)
    · next hst =>
      have hleave := leaveLoop_keeps c exited m₂
      obtain ⟨acts₃, hl₃, ha₃, hw₃⟩ := hleave.log
      refine h.of_running rfl (hleave.sound hs₂) (acts₁ ++ acts₂ ++ acts₃)
        (by simp [hl₃, hl₂, hl₁]) ((ha₁.append ha₂ (.inl hw₁)).append ha₃ (.inr hw₃)) ?_
      simpa [leaveLoop_running, hleave.result] using hst

theorem drainPass {m : Monitor} {logStackTraces : Bool} (h : RunInv c ⟨m, .drain logStackTraces⟩)
    (deadlinePassed : Bool) (w : WaitRet) :
    Steps c ⟨m, .drain logStackTraces⟩ (drainPass c logStackTraces deadlinePassed w m) :=
  h.of_keeps rfl (drainPass_keeps c _ _ _ m) (drainPass_running c _ _ _ m)

/-- The step lemma: every step keeps `RunInv`, and what it appends passes `StepActs`. -/
theorem step (h : RunInv c s) (e : Event) : Steps c s (step c s e) := by
  obtain ⟨m, ph⟩ := s
  cases ph <;> cases e <;>
    first | exact h.stay | exact h.setup _ _ | exact h.mainLoopPass _ | exact h.drainPass _ _

end RunInv

/-- The run lemma: `RunInv` holds after every sequence of events. -/
theorem runFrom_inv {s : RunState} (h : RunInv c s) (es : List Event) :
    RunInv c (runFrom c s es) := by
  induction es generalizing s with
  | nil => exact h
  | cons e es ih => exact ih (h.step e).inv

/-- Every resume a run makes from a state with `RunInv` answers a report it made. -/
theorem runFrom_answers {s : RunState} (h : RunInv c s) (es : List Event) :
    ∃ acts, (runFrom c s es).monitor.log = s.monitor.log ++ acts ∧ AnswersReports acts := by
  induction es generalizing s with
  | nil => exact ⟨[], by simp, fun _ => rfl⟩
  | cons e es ih =>
    obtain ⟨hinv, acts, hl, ha⟩ := h.step e
    obtain ⟨acts', hl', ha'⟩ := ih hinv
    exact ⟨acts ++ acts', by simp [hl', hl], ha.answers.append ha'⟩

theorem run_inv (es : List Event) : RunInv c (run c es) := runFrom_inv c (.init c) es

/-- Once `Run` has left its main loop, no step changes the result, every step keeps `StepActs`
    and writes no status, and `Run` does not go back. -/
theorem runFrom_keeps_of_stopped {s : RunState} (h : s.phase.running = false) (es : List Event) :
    Keeps s.monitor (runFrom c s es).monitor ∧ (runFrom c s es).phase.running = false := by
  induction es generalizing s with
  | nil => exact ⟨.refl _, h⟩
  | cons e es ih =>
    obtain ⟨m, ph⟩ := s
    have hstep : Keeps m (Sandbox2.step c ⟨m, ph⟩ e).monitor ∧
        (Sandbox2.step c ⟨m, ph⟩ e).phase.running = false := by
      cases ph <;> simp only [Phase.running, Bool.true_eq_false] at h <;> cases e <;>
        first | exact ⟨.refl m, rfl⟩ | exact ⟨drainPass_keeps c _ _ _ m, drainPass_running c _ _ _ m⟩
    obtain ⟨hk, hr⟩ := ih hstep.2
    exact ⟨hstep.1.trans hk, hr⟩

/-- `Run` writes the status at most once. A written status is the recorded one. It is set when
    `Run` returns, and once it is set no later step writes a status or changes the result. -/
theorem run_status_written_once (es : List Event) :
    let s := run c es
    statusWrites s.monitor.log ≤ 1 ∧
    (∀ st code, .setExitStatusCode st code ∈ s.monitor.log →
      s.monitor.result.finalStatus = st ∧ s.monitor.result.reasonCode = code) ∧
    (s.phase = .done → s.monitor.result.finalStatus ≠ .unset ∧ statusWrites s.monitor.log = 1) ∧
    (s.monitor.result.finalStatus ≠ .unset → ∀ es',
      (run c (es ++ es')).monitor.result = s.monitor.result ∧
      statusWrites (run c (es ++ es')).monitor.log = statusWrites s.monitor.log) := by
  intro s
  have h : RunInv c s := run_inv c es
  refine ⟨h.statusOnce, h.sound.written, fun hd => ?_, fun hset es' => ?_⟩
  · have hne : s.monitor.result.finalStatus ≠ .unset := fun hu => by
      simpa [hd, Phase.running] using h.running.2 hu
    have := h.statusOnce
    have := mt h.sound.unset_iff.2 hne
    exact ⟨hne, by omega⟩
  · have hr : s.phase.running = false := by simpa [hset] using h.running
    obtain ⟨hk, -⟩ := runFrom_keeps_of_stopped c hr es'
    obtain ⟨acts, hl, -, hw⟩ := hk.log
    rw [run, runFrom_append]
    show (runFrom c s es').monitor.result = s.monitor.result ∧
      statusWrites (runFrom c s es').monitor.log = statusWrites s.monitor.log
    exact ⟨hk.result, by simp [hl, hw]⟩

/-- `SetAdditionalResultInfo` is called at most once in a run. It is called while the monitor
    handles a report of the task it is for, after the status the run records was written in that
    same handling, and the recorded registers are that task's. Until it is called, the fields it
    writes keep their defaults. A stack trace is kept only when the policy allows one for the
    recorded status. -/
theorem run_setAdditionalResultInfo_once (es : List Event) :
    let m := (run c es).monitor
    infoWrites m.log ≤ 1 ∧
    (∀ pre q post, m.log = pre ++ .setAdditionalResultInfo q :: post →
      (∃ r, m.result.regs = some r ∧ r.pid = q) ∧
      ∃ pre' s mid code, pre = pre' ++ .report q s :: mid ∧
        .setExitStatusCode m.result.finalStatus code ∈ mid ∧ ∀ a ∈ mid, a.reported = none) ∧
    (infoWrites m.log = 0 → m.result.regs = none ∧ m.result.progName = "" ∧
      m.result.procMaps = "" ∧ m.result.stackTrace = []) ∧
    (m.result.stackTrace ≠ [] → c.policy.shouldCollectStackTrace m.result.finalStatus = true) := by
  intro m
  have h := run_inv c es
  have hs : Sound c m := h.sound
  have hinfo : infoWrites m.log ≤ 1 := h.infoLe.trans h.statusOnce
  have hpos : ∀ {q}, .setAdditionalResultInfo q ∈ m.log → 0 < infoWrites m.log :=
    fun hq => List.countP_pos_iff.2 ⟨_, hq, rfl⟩
  refine ⟨hinfo, fun pre q post hl => ⟨?_, ?_⟩, fun h0 => ?_, hs.stack⟩
  · have hmem : .setAdditionalResultInfo q ∈ m.log := by simp [hl]
    cases hr : m.result.regs with
    | none => have := (hs.fresh hr).1; have := hpos hmem; omega
    | some r => exact ⟨r, rfl, eq_of_infoWrites_le_one hinfo (hs.regs r hr) hmem⟩
  · obtain ⟨pre', s, mid, rfl, hw, hn⟩ := (h.info : InfoAfterReport m.log) pre q post hl
    obtain ⟨a, ha, hsw⟩ := List.countP_pos_iff.1 hw
    obtain ⟨st, code, rfl⟩ := Action.isStatusWrite_iff.1 hsw
    have hst := (hs.written st code (by simp [hl, ha])).1
    exact ⟨pre', s, mid, code, rfl, by rw [hst]; exact ha, hn⟩
  · have hnone : m.result.regs = none := by
      cases hr : m.result.regs with
      | none => rfl
      | some r => have := hpos (hs.regs r hr); omega
    exact ⟨hnone, (hs.fresh hnone).2⟩

end Sandbox2
