import Mathlib.Algebra.Order.Ring.Int
import Sandbox2.Linux

/-!
# `PtraceMonitor::InitPtraceAttach`

`InitPtraceAttach` (`monitor_ptrace.cc:489-615`) seizes every task of the sandboxee: a loop over
the task list read at the start, which skips a task that is gone (`ESRCH`), fails on an `errno`
other than `EPERM` or `ESRCH`, and seizes the tasks that gave `EPERM` again in another round, with
a two-second deadline and an exponential back-off. The world is what the kernel and the clock
answer: the `errno` of every `PTRACE_SEIZE` by round and task, and every reading of `absl::Now()`
by its index; times are `absl::Time` in nanoseconds.

The retry test is the other way round from its message: `Attaching to sandboxee timed out` is
returned while `absl::Now() < deadline`. So an `EPERM` before the deadline fails the attach at
once; past the deadline the loop retries without end for as long as `EPERM` comes back, and its
sleep, bounded by `deadline - absl::Now()`, is not positive.
-/

namespace Sandbox2

/-- One millisecond, in nanoseconds. -/
def millisecond : Int := 1000000

/-- One second, in nanoseconds. -/
def second : Int := 1000 * millisecond

/-- `kInitialRetry`. -/
def kInitialRetry : Int := millisecond

/-- `kMaxRetry`. -/
def kMaxRetry : Int := 20 * millisecond

/-- What `InitPtraceAttach` reads from the world. `seize k task` is the `errno` of
    `ptrace(PTRACE_SEIZE, task, 0, options)` in round `k` of the loop, `none` when it returned 0;
    `now i` is the `i`-th reading of `absl::Now()`: reading 0 sets the deadline, and round `k`
    reads `2k+1` for the deadline test and `2k+2` for its sleep. -/
structure AttachWorld where
  initPid : Pid
  initSeizeOk : Bool
  tasksBefore : Option (List Pid)
  seize : Nat → Pid → Option Nat
  now : Nat → Int
  tasksAfter : Option (List Pid)
  sendDoneOk : Bool

/-- The `for` loop over `tasks` (`monitor_ptrace.cc:532-566`), with `tasks_left` and
    `tasks_attached` so far: `none` for the `return false` on an `errno` other than `EPERM` and
    `ESRCH`. -/
def seizeTasks (seize : Pid → Option Nat) :
    List Pid → List Pid → List Pid → Option (List Pid × List Pid)
  | [], left, attached => some (left, attached)
  | task :: tasks, left, attached =>
    match seize task with
    | none => seizeTasks seize tasks left (attached.insert task)
    | some errno =>
      if errno = eperm then seizeTasks seize tasks (left.insert task) attached
      else if errno = esrch then seizeTasks seize tasks left attached
      else none

/-- How the `while (!tasks.empty())` loop ends: every task seized or skipped, with
    `tasks_attached`, or a `return false`. -/
inductive LoopEnd where
  | done (attached : List Pid)
  | failed
  deriving DecidableEq, Repr

/-- The sleep before round `retries + 1`: `min({retry_interval, kMaxRetry, deadline - Now()})`,
    with `retry_interval = kInitialRetry * (1 << min(10, retries))`. -/
def retrySleep (deadline now : Int) (retries : Nat) : Int :=
  min (min (kInitialRetry * 2 ^ min 10 retries) kMaxRetry) (deadline - now)

/-- The `while (!tasks.empty())` loop (`monitor_ptrace.cc:529-581`) from round `retries`, for at
    most `fuel` more rounds, with the sleeps made so far: how it ends, and its sleeps; `none` when
    the fuel runs out. -/
def attachLoop (w : AttachWorld) (deadline : Int) :
    Nat → Nat → List Pid → List Pid → List Int → Option (LoopEnd × List Int)
  | 0, _, _, _, _ => none
  | fuel + 1, retries, tasks, attached, sleeps =>
    if tasks.isEmpty then some (.done attached, sleeps)
    else
      match seizeTasks (w.seize retries) tasks [] attached with
      | none => some (.failed, sleeps)
      | some (left, attached) =>
        if left.isEmpty then attachLoop w deadline fuel retries left attached sleeps
        else if w.now (2 * retries + 1) < deadline then some (.failed, sleeps)
        else attachLoop w deadline fuel (retries + 1) left attached
          (sleeps ++ [retrySleep deadline (w.now (2 * retries + 2)) retries])

/-- `tasks_attached != tasks` for two `flat_hash_set`s, negated: the same members. -/
def sameTasks (a b : List Pid) : Bool := a.all (· ∈ b) && b.all (· ∈ a)

/-- `InitPtraceAttach` for the main PID `mainPid`, with at most `fuel` rounds of its loop: what it
    returns, and the loop's sleeps; `none` when the fuel runs out. -/
def initPtraceAttach (mainPid : Pid) (w : AttachWorld) (fuel : Nat) : Option (Bool × List Int) :=
  if 0 < w.initPid ∧ w.initSeizeOk = false then some (false, [])
  else
    match w.tasksBefore with
    | none => some (false, [])
    | some tasks =>
      if mainPid ∉ tasks then some (false, [])
      else
        (attachLoop w (w.now 0 + 2 * second) fuel 0 tasks [] []).map fun (e, sleeps) =>
          match e, w.tasksAfter with
          | .done attached, some after => (sameTasks attached after && w.sendDoneOk, sleeps)
          | _, _ => (false, sleeps)

/-! ## A round of seizes -/

section SeizeTasks

variable (seize : Pid → Option Nat)

/-- A round fails exactly when some task's seize gives an `errno` other than `EPERM` and
    `ESRCH`. -/
theorem seizeTasks_eq_none_iff (tasks left attached : List Pid) :
    seizeTasks seize tasks left attached = none ↔
      ∃ task ∈ tasks, ∃ errno, seize task = some errno ∧ errno ≠ eperm ∧ errno ≠ esrch := by
  induction tasks generalizing left attached with
  | nil => simp [seizeTasks]
  | cons task tasks ih =>
    rcases hs : seize task with _ | errno
    · simp [seizeTasks, hs, ih]
    · by_cases hp : errno = eperm
      · simp [seizeTasks, hs, hp, ih, eperm, esrch]
      by_cases hr : errno = esrch
      · simp [seizeTasks, hs, hr, ih, eperm, esrch]
      · simp [seizeTasks, hs, hp, hr]

/-- A round that does not fail leaves to retry the tasks that gave `EPERM`, and attaches the
    tasks it seized. -/
theorem seizeTasks_mem {tasks left attached left' attached' : List Pid}
    (h : seizeTasks seize tasks left attached = some (left', attached')) :
    (∀ x, x ∈ left' ↔ x ∈ left ∨ x ∈ tasks ∧ seize x = some eperm) ∧
    (∀ x, x ∈ attached' ↔ x ∈ attached ∨ x ∈ tasks ∧ seize x = none) := by
  induction tasks generalizing left attached with
  | nil =>
    simp only [seizeTasks, Option.some.injEq, Prod.mk.injEq] at h
    obtain ⟨rfl, rfl⟩ := h
    simp
  | cons task tasks ih =>
    rcases hs : seize task with _ | errno
    · obtain ⟨hl, ha⟩ := ih (by simpa only [seizeTasks, hs] using h)
      refine ⟨fun x => ?_, fun x => ?_⟩ <;> by_cases hx : x = task <;> simp [hl, ha, hx, hs]
    by_cases hp : errno = eperm
    · subst hp
      obtain ⟨hl, ha⟩ := ih (by simpa only [seizeTasks, hs, if_true] using h)
      refine ⟨fun x => ?_, fun x => ?_⟩ <;> by_cases hx : x = task <;> simp [hl, ha, hx, hs]
    by_cases hr : errno = esrch
    · subst hr
      obtain ⟨hl, ha⟩ := ih (by simpa [seizeTasks, hs, eperm, esrch] using h)
      refine ⟨fun x => ?_, fun x => ?_⟩ <;> by_cases hx : x = task <;>
        simp [hl, ha, hx, hs, eperm, esrch]
    · simp [seizeTasks, hs, hp, hr] at h

/-- A round in which no task gives an `errno` other than `EPERM` and `ESRCH` does not fail, and
    leaves a task that gave `EPERM` to retry. -/
theorem seizeTasks_keeps_eperm (hfatal : ∀ t errno, seize t = some errno → errno = eperm ∨ errno = esrch)
    {tasks : List Pid} (attached : List Pid) {task : Pid} (htask : task ∈ tasks)
    (hperm : seize task = some eperm) :
    ∃ left attached', seizeTasks seize tasks [] attached = some (left, attached') ∧ task ∈ left := by
  rcases hr : seizeTasks seize tasks [] attached with _ | ⟨left, attached'⟩
  · obtain ⟨t, -, errno, hs, hp, hs'⟩ := (seizeTasks_eq_none_iff seize tasks [] attached).1 hr
    exact ((hfatal t errno hs).elim hp hs').elim
  · exact ⟨left, attached', rfl, ((seizeTasks_mem seize hr).1 task).2 (.inr ⟨htask, hperm⟩)⟩

end SeizeTasks

/-! ## The loop -/

section Loop

variable (w : AttachWorld) (deadline : Int)

/-- The deadline test the wrong way round: a round in which some task gives `EPERM`, with the
    clock read before the deadline, ends the loop with `return false`. -/
theorem attachLoop_eperm_before_deadline (fuel retries : Nat) (tasks attached : List Pid)
    (sleeps : List Int) (task : Pid) (htask : task ∈ tasks)
    (heperm : w.seize retries task = some eperm) (hnow : w.now (2 * retries + 1) < deadline) :
    attachLoop w deadline (fuel + 1) retries tasks attached sleeps = some (.failed, sleeps) := by
  have hne : tasks.isEmpty = false := by cases tasks <;> simp_all
  rcases hr : seizeTasks (w.seize retries) tasks [] attached with _ | ⟨left, attached'⟩
  · simp [attachLoop, hne, hr]
  · have hleft : left.isEmpty = false := by
      have := ((seizeTasks_mem _ hr).1 task).2 (.inr ⟨htask, heperm⟩)
      cases left <;> simp_all
    simp [attachLoop, hne, hr, hleft, hnow]

/-- The tasks a round leaves to retry are among its tasks. -/
theorem seizeTasks_left_subset {seize : Pid → Option Nat} {tasks attached left attached' : List Pid}
    (h : seizeTasks seize tasks [] attached = some (left, attached')) : ∀ x ∈ left, x ∈ tasks :=
  fun x hx => (((seizeTasks_mem seize h).1 x).1 hx).resolve_left (List.not_mem_nil x) |>.1

/-- With a clock that does not go back, no sleep of the loop is positive: it sleeps only once
    the deadline has passed, and for at most the time left. -/
theorem attachLoop_sleeps_nonpos (hmono : Monotone w.now) {fuel retries : Nat}
    {tasks attached : List Pid} {sleeps sleeps' : List Int} {e : LoopEnd}
    (h : attachLoop w deadline fuel retries tasks attached sleeps = some (e, sleeps')) :
    ∃ slept, sleeps' = sleeps ++ slept ∧ ∀ s ∈ slept, s ≤ 0 := by
  induction fuel generalizing retries tasks attached sleeps with
  | zero => simp [attachLoop] at h
  | succ fuel ih =>
    unfold attachLoop at h
    split at h
    · exact ⟨[], by simp_all⟩
    rcases hr : seizeTasks (w.seize retries) tasks [] attached with _ | ⟨left, attached'⟩
    · simp only [hr, Option.some.injEq, Prod.mk.injEq] at h
      exact ⟨[], by simp [h.2]⟩
    simp only [hr] at h
    split at h
    · exact ih h
    split at h
    · simp only [Option.some.injEq, Prod.mk.injEq] at h
      exact ⟨[], by simp [h.2]⟩
    · next hlate =>
      obtain ⟨slept, rfl, hs⟩ := ih h
      have hclock : w.now (2 * retries + 1) ≤ w.now (2 * retries + 2) := hmono (by omega)
      have hsleep := min_le_right (min (kInitialRetry * 2 ^ min 10 retries) kMaxRetry)
        (deadline - w.now (2 * retries + 2))
      refine ⟨retrySleep deadline (w.now (2 * retries + 2)) retries :: slept, by simp, ?_⟩
      intro s hmem
      rcases List.mem_cons.1 hmem with rfl | hmem
      · exact hsleep.trans (by omega)
      · exact hs s hmem

/-- The tasks the loop attaches are among those it started with or had attached. -/
theorem attachLoop_done_subset {fuel retries : Nat} {tasks attached attached' : List Pid}
    {sleeps sleeps' : List Int}
    (h : attachLoop w deadline fuel retries tasks attached sleeps = some (.done attached', sleeps')) :
    ∀ x ∈ attached', x ∈ attached ∨ x ∈ tasks := by
  induction fuel generalizing retries tasks attached sleeps with
  | zero => simp [attachLoop] at h
  | succ fuel ih =>
    unfold attachLoop at h
    split at h
    · simp only [Option.some.injEq, Prod.mk.injEq, LoopEnd.done.injEq] at h
      exact fun x hx => .inl (h.1 ▸ hx)
    rcases hr : seizeTasks (w.seize retries) tasks [] attached with _ | ⟨left, attached''⟩
    · simp [hr] at h
    have hmem := seizeTasks_mem _ hr
    have widen : ∀ x, x ∈ attached'' ∨ x ∈ left → x ∈ attached ∨ x ∈ tasks := by
      rintro x (hx | hx)
      · exact ((hmem.2 x).1 hx).imp id And.left
      · exact .inr (seizeTasks_left_subset hr x hx)
    simp only [hr] at h
    split at h
    · exact fun x hx => widen x (ih h x hx)
    split at h
    · simp at h
    · exact fun x hx => widen x (ih h x hx)

/-- Past the deadline, a task that gives `EPERM` in every round keeps the loop going, as long as
    no task gives another `errno`: no fuel is enough. -/
theorem attachLoop_spins (hlate : ∀ k, deadline ≤ w.now (2 * k + 1))
    (hfatal : ∀ k t errno, w.seize k t = some errno → errno = eperm ∨ errno = esrch) {task : Pid}
    (hperm : ∀ k, w.seize k task = some eperm) (fuel retries : Nat) {tasks attached : List Pid}
    {sleeps : List Int} (htask : task ∈ tasks) :
    attachLoop w deadline fuel retries tasks attached sleeps = none := by
  induction fuel generalizing retries tasks attached sleeps with
  | zero => rfl
  | succ fuel ih =>
    obtain ⟨left, attached', hr, hleft⟩ :=
      seizeTasks_keeps_eperm _ (hfatal retries) attached htask (hperm retries)
    have hne : ∀ {l : List Pid}, task ∈ l → l.isEmpty = false := fun h => by cases h <;> rfl
    simp only [attachLoop, hne htask, hr, hne hleft, if_neg (not_lt.2 (hlate retries))]
    exact ih _ hleft

end Loop

/-- The main PID 100, alone in its task list, whose `PTRACE_SEIZE` gives `EPERM` in the first
    round and succeeds after, on a loaded machine: the clock reads `3i` s at its `i`-th reading,
    so the first deadline test is already past the deadline. -/
def epermLate : AttachWorld where
  initPid := 0
  initSeizeOk := true
  tasksBefore := some [100]
  seize := fun k _ => if k = 0 then some eperm else none
  now := fun i => i * (3 * second)
  tasksAfter := some [100]
  sendDoneOk := true

theorem epermLate_now_mono : Monotone epermLate.now := fun _ _ h =>
  Int.mul_le_mul_of_nonneg_right (Int.ofNat_le.2 h) (by decide)

/-- With a clock that does not go back, `InitPtraceAttach` never sleeps for a positive time: its
    back-off runs only past the deadline, where `deadline - absl::Now()` bounds each sleep by
    zero. -/
theorem initPtraceAttach_sleeps_nonpos {mainPid : Pid} {w : AttachWorld} {fuel : Nat} {r : Bool}
    {sleeps : List Int} (hmono : Monotone w.now)
    (h : initPtraceAttach mainPid w fuel = some (r, sleeps)) : ∀ s ∈ sleeps, s ≤ 0 := by
  unfold initPtraceAttach at h
  split at h
  · simp_all
  rcases hb : w.tasksBefore with _ | tasks <;> simp only [hb] at h
  · simp_all
  split at h
  · simp_all
  obtain ⟨⟨e, sleeps'⟩, hl, he⟩ := Option.map_eq_some'.1 h
  have hsleeps : sleeps = sleeps' := by split at he <;> exact (congrArg Prod.snd he).symm
  obtain ⟨slept, hsl, hs⟩ := attachLoop_sleeps_nonpos w _ hmono hl
  rw [hsleeps, hsl, List.nil_append]
  exact hs

/-- The retry of `epermLate` sleeps for -4 s. -/
theorem initPtraceAttach_sleeps_nonpos_epermLate :
    initPtraceAttach 100 epermLate 3 = some (true, [-4 * second]) ∧ ∀ s ∈ [-4 * second], s ≤ 0 :=
  have h : initPtraceAttach 100 epermLate 3 = some (true, [-4 * second]) := by decide
  ⟨h, initPtraceAttach_sleeps_nonpos epermLate_now_mono h⟩

/-- Once the clock, which does not go back, has passed the deadline at the first deadline test, a
    task that gives `EPERM` in every round makes `InitPtraceAttach` spin without end, as long as
    no task gives another `errno`: no fuel is enough for it to return. -/
theorem initPtraceAttach_spins_past_deadline {mainPid task : Pid} {w : AttachWorld}
    {tasks : List Pid} (hinit : w.initPid ≤ 0 ∨ w.initSeizeOk = true)
    (hb : w.tasksBefore = some tasks) (hmain : mainPid ∈ tasks) (htask : task ∈ tasks)
    (hmono : Monotone w.now) (hlate : w.now 0 + 2 * second ≤ w.now 1)
    (hfatal : ∀ k t errno, w.seize k t = some errno → errno = eperm ∨ errno = esrch)
    (hperm : ∀ k, w.seize k task = some eperm) (fuel : Nat) :
    initPtraceAttach mainPid w fuel = none := by
  have hinit' : ¬(0 < w.initPid ∧ w.initSeizeOk = false) := fun ⟨hp, hs⟩ =>
    hinit.elim (fun h => absurd hp (not_lt.2 h)) (fun h => Bool.noConfusion (h.symm.trans hs))
  have hlate' : ∀ k, w.now 0 + 2 * second ≤ w.now (2 * k + 1) :=
    fun k => hlate.trans (hmono (by omega))
  rw [initPtraceAttach, if_neg hinit', hb]
  dsimp only
  rw [if_neg (not_not.2 hmain), attachLoop_spins w _ hlate' hfatal hperm fuel 0 htask]
  rfl

/-- `epermLate` with `EPERM` in every round. -/
def epermForever : AttachWorld := { epermLate with seize := fun _ _ => some eperm }

theorem initPtraceAttach_spins_past_deadline_epermForever :
    initPtraceAttach 100 epermForever 1000 = none :=
  @initPtraceAttach_spins_past_deadline 100 100 epermForever [100] (.inl (by decide)) rfl (by decide) (by decide)
    epermLate_now_mono (by decide) (fun _ _ _ h => .inl (Option.some.inj h).symm) (fun _ => rfl) 1000

/-- The main PID 100, alone in its task list, whose `PTRACE_SEIZE` gives `EPERM` in the first
    round and succeeds after; the clock reads `i` ms at its `i`-th reading. -/
def epermOnStart : AttachWorld where
  initPid := 0
  initSeizeOk := true
  tasksBefore := some [100]
  seize := fun k _ => if k = 0 then some eperm else none
  now := fun i => i * millisecond
  tasksAfter := some [100]
  sendDoneOk := true

/-- `InitPtraceAttach` fails on that `EPERM` at the first deadline test, 1 ms after the deadline
    was set and 1.999 s before it, however many rounds it is allowed. -/
theorem initPtraceAttach_eperm_fails_with_time_left (fuel : Nat) :
    epermOnStart.now 1 + 1999 * millisecond = epermOnStart.now 0 + 2 * second ∧
    initPtraceAttach 100 epermOnStart (fuel + 1) = some (false, []) := by
  refine ⟨by decide, ?_⟩
  have hloop := attachLoop_eperm_before_deadline epermOnStart (epermOnStart.now 0 + 2 * second)
    fuel 0 [100] [] [] 100 (by decide) (by decide) (by decide)
  rw [initPtraceAttach, if_neg (by decide), show epermOnStart.tasksBefore = some [100] from rfl]
  dsimp only
  rw [if_neg (by decide), hloop]
  rfl

end Sandbox2
