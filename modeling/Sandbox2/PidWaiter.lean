import Sandbox2.Linux

/-!
# `PidWaiter`

`PidWaiter` (`monitor_ptrace.cc:74-127`) stands between `Run` and `waitpid`: a refill drains every
task that is ready (the priority PID first, then any child, up to the first 0 or -1) into a
deque, and `Wait` hands them out one call at a time, then the error that ended the batch, if any.

The kernel is the list of results its `waitpid` calls return, in order; a PID and an `errno` the
kernel returns are positive. The code is `wait` over a `PidWaiter`, which also records the PID
each `waitpid` call polled. The abstract model, `specWait`, is a FIFO of what the caller is owed,
refilled by one refill's results only when it is empty; the main results are that any number of
`Wait` calls refines it, and that what the caller is given is what the refills gathered, in order,
each once.
-/

namespace Sandbox2

/-- What `PidWaiter::Wait` returns: 0, -1 with `errno`, or a task with its wait status. -/
inductive WaitRet where
  | none
  | error (errno : Nat)
  | child (pid : Pid) (status : Int)
  deriving DecidableEq, Repr

/-- What one `waitpid(pid, &status, __WNOTHREAD | __WALL | WUNTRACED | WNOHANG)` returns: a task
    with its status, 0, or -1 with `errno`. -/
inductive WaitpidResult where
  | reaped (pid : ℕ+) (status : Int)
  | none
  | failed (errno : ℕ+)
  deriving DecidableEq, Repr

/-- `PidWaiter`: `priority_pid_`, `statuses_`, `last_errno_`, and the `pid` argument of every
    `waitpid` call made so far. The priority PID is the main PID, which is positive. -/
structure PidWaiter where
  priorityPid : ℕ+
  statuses : List (Pid × Int)
  lastErrno : Nat
  polls : List Pid
  deriving DecidableEq, Repr

/-- `PidWaiter(priority_pid)`. -/
def PidWaiter.init (priorityPid : ℕ+) : PidWaiter := ⟨priorityPid, [], 0, []⟩

namespace PidWaiter

/-- The loop of `RefillStatuses` (`monitor_ptrace.cc:107-122`) from a `waitpid` on `pid`: the
    pairs it gathers, `last_errno_`, the PIDs it polls and the results left; `none` when the
    results run out before the loop ends. -/
def refillLoop (pid : Pid) :
    List WaitpidResult → Option (List (Pid × Int) × Nat × List Pid × List WaitpidResult)
  | [] => none
  | .reaped ret status :: rs =>
    (refillLoop (-1) rs).map fun (b, e, ps, rest) => ((ret, status) :: b, e, pid :: ps, rest)
  | .failed errno :: rs => some ([], errno, [pid], rs)
  | .none :: rs =>
    if pid == -1 then some ([], 0, [pid], rs)
    else (refillLoop (-1) rs).map fun (b, e, ps, rest) => (b, e, pid :: ps, rest)

/-- `RefillStatuses` (`monitor_ptrace.cc:103-123`). -/
def refillStatuses (w : PidWaiter) (rs : List WaitpidResult) :
    Option (PidWaiter × List WaitpidResult) :=
  (refillLoop w.priorityPid rs).map fun (b, e, ps, rest) =>
    ({ w with statuses := b, lastErrno := e, polls := w.polls ++ ps }, rest)

/-- The end of `Wait` (`monitor_ptrace.cc:88-99`): with no pair left, 0, or -1 with
    `last_errno_` (which it clears); otherwise the front pair, popped. -/
def front (w : PidWaiter) : WaitRet × PidWaiter :=
  match w.statuses with
  | [] => if w.lastErrno = 0 then (.none, w) else (.error w.lastErrno, { w with lastErrno := 0 })
  | (pid, status) :: rest => (.child pid status, { w with statuses := rest })

/-- `Wait` (`monitor_ptrace.cc:83-100`): a refill when nothing is buffered, then `front`. Returns
    the answer, the waiter after and the results left; `none` when they run out in a refill. -/
def wait (w : PidWaiter) (rs : List WaitpidResult) :
    Option (WaitRet × PidWaiter × List WaitpidResult) :=
  if w.statuses.isEmpty && w.lastErrno == 0 then
    (w.refillStatuses rs).map fun (w, rs) => (w.front.1, w.front.2, rs)
  else some (w.front.1, w.front.2, rs)

/-- `n` calls of `Wait` in a row: their answers, the waiter after, the results left. -/
def waitN : Nat → PidWaiter → List WaitpidResult →
    Option (List WaitRet × PidWaiter × List WaitpidResult)
  | 0, w, rs => some ([], w, rs)
  | n + 1, w, rs => (w.wait rs).bind fun (o, w, rs) =>
    (waitN n w rs).map fun (os, w, rs) => (o :: os, w, rs)

/-- What a deque of pairs and a `last_errno_` owe the caller: the pairs in order, then the
    error. -/
def owedBy (statuses : List (Pid × Int)) (lastErrno : Nat) : List WaitRet :=
  statuses.map (fun (pid, status) => .child pid status) ++
    if lastErrno = 0 then [] else [.error lastErrno]

/-- What a waiter still owes its caller. -/
abbrev pending (w : PidWaiter) : List WaitRet := owedBy w.statuses w.lastErrno

end PidWaiter

/-! ## The abstract model -/

/-- What a `waitpid` result owes the caller of `Wait`: the pair of a reaped task, the error of a
    failed call, nothing for a 0. -/
def WaitpidResult.owed : WaitpidResult → List WaitRet
  | .reaped pid status => [.child pid status]
  | .none => []
  | .failed errno => [.error errno]

/-- The results of the polls of any child in a refill, up to and with the first 0 or -1; `none`
    when the results run out first. -/
def takeAny : List WaitpidResult → Option (List WaitpidResult × List WaitpidResult)
  | [] => none
  | .reaped pid status :: rs => (takeAny rs).map fun (b, rest) => (.reaped pid status :: b, rest)
  | r :: rs => some ([r], rs)

/-- The results one refill consumes: the poll of the priority PID, then the polls of any child up
    to the first 0 or -1. A -1 from the first poll ends the refill. -/
def takeRefill : List WaitpidResult → Option (List WaitpidResult × List WaitpidResult)
  | [] => none
  | .failed errno :: rs => some ([.failed errno], rs)
  | r :: rs => (takeAny rs).map fun (b, rest) => (r :: b, rest)

/-- The answer to a call when `owed` is what the caller is owed: its head, or 0 when nothing is
    owed. -/
def answer : List WaitRet → WaitRet × List WaitRet
  | [] => (.none, [])
  | o :: rest => (o, rest)

/-- What `Wait` is for: a FIFO of what the caller is owed, refilled when empty with what one
    refill's results owe. Returns the answer, what is still owed, the PIDs polled (the priority
    PID, then -1 for every further poll) and the results left. -/
def specWait (prio : ℕ+) (owed : List WaitRet) (rs : List WaitpidResult) :
    Option (WaitRet × List WaitRet × List Pid × List WaitpidResult) :=
  match owed with
  | o :: rest => some (o, rest, [], rs)
  | [] => (takeRefill rs).map fun (batch, rest) =>
    ((answer (batch.flatMap WaitpidResult.owed)).1, (answer (batch.flatMap WaitpidResult.owed)).2,
      (prio : Pid) :: List.replicate (batch.length - 1) (-1), rest)

/-- `n` calls of `specWait` in a row. -/
def specWaitN (prio : ℕ+) : Nat → List WaitRet → List WaitpidResult →
    Option (List WaitRet × List WaitRet × List Pid × List WaitpidResult)
  | 0, owed, rs => some ([], owed, [], rs)
  | n + 1, owed, rs => (specWait prio owed rs).bind fun (o, owed, ps, rs) =>
    (specWaitN prio n owed rs).map fun (os, owed, ps', rs) => (o :: os, owed, ps ++ ps', rs)

/-- What a refill's results give the caller over the calls that follow: what they owe, or a
    single 0 when they owe nothing. -/
def given (batch : List WaitpidResult) : List WaitRet :=
  (answer (batch.flatMap WaitpidResult.owed)).1 :: (answer (batch.flatMap WaitpidResult.owed)).2

/-! ## The code refines the abstract model -/

namespace PidWaiter

theorem map_eq_map_comp {α β γ δ : Type} {x : Option α} {y : Option β} {f : α → γ} {g : β → γ}
    (h : x.map f = y.map g) (p : γ → δ) {f' : α → δ} {g' : β → δ} (hf : ∀ a, f' a = p (f a))
    (hg : ∀ b, g' b = p (g b)) : x.map f' = y.map g' := by
  rw [show f' = p ∘ f from funext hf, show g' = p ∘ g from funext hg, ← Option.map_map,
    ← Option.map_map, h]

/-- The polls of any child gather what their results owe, and poll -1 once per result. -/
theorem refillLoop_any (rs : List WaitpidResult) :
    (refillLoop (-1) rs).map (fun (b, e, ps, rest) => (owedBy b e, ps, rest)) =
      (takeAny rs).map fun (batch, rest) =>
        (batch.flatMap WaitpidResult.owed, List.replicate batch.length (-1), rest) := by
  induction rs with
  | nil => rfl
  | cons r rs ih =>
    cases r with
    | reaped pid status =>
      simp only [refillLoop, takeAny, Option.map_map]
      exact map_eq_map_comp ih (fun (o, ps, rest) => (.child pid status :: o, (-1 : Pid) :: ps, rest))
        (fun ⟨_, _, _, _⟩ => rfl) (fun ⟨_, _⟩ => rfl)
    | none => rfl
    | failed errno => simp [refillLoop, takeAny, owedBy, WaitpidResult.owed, errno.ne_zero]

/-- A refill gathers what its results owe, polling the priority PID and then -1. -/
theorem refillLoop_priority (prio : ℕ+) (rs : List WaitpidResult) :
    (refillLoop prio rs).map (fun (b, e, ps, rest) => (owedBy b e, ps, rest)) =
      (takeRefill rs).map fun (batch, rest) =>
        (batch.flatMap WaitpidResult.owed, (prio : Pid) :: List.replicate (batch.length - 1) (-1),
          rest) := by
  have hprio : ((prio : Pid) == -1) = false := by simp
  cases rs with
  | nil => rfl
  | cons r rs =>
    cases r with
    | failed errno => simp [refillLoop, takeRefill, owedBy, WaitpidResult.owed, errno.ne_zero]
    | reaped pid status =>
      simp only [refillLoop, takeRefill, Option.map_map]
      exact map_eq_map_comp (refillLoop_any rs)
        (fun (o, ps, rest) => (.child pid status :: o, (prio : Pid) :: ps, rest))
        (fun ⟨_, _, _, _⟩ => rfl) (fun ⟨_, _⟩ => rfl)
    | none =>
      simp only [refillLoop, takeRefill, hprio, Bool.false_eq_true, if_false, Option.map_map]
      exact map_eq_map_comp (refillLoop_any rs) (fun (o, ps, rest) => (o, (prio : Pid) :: ps, rest))
        (fun ⟨_, _, _, _⟩ => rfl) (fun ⟨_, _⟩ => rfl)

/-- The end of `Wait` answers what the waiter owes. -/
theorem front_answer (w : PidWaiter) : answer w.pending = (w.front.1, w.front.2.pending) := by
  rcases w with ⟨prio, _ | ⟨⟨pid, status⟩, rest⟩, e, polls⟩
  · by_cases he : e = 0 <;> simp [front, answer, owedBy, he]
  · simp [front, answer, owedBy]

@[simp]
theorem front_priorityPid (w : PidWaiter) : w.front.2.priorityPid = w.priorityPid := by
  unfold front; split <;> (try split) <;> rfl

@[simp]
theorem front_polls (w : PidWaiter) : w.front.2.polls = w.polls := by
  unfold front; split <;> (try split) <;> rfl

/-- Step lemma: one call of `Wait` is one step of `specWait` from what the waiter owes, with the
    same answer, the same PIDs polled and the same results consumed. -/
theorem wait_refines (w : PidWaiter) (rs : List WaitpidResult) :
    (w.wait rs).map (fun (o, w', rest) => (o, w'.pending, w'.polls, rest)) =
      (specWait w.priorityPid w.pending rs).map fun (o, owed, ps, rest) =>
        (o, owed, w.polls ++ ps, rest) := by
  unfold wait
  split
  · next hempty =>
    simp only [Bool.and_eq_true, List.isEmpty_iff, beq_iff_eq] at hempty
    have hp : w.pending = [] := by simp [owedBy, hempty]
    rw [hp]
    have hB := refillLoop_priority w.priorityPid rs
    rcases hl : refillLoop w.priorityPid rs with _ | ⟨b, e, ps, rest⟩ <;>
      rcases ht : takeRefill rs with _ | ⟨batch, rest'⟩ <;>
      simp only [hl, ht, Option.map_none', Option.map_some', reduceCtorEq, Option.some.injEq,
        Prod.mk.injEq] at hB
    · simp [refillStatuses, hl, specWait, ht]
    · obtain ⟨howed, hps, rfl⟩ := hB
      have hf := front_answer ⟨w.priorityPid, b, e, w.polls ++ ps⟩
      change answer (owedBy b e) = _ at hf
      rw [howed] at hf
      simp only [refillStatuses, hl, specWait, ht, Option.map_some', hf, hps, front_polls]
  · next hne =>
    have hf := front_answer w
    rcases hp : w.pending with _ | ⟨o, owed⟩
    · simp [owedBy, List.map_eq_nil_iff] at hp
      simp [hp] at hne
    · rw [hp] at hf
      simp [specWait, answer] at hf ⊢
      simp [hf]

@[simp]
theorem wait_priorityPid {w w' : PidWaiter} {rs rest : List WaitpidResult} {o : WaitRet}
    (h : w.wait rs = some (o, w', rest)) : w'.priorityPid = w.priorityPid := by
  unfold wait refillStatuses at h
  split at h
  · rcases hl : refillLoop w.priorityPid rs with _ | ⟨b, e, ps, rest⟩ <;>
      simp only [hl, Option.map_none', Option.map_some', reduceCtorEq, Option.some.injEq,
        Prod.mk.injEq] at h
    rw [← h.2.1, front_priorityPid]
  · simp only [Option.some.injEq, Prod.mk.injEq] at h
    rw [← h.2.1, front_priorityPid]

/-- Run lemma: any number of calls of `Wait` is the same number of steps of `specWait`. -/
theorem waitN_refines (n : Nat) (w : PidWaiter) (rs : List WaitpidResult) :
    (waitN n w rs).map (fun (os, w', rest) => (os, w'.pending, w'.polls, rest)) =
      (specWaitN w.priorityPid n w.pending rs).map fun (os, owed, ps, rest) =>
        (os, owed, w.polls ++ ps, rest) := by
  induction n generalizing w rs with
  | zero => simp [waitN, specWaitN]
  | succ n ih =>
    have hstep := wait_refines w rs
    rcases hw : w.wait rs with _ | ⟨o, w₁, rs₁⟩ <;>
      rcases hs : specWait w.priorityPid w.pending rs with _ | ⟨o', owed₁, ps₁, rs₁'⟩ <;>
      simp only [hw, hs, Option.map_none', Option.map_some', reduceCtorEq, Option.some.injEq,
        Prod.mk.injEq] at hstep
    · simp [waitN, specWaitN, hw, hs]
    · obtain ⟨rfl, howed, hpolls, rfl⟩ := hstep
      have hrun := ih w₁ rs₁
      rw [wait_priorityPid hw, howed, hpolls] at hrun
      rcases hr : waitN n w₁ rs₁ with _ | ⟨os, w₂, rs₂⟩ <;>
        rcases hr' : specWaitN w.priorityPid n owed₁ rs₁ with _ | ⟨os', owed₂, ps₂, rs₂'⟩ <;>
        simp_all [waitN, specWaitN]

end PidWaiter

/-! ## What the abstract model gives the caller -/

/-- The polls of any child consume a prefix of the results, and consume it whatever follows. -/
theorem takeAny_split {rs batch rest : List WaitpidResult} (h : takeAny rs = some (batch, rest)) :
    rs = batch ++ rest ∧ ∀ rest', takeAny (batch ++ rest') = some (batch, rest') := by
  induction rs generalizing batch with
  | nil => simp [takeAny] at h
  | cons r rs ih =>
    cases r with
    | reaped pid status =>
      rcases ht : takeAny rs with _ | ⟨b, rest''⟩ <;> simp [takeAny, ht] at h
      obtain ⟨rfl, rfl⟩ := h
      obtain ⟨rfl, hb⟩ := ih ht
      simp [takeAny, hb]
    | none => simp [takeAny] at h; simp [← h.1, ← h.2, takeAny]
    | failed errno => simp [takeAny] at h; simp [← h.1, ← h.2, takeAny]

/-- A refill consumes a prefix of the results, and consumes it whatever follows. -/
theorem takeRefill_split {rs batch rest : List WaitpidResult}
    (h : takeRefill rs = some (batch, rest)) :
    rs = batch ++ rest ∧ ∀ rest', takeRefill (batch ++ rest') = some (batch, rest') := by
  rcases rs with _ | ⟨r, rs⟩
  · simp [takeRefill] at h
  cases r with
  | failed errno => simp [takeRefill] at h; simp [← h.1, ← h.2, takeRefill]
  | reaped pid status =>
    rcases ht : takeAny rs with _ | ⟨b, rest''⟩ <;> simp [takeRefill, ht] at h
    obtain ⟨rfl, rfl⟩ := h
    obtain ⟨rfl, hb⟩ := takeAny_split ht
    simp [takeRefill, hb]
  | none =>
    rcases ht : takeAny rs with _ | ⟨b, rest''⟩ <;> simp [takeRefill, ht] at h
    obtain ⟨rfl, rfl⟩ := h
    obtain ⟨rfl, hb⟩ := takeAny_split ht
    simp [takeRefill, hb]

/-- Run lemma for the abstract model: what was owed, followed by what the refills it made give,
    is what it answered followed by what it still owes. The results it consumed are those
    refills', each consumed whole. -/
theorem specWaitN_conserves {prio : ℕ+} {n : Nat} {owed owed' os : List WaitRet}
    {rs rest : List WaitpidResult} {ps : List Pid}
    (h : specWaitN prio n owed rs = some (os, owed', ps, rest)) :
    ∃ batches : List (List WaitpidResult), rs = batches.flatten ++ rest ∧
      (∀ b ∈ batches, takeRefill b = some (b, [])) ∧
      owed ++ (batches.map given).flatten = os ++ owed' := by
  induction n generalizing owed rs os ps with
  | zero =>
    simp only [specWaitN, Option.some.injEq, Prod.mk.injEq] at h
    obtain ⟨rfl, rfl, -, rfl⟩ := h
    exact ⟨[], by simp⟩
  | succ n ih =>
    rcases hs : specWait prio owed rs with _ | ⟨o, owed₁, ps₁, rs₁⟩
    · simp [specWaitN, hs] at h
    rcases hr : specWaitN prio n owed₁ rs₁ with _ | ⟨os₁, owed₂, ps₂, rs₂⟩
    · simp [specWaitN, hs, hr] at h
    simp only [specWaitN, hs, hr, Option.some_bind, Option.map_some', Option.some.injEq,
      Prod.mk.injEq] at h
    obtain ⟨rfl, rfl, -, rfl⟩ := h
    obtain ⟨batches, hrs, hb, hcons⟩ := ih hr
    rcases owed with _ | ⟨o₀, owed₀⟩
    · rcases ht : takeRefill rs with _ | ⟨batch, rest₀⟩ <;> simp [specWait, ht] at hs
      obtain ⟨rfl, rfl, -, rfl⟩ := hs
      obtain ⟨rfl, hbatch⟩ := takeRefill_split ht
      refine ⟨batch :: batches, by simp [hrs],
        List.forall_mem_cons.2 ⟨by simpa using hbatch [], hb⟩, by simp [given, hcons]⟩
    · simp only [specWait, Option.some.injEq, Prod.mk.injEq] at hs
      obtain ⟨rfl, rfl, -, rfl⟩ := hs
      exact ⟨batches, hrs, hb, by simp [hcons]⟩

/-- `PidWaiter::Wait` is a transparent FIFO over `waitpid`. Over every list of results the kernel
    can give, any number of calls are as many steps of `specWait`: the same answers and the same
    polls (the priority PID first in every refill, then any child up to a 0 or -1), with results
    consumed only when nothing is owed. And what the waiter owed, followed by what the refills it
    made give, is what it answered followed by what it still owes: every pair once and in the
    kernel's order, a refill's error once after its pairs, and a 0 only for a refill that gathered
    nothing and saw no error. -/
theorem wait_transparent_fifo (n : Nat) (w : PidWaiter) (rs : List WaitpidResult) :
    (w.waitN n rs).map (fun (os, w', rest) => (os, w'.pending, w'.polls, rest)) =
      (specWaitN w.priorityPid n w.pending rs).map (fun (os, owed, ps, rest) =>
        (os, owed, w.polls ++ ps, rest)) ∧
    ∀ os w' rest, w.waitN n rs = some (os, w', rest) →
      ∃ batches : List (List WaitpidResult), rs = batches.flatten ++ rest ∧
        (∀ b ∈ batches, takeRefill b = some (b, [])) ∧
        w.pending ++ (batches.map given).flatten = os ++ w'.pending := by
  refine ⟨PidWaiter.waitN_refines n w rs, fun os w' rest h => ?_⟩
  have hr := PidWaiter.waitN_refines n w rs
  rw [h] at hr
  rcases hs : specWaitN w.priorityPid n w.pending rs with _ | ⟨os', owed, ps, rest'⟩ <;>
    simp only [hs, Option.map_none', Option.map_some', reduceCtorEq, Option.some.injEq,
      Prod.mk.injEq] at hr
  obtain ⟨rfl, rfl, -, rfl⟩ := hr
  exact specWaitN_conserves hs

/-- Two tasks ready, then an error: the pairs in order, then -1 with its `errno`, after one poll
    of the priority PID and two of any child, and a second refill's poll of the priority PID. -/
example : (PidWaiter.init 7).waitN 3 [.reaped 7 0, .reaped 9 1, .none, .failed 10] =
    some ([.child 7 0, .child 9 1, .error 10], ⟨7, [], 0, [7, -1, -1, 7]⟩, []) := by
  decide

end Sandbox2
