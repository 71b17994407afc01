import Sandbox2.Monitor.State

/-!
# Reading the log

Counts and checks over the monitor's log of actions: how often it wrote the status
(`statusWrites`) and the additional result information (`infoWrites`), whether a task is resumed
before its next report (`resumedBeforeReport`, `AnswersReports`), and `stopActsOk`, what the
handler of one stop may append.
-/

namespace Sandbox2

/-- The number of `SetExitStatusCode` calls in a log. -/
def statusWrites (log : List Action) : Nat := log.countP Action.isStatusWrite

/-- The number of `SetAdditionalResultInfo` calls in a log. -/
def infoWrites (log : List Action) : Nat := log.countP Action.isInfoWrite

@[simp] theorem statusWrites_nil : statusWrites [] = 0 := rfl
@[simp] theorem statusWrites_append (l l' : List Action) :
    statusWrites (l ++ l') = statusWrites l + statusWrites l' := List.countP_append _ _ _
@[simp] theorem statusWrites_cons (a : Action) (l : List Action) :
    statusWrites (a :: l) = statusWrites l + if a.isStatusWrite then 1 else 0 := by
  simp [statusWrites, List.countP_cons]

@[simp] theorem infoWrites_nil : infoWrites [] = 0 := rfl
@[simp] theorem infoWrites_append (l l' : List Action) :
    infoWrites (l ++ l') = infoWrites l + infoWrites l' := List.countP_append _ _ _
@[simp] theorem infoWrites_cons (a : Action) (l : List Action) :
    infoWrites (a :: l) = infoWrites l + if a.isInfoWrite then 1 else 0 := by
  simp [infoWrites, List.countP_cons]

/-- Whether `log` resumes `p` before it next reports `p`: read after a report of `p`, whether the
    stop reported there is resumed. -/
def resumedBeforeReport (p : Pid) : List Action → Bool
  | [] => false
  | a :: rest => a.reported != some p && (a.resumed == some p || resumedBeforeReport p rest)

/-- Whether `log` reports `p`. -/
def reports (p : Pid) (log : List Action) : Bool := log.any (·.reported == some p)

@[simp] theorem reports_nil (p : Pid) : reports p [] = false := rfl
@[simp] theorem reports_cons (p : Pid) (a : Action) (l : List Action) :
    reports p (a :: l) = (a.reported == some p || reports p l) := rfl

theorem resumedBeforeReport_append (p : Pid) (l l' : List Action) :
    resumedBeforeReport p (l ++ l') =
      (resumedBeforeReport p l || (!reports p l && resumedBeforeReport p l')) := by
  induction l with
  | nil => simp [resumedBeforeReport]
  | cons a l ih =>
    simp only [List.cons_append, resumedBeforeReport, List.append_eq, ih, reports_cons, bne]
    cases a.reported == some p <;> cases a.resumed == some p <;>
      cases resumedBeforeReport p l <;> cases reports p l <;> rfl

/-- Every resume of `log` answers a report made before it in `log`. -/
def AnswersReports (log : List Action) : Prop := ∀ p, resumedBeforeReport p log = false

theorem AnswersReports.append {l l' : List Action} (h : AnswersReports l)
    (h' : AnswersReports l') : AnswersReports (l ++ l') := by
  intro p
  simp [resumedBeforeReport_append, h p, h' p]

/-- In a log without reports, `p` is resumed before its next report when it is resumed at all. -/
theorem resumedBeforeReport_of_noReport (p : Pid) {acts : List Action}
    (h : ∀ a ∈ acts, a.reported = none) :
    resumedBeforeReport p acts = acts.any (·.resumed == some p) := by
  induction acts with
  | nil => rfl
  | cons a acts ih =>
    simp only [List.mem_cons, forall_eq_or_imp] at h
    simp [resumedBeforeReport, h.1, ih h.2]

/-- A report of `q` followed by resumes of `q` only answers reports. -/
theorem answersReports_report {q : Pid} {status : Int} {acts : List Action}
    (hno : ∀ a ∈ acts, a.reported = none) (hq : ∀ a ∈ acts, ∀ p, a.resumed = some p → p = q) :
    AnswersReports (.report q status :: acts) := by
  intro p
  by_cases hpq : q = p
  · simp [resumedBeforeReport, Action.reported, hpq]
  · simp only [resumedBeforeReport, Action.reported, resumedBeforeReport_of_noReport p hno]
    have hr : (Action.report q status).resumed = none := rfl
    simpa [hr, hpq] using fun a ha h => hpq (hq a ha p h).symm

/-- A log that neither reports nor resumes answers reports. -/
theorem answersReports_of_quiet {acts : List Action} (h : ∀ a ∈ acts, a.resumed = none) :
    AnswersReports acts := by
  intro p
  induction acts with
  | nil => rfl
  | cons a acts ih =>
    simp only [List.mem_cons, forall_eq_or_imp] at h
    simp [resumedBeforeReport, h.1, ih h.2]

/-- Whether a `SetAdditionalResultInfo` in `log` is for `pid`, comes after a status write (or
    `seen` one already), and is the only one. -/
def infoAfterStatus (pid : Pid) (seen : Bool) : List Action → Bool
  | [] => true
  | a :: rest =>
    if a.isStatusWrite then infoAfterStatus pid true rest
    else if a.isInfoWrite then seen && a == .setAdditionalResultInfo pid && infoWrites rest == 0
    else infoAfterStatus pid seen rest

/-- What the handler of one stop of `pid` may append to the log: no report; only `pid` is
    resumed, at most once; at most one status write; and a `SetAdditionalResultInfo` only as
    `infoAfterStatus` allows. -/
def stopActsOk (pid : Pid) (acts : List Action) : Bool :=
  acts.all (fun a => a.reported.isNone && a.resumed.all (· == pid)) &&
    acts.countP (·.resumed.isSome) ≤ 1 && statusWrites acts ≤ 1 && infoAfterStatus pid false acts

/-- Every resume in `acts` is a `PTRACE_CONT` or `PTRACE_SYSCALL` of `pid` with no signal. -/
def plainResumes (pid : Pid) (acts : List Action) : Bool :=
  acts.all fun a => a.resumed.isNone || a == .ptraceCont pid 0 || a == .ptraceSyscall pid 0

/-- `acts` resumes a task or records a status. -/
def answers (acts : List Action) : Bool :=
  acts.any fun a => a.resumed.isSome || a.isStatusWrite

/-- An action that neither reports, resumes, nor writes the result. -/
def Action.quiet (a : Action) : Prop :=
  a.reported = none ∧ a.resumed = none ∧ a.isStatusWrite = false ∧ a.isInfoWrite = false

theorem stopActsOk_cons_of_quiet {pid : Pid} {a : Action} (h : a.quiet) (l : List Action) :
    stopActsOk pid (a :: l) = stopActsOk pid l := by
  obtain ⟨h1, h2, h3, h4⟩ := h
  simp [stopActsOk, infoAfterStatus, h1, h2, h3, h4, List.countP_cons]

theorem plainResumes_cons_of_quiet {pid : Pid} {a : Action} (h : a.quiet) (l : List Action) :
    plainResumes pid (a :: l) = plainResumes pid l := by
  simp [plainResumes, h.2.1]

theorem answers_cons_of_quiet {a : Action} (h : a.quiet) (l : List Action) :
    answers (a :: l) = answers l := by
  simp [answers, h.2.1, h.2.2.1]

theorem stopActsOk_resumes_le {pid : Pid} {acts : List Action} (h : stopActsOk pid acts = true) :
    acts.countP (fun a => a.resumed.isSome) ≤ 1 := by
  simp only [stopActsOk, Bool.and_eq_true, decide_eq_true_eq] at h
  exact h.1.1.2

theorem stopActsOk_resumed {pid : Pid} {acts : List Action} (h : stopActsOk pid acts = true) :
    ∀ a ∈ acts, ∀ q, a.resumed = some q → q = pid := by
  simp only [stopActsOk, Bool.and_eq_true, List.all_eq_true] at h
  intro a ha q hq
  simpa [hq] using (h.1.1.1 a ha).2

theorem plainResumes_cont {pid : Pid} {acts : List Action} (h : plainResumes pid acts = true)
    {sig : Int} (hmem : .ptraceCont pid sig ∈ acts) : sig = 0 := by
  simp only [plainResumes, List.all_eq_true] at h
  simpa [Action.resumed] using h _ hmem

theorem plainResumes_listen {pid : Pid} {acts : List Action} (h : plainResumes pid acts = true)
    (sig : Int) : .ptraceListen pid sig ∉ acts := fun hmem => by
  simp only [plainResumes, List.all_eq_true] at h
  simpa [Action.resumed] using h _ hmem

/-- Actions that answer a stop and resume nothing record a status. -/
theorem answers_statusWrites {acts : List Action} (h : answers acts = true)
    (hq : acts.all (fun a => a.resumed.isNone) = true) : 0 < statusWrites acts := by
  simp only [answers, List.any_eq_true, Bool.or_eq_true] at h
  simp only [List.all_eq_true] at hq
  obtain ⟨a, ha, hr | hs⟩ := h
  · have := hq a ha
    simp_all
  · exact List.countP_pos_iff.2 ⟨a, ha, hs⟩

/-- Every `SetAdditionalResultInfo` of `log` is for the task of the last report before it, and a
    status was written between that report and it. -/
def InfoAfterReport (log : List Action) : Prop :=
  ∀ pre q post, log = pre ++ .setAdditionalResultInfo q :: post →
    ∃ pre' s mid, pre = pre' ++ .report q s :: mid ∧ 0 < statusWrites mid ∧
      ∀ a ∈ mid, a.reported = none

theorem InfoAfterReport.append {l l' : List Action} (h : InfoAfterReport l)
    (h' : InfoAfterReport l') : InfoAfterReport (l ++ l') := by
  intro pre q post he
  rcases List.append_eq_append_iff.1 he with ⟨c', hpre, hl'⟩ | ⟨c', hl, hr⟩
  · obtain ⟨pre', s, mid, rfl, hw, hn⟩ := h' c' q post hl'
    exact ⟨l ++ pre', s, mid, by simp [hpre], hw, hn⟩
  · cases c' with
    | nil =>
      obtain ⟨pre', s, mid, hnil, -⟩ := h' [] q post (by simpa using hr.symm)
      simp at hnil
    | cons x rest =>
      obtain ⟨rfl, rfl⟩ := List.cons_eq_cons.1 hr
      exact h pre q rest hl

theorem infoAfterReport_of_infoWrites {l : List Action} (h : infoWrites l = 0) :
    InfoAfterReport l := by
  intro pre q post he
  simp [he, Action.isInfoWrite] at h

/-- Where `infoAfterStatus` allows a `SetAdditionalResultInfo`: for `pid`, after a status
    write. -/
theorem infoAfterStatus_at {pid q : Pid} {post : List Action} :
    ∀ {seen : Bool} (pre : List Action),
      infoAfterStatus pid seen (pre ++ .setAdditionalResultInfo q :: post) = true →
      q = pid ∧ (seen = true ∨ 0 < statusWrites pre)
  | seen, [], h => by
    simp only [List.nil_append, infoAfterStatus, Action.isStatusWrite, Action.isInfoWrite,
      Bool.false_eq_true, ↓reduceIte, Bool.and_eq_true, beq_iff_eq,
      Action.setAdditionalResultInfo.injEq] at h
    exact ⟨h.1.2, .inl h.1.1⟩
  | seen, x :: pre, h => by
    simp only [List.cons_append, infoAfterStatus] at h
    split at h
    · obtain ⟨hq, -⟩ := infoAfterStatus_at pre h
      exact ⟨hq, .inr (by simp [*])⟩
    split at h
    · simp [infoWrites_append, Action.isInfoWrite] at h
    · obtain ⟨hq, hs⟩ := infoAfterStatus_at pre h
      exact ⟨hq, hs.imp id (by simp; omega)⟩

/-- A report of `q` followed by what a handler of its stop appends passes `InfoAfterReport`. -/
theorem infoAfterReport_report {q : Pid} (s : Int) {acts : List Action}
    (h : stopActsOk q acts = true) : InfoAfterReport (.report q s :: acts) := by
  simp only [stopActsOk, Bool.and_eq_true, List.all_eq_true, Option.isNone_iff_eq_none] at h
  intro pre q' post he
  cases pre with
  | nil => simp at he
  | cons x mid =>
    obtain ⟨rfl, rfl⟩ := List.cons_eq_cons.1 he
    obtain ⟨rfl, hs | hs⟩ := infoAfterStatus_at mid h.2
    · simp at hs
    · exact ⟨[], s, mid, rfl, hs, fun a ha => (h.1.1.1 a (by simp [ha])).1⟩

/-- A `SetAdditionalResultInfo` that `infoAfterStatus` allows is the only one, after a status
    write. -/
theorem infoWrites_le_of_infoAfterStatus {pid : Pid} :
    ∀ {seen : Bool} {acts : List Action}, infoAfterStatus pid seen acts = true →
      infoWrites acts ≤ if seen then 1 else statusWrites acts
  | _, [], _ => by simp
  | seen, x :: acts, h => by
    simp only [infoAfterStatus] at h
    split at h
    · next hx =>
      have : infoWrites acts ≤ 1 := by simpa using infoWrites_le_of_infoAfterStatus h
      have hi : x.isInfoWrite = false := by
        cases x <;> simp_all [Action.isStatusWrite, Action.isInfoWrite]
      split <;> simp [hx, hi] <;> omega
    split at h
    · simp only [Bool.and_eq_true, beq_iff_eq] at h
      simp_all
    · have := infoWrites_le_of_infoAfterStatus h
      simp_all

end Sandbox2
