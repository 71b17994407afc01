import Mathlib.Algebra.Order.Ring.Int
import Mathlib.Data.List.Basic

/-!
# Unwinding a stack

`RunLibUnwind` (`unwind.cc:89-153`) reads one instruction pointer per frame from libunwind, for
at most `max_frames` frames. When `unw_step` reports no further frame, and the frame pointer of
the last frame is not 0, it hands the rest of the budget to `UnwindUsingFramePointer`
(`unwind.cc:71-87`). That function follows the frame-pointer chain through the tracee's memory,
word by word with `PTRACE_PEEKDATA`. libunwind is a sequence of answers, one per frame, and the
tracee's memory is a function from address to word or `errno`. Words are `uintptr_t` and
`unw_word_t`, 64 bits wide. `max_frames` is an `int`. The rest of the budget is
`max_frames - ips.size()`: the `int` is converted to `size_t`, the difference is taken there, and
the result goes back to `int`. That round trip is exact, because at the call
`0 < ips.size() ≤ max_frames`.
-/

namespace Sandbox2

/-- A word of the tracee: `uintptr_t`, `unw_word_t`. -/
abbrev Word := BitVec 64

/-- `kIPOffset` (`unwind.cc:74-78`): where a frame keeps its return address, in words above the
    frame pointer; 2 on PPC64 little-endian, 1 elsewhere. -/
def kIPOffset (ppc64le : Bool) : Nat := if ppc64le then 2 else 1

/-- The loop `for (int i = 0; fp != 0 && i < max_frames; ++i)` of `UnwindUsingFramePointer`
    (`unwind.cc:79-84`), with `left` iterations before `i < max_frames` fails. `readMemory` is
    `ReadMemory(pid, ·)` (`unwind.cc:62-69`): the word at an address, or the `errno` of
    `PTRACE_PEEKDATA`; a failed read returns its error. -/
def framePointerLoop (readMemory : Word → Except Int Word) (ipOffset : Nat) :
    Nat → Word → List Word → Except Int (List Word)
  | 0, _, ips => .ok ips
  | left + 1, fp, ips =>
    if fp = 0 then .ok ips
    else do
      let ip ← readMemory (fp + BitVec.ofNat 64 (ipOffset * 8))
      let fp ← readMemory fp
      framePointerLoop readMemory ipOffset left fp (ips ++ [ip])

/-- `UnwindUsingFramePointer(pid, max_frames, fp)` (`unwind.cc:71-87`) on a 64-bit host. -/
def unwindUsingFramePointer (readMemory : Word → Except Int Word) (ppc64le : Bool)
    (maxFrames : BitVec 32) (fp : Word) : Except Int (List Word) :=
  framePointerLoop readMemory (kIPOffset ppc64le) maxFrames.toInt.toNat fp []

/-- `max_frames - ips.size()` as `UnwindUsingFramePointer` receives it (`unwind.cc:140`): the
    `int` converted to `size_t`, the difference taken modulo 2^64, and the result converted to
    `int`. -/
def fallbackBudget (maxFrames : BitVec 32) (size : Nat) : BitVec 32 :=
  (maxFrames.signExtend 64 - BitVec.ofNat 64 size).setWidth 32

/-- What libunwind answers in `RunLibUnwind`, frame by frame: whether `unw_create_addr_space`
    and `_UPT_create` succeed, what `unw_init_remote` returns, and at frame `k` the instruction
    pointer `unw_get_reg(UNW_REG_IP)` reads (`none` when it fails), the value `fp` holds after
    `unw_get_reg(kFpReg)` (whatever that call did), and what `unw_step` returns. -/
structure Libunwind where
  addrSpaceOk : Bool
  contextOk : Bool
  initRc : Int
  ip : Nat → Option Word
  fp : Nat → Word
  step : Nat → Int

/-- The frame-pointer fallback after `unw_step` reports no frame (`unwind.cc:134-146`): what it
    appends to `size` frames, and nothing when `UnwindUsingFramePointer` fails. -/
def fallbackFrames (readMemory : Word → Except Int Word) (ppc64le : Bool) (maxFrames : BitVec 32)
    (size : Nat) (fp : Word) : List Word :=
  match unwindUsingFramePointer readMemory ppc64le (fallbackBudget maxFrames size) fp with
  | .ok fpIps => fpIps
  | .error _ => []

/-- The loop `for (int i = 0; i < max_frames; ++i)` of `RunLibUnwind` (`unwind.cc:111-150`) at
    frame `i`, with `left` iterations before `i < max_frames` fails. -/
def libunwindLoop (u : Libunwind) (readMemory : Word → Except Int Word) (ppc64le : Bool)
    (maxFrames : BitVec 32) : Nat → Nat → List Word → List Word
  | 0, _, ips => ips
  | left + 1, i, ips =>
    match u.ip i with
    | none => ips
    | some ip =>
      let ips := ips ++ [ip]
      if u.step i ≤ 0 then
        if u.fp i ≠ 0 then ips ++ fallbackFrames readMemory ppc64le maxFrames ips.length (u.fp i)
        else ips
      else libunwindLoop u readMemory ppc64le maxFrames left (i + 1) ips

/-- `RunLibUnwind(pid, max_frames)` (`unwind.cc:89-153`). -/
def runLibUnwind (u : Libunwind) (readMemory : Word → Except Int Word) (ppc64le : Bool)
    (maxFrames : BitVec 32) : Except String (List Word) :=
  if !u.addrSpaceOk then .error "unw_create_addr_space() failed"
  else if !u.contextOk then .error "_UPT_create() failed"
  else if u.initRc < 0 then .error ("unw_init_remote() failed with error " ++ toString u.initRc)
  else .ok (libunwindLoop u readMemory ppc64le maxFrames maxFrames.toInt.toNat 0 [])

/-! ## The budget of the fallback -/

/-- A non-negative `int` is its unsigned value, below 2^31. -/
theorem toInt_of_nonneg {x : BitVec 32} (h : 0 ≤ x.toInt) :
    x.toInt = x.toNat ∧ x.toNat < 2 ^ 31 := by
  have hlt := x.isLt
  rw [BitVec.toInt_eq_toNat_cond] at h ⊢
  split at h <;> simp_all <;> omega

/-- The round trip through `size_t` is exact: the fallback gets `max_frames - size`, whenever
    `size ≤ max_frames`. -/
theorem fallbackBudget_toInt {maxFrames : BitVec 32} {size : Nat}
    (h : (size : Int) ≤ maxFrames.toInt) :
    (fallbackBudget maxFrames size).toInt = maxFrames.toInt - size := by
  obtain ⟨hm, hlt⟩ := toInt_of_nonneg (le_trans (Int.natCast_nonneg size) h)
  rw [hm] at h ⊢
  have hext : (maxFrames.signExtend 64).toNat = maxFrames.toNat := by
    rw [BitVec.signExtend, BitVec.toNat_ofInt, hm]
    omega
  have hval : (fallbackBudget maxFrames size).toNat = maxFrames.toNat - size := by
    simp only [fallbackBudget, BitVec.toNat_setWidth, BitVec.toNat_sub, hext, BitVec.toNat_ofNat]
    omega
  rw [BitVec.toInt_eq_toNat_cond, hval]
  split <;> omega

/-! ## Following the frame pointers -/

/-- `ips` are the return addresses of the frame-pointer chain from `fp` to `fp'`: every frame
    pointer on the way is not 0, and both reads of its frame succeed. -/
inductive FpChain (readMemory : Word → Except Int Word) (ipOffset : Nat) :
    Word → List Word → Word → Prop
  | nil (fp : Word) : FpChain readMemory ipOffset fp [] fp
  | cons {fp ip next fp' : Word} {ips : List Word} (hfp : fp ≠ 0)
      (hip : readMemory (fp + BitVec.ofNat 64 (ipOffset * 8)) = .ok ip)
      (hnext : readMemory fp = .ok next) (rest : FpChain readMemory ipOffset next ips fp') :
      FpChain readMemory ipOffset fp (ip :: ips) fp'

/-- The reads of the frame at `fp` that fail first give `e`. -/
def FirstReadFails (readMemory : Word → Except Int Word) (ipOffset : Nat) (fp : Word) (e : Int) :
    Prop :=
  readMemory (fp + BitVec.ofNat 64 (ipOffset * 8)) = .error e ∨
    ∃ ip, readMemory (fp + BitVec.ofNat 64 (ipOffset * 8)) = .ok ip ∧ readMemory fp = .error e

section FramePointer

variable (readMemory : Word → Except Int Word) (ipOffset : Nat)

/-- The loop walks the chain for at most `left` frames, and stops there: at a frame pointer 0 or
    after `left` frames with what it read, or at the first read that fails, with its error. -/
theorem framePointerLoop_spec (left : Nat) (fp : Word) (ips : List Word) :
    ∃ new fp', FpChain readMemory ipOffset fp new fp' ∧ new.length ≤ left ∧
      (((fp' = 0 ∨ new.length = left) ∧
          framePointerLoop readMemory ipOffset left fp ips = .ok (ips ++ new)) ∨
        (fp' ≠ 0 ∧ new.length < left ∧ ∃ e, FirstReadFails readMemory ipOffset fp' e ∧
          framePointerLoop readMemory ipOffset left fp ips = .error e)) := by
  induction left generalizing fp ips with
  | zero => exact ⟨[], fp, .nil fp, le_rfl, .inl ⟨.inr rfl, by simp [framePointerLoop]⟩⟩
  | succ left ih =>
    by_cases h0 : fp = 0
    · exact ⟨[], fp, .nil fp, Nat.zero_le _, .inl ⟨.inl h0, by simp [framePointerLoop, h0]⟩⟩
    cases hip : readMemory (fp + BitVec.ofNat 64 (ipOffset * 8)) with
    | error e =>
      exact ⟨[], fp, .nil fp, Nat.zero_le _, .inr ⟨h0, Nat.succ_pos _, e, .inl hip,
        by rw [framePointerLoop, if_neg h0, hip]; rfl⟩⟩
    | ok ip =>
      cases hnext : readMemory fp with
      | error e =>
        exact ⟨[], fp, .nil fp, Nat.zero_le _, .inr ⟨h0, Nat.succ_pos _, e, .inr ⟨ip, hip, hnext⟩,
          by rw [framePointerLoop, if_neg h0, hip, hnext]; rfl⟩⟩
      | ok next =>
        have hstep : framePointerLoop readMemory ipOffset (left + 1) fp ips =
            framePointerLoop readMemory ipOffset left next (ips ++ [ip]) := by
          rw [framePointerLoop, if_neg h0, hip, hnext]; rfl
        obtain ⟨new, fp', hchain, hlen, hend⟩ := ih next (ips ++ [ip])
        refine ⟨ip :: new, fp', .cons h0 hip hnext hchain, Nat.succ_le_succ hlen, ?_⟩
        rw [hstep]
        rcases hend with ⟨hstop, hok⟩ | ⟨hfp', hlt, e, hfail, herr⟩
        · exact .inl ⟨hstop.imp_right (congrArg Nat.succ), by simp [hok]⟩
        · exact .inr ⟨hfp', Nat.succ_lt_succ hlt, e, hfail, herr⟩

theorem framePointerLoop_length {left : Nat} {fp : Word} {ips out : List Word}
    (h : framePointerLoop readMemory ipOffset left fp ips = .ok out) :
    ∃ new, out = ips ++ new ∧ new.length ≤ left := by
  obtain ⟨new, _, _, hlen, hend⟩ := framePointerLoop_spec readMemory ipOffset left fp ips
  rcases hend with ⟨-, hok⟩ | ⟨-, -, e, -, herr⟩
  · exact ⟨new, Except.ok.inj (h.symm.trans hok), hlen⟩
  · cases herr.symm.trans h

end FramePointer

/-! ## The libunwind loop -/

section Libunwind

variable (u : Libunwind) (readMemory : Word → Except Int Word) (ppc64le : Bool)
  (maxFrames : BitVec 32)

/-- From frame `i` with `ips` read, the loop reads the instruction pointers of `n ≤ left` more
    frames in order. Then it stops, with no frame read, after a frame whose `unw_step` reports a
    further frame, or after one whose frame pointer is 0; or, after a frame whose `unw_step`
    reports no frame and whose frame pointer is not 0, it appends what the fallback finds with
    `ips.length + n` frames read. -/
theorem libunwindLoop_spec (left i : Nat) (ips : List Word) :
    ∃ n lib, n ≤ left ∧ lib.length = n ∧ (∀ j < n, u.ip (i + j) = lib[j]?) ∧
      (((n = 0 ∨ 0 < u.step (i + n - 1) ∨ u.fp (i + n - 1) = 0) ∧
          libunwindLoop u readMemory ppc64le maxFrames left i ips = ips ++ lib) ∨
        (1 ≤ n ∧ u.step (i + n - 1) ≤ 0 ∧ u.fp (i + n - 1) ≠ 0 ∧
          libunwindLoop u readMemory ppc64le maxFrames left i ips = ips ++ lib ++
            fallbackFrames readMemory ppc64le maxFrames (ips.length + n) (u.fp (i + n - 1)))) := by
  induction left generalizing i ips with
  | zero => exact ⟨0, [], le_rfl, rfl, fun _ h => absurd h (Nat.not_lt_zero _),
      .inl ⟨.inl rfl, by simp [libunwindLoop]⟩⟩
  | succ left ih =>
    cases hip : u.ip i with
    | none => exact ⟨0, [], Nat.zero_le _, rfl, fun _ h => absurd h (Nat.not_lt_zero _),
        .inl ⟨.inl rfl, by simp [libunwindLoop, hip]⟩⟩
    | some ip =>
      have hfirst : ∀ lib : List Word, u.ip (i + 0) = (ip :: lib)[0]? := fun _ => by
        rw [Nat.add_zero, hip, List.getElem?_cons_zero]
      by_cases hstep : u.step i ≤ 0
      · -- `unw_step` reports no frame: the loop ends here
        refine ⟨1, [ip], by omega, rfl, fun j hj => by
          rw [Nat.lt_one_iff.1 hj]; exact hfirst [], ?_⟩
        rw [Nat.add_sub_cancel]
        by_cases hfp : u.fp i ≠ 0
        · exact .inr ⟨le_rfl, hstep, hfp, by simp only [libunwindLoop, hip, if_pos hstep,
            if_pos hfp, List.length_append, List.length_singleton]⟩
        · exact .inl ⟨.inr (.inr (not_not.1 hfp)),
            by simp only [libunwindLoop, hip, if_pos hstep, if_neg hfp]⟩
      · obtain ⟨n, lib, hn, hlen, hlib, hend⟩ := ih (i + 1) (ips ++ [ip])
        have hloop : libunwindLoop u readMemory ppc64le maxFrames (left + 1) i ips =
            libunwindLoop u readMemory ppc64le maxFrames left (i + 1) (ips ++ [ip]) := by
          simp [libunwindLoop, hip, hstep]
        refine ⟨n + 1, ip :: lib, by omega, by rw [List.length_cons, hlen], fun j hj => ?_, ?_⟩
        · cases j with
          | zero => exact hfirst lib
          | succ j =>
            rw [List.getElem?_cons_succ, ← hlib j (by omega), Nat.add_right_comm, Nat.add_assoc]
        · rw [hloop]
          have hidx : i + 1 + n - 1 = i + (n + 1) - 1 := by omega
          rcases hend with ⟨hwhy, h⟩ | ⟨hn1, hs, hf, h⟩
          · refine .inl ⟨.inr ?_, by simp [h]⟩
            rcases hwhy with rfl | hwhy
            · exact .inl (by simpa using hstep)
            · rwa [hidx] at hwhy
          · rw [hidx] at hs hf h
            refine .inr ⟨by omega, hs, hf, ?_⟩
            rw [h, List.length_append, List.length_singleton, Nat.add_assoc, Nat.add_comm 1 n,
              List.append_assoc ips [ip] lib]
            rfl

end Libunwind

/-- What `RunLibUnwind` returns past libunwind's set-up: the instruction pointers libunwind read
    for its first `n ≤ max(0, max_frames)` frames; then, exactly after an `unw_step` that reports
    no frame with a frame pointer that is not 0, what `UnwindUsingFramePointer` returns with the
    budget `max_frames - n`, or nothing when it fails. -/
theorem runLibUnwind_cases {u : Libunwind} {readMemory : Word → Except Int Word}
    {ppc64le : Bool} {maxFrames : BitVec 32} {ips : List Word}
    (h : runLibUnwind u readMemory ppc64le maxFrames = .ok ips) :
    ∃ n lib, n ≤ maxFrames.toInt.toNat ∧ lib.length = n ∧ (∀ j < n, u.ip j = lib[j]?) ∧
      (((n = 0 ∨ 0 < u.step (n - 1) ∨ u.fp (n - 1) = 0) ∧ ips = lib) ∨
        (1 ≤ n ∧ u.step (n - 1) ≤ 0 ∧ u.fp (n - 1) ≠ 0 ∧
          ∃ budget : BitVec 32, budget.toInt = maxFrames.toInt - n ∧ 0 ≤ budget.toInt ∧
            ((∃ fpIps, unwindUsingFramePointer readMemory ppc64le budget (u.fp (n - 1)) =
                .ok fpIps ∧ ips = lib ++ fpIps) ∨
              ∃ e, unwindUsingFramePointer readMemory ppc64le budget (u.fp (n - 1)) =
                .error e ∧ ips = lib))) := by
  have hloop : libunwindLoop u readMemory ppc64le maxFrames maxFrames.toInt.toNat 0 [] = ips := by
    unfold runLibUnwind at h
    split_ifs at h
    exact Except.ok.inj h
  obtain ⟨n, lib, hn, hlen, hlib, hend⟩ :=
    libunwindLoop_spec u readMemory ppc64le maxFrames maxFrames.toInt.toNat 0 []
  rw [hloop] at hend
  simp only [Nat.zero_add, List.nil_append, List.length_nil] at hlib hend
  rcases hend with ⟨hwhy, h⟩ | ⟨hn1, hs, hf, h⟩
  · exact ⟨n, lib, hn, hlen, hlib, .inl ⟨hwhy, h⟩⟩
  · have hfb := @fallbackBudget_toInt maxFrames n (by omega)
    refine ⟨n, lib, hn, hlen, hlib, .inr ⟨hn1, hs, hf, fallbackBudget maxFrames n, hfb, by omega,
      ?_⟩⟩
    unfold fallbackFrames at h
    rcases hu : unwindUsingFramePointer readMemory ppc64le (fallbackBudget maxFrames n)
      (u.fp (n - 1)) with e | fpIps
    · exact .inr ⟨e, rfl, by simpa [hu] using h⟩
    · exact .inl ⟨fpIps, rfl, by simpa [hu] using h⟩

/-- `RunLibUnwind` returns at most `max(0, max_frames)` instruction pointers: the fallback adds
    at most its budget to the `n` frames before it. -/
theorem runLibUnwind_length_le {u : Libunwind} {readMemory : Word → Except Int Word}
    {ppc64le : Bool} {maxFrames : BitVec 32} {ips : List Word}
    (h : runLibUnwind u readMemory ppc64le maxFrames = .ok ips) :
    ips.length ≤ maxFrames.toInt.toNat := by
  obtain ⟨n, lib, hn, hlen, -, ⟨-, rfl⟩ | ⟨-, -, -, budget, hb, -, ⟨fpIps, hu, rfl⟩ | ⟨e, -, rfl⟩⟩⟩ :=
    runLibUnwind_cases h
  · omega
  · obtain ⟨new, rfl, hnew⟩ := framePointerLoop_length readMemory _ hu
    rw [List.length_append, hlen]
    omega
  · omega

/-- libunwind that reads one frame, at `0x401000`, whose `unw_step` reports no further frame and
    whose frame pointer is 0. -/
def oneFrame : Libunwind :=
  ⟨true, true, 0, fun k => if k = 0 then some 0x401000 else none, fun _ => 0, fun _ => 0⟩

end Sandbox2
