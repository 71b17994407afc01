import Mathlib.Data.Nat.Digits
import Mathlib.Tactic.Ring
import Sandbox2.Linux
import Sandbox2.Unwind.Frames
import Sandbox2.Unwind.Symbols

/-!
# Symbolizing a stack trace

`SymbolizeStacktrace` (`unwind.cc:155-169`) loads the tracee's symbol map and writes one line per
instruction pointer: the symbol `GetSymbolAt` finds for the address, then `(0x`, the address in
hexadecimal, and `)`. `RunLibUnwindAndSymbolizer(pid, max_frames)` (`unwind.cc:290-295`) unwinds
with `RunLibUnwind` and symbolizes what it found. `RunLibUnwindAndSymbolizer(comms)`
(`unwind.cc:262-288`) is the unwinder's side of its exchange with the monitor. It receives an
`UnwindSetup` and the tracee's memory file descriptor, lets `EnablePtraceEmulationWithUserRegs`
make the tracee's registers and memory what `ptrace` reads, and answers with the status of the
unwinding and, when that status is OK, the stack trace.

Read from its end, a line gives back its symbol and its address: the address is the digits
between the last `(0x` and the closing `)`, since no hexadecimal digit is a `(`
(`readFrameLine_frameLine`). So the lines of a stack trace are, in order, the instruction
pointers `RunLibUnwind` found, each with its symbol.
-/

namespace Sandbox2

/-! ## The lines of a stack trace -/

/-- One line of a symbolized stack trace, `absl::StrCat(symbol, "(0x", absl::Hex(ip), ")")`
    (`unwind.cc:166`). -/
def frameLine (symbol : String) (ip : Nat) : String := symbol ++ "(0x" ++ hex ip ++ ")"

/-- `SymbolizeStacktrace(pid, ips)` (`unwind.cc:155-169`). `maps` is what `LoadSymbolsMap` reads
    of the tracee: the parsed maps entries with their ELF files, or the status of a failed read or
    parse of `/proc/<pid>/maps`, which it returns. -/
def symbolizeStacktrace (d : Demangler) (isArm : Bool)
    (maps : Except String (List (MapsEntry × Option ElfFile))) (ips : List Word) :
    Except String (List String) := do
  let addrToSymbol := loadSymbolsMap isArm (← maps)
  return ips.map fun ip => frameLine (getSymbolAt d addrToSymbol ip.toNat) ip.toNat

/-- The tracee as the unwinder sees it once `EnablePtraceEmulationWithUserRegs` has run: what
    libunwind answers, its memory, and what reading its maps gives. -/
structure UnwindWorld where
  libunwind : Libunwind
  readMemory : Word → Except Int Word
  maps : Except String (List (MapsEntry × Option ElfFile))

/-- `RunLibUnwindAndSymbolizer(pid, max_frames)` (`unwind.cc:290-295`), on a host that is ARM
    (`isArm`) or PPC64 little-endian (`ppc64le`) or neither. -/
def runLibUnwindAndSymbolizer (d : Demangler) (isArm ppc64le : Bool) (w : UnwindWorld)
    (maxFrames : BitVec 32) : Except String (List String) := do
  let ips ← runLibUnwind w.libunwind w.readMemory ppc64le maxFrames
  symbolizeStacktrace d isArm w.maps ips

/-! ## The exchange with the monitor -/

/-- The `UnwindSetup` message: the tracee's PID, its registers, and `default_max_frames`. -/
structure UnwindSetup where
  pid : Pid
  regs : List UInt8
  defaultMaxFrames : BitVec 32

/-- What the unwinder sends: a status (`SendStatus`), or an `UnwindResult` with the stack trace
    (`SendProtoBuf`). -/
inductive UnwindReply where
  | status (s : Except String Unit)
  | result (stacktrace : List String)

/-- The unwinder's end of its `Comms`: the `UnwindSetup` that `RecvProtoBuf` gives and the file
    descriptor that `RecvFD` gives (`none` when the receive fails), and whether each send
    succeeds, in order. -/
structure UnwindComms where
  setup : Option UnwindSetup
  memFd : Option Int
  sendOk : Nat → Bool

/-- `RunLibUnwindAndSymbolizer(comms)` (`unwind.cc:262-288`): what it returns, and the messages
    it sends. `emulate setup memFd` is the tracee as `EnablePtraceEmulationWithUserRegs(
    setup.pid(), setup.regs(), mem_fd)` makes it. -/
def UnwindComms.runLibUnwindAndSymbolizer (comms : UnwindComms) (d : Demangler)
    (isArm ppc64le : Bool) (emulate : UnwindSetup → Int → UnwindWorld) : Bool × List UnwindReply :=
  match comms.setup with
  | none => (false, [])
  | some setup =>
    match comms.memFd with
    | none => (false, [])
    | some memFd =>
      let stackTrace := Sandbox2.runLibUnwindAndSymbolizer d isArm ppc64le (emulate setup memFd)
        setup.defaultMaxFrames
      let status := UnwindReply.status (stackTrace.map fun _ => ())
      if !comms.sendOk 0 then (false, [status])
      else
        match stackTrace with
        | .error _ => (true, [status])
        | .ok lines => (comms.sendOk 1, [status, .result lines])

/-! ## Reading a line back -/

/-- The value of a digit that `Nat.digitChar` writes below 16: `0`-`9`, then `a`-`f`. -/
def hexDigitValue (c : Char) : Nat := if c.toNat < 58 then c.toNat - 48 else c.toNat - 87

/-- The value of lower-case hexadecimal digits. -/
def hexValue (cs : List Char) : Nat := cs.foldl (fun n c => 16 * n + hexDigitValue c) 0

/-- Reads a line of a stack trace from its end: the closing `)`, the hexadecimal digits after
    the last `(0x`, and the symbol before it. -/
def readFrameLine (line : String) : Option (String × Nat) :=
  match line.data.reverse with
  | ')' :: rest =>
    match rest.dropWhile (· != '('), (rest.takeWhile (· != '(')).reverse with
    | '(' :: symbolRev, '0' :: 'x' :: digits => some (String.mk symbolRev.reverse, hexValue digits)
    | _, _ => none
  | _ => none

theorem foldl_hex (a : Nat) (cs : List Char) :
    cs.foldl (fun n c => 16 * n + hexDigitValue c) a = a * 16 ^ cs.length + hexValue cs := by
  induction cs generalizing a with
  | nil => simp [hexValue]
  | cons c cs ih =>
    simp only [List.foldl_cons, hexValue, List.length_cons] at ih ⊢
    rw [ih, ih (16 * 0 + _), Nat.pow_succ]
    ring

theorem hexDigitValue_digitChar : ∀ d < 16, hexDigitValue (Nat.digitChar d) = d ∧
    Nat.digitChar d ≠ '('
  | 0, _ | 1, _ | 2, _ | 3, _ | 4, _ | 5, _ | 6, _ | 7, _ | 8, _ | 9, _ | 10, _ | 11, _ | 12, _
  | 13, _ | 14, _ | 15, _ => ⟨rfl, by decide⟩
  | _ + 16, h => absurd h (by omega)

/-- The digits `Nat.toDigitsCore` puts before `ds` read back as `n`, and none is a `(`. -/
theorem hexValue_toDigitsCore (fuel n : Nat) (ds : List Char) (h : n < fuel) :
    hexValue (Nat.toDigitsCore 16 fuel n ds) = n * 16 ^ ds.length + hexValue ds ∧
      ∀ c ∈ Nat.toDigitsCore 16 fuel n ds, c ∈ ds ∨ c ≠ '(' := by
  induction fuel generalizing n ds with
  | zero => omega
  | succ fuel ih =>
    obtain ⟨hv, hp⟩ := hexDigitValue_digitChar (n % 16) (Nat.mod_lt _ (by omega))
    have hd : hexValue (Nat.digitChar (n % 16) :: ds) =
        n % 16 * 16 ^ ds.length + hexValue ds := by
      rw [hexValue, List.foldl_cons, foldl_hex, hv]
      simp
    have hmem : ∀ c ∈ Nat.digitChar (n % 16) :: ds, c ∈ ds ∨ c ≠ '(' := by
      rintro c (_ | ⟨_, hc⟩)
      exacts [.inr hp, .inl hc]
    simp only [Nat.toDigitsCore]
    split_ifs with h0
    · exact ⟨by rw [hd, Nat.mod_eq_of_lt (by omega)], hmem⟩
    · obtain ⟨ihv, ihp⟩ := ih (n / 16) (Nat.digitChar (n % 16) :: ds) (by omega)
      refine ⟨?_, fun c hc => (ihp c hc).elim (hmem c) .inr⟩
      rw [ihv, hd, List.length_cons]
      calc n / 16 * 16 ^ (ds.length + 1) + (n % 16 * 16 ^ ds.length + hexValue ds)
          = (16 * (n / 16) + n % 16) * 16 ^ ds.length + hexValue ds := by ring
        _ = n * 16 ^ ds.length + hexValue ds := by rw [Nat.div_add_mod]

/-- `absl::Hex(n)` reads back as `n`, and has no `(`. -/
theorem hexValue_hex (n : Nat) : hexValue (hex n).data = n ∧ ∀ c ∈ (hex n).data, c ≠ '(' := by
  obtain ⟨hv, hp⟩ := hexValue_toDigitsCore (n + 1) n [] (by omega)
  exact ⟨by simpa [hex, Nat.toDigits, hexValue] using hv,
    fun c hc => (hp c hc).resolve_left (List.not_mem_nil c)⟩

/-- A line of a stack trace reads back as its symbol and its address, whatever the symbol. -/
theorem readFrameLine_frameLine (symbol : String) (ip : Nat) :
    readFrameLine (frameLine symbol ip) = some (symbol, ip) := by
  obtain ⟨hv, hp⟩ := hexValue_hex ip
  have hrev : (frameLine symbol ip).data.reverse =
      ')' :: ((hex ip).data.reverse ++ ['x', '0'] ++ '(' :: symbol.data.reverse) := by
    simp [frameLine, String.data_append, show "(0x".data = ['(', '0', 'x'] from rfl,
      show ")".data = [')'] from rfl]
  have hall : ∀ c ∈ (hex ip).data.reverse ++ ['x', '0'], (c != '(') = true := by
    intro c hc
    rcases List.mem_append.1 hc with hc | hc
    · simpa using hp c (List.mem_reverse.1 hc)
    · rcases List.mem_pair.1 hc with rfl | rfl <;> rfl
  rw [readFrameLine, hrev]
  simp only [List.takeWhile_append_of_pos hall, List.dropWhile_append_of_pos hall,
    List.takeWhile_cons, List.dropWhile_cons, bne_self_eq_false, List.reverse_append,
    List.append_nil, List.reverse_reverse]
  simp [hv]

/-! ## The stack trace -/

/-- Whatever the tracee, the unwinder's stack trace fails exactly when `RunLibUnwind` or reading
    the maps fails, with that status. Otherwise it has at most `max(0, max_frames)` lines, which
    read back as the instruction pointers `RunLibUnwind` found, in order, each with the symbol
    `GetSymbolAt` gives it in the map `LoadSymbolsMap` built. -/
theorem runLibUnwindAndSymbolizer_readBack (d : Demangler) (isArm ppc64le : Bool)
    (w : UnwindWorld) (maxFrames : BitVec 32) :
    (runLibUnwindAndSymbolizer d isArm ppc64le w maxFrames).map (·.map readFrameLine) =
      (runLibUnwind w.libunwind w.readMemory ppc64le maxFrames).bind (fun ips =>
        w.maps.map fun ms => ips.map fun ip =>
          some (getSymbolAt d (loadSymbolsMap isArm ms) ip.toNat, ip.toNat)) ∧
    ∀ lines, runLibUnwindAndSymbolizer d isArm ppc64le w maxFrames = .ok lines →
      lines.length ≤ maxFrames.toInt.toNat := by
  unfold runLibUnwindAndSymbolizer symbolizeStacktrace
  rcases hu : runLibUnwind w.libunwind w.readMemory ppc64le maxFrames with e | ips
  · exact ⟨rfl, fun _ h => by cases h⟩
  rcases w.maps with e | ms
  · exact ⟨rfl, fun _ h => by cases h⟩
  refine ⟨?_, fun lines h => ?_⟩
  · simp [bind, Except.bind, pure, Except.pure, Except.map, Function.comp_def,
      readFrameLine_frameLine]
  · obtain rfl : ips.map _ = lines := Except.ok.inj h
    rw [List.length_map]
    exact runLibUnwind_length_le hu

/-- `abi::__cxa_demangle` failing on every name. -/
def Demangler.failing : Demangler := ⟨fun _ => none, rfl, fun _ => rfl⟩

/-- A tracee whose libunwind reads one frame, at `0x401000`, outside the one mapping of
    `/bin/x`. -/
def oneFrameWorld : UnwindWorld := ⟨oneFrame, fun _ => .error 14, .ok binXMaps⟩

theorem runLibUnwindAndSymbolizer_readBack_oneFrame :
    runLibUnwindAndSymbolizer .failing false false oneFrameWorld 8 = .ok ["(0x401000)"] ∧
    ["(0x401000)"].length ≤ (8 : BitVec 32).toInt.toNat :=
  ⟨rfl, (runLibUnwindAndSymbolizer_readBack .failing false false oneFrameWorld 8).2 _ rfl⟩

end Sandbox2
