import Mathlib.Data.List.Basic

/-!
# Symbols of a stack trace

`LoadSymbolsMap` (`unwind.cc:191-260`) builds the `std::map` from address to name that
`SymbolizeStacktrace` reads with `GetSymbolAt` (`unwind.cc:171-189`): for each executable,
file-backed, not deleted maps entry, a label `map:<path>[+0x<pgoff>]` at its start, an empty
sentinel at its end, and the ELF symbols that fall in its range. A lookup floors the address to
the nearest entry at or below it.

The map is its entries in increasing key order, a `SymbolMap` carrying that order. `lower_bound`
is the first entry at or above the address; the entry before it, the one `--it` reaches, is the
last entry below. The parsed maps and ELF files are what `ParseProcMaps` and
`ElfFile::ParseFromFile` return; addresses are `uint64_t`, here `Nat`, and the kernel's maps
entries end above where they start, so no sum or difference the code takes wraps around.

`GetSymbolAt` tests `it != begin()` before it tests for an exact match, so an address equal to
the lowest key of the map, the start of the first region read, is given the empty name and not
that region's label.
-/

namespace Sandbox2

/-- What `abi::__cxa_demangle` gives `DemangleSymbol`: the demangled name, or `none` when it
    fails. It fails on the empty name, and on the labels `LoadSymbolsMap` makes: in `map:...`, the
    `m` is a whole type encoding (`unsigned long`) with text after it. -/
structure Demangler where
  cxaDemangle : String → Option String
  empty : cxaDemangle "" = none
  label : ∀ s, cxaDemangle ("map:" ++ s) = none

/-- `DemangleSymbol` (`unwind.cc:49-60`). -/
def demangleSymbol (d : Demangler) (maybeMangled : String) : String :=
  (d.cxaDemangle maybeMangled).getD maybeMangled

@[simp]
theorem demangleSymbol_empty (d : Demangler) : demangleSymbol d "" = "" := by
  simp [demangleSymbol, d.empty]

@[simp]
theorem demangleSymbol_label (d : Demangler) (s : String) :
    demangleSymbol d ("map:" ++ s) = "map:" ++ s := by
  simp [demangleSymbol, d.label]

/-- `absl::Hex(n)` as `absl::StrCat` prints it: lower-case hexadecimal, no leading zeros. -/
def hex (n : Nat) : String := String.mk (Nat.toDigits 16 n)

/-! ## The map -/

/-- Entries whose keys increase, as a `std::map` keeps them. -/
abbrev KeyOrdered (l : List (Nat × String)) : Prop := l.Pairwise (fun a b => a.1 < b.1)

/-- `addr_to_symbol[key] = name` on the entries of a map. -/
def assignEntries (key : Nat) (name : String) : List (Nat × String) → List (Nat × String)
  | [] => [(key, name)]
  | (k, v) :: rest =>
    if key < k then (key, name) :: (k, v) :: rest
    else if key = k then (key, name) :: rest
    else (k, v) :: assignEntries key name rest

theorem mem_assignEntries {key : Nat} {name : String} {l : List (Nat × String)} {x : Nat × String}
    (h : x ∈ assignEntries key name l) : x = (key, name) ∨ x ∈ l := by
  induction l with
  | nil => simpa [assignEntries] using h
  | cons e rest ih =>
    obtain ⟨k, v⟩ := e
    unfold assignEntries at h
    split_ifs at h <;> simp only [List.mem_cons] at h ⊢
    · tauto
    · tauto
    · rcases h with h | h
      · exact .inr (.inl h)
      · exact (ih h).imp_right .inr

theorem assignEntries_sorted {key : Nat} {name : String} {l : List (Nat × String)}
    (h : KeyOrdered l) : KeyOrdered (assignEntries key name l) := by
  induction l with
  | nil => simp [assignEntries]
  | cons e rest ih =>
    rw [KeyOrdered, List.pairwise_cons] at h
    unfold assignEntries
    split_ifs with hlt heq
    · refine List.Pairwise.cons (fun x hx => ?_) (List.Pairwise.cons h.1 h.2)
      rcases List.mem_cons.1 hx with rfl | hx
      · exact hlt
      · exact hlt.trans (h.1 x hx)
    · subst heq
      exact List.Pairwise.cons h.1 h.2
    · refine List.Pairwise.cons (fun x hx => ?_) (ih h.2)
      rcases mem_assignEntries hx with rfl | hx
      · show e.1 < key; omega
      · exact h.1 x hx

/-- A `std::map<uint64_t, std::string>` (`SymbolMap`): its entries, in increasing key order. -/
structure SymbolMap where
  entries : List (Nat × String)
  sorted : KeyOrdered entries

namespace SymbolMap

/-- The empty map. -/
def empty : SymbolMap := ⟨[], List.Pairwise.nil⟩

/-- `addr_to_symbol[key] = name`. -/
def assign (m : SymbolMap) (key : Nat) (name : String) : SymbolMap :=
  ⟨assignEntries key name m.entries, assignEntries_sorted m.sorted⟩

end SymbolMap

/-- `GetSymbolAt` (`unwind.cc:171-189`). `lower_bound(addr)` heads the entries left once those
    below `addr` are dropped; it is not `begin()` when some entry is below `addr`, and the last of
    those is the entry before it. -/
def getSymbolAt (d : Demangler) (addrToSymbol : SymbolMap) (addr : Nat) : String :=
  match addrToSymbol.entries.dropWhile (fun e => e.1 < addr),
    (addrToSymbol.entries.takeWhile (fun e => e.1 < addr)).getLast? with
  | (key, name) :: _, some (prevKey, prevName) =>
    if key = addr then demangleSymbol d name
    else if prevName.isEmpty then ""
    else demangleSymbol d prevName ++ "+0x" ++ hex (addr - prevKey)
  | _, _ => ""

/-! ## `lower_bound` on ordered entries -/

namespace KeyOrdered

variable {l : List (Nat × String)}

theorem eq_of_key_eq (h : KeyOrdered l) {x y : Nat × String} (hx : x ∈ l) (hy : y ∈ l)
    (hk : x.1 = y.1) : x = y := by
  induction l with
  | nil => simp at hx
  | cons z l ih =>
    rw [KeyOrdered, List.pairwise_cons] at h
    rcases List.mem_cons.1 hx with rfl | hx' <;> rcases List.mem_cons.1 hy with rfl | hy'
    · rfl
    · exact absurd hk (h.1 y hy').ne
    · exact absurd hk (h.1 x hx').ne'
    · exact ih h.2 hx' hy'

/-- The entries below `a` are a prefix. -/
theorem takeWhile_eq (h : KeyOrdered l) (a : Nat) :
    l.takeWhile (fun e => e.1 < a) = l.filter (fun e => e.1 < a) := by
  induction l with
  | nil => rfl
  | cons x l ih =>
    rw [KeyOrdered, List.pairwise_cons] at h
    by_cases hx : x.1 < a
    · simp [List.takeWhile_cons, List.filter_cons, hx, ih h.2]
    · have hrest : l.filter (fun e => e.1 < a) = [] :=
        List.filter_eq_nil_iff.2 fun y hy => by have := h.1 y hy; simp; omega
      simp [List.takeWhile_cons, List.filter_cons, hx, hrest]

/-- The entries at or above `a` are the rest. -/
theorem dropWhile_eq (h : KeyOrdered l) (a : Nat) :
    l.dropWhile (fun e => e.1 < a) = l.filter (fun e => a ≤ e.1) := by
  induction l with
  | nil => rfl
  | cons x l ih =>
    rw [KeyOrdered, List.pairwise_cons] at h
    by_cases hx : x.1 < a
    · simp [List.dropWhile_cons, List.filter_cons, hx, ih h.2]
    · have hrest : l.filter (fun e => a ≤ e.1) = l :=
        List.filter_eq_self.2 fun y hy => by have := h.1 y hy; simp; omega
      simp [List.dropWhile_cons, List.filter_cons, hx, hrest, not_lt.1 hx]

theorem head?_eq_some_iff (h : KeyOrdered l) {x : Nat × String} :
    l.head? = some x ↔ x ∈ l ∧ ∀ y ∈ l, x.1 ≤ y.1 := by
  cases l with
  | nil => simp
  | cons z l =>
    rw [KeyOrdered, List.pairwise_cons] at h
    simp only [List.head?_cons, Option.some.injEq, List.mem_cons, forall_eq_or_imp]
    constructor
    · rintro rfl
      exact ⟨.inl rfl, le_rfl, fun y hy => (h.1 y hy).le⟩
    · rintro ⟨rfl | hx, hle, -⟩
      · rfl
      · exact absurd hle (not_le.2 (h.1 x hx))

theorem getLast?_eq_some_iff (h : KeyOrdered l) {x : Nat × String} :
    l.getLast? = some x ↔ x ∈ l ∧ ∀ y ∈ l, y.1 ≤ x.1 := by
  constructor
  · intro hx
    obtain ⟨init, rfl⟩ := List.getLast?_eq_some_iff.1 hx
    have hord := (List.pairwise_append.1 h).2.2
    refine ⟨by simp, fun y hy => ?_⟩
    rcases List.mem_append.1 hy with hy | hy
    · exact (hord y hy x (by simp)).le
    · rw [List.mem_singleton.1 hy]
  · rintro ⟨hx, hmax⟩
    obtain ⟨z, hz⟩ := Option.ne_none_iff_exists'.1 (List.getLast?_eq_none_iff.not.2
      (List.ne_nil_of_mem hx))
    obtain ⟨init, hl⟩ := List.getLast?_eq_some_iff.1 hz
    have hzmem : z ∈ l := by rw [hl]; simp
    have hzmax : x.1 ≤ z.1 := by
      rw [hl] at h hx
      rcases List.mem_append.1 hx with hx | hx
      · exact ((List.pairwise_append.1 h).2.2 x hx z (by simp)).le
      · rw [List.mem_singleton.1 hx]
    rw [hz, eq_of_key_eq h hzmem hx (le_antisymm (hmax z hzmem) hzmax)]

end KeyOrdered

namespace SymbolMap

/-- The entry `--lower_bound(addr)` reaches: the last entry below `addr`. -/
def below (m : SymbolMap) (addr : Nat) : Option (Nat × String) :=
  (m.entries.takeWhile (fun e => e.1 < addr)).getLast?

/-- The entry `lower_bound(addr)` points at: the first entry at or above `addr`. -/
def above (m : SymbolMap) (addr : Nat) : Option (Nat × String) :=
  (m.entries.dropWhile (fun e => e.1 < addr)).head?

variable (m : SymbolMap) {addr : Nat}

theorem below_eq_some_iff {x : Nat × String} :
    m.below addr = some x ↔ x ∈ m.entries ∧ x.1 < addr ∧ ∀ y ∈ m.entries, y.1 < addr → y.1 ≤ x.1 := by
  rw [below, m.sorted.takeWhile_eq, KeyOrdered.getLast?_eq_some_iff (m.sorted.filter _)]
  simp only [List.mem_filter, decide_eq_true_eq, and_imp]
  tauto

theorem below_eq_none_iff : m.below addr = none ↔ ∀ y ∈ m.entries, addr ≤ y.1 := by
  rw [below, m.sorted.takeWhile_eq, List.getLast?_eq_none_iff, List.filter_eq_nil_iff]
  simp

theorem above_eq_some_iff {x : Nat × String} :
    m.above addr = some x ↔ x ∈ m.entries ∧ addr ≤ x.1 ∧ ∀ y ∈ m.entries, addr ≤ y.1 → x.1 ≤ y.1 := by
  rw [above, m.sorted.dropWhile_eq, KeyOrdered.head?_eq_some_iff (m.sorted.filter _)]
  simp only [List.mem_filter, decide_eq_true_eq, and_imp]
  tauto

theorem above_eq_none_iff : m.above addr = none ↔ ∀ y ∈ m.entries, y.1 < addr := by
  rw [above, m.sorted.dropWhile_eq, List.head?_eq_none_iff, List.filter_eq_nil_iff]
  simp

end SymbolMap

/-- `GetSymbolAt` through the entries `lower_bound` and `--it` reach. -/
theorem getSymbolAt_eq (d : Demangler) (m : SymbolMap) (addr : Nat) :
    getSymbolAt d m addr =
      match m.above addr, m.below addr with
      | some (key, name), some (prevKey, prevName) =>
        if key = addr then demangleSymbol d name
        else if prevName.isEmpty then ""
        else demangleSymbol d prevName ++ "+0x" ++ hex (addr - prevKey)
      | _, _ => "" := by
  unfold getSymbolAt SymbolMap.above SymbolMap.below
  generalize m.entries.dropWhile (fun e => e.1 < addr) = rest
  generalize (m.entries.takeWhile (fun e => e.1 < addr)).getLast? = prev
  rcases rest with _ | ⟨⟨key, name⟩, _⟩ <;> rcases prev with _ | ⟨prevKey, prevName⟩ <;> rfl

/-! ## Loading the map -/

/-- The fields of a maps entry (`MapsEntry`) that `LoadSymbolsMap` reads. The kernel's entries end
    above where they start. -/
structure MapsEntry where
  start : Nat
  end_ : Nat
  isExecutable : Bool
  inode : Nat
  path : String
  pgoff : Nat
  start_lt_end : start < end_

/-- An `ElfFile::Symbol`. -/
structure ElfSymbol where
  address : Nat
  name : String

/-- What a successful `ElfFile::ParseFromFile(path, ElfFile::kLoadSymbols)` gives `LoadSymbolsMap`:
    `position_independent()` and `symbols()`. -/
structure ElfFile where
  positionIndependent : Bool
  symbols : List ElfSymbol

namespace MapsEntry

/-- The entries `LoadSymbolsMap` reads: executable, file-backed (`inode != 0`), with a path, and
    not a deleted file. -/
def processed (e : MapsEntry) : Bool :=
  !(!e.isExecutable || e.inode == 0 || e.path.isEmpty || e.path.endsWith " (deleted)")

/-- The label of an entry's start: `map:<path>`, then `+0x<pgoff>` when `pgoff` is not 0. -/
def label (e : MapsEntry) : String :=
  "map:" ++ e.path ++ if e.pgoff ≠ 0 then "+0x" ++ hex e.pgoff else ""

end MapsEntry

/-- An ARM mapping symbol, which `LoadSymbolsMap` skips on ARM hosts: a name starting with `$x`,
    `$d`, `$t`, `$a` or `$v`. -/
def isMappingSymbol (name : String) : Bool :=
  ["$x", "$d", "$t", "$a", "$v"].any name.startsWith

/-- One pass of the loop over an entry's symbols (`unwind.cc:233-257`), on a host that is ARM
    (`isArm`) or not. A position-independent file's symbol is relocated into the entry by
    `+ start - pgoff`; another file's is kept only inside the entry. -/
def addSymbol (isArm : Bool) (entry : MapsEntry) (positionIndependent : Bool) (m : SymbolMap)
    (symbol : ElfSymbol) : SymbolMap :=
  if isArm && isMappingSymbol symbol.name then m
  else if positionIndependent then
    if entry.pgoff ≤ symbol.address ∧ symbol.address - entry.pgoff < entry.end_ - entry.start then
      m.assign (symbol.address + entry.start - entry.pgoff) symbol.name
    else m
  else if entry.start ≤ symbol.address ∧ symbol.address < entry.end_ then
    m.assign symbol.address symbol.name
  else m

/-- One pass of the loop over the maps entries (`unwind.cc:205-258`), with what parsing the
    entry's file gave (`none` for an error). -/
def addEntry (isArm : Bool) (m : SymbolMap) : MapsEntry × Option ElfFile → SymbolMap
  | (entry, elf) =>
    if !entry.processed then m
    else
      let m := (m.assign entry.start entry.label).assign entry.end_ ""
      match elf with
      | none => m
      | some elf => elf.symbols.foldl (addSymbol isArm entry elf.positionIndependent) m

/-- `LoadSymbolsMap` (`unwind.cc:191-260`) from the parsed maps entries. -/
def loadSymbolsMap (isArm : Bool) (maps : List (MapsEntry × Option ElfFile)) : SymbolMap :=
  maps.foldl (addEntry isArm) .empty

/-! ## The lookup as specified -/

/-- Where the lookup's specification keeps a symbol of an entry's file, if it does: for a
    position-independent file, at `address + start - pgoff` for an `address` in
    `[pgoff, pgoff + end - start)`; for another, at an `address` in `[start, end)`; on an ARM host,
    not at all for a mapping symbol. -/
def keptSymbol (isArm : Bool) (entry : MapsEntry) (positionIndependent : Bool) (s : ElfSymbol) :
    Option (Nat × String) :=
  if isArm && isMappingSymbol s.name then none
  else if positionIndependent then
    if entry.pgoff ≤ s.address ∧ s.address < entry.pgoff + (entry.end_ - entry.start) then
      some (s.address + entry.start - entry.pgoff, s.name)
    else none
  else if entry.start ≤ s.address ∧ s.address < entry.end_ then some (s.address, s.name)
  else none

/-- The symbols of an entry the specification keeps, as (key, name) in the order of the symbol
    table; none when its file could not be read. -/
def keptSymbols (isArm : Bool) (entry : MapsEntry) : Option ElfFile → List (Nat × String)
  | none => []
  | some elf => elf.symbols.filterMap (keptSymbol isArm entry elf.positionIndependent)

/-- The keys the specification gives an entry, in the order they are written: the label at its
    start, then the symbols it keeps. -/
def specKeys (isArm : Bool) (entry : MapsEntry) (elf : Option ElfFile) : List (Nat × String) :=
  (entry.start, entry.label) :: keptSymbols isArm entry elf

/-- The greatest of `b` and the keys of `keys` that are at most `a`. -/
def floorKey (keys : List (Nat × String)) (b a : Nat) : Nat :=
  (keys.filter (fun e => e.1 ≤ a)).foldl (fun k e => max k e.1) b

/-- `GetSymbolAt(LoadSymbolsMap(pid), a)` as specified: empty when `a` is in no entry read; in
    entry `r`, from the greatest key `k ≤ a` among `r`'s start and kept symbols, where a later one
    replaces an earlier one or the label: the name at `k` if `k = a`, `name+0x<a - k>` otherwise,
    and empty when that name is. -/
def expectedSymbolAt (d : Demangler) (isArm : Bool) (maps : List (MapsEntry × Option ElfFile))
    (a : Nat) : String :=
  match maps.find? (fun e => e.1.processed && decide (e.1.start ≤ a) && decide (a < e.1.end_)) with
  | none => ""
  | some (r, elf) =>
    let k := floorKey (specKeys isArm r elf) r.start a
    match ((specKeys isArm r elf).filter (fun e => e.1 = k)).getLast? with
    | some (_, name) =>
      if name.isEmpty then ""
      else if k = a then demangleSymbol d name
      else demangleSymbol d name ++ "+0x" ++ hex (a - k)
    | none => ""

/-- One executable mapping of `/bin/x` at `[0x1000, 0x2000)`, whose ELF file could not be read. -/
def binXMaps : List (MapsEntry × Option ElfFile) :=
  [(⟨0x1000, 0x2000, true, 5, "/bin/x", 0, by decide⟩, none)]

/-- At the start of the first entry read, the lowest key of the map, the lookup gives the empty
    name, where the label `map:/bin/x` is specified. -/
theorem getSymbolAt_first_region_start (d : Demangler) :
    expectedSymbolAt d false binXMaps 0x1000 = "map:/bin/x" ∧
    getSymbolAt d (loadSymbolsMap false binXMaps) 0x1000 = "" := by
  refine ⟨?_, rfl⟩
  show demangleSymbol d ("map:" ++ "/bin/x") = "map:/bin/x"
  rw [demangleSymbol_label]
  decide

end Sandbox2
