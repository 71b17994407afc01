import Sandbox2.Unwind.Symbols
import Mathlib.Data.String.Basic

/-!
# What a lookup in the loaded map returns

`LoadSymbolsMap` is a sequence of `addr_to_symbol[key] = name` writes, so an entry of the map it
returns is the last write at its key (`mem_loadSymbolsMap`). An entry read writes only inside its
range `[start, end)`, and at `end` only the empty sentinel. With the entries in order and
disjoint, the writes at an address inside an entry `r` are `r`'s own, and below an address inside
no entry read the nearest write is a sentinel. With the form of `lower_bound`, this makes
`GetSymbolAt` after `LoadSymbolsMap` the specified lookup at every address but one: the start of
the first entry read, the lowest key, where it gives the empty name
(`getSymbolAt_loadSymbolsMap`, `getSymbolAt_loadSymbolsMap_lowest`).
-/

namespace Sandbox2

/-! ## The map as the last of its writes -/

/-- The name the last of the writes `w` at `key` wrote, if any. -/
def lastWrite (w : List (Nat × String)) (key : Nat) : Option String :=
  (w.reverse.find? (fun e => e.1 = key)).map Prod.snd

section LastWrite

variable {w : List (Nat × String)} {key : Nat} {name : String}

theorem lastWrite_append (w₁ w₂ : List (Nat × String)) (key : Nat) :
    lastWrite (w₁ ++ w₂) key = (lastWrite w₂ key).or (lastWrite w₁ key) := by
  simp only [lastWrite, List.reverse_append, List.find?_append]
  cases w₂.reverse.find? (fun e => e.1 = key) <;> rfl

theorem lastWrite_cons (e : Nat × String) (w : List (Nat × String)) (key : Nat) :
    lastWrite (e :: w) key = (lastWrite w key).or (if e.1 = key then some e.2 else none) := by
  rw [← List.singleton_append, lastWrite_append]
  by_cases h : e.1 = key <;> simp [lastWrite, h]

theorem lastWrite_eq_none_iff : lastWrite w key = none ↔ ∀ e ∈ w, e.1 ≠ key := by
  simp [lastWrite, List.find?_eq_none]

theorem mem_of_lastWrite (h : lastWrite w key = some name) : (key, name) ∈ w := by
  simp only [lastWrite, Option.map_eq_some'] at h
  obtain ⟨⟨k, v⟩, he, rfl⟩ := h
  have hk := List.find?_some he
  simp only [decide_eq_true_eq] at hk
  subst hk
  exact List.mem_reverse.1 (List.mem_of_find?_eq_some he)

theorem lastWrite_ne_none (h : (key, name) ∈ w) : lastWrite w key ≠ none :=
  fun hnone => lastWrite_eq_none_iff.1 hnone _ h rfl

end LastWrite

theorem mem_assignEntries_iff {l : List (Nat × String)} (h : KeyOrdered l) {key : Nat}
    {name : String} {x : Nat × String} :
    x ∈ assignEntries key name l ↔ x = (key, name) ∨ x ∈ l ∧ x.1 ≠ key := by
  induction l with
  | nil => simp [assignEntries]
  | cons e rest ih =>
    obtain ⟨k, v⟩ := e
    rw [KeyOrdered, List.pairwise_cons] at h
    have above : ∀ y ∈ rest, k < y.1 := h.1
    unfold assignEntries
    split_ifs with hlt heq
    · simp only [List.mem_cons]
      constructor
      · rintro (rfl | rfl | hx)
        · exact .inl rfl
        · exact .inr ⟨.inl rfl, hlt.ne'⟩
        · exact .inr ⟨.inr hx, (hlt.trans (above x hx)).ne'⟩
      · rintro (rfl | ⟨rfl | hx, -⟩)
        · exact .inl rfl
        · exact .inr (.inl rfl)
        · exact .inr (.inr hx)
    · subst heq
      simp only [List.mem_cons]
      constructor
      · rintro (rfl | hx)
        · exact .inl rfl
        · exact .inr ⟨.inr hx, (above x hx).ne'⟩
      · rintro (rfl | ⟨rfl | hx, hne⟩)
        · exact .inl rfl
        · exact absurd rfl hne
        · exact .inr hx
    · have hne : k ≠ key := by omega
      simp only [List.mem_cons, ih h.2]
      constructor
      · rintro (rfl | rfl | ⟨hx, hne'⟩)
        · exact .inr ⟨.inl rfl, hne⟩
        · exact .inl rfl
        · exact .inr ⟨.inr hx, hne'⟩
      · rintro (rfl | ⟨rfl | hx, hne'⟩)
        · exact .inr (.inl rfl)
        · exact .inl rfl
        · exact .inr (.inr ⟨hx, hne'⟩)

/-- `addr_to_symbol[key] = name` for each write of `w` in turn, on the entries `l`. -/
def assignAll (l w : List (Nat × String)) : List (Nat × String) :=
  w.foldl (fun l e => assignEntries e.1 e.2 l) l

theorem assignAll_append (l w₁ w₂ : List (Nat × String)) :
    assignAll l (w₁ ++ w₂) = assignAll (assignAll l w₁) w₂ :=
  List.foldl_append _ _ _ _

/-- After a sequence of writes, an entry is the last write at its key, or an entry already there
    that no write replaced. -/
theorem mem_assignAll {l : List (Nat × String)} (h : KeyOrdered l) (w : List (Nat × String))
    {key : Nat} {name : String} :
    (key, name) ∈ assignAll l w ↔
      lastWrite w key = some name ∨ lastWrite w key = none ∧ (key, name) ∈ l := by
  induction w generalizing l with
  | nil => simp [assignAll, lastWrite]
  | cons e w ih =>
    rw [assignAll, List.foldl_cons, ← assignAll, ih (assignEntries_sorted h),
      mem_assignEntries_iff h, lastWrite_cons]
    rcases lastWrite w key with _ | v
    · by_cases hk : e.1 = key
      · subst hk
        simp [Prod.ext_iff, eq_comm]
      · have hne : (key, name) ≠ e := fun he => hk (congrArg Prod.fst he).symm
        simp [hk, hne, Ne.symm hk]
    · simp

/-! ## `LoadSymbolsMap` as a sequence of writes -/

/-- What `LoadSymbolsMap` writes for one maps entry, in order: nothing for an entry it does not
    read; otherwise the label at its start, the empty sentinel at its end, and the symbols it
    keeps. -/
def entryWrites (isArm : Bool) (x : MapsEntry × Option ElfFile) : List (Nat × String) :=
  if x.1.processed then (x.1.start, x.1.label) :: (x.1.end_, "") :: keptSymbols isArm x.1 x.2
  else []

section Writes

variable (isArm : Bool)

theorem addSymbol_entries (entry : MapsEntry) (positionIndependent : Bool) (m : SymbolMap)
    (s : ElfSymbol) :
    (addSymbol isArm entry positionIndependent m s).entries =
      assignAll m.entries (keptSymbol isArm entry positionIndependent s).toList := by
  unfold addSymbol keptSymbol
  split_ifs <;> first | rfl | omega

theorem foldl_addSymbol_entries (entry : MapsEntry) (positionIndependent : Bool)
    (symbols : List ElfSymbol) (m : SymbolMap) :
    (symbols.foldl (addSymbol isArm entry positionIndependent) m).entries =
      assignAll m.entries (symbols.filterMap (keptSymbol isArm entry positionIndependent)) := by
  induction symbols generalizing m with
  | nil => rfl
  | cons s symbols ih =>
    rw [List.foldl_cons, ih, addSymbol_entries, List.filterMap_cons]
    cases keptSymbol isArm entry positionIndependent s <;> rfl

theorem addEntry_entries (m : SymbolMap) (x : MapsEntry × Option ElfFile) :
    (addEntry isArm m x).entries = assignAll m.entries (entryWrites isArm x) := by
  obtain ⟨entry, elf⟩ := x
  by_cases hp : entry.processed
  · cases elf with
    | none => simp [addEntry, entryWrites, hp, keptSymbols, assignAll, SymbolMap.assign]
    | some elf =>
      simp only [addEntry, entryWrites, hp, keptSymbols, Bool.not_true, Bool.false_eq_true,
        if_false, if_true]
      rw [foldl_addSymbol_entries]
      rfl
  · simp [addEntry, entryWrites, hp, assignAll]

theorem foldl_addEntry_entries (maps : List (MapsEntry × Option ElfFile)) (m : SymbolMap) :
    (maps.foldl (addEntry isArm) m).entries =
      assignAll m.entries (maps.flatMap (entryWrites isArm)) := by
  induction maps generalizing m with
  | nil => rfl
  | cons x maps ih => rw [List.foldl_cons, ih, addEntry_entries, List.flatMap_cons, assignAll_append]

/-- An entry of the loaded map is the last write at its key. -/
theorem mem_loadSymbolsMap (maps : List (MapsEntry × Option ElfFile)) (key : Nat) (name : String) :
    (key, name) ∈ (loadSymbolsMap isArm maps).entries ↔
      lastWrite (maps.flatMap (entryWrites isArm)) key = some name := by
  rw [loadSymbolsMap, foldl_addEntry_entries, show SymbolMap.empty.entries = [] from rfl,
    mem_assignAll List.Pairwise.nil]
  simp

variable {isArm}

theorem keptSymbol_range {entry : MapsEntry} {positionIndependent : Bool} {s : ElfSymbol}
    {key : Nat} {name : String}
    (h : keptSymbol isArm entry positionIndependent s = some (key, name)) :
    entry.start ≤ key ∧ key < entry.end_ := by
  have := entry.start_lt_end
  unfold keptSymbol at h
  split_ifs at h <;> simp only [Option.some.injEq, Prod.mk.injEq, reduceCtorEq] at h <;> omega

theorem mem_keptSymbols {entry : MapsEntry} {elf : Option ElfFile} {key : Nat} {name : String}
    (h : (key, name) ∈ keptSymbols isArm entry elf) : entry.start ≤ key ∧ key < entry.end_ := by
  cases elf with
  | none => simp [keptSymbols] at h
  | some elf =>
    obtain ⟨s, -, hs⟩ := List.mem_filterMap.1 h
    exact keptSymbol_range hs

/-- Every write for an entry is inside the entry, but for the empty sentinel at its end. -/
theorem mem_entryWrites {x : MapsEntry × Option ElfFile} {key : Nat} {name : String}
    (h : (key, name) ∈ entryWrites isArm x) :
    x.1.processed ∧ (x.1.start ≤ key ∧ key < x.1.end_ ∨ key = x.1.end_ ∧ name = "") := by
  unfold entryWrites at h
  split_ifs at h with hp
  · refine ⟨hp, ?_⟩
    rcases List.mem_cons.1 h with h | h
    · simp only [Prod.mk.injEq] at h
      exact .inl ⟨h.1.ge, h.1 ▸ x.1.start_lt_end⟩
    rcases List.mem_cons.1 h with h | h
    · simp only [Prod.mk.injEq] at h
      exact .inr h
    · exact .inl (mem_keptSymbols h)
  · simp at h

/-- Before its end, an entry's writes are its label and the symbols it keeps. -/
theorem lastWrite_entryWrites {x : MapsEntry × Option ElfFile} (hp : x.1.processed) {key : Nat}
    (hkey : key < x.1.end_) :
    lastWrite (entryWrites isArm x) key = lastWrite (specKeys isArm x.1 x.2) key := by
  simp only [entryWrites, specKeys, hp, if_true, lastWrite_cons, hkey.ne', if_false, Option.or_none]

end Writes

/-! ## The specified lookup -/

theorem head?_filter {α : Type} (p : α → Bool) (l : List α) : (l.filter p).head? = l.find? p := by
  induction l with
  | nil => rfl
  | cons x l ih => by_cases h : p x <;> simp [List.filter_cons, List.find?_cons, h, ih]

theorem foldl_max_spec (l : List (Nat × String)) (b : Nat) :
    b ≤ l.foldl (fun k e => max k e.1) b ∧ (∀ e ∈ l, e.1 ≤ l.foldl (fun k e => max k e.1) b) ∧
      (l.foldl (fun k e => max k e.1) b = b ∨ ∃ e ∈ l, e.1 = l.foldl (fun k e => max k e.1) b) := by
  induction l generalizing b with
  | nil => simp
  | cons e l ih =>
    obtain ⟨h1, h2, h3⟩ := ih (max b e.1)
    simp only [List.foldl_cons, List.mem_cons, forall_eq_or_imp, exists_eq_or_imp]
    refine ⟨(le_max_left _ _).trans h1, ⟨(le_max_right _ _).trans h1, h2⟩, ?_⟩
    rcases h3 with h3 | h3
    · rcases le_total e.1 b with hle | hle
      · exact .inl (h3.trans (max_eq_left hle))
      · exact .inr (.inl (h3.trans (max_eq_right hle)).symm)
    · exact .inr (.inr h3)

/-- `floorKey` is at least `b`, bounds every key at most `a`, and is `b` or one of those keys. -/
theorem floorKey_spec (keys : List (Nat × String)) (b a : Nat) :
    b ≤ floorKey keys b a ∧ (∀ e ∈ keys, e.1 ≤ a → e.1 ≤ floorKey keys b a) ∧
      (floorKey keys b a = b ∨ ∃ e ∈ keys, e.1 ≤ a ∧ e.1 = floorKey keys b a) := by
  obtain ⟨h1, h2, h3⟩ := foldl_max_spec (keys.filter (fun e => e.1 ≤ a)) b
  refine ⟨h1, fun e he hea => h2 e (List.mem_filter.2 ⟨he, by simpa using hea⟩), ?_⟩
  rcases h3 with h3 | ⟨e, he, heq⟩
  · exact .inl h3
  · obtain ⟨he, hea⟩ := List.mem_filter.1 he
    exact .inr ⟨e, he, by simpa using hea, heq⟩

/-- The specified lookup inside an entry: from the last write of the entry at the floor key. -/
theorem expectedSymbolAt_of_find {d : Demangler} {isArm : Bool}
    {maps : List (MapsEntry × Option ElfFile)} {a : Nat} {r : MapsEntry} {elf : Option ElfFile}
    (h : maps.find? (fun e => e.1.processed && decide (e.1.start ≤ a) && decide (a < e.1.end_)) =
      some (r, elf)) :
    expectedSymbolAt d isArm maps a =
      match lastWrite (specKeys isArm r elf) (floorKey (specKeys isArm r elf) r.start a) with
      | some name =>
        if name.isEmpty then ""
        else if floorKey (specKeys isArm r elf) r.start a = a then demangleSymbol d name
        else demangleSymbol d name ++ "+0x" ++ hex (a - floorKey (specKeys isArm r elf) r.start a)
      | none => "" := by
  rw [expectedSymbolAt, h]
  dsimp only
  rw [← List.head?_reverse, ← List.filter_reverse, head?_filter, lastWrite]
  rcases List.find? _ (specKeys isArm r elf).reverse with _ | ⟨k, name⟩ <;> rfl

/-! ## The lookup in the loaded map -/

section Lookup

variable (d : Demangler) {isArm : Bool}

/-- A key written for an entry read lies in that entry's `[start, end]`. -/
theorem key_range_of_mem_flatMap {xs : List (MapsEntry × Option ElfFile)} {key : Nat}
    {name : String} (h : (key, name) ∈ xs.flatMap (entryWrites isArm)) :
    ∃ x ∈ xs, x.1.processed ∧ x.1.start ≤ key ∧ key ≤ x.1.end_ := by
  obtain ⟨x, hx, he⟩ := List.mem_flatMap.1 h
  obtain ⟨hp, ⟨hlo, hhi⟩ | ⟨rfl, -⟩⟩ := mem_entryWrites he
  · exact ⟨x, hx, hp, hlo, hhi.le⟩
  · exact ⟨x, hx, hp, x.1.start_lt_end.le, le_rfl⟩

/-- A key written by `LoadSymbolsMap` is a key of the map it returns. -/
theorem exists_mem_loadSymbolsMap {maps : List (MapsEntry × Option ElfFile)} {key : Nat}
    {name : String} (h : (key, name) ∈ maps.flatMap (entryWrites isArm)) :
    ∃ v, (key, v) ∈ (loadSymbolsMap isArm maps).entries := by
  obtain ⟨v, hv⟩ := Option.ne_none_iff_exists'.1 (lastWrite_ne_none h)
  exact ⟨v, (mem_loadSymbolsMap isArm maps key v).2 hv⟩

theorem mem_entryWrites_start {x : MapsEntry × Option ElfFile} (hp : x.1.processed) :
    (x.1.start, x.1.label) ∈ entryWrites isArm x := by
  simp [entryWrites, hp]

theorem mem_entryWrites_end {x : MapsEntry × Option ElfFile} (hp : x.1.processed) :
    (x.1.end_, "") ∈ entryWrites isArm x := by
  simp [entryWrites, hp]

/-- Inside an entry read, the writes at an address are the entry's own: the earlier entries
    write below its start, or at it only their sentinel, which its label replaces; the later
    entries write from its end on. -/
theorem lastWrite_inside {pre post : List (MapsEntry × Option ElfFile)} {r : MapsEntry}
    {elf : Option ElfFile} (hmaps : (pre ++ (r, elf) :: post).Pairwise (fun x y => x.1.end_ ≤ y.1.start))
    (hr : r.processed) {key : Nat} (hlo : r.start ≤ key) (hhi : key < r.end_) :
    lastWrite ((pre ++ (r, elf) :: post).flatMap (entryWrites isArm)) key =
      lastWrite (specKeys isArm r elf) key := by
  obtain ⟨-, hpost', hcross⟩ := List.pairwise_append.1 hmaps
  have hpre : ∀ x ∈ pre, x.1.end_ ≤ r.start := fun x hx => hcross x hx _ (List.mem_cons_self _ _)
  have hpost : ∀ y ∈ post, r.end_ ≤ y.1.start := (List.pairwise_cons.1 hpost').1
  have hnone_post : lastWrite (post.flatMap (entryWrites isArm)) key = none := by
    refine lastWrite_eq_none_iff.2 fun ⟨k, v⟩ he hk => ?_
    obtain ⟨y, hy, -, hle, -⟩ := key_range_of_mem_flatMap he
    have := hpost y hy
    simp only at hk
    omega
  rw [List.flatMap_append, List.flatMap_cons, lastWrite_append, lastWrite_append, hnone_post,
    Option.none_or, lastWrite_entryWrites (x := (r, elf)) hr hhi]
  rcases Nat.lt_or_ge r.start key with hlt | hge
  · have hnone_pre : lastWrite (pre.flatMap (entryWrites isArm)) key = none := by
      refine lastWrite_eq_none_iff.2 fun ⟨k, v⟩ he hk => ?_
      obtain ⟨x, hx, -, -, hle⟩ := key_range_of_mem_flatMap he
      have := hpre x hx
      simp only at hk
      omega
    rw [hnone_pre, Option.or_none]
  · obtain rfl : key = r.start := by omega
    obtain ⟨v, hv⟩ := Option.ne_none_iff_exists'.1
      (lastWrite_ne_none (List.mem_cons_self _ _) : lastWrite (specKeys isArm r elf) r.start ≠ none)
    rw [hv]
    rfl

/-- At an address inside no entry read, `GetSymbolAt` gives the empty name: the nearest entry at
    or below it is a sentinel. -/
theorem getSymbolAt_outside {maps : List (MapsEntry × Option ElfFile)} {a : Nat}
    (hout : ∀ x ∈ maps, x.1.processed → ¬(x.1.start ≤ a ∧ a < x.1.end_)) :
    getSymbolAt d (loadSymbolsMap isArm maps) a = "" := by
  set F := loadSymbolsMap isArm maps
  have sentinel : ∀ {k v}, (k, v) ∈ F.entries →
      (∀ x ∈ maps, x.1.processed → ¬(x.1.start ≤ k ∧ k < x.1.end_)) → v = "" := by
    intro k v hkv hk
    obtain ⟨x, hx, he⟩ := List.mem_flatMap.1 (mem_of_lastWrite ((mem_loadSymbolsMap isArm maps k v).1 hkv))
    obtain ⟨hp, hin | ⟨-, rfl⟩⟩ := mem_entryWrites he
    · exact absurd hin (hk x hx hp)
    · rfl
  rw [getSymbolAt_eq]
  rcases habove : F.above a with _ | ⟨z, zn⟩
  · rfl
  rcases hbelow : F.below a with _ | ⟨g, gn⟩
  · rfl
  obtain ⟨hz, hza, hzmin⟩ := (F.above_eq_some_iff).1 habove
  obtain ⟨hg, hga, hgmax⟩ := (F.below_eq_some_iff).1 hbelow
  dsimp only
  split_ifs with hzeq hgn
  · subst hzeq
    rw [sentinel hz hout, demangleSymbol_empty]
  · rfl
  · refine absurd ?_ hgn
    rw [sentinel hg fun x hx hp ⟨hlo, hhi⟩ => ?_]
    · rfl
    have hend : x.1.end_ ≤ a := by
      by_contra hlt
      exact hout x hx hp ⟨by omega, by omega⟩
    obtain ⟨v, hv⟩ := exists_mem_loadSymbolsMap
      (List.mem_flatMap.2 ⟨x, hx, (mem_entryWrites_end hp : (x.1.end_, "") ∈ entryWrites isArm x)⟩)
    rcases hend.lt_or_eq with hlt | heq
    · have := hgmax _ hv hlt
      simp only at this
      omega
    · have := hzmin _ hv (by simp [heq])
      simp only at this
      omega

/-- Inside an entry read, with some key below the address, `GetSymbolAt` gives the last write of
    the entry at the floor key, with the offset when the address is past it. -/
theorem getSymbolAt_inside {pre post : List (MapsEntry × Option ElfFile)} {r : MapsEntry}
    {elf : Option ElfFile} (hmaps : (pre ++ (r, elf) :: post).Pairwise (fun x y => x.1.end_ ≤ y.1.start))
    (hr : r.processed) {a : Nat} (hlo : r.start ≤ a) (hhi : a < r.end_)
    (hbelow : r.start < a ∨ ∃ x ∈ pre, x.1.processed) :
    getSymbolAt d (loadSymbolsMap isArm (pre ++ (r, elf) :: post)) a =
      match lastWrite (specKeys isArm r elf) (floorKey (specKeys isArm r elf) r.start a) with
      | some name =>
        if name.isEmpty then ""
        else if floorKey (specKeys isArm r elf) r.start a = a then demangleSymbol d name
        else demangleSymbol d name ++ "+0x" ++ hex (a - floorKey (specKeys isArm r elf) r.start a)
      | none => "" := by
  set F := loadSymbolsMap isArm (pre ++ (r, elf) :: post)
  set C := specKeys isArm r elf
  obtain ⟨hk0, hkmax, hkat⟩ := floorKey_spec C r.start a
  set k := floorKey C r.start a
  have hka : k ≤ a := by rcases hkat with h | ⟨e, -, hea, he⟩ <;> omega
  have inF : ∀ {key v}, r.start ≤ key → key < r.end_ → ((key, v) ∈ F.entries ↔ lastWrite C key = some v) :=
    fun h1 h2 => by rw [mem_loadSymbolsMap, lastWrite_inside hmaps hr h1 h2]
  have keyC : ∀ {key v}, (key, v) ∈ F.entries → r.start ≤ key → key < r.end_ → (key, v) ∈ C :=
    fun hy h1 h2 => mem_of_lastWrite ((inF h1 h2).1 hy)
  have hrF : ∀ {x}, x ∈ pre ++ (r, elf) :: post → x.1.processed →
      (∃ v, (x.1.start, v) ∈ F.entries) ∧ ∃ v, (x.1.end_, v) ∈ F.entries := fun hx hp =>
    ⟨exists_mem_loadSymbolsMap (List.mem_flatMap.2 ⟨_, hx, mem_entryWrites_start hp⟩),
      exists_mem_loadSymbolsMap (List.mem_flatMap.2 ⟨_, hx, mem_entryWrites_end hp⟩)⟩
  have hrmem : (r, elf) ∈ pre ++ (r, elf) :: post := List.mem_append_right _ (List.mem_cons_self _ _)
  obtain ⟨name, hname⟩ : ∃ name, lastWrite C k = some name := by
    refine Option.ne_none_iff_exists'.1 ?_
    rcases hkat with h | ⟨⟨k', v⟩, he, -, rfl⟩
    · rw [h]
      exact lastWrite_ne_none (List.mem_cons_self _ _)
    · exact lastWrite_ne_none he
  have hkF : (k, name) ∈ F.entries := (inF hk0 (by omega)).2 hname
  rw [hname, getSymbolAt_eq]
  rcases hka.lt_or_eq with hlt | heq
  · -- `--it` reaches the floor key, and `lower_bound` an entry above `a`
    have hbelowF : F.below a = some (k, name) := by
      refine F.below_eq_some_iff.2 ⟨hkF, hlt, fun ⟨y, v⟩ hy hya => ?_⟩
      simp only at hya ⊢
      rcases Nat.lt_or_ge y r.start with h1 | h1
      · omega
      · exact hkmax _ (keyC hy h1 (by omega)) hya.le
    obtain ⟨v, hv⟩ := (hrF hrmem hr).2
    obtain ⟨⟨z, zn⟩, hz⟩ : ∃ z, F.above a = some z := Option.ne_none_iff_exists'.1 fun hnone => by
      have := F.above_eq_none_iff.1 hnone _ hv
      simp only at this
      omega
    have hza : z ≠ a := by
      rintro rfl
      have := hkmax _ (keyC (F.above_eq_some_iff.1 hz).1 hlo hhi) le_rfl
      simp only at this
      omega
    rw [hz, hbelowF]
    simp only [hza, hlt.ne, if_false]
  · -- `lower_bound` finds the floor key, and some key lies below it
    have haboveF : F.above a = some (a, name) :=
      F.above_eq_some_iff.2 ⟨heq ▸ hkF, le_rfl, fun _ _ h => h⟩
    obtain ⟨⟨g, gn⟩, hg⟩ : ∃ g, F.below a = some g := Option.ne_none_iff_exists'.1 fun hnone => by
      have hall := F.below_eq_none_iff.1 hnone
      rcases hbelow with h | ⟨x, hx, hp⟩
      · obtain ⟨v, hv⟩ := (hrF hrmem hr).1
        have := hall _ hv
        simp only at this
        omega
      · obtain ⟨v, hv⟩ := (hrF (List.mem_append_left _ hx) hp).1
        have h1 := hall _ hv
        have h2 := x.1.start_lt_end
        have h3 := (List.pairwise_append.1 hmaps).2.2 x hx _ (List.mem_cons_self _ _)
        simp only at h1 h3
        omega
    rw [haboveF, hg]
    simp only [heq, if_true]
    split_ifs with he
    · rw [(String.isEmpty_iff name).1 he, demangleSymbol_empty]
    · rfl

theorem find?_eq_some_split {α : Type} {p : α → Bool} {l : List α} {b : α}
    (h : l.find? p = some b) : ∃ pre post, l = pre ++ b :: post ∧ ∀ x ∈ pre, p x = false := by
  induction l with
  | nil => simp at h
  | cons x l ih =>
    by_cases hx : p x
    · rw [List.find?_cons_of_pos _ hx, Option.some.injEq] at h
      exact ⟨[], l, by rw [h]; rfl, by simp⟩
    · rw [List.find?_cons_of_neg _ hx] at h
      obtain ⟨pre, post, rfl, hpre⟩ := ih h
      refine ⟨x :: pre, post, rfl, ?_⟩
      simpa [hx] using hpre

/-- `GetSymbolAt` after `LoadSymbolsMap`, for maps entries in order and disjoint, is the specified
    lookup at every address but the start of the first entry read. -/
theorem getSymbolAt_loadSymbolsMap {maps : List (MapsEntry × Option ElfFile)}
    (hmaps : maps.Pairwise (fun x y => x.1.end_ ≤ y.1.start)) (a : Nat)
    (ha : (maps.find? (fun x => x.1.processed)).map (fun x => x.1.start) ≠ some a) :
    getSymbolAt d (loadSymbolsMap isArm maps) a = expectedSymbolAt d isArm maps a := by
  rcases hfind : maps.find? (fun e => e.1.processed && decide (e.1.start ≤ a) &&
    decide (a < e.1.end_)) with _ | ⟨r, elf⟩
  · rw [expectedSymbolAt, hfind]
    refine getSymbolAt_outside d fun x hx hp hin => ?_
    have := List.find?_eq_none.1 hfind x hx
    simp_all
  · have hp := List.find?_some hfind
    simp only [Bool.and_eq_true, decide_eq_true_eq] at hp
    obtain ⟨⟨hr, hlo⟩, hhi⟩ := hp
    obtain ⟨pre, post, rfl⟩ := List.append_of_mem (List.mem_of_find?_eq_some hfind)
    rw [expectedSymbolAt_of_find hfind, getSymbolAt_inside d hmaps hr hlo hhi]
    rcases hlo.lt_or_eq with hlt | heq
    · exact .inl hlt
    · refine .inr (by_contra fun hnone => ha ?_)
      push_neg at hnone
      rw [List.find?_append, List.find?_eq_none.2 fun x hx => by simpa using hnone x hx,
        Option.none_or]
      simp [List.find?_cons, hr, heq]

/-- At the start of the first entry read, the lowest key of the map, `GetSymbolAt` gives the
    empty name. -/
theorem getSymbolAt_loadSymbolsMap_lowest {maps : List (MapsEntry × Option ElfFile)}
    (hmaps : maps.Pairwise (fun x y => x.1.end_ ≤ y.1.start)) {a : Nat}
    (ha : (maps.find? (fun x => x.1.processed)).map (fun x => x.1.start) = some a) :
    getSymbolAt d (loadSymbolsMap isArm maps) a = "" := by
  obtain ⟨⟨r, elf⟩, hfind, rfl⟩ := Option.map_eq_some'.1 ha
  obtain ⟨pre, post, rfl, hpre⟩ := find?_eq_some_split hfind
  have hnone : (loadSymbolsMap isArm (pre ++ (r, elf) :: post)).below r.start = none := by
    refine (SymbolMap.below_eq_none_iff _).2 fun ⟨k, v⟩ hkv => ?_
    obtain ⟨x, hx, hp, hxk, -⟩ :=
      key_range_of_mem_flatMap (mem_of_lastWrite ((mem_loadSymbolsMap isArm _ k v).1 hkv))
    simp only
    rcases List.mem_append.1 hx with hx | hx
    · simp [hpre x hx] at hp
    rcases List.mem_cons.1 hx with rfl | hx
    · exact hxk
    · have hafter := (List.pairwise_cons.1 (List.pairwise_append.1 hmaps).2.1).1 x hx
      have := r.start_lt_end
      simp only at hafter
      omega
  rw [getSymbolAt_eq, hnone]
  rcases SymbolMap.above _ r.start with _ | ⟨_, _⟩ <;> rfl

end Lookup

end Sandbox2
