import Mathlib.Data.String.Basic
import Sandbox2.Unwind.Symbols

/-!
# `GetSymbolAt` against the floor lookup

The specification of `GetSymbolAt(map, addr)` (`unwind.cc:171-189`) is a floor lookup: from the
greatest key `k ≤ addr`, the demangled name on an exact match, `name+0x<addr - k>` otherwise, and
the empty name when there is no such key or its name is empty. The code reaches `k` through
`lower_bound(addr)` and `--it`, and gives up when `lower_bound` is `end()` or `begin()`. So it is
the floor lookup exactly at the addresses above the lowest key and at or below the highest, and
gives the empty name everywhere else: at the lowest key itself, and past the highest key.
-/

namespace Sandbox2

namespace KeyOrdered

/-- On ordered entries, `lookup` finds the one entry of a key. -/
theorem lookup_eq_some {l : List (Nat × String)} (h : KeyOrdered l) {k : Nat} {name : String}
    (hk : (k, name) ∈ l) : l.lookup k = some name := by
  induction l with
  | nil => simp at hk
  | cons e l ih =>
    obtain ⟨k', name'⟩ := e
    rcases List.mem_cons.1 hk with he | hk'
    · cases he
      simp
    · rw [KeyOrdered, List.pairwise_cons] at h
      have hne : (k == k') = false := by simpa using (h.1 _ hk').ne'
      simp [List.lookup_cons, hne, ih h.2 hk']

end KeyOrdered

namespace SymbolMap

/-- `M[k]`: the name the map gives key `k`, if it has the key. -/
def find? (m : SymbolMap) (k : Nat) : Option String := m.entries.lookup k

/-- The greatest key of the map that is at most `a`, if there is one. -/
def floorKey? (m : SymbolMap) (a : Nat) : Option Nat :=
  ((m.entries.map Prod.fst).filter (· ≤ a)).max?

variable (m : SymbolMap)

/-- The greatest key at most `a` is the key of the last entry below `a + 1`. -/
theorem floorKey?_eq (a : Nat) : m.floorKey? a = (m.below (a + 1)).map Prod.fst := by
  cases hb : m.below (a + 1) with
  | none =>
    have hall := (m.below_eq_none_iff).1 hb
    simp only [floorKey?, Option.map_none', List.max?_eq_none_iff, List.filter_eq_nil_iff,
      List.mem_map, decide_eq_true_eq, not_le]
    rintro _ ⟨y, hy, rfl⟩
    have := hall y hy
    omega
  | some x =>
    obtain ⟨hx, hxa, hmax⟩ := (m.below_eq_some_iff).1 hb
    rw [floorKey?, Option.map_some', List.max?_eq_some_iff']
    simp only [List.mem_filter, List.mem_map, decide_eq_true_eq, and_imp, forall_exists_index]
    refine ⟨⟨⟨x, hx, rfl⟩, by omega⟩, ?_⟩
    rintro _ y hy rfl hya
    exact hmax y hy (by omega)

end SymbolMap

/-- The floor lookup `GetSymbolAt` is specified as: from the greatest key `k ≤ a`, the empty name
    when there is none or `M[k]` is empty, the demangled `M[k]` when `k = a`, and the demangled
    `M[k]` followed by `+0x` and `hex(a - k)` otherwise. -/
def floorLookup (d : Demangler) (m : SymbolMap) (a : Nat) : String :=
  match m.floorKey? a with
  | none => ""
  | some k =>
    match m.find? k with
    | none => ""
    | some name =>
      if name.isEmpty then ""
      else if k = a then demangleSymbol d name
      else demangleSymbol d name ++ "+0x" ++ hex (a - k)

/-- The floor lookup through the entry of the floor key. -/
theorem floorLookup_of_below {d : Demangler} {m : SymbolMap} {a k : Nat} {name : String}
    (h : m.below (a + 1) = some (k, name)) :
    floorLookup d m a =
      if name.isEmpty then ""
      else if k = a then demangleSymbol d name
      else demangleSymbol d name ++ "+0x" ++ hex (a - k) := by
  have hfind : m.find? k = some name :=
    m.sorted.lookup_eq_some ((m.below_eq_some_iff).1 h).1
  simp only [floorLookup, m.floorKey?_eq, h, Option.map_some', hfind]

/-- `GetSymbolAt` is the floor lookup at every address above some key and at or below some key,
    and gives the empty name at every other address. -/
theorem getSymbolAt_eq_floorLookup (d : Demangler) (m : SymbolMap) (a : Nat) :
    getSymbolAt d m a =
      if m.entries.any (·.1 < a) && m.entries.any (a ≤ ·.1) then floorLookup d m a else "" := by
  rw [getSymbolAt_eq]
  cases hab : m.above a with
  | none =>
    have hall := (m.above_eq_none_iff).1 hab
    have : m.entries.any (a ≤ ·.1) = false := by
      simpa using fun y _ hy => hall _ hy
    simp [this]
  | some x =>
    obtain ⟨key, name⟩ := x
    obtain ⟨hx, hxa, hxmin⟩ := (m.above_eq_some_iff).1 hab
    have habove : m.entries.any (a ≤ ·.1) = true := List.any_eq_true.2 ⟨_, hx, by simpa using hxa⟩
    cases hbl : m.below a with
    | none =>
      have hall := (m.below_eq_none_iff).1 hbl
      have : m.entries.any (·.1 < a) = false := by
        simpa using fun y _ hy => hall _ hy
      simp [this]
    | some y =>
      obtain ⟨pk, pn⟩ := y
      obtain ⟨hy, hya, hymax⟩ := (m.below_eq_some_iff).1 hbl
      have hbelow : m.entries.any (·.1 < a) = true := List.any_eq_true.2 ⟨_, hy, by simpa using hya⟩
      simp only [hbelow, habove, Bool.and_self, if_true]
      by_cases hka : key = a
      · -- an exact match: the floor key is `a` itself
        subst hka
        have hfloor : m.below (key + 1) = some (key, name) :=
          (m.below_eq_some_iff).2 ⟨hx, by simp, fun z _ hz => by simpa using Nat.lt_succ_iff.1 hz⟩
        rw [floorLookup_of_below hfloor, if_pos rfl, if_pos rfl]
        split_ifs with hempty
        · rw [(String.isEmpty_iff name).1 hempty, demangleSymbol_empty]
        · rfl
      · -- between two keys: the floor key is the one `--it` reaches
        have hfloor : m.below (a + 1) = some (pk, pn) := by
          refine (m.below_eq_some_iff).2 ⟨hy, by simp at hya ⊢; omega, fun z hz hza => ?_⟩
          rcases Nat.lt_or_ge z.1 a with hlt | hge
          · exact hymax z hz hlt
          · have := hxmin z hz hge
            simp only at this hxa hza
            omega
        rw [floorLookup_of_below hfloor, if_neg hka, if_neg (show pk ≠ a by simp at hya; omega)]

/-- The map with one entry, the label `map:/bin/x` at `0x1000`. -/
def labelOnly : SymbolMap := ⟨[(0x1000, "map:/bin/x")], List.pairwise_singleton _ _⟩

/-- At its only key, and past it, the floor lookup gives the label, and `GetSymbolAt` the empty
    name. -/
theorem getSymbolAt_misses_floor (d : Demangler) :
    floorLookup d labelOnly 0x1000 = "map:/bin/x" ∧ getSymbolAt d labelOnly 0x1000 = "" ∧
    floorLookup d labelOnly 0x1010 = "map:/bin/x+0x10" ∧ getSymbolAt d labelOnly 0x1010 = "" := by
  have hlabel : demangleSymbol d "map:/bin/x" = "map:/bin/x" := demangleSymbol_label d "/bin/x"
  have hfloor : ∀ a, 0x1000 ≤ a → labelOnly.below (a + 1) = some (0x1000, "map:/bin/x") :=
    fun a ha => (labelOnly.below_eq_some_iff).2 ⟨by simp [labelOnly], by simp; omega,
      fun y hy _ => by simp [labelOnly] at hy; simp [hy]⟩
  refine ⟨?_, rfl, ?_, rfl⟩
  · rw [floorLookup_of_below (hfloor _ le_rfl), if_neg (by decide), if_pos rfl, hlabel]
  · rw [floorLookup_of_below (hfloor 0x1010 (by decide)), if_neg (by decide), if_neg (by decide),
      hlabel]
    decide

end Sandbox2
