import Mathlib.Algebra.Order.Ring.Int
import Mathlib.Data.List.Chain
import Mathlib.Data.List.Infix

/-!
# `GetIncludeGuard`

The header generator of the Sandboxed API (`sandboxed_api/tools/clang_generator/emitter.cc`)
names the include guard of a generated header after its file name (`emitter.cc:146-178`). Each
ASCII letter of the name is kept upper-cased and each digit as it is. A run of other bytes
becomes one `_`, and `SAPI_` stands first when the name does not begin with a letter. The guard
always ends in `_`. An empty file name gets `SANDBOXED_API_GENERATED_HEADER_`, then 16
upper-case hexadecimal digits drawn at random, then `_`. The file name is a byte string. The
guard is the sequence of characters of the `std::string` the loop builds; it is ASCII throughout.

Every guard is an identifier that C and C++ do not reserve: `[A-Z0-9_]` only, starting with an
upper-case letter, ending in `_`, without `__` (`IsGuard`). Its letters and digits are those of
the file name, in order.
-/

namespace Sandbox2.Sapi

/-! ## ASCII bytes -/

/-- A byte of a `std::string`, as a character. -/
def byteChar (b : UInt8) : Char := Char.ofNat b.toNat

/-- `absl::ascii_isalpha`. -/
def asciiIsalpha (b : UInt8) : Bool :=
  (0x41 ≤ b.toNat && b.toNat ≤ 0x5A) || (0x61 ≤ b.toNat && b.toNat ≤ 0x7A)

/-- `absl::ascii_isdigit`. -/
def asciiIsdigit (b : UInt8) : Bool := 0x30 ≤ b.toNat && b.toNat ≤ 0x39

/-- `absl::ascii_toupper`: a lower-case letter as upper case, any other byte as it is. -/
def asciiToupper (b : UInt8) : UInt8 := if 0x61 ≤ b.toNat ∧ b.toNat ≤ 0x7A then b - 0x20 else b

theorem Char.toNat_ofNat_of_lt {n : Nat} (h : n < 256) : (Char.ofNat n).toNat = n := by
  unfold Char.ofNat
  rw [dif_pos (Or.inl (by omega))]
  rfl

@[simp]
theorem byteChar_toNat (b : UInt8) : (byteChar b).toNat = b.toNat :=
  Char.toNat_ofNat_of_lt b.toNat_lt_size

theorem Char.isUpper_iff (c : Char) : c.isUpper ↔ 65 ≤ c.toNat ∧ c.toNat ≤ 90 := by
  simp [Char.isUpper, Char.toNat, UInt32.le_def, BitVec.le_def]; rfl

theorem Char.isLower_iff (c : Char) : c.isLower ↔ 97 ≤ c.toNat ∧ c.toNat ≤ 122 := by
  simp [Char.isLower, Char.toNat, UInt32.le_def, BitVec.le_def]; rfl

theorem Char.isDigit_iff (c : Char) : c.isDigit ↔ 48 ≤ c.toNat ∧ c.toNat ≤ 57 := by
  simp [Char.isDigit, Char.toNat, UInt32.le_def, BitVec.le_def]; rfl

/-- An ASCII letter, upper-cased, is an upper-case letter. -/
theorem Char.isUpper_toUpper {c : Char} (h : c.isAlpha) : c.toUpper.isUpper := by
  rw [Char.isAlpha, Bool.or_eq_true, Char.isUpper_iff, Char.isLower_iff] at h
  simp only [Char.toUpper]
  split_ifs with hl
  · rw [Char.isUpper_iff, Char.toNat_ofNat_of_lt (by omega)]; omega
  · rw [Char.isUpper_iff]; omega

/-- The byte classes of abseil are those of Lean's `Char` on the byte's character. -/
@[simp]
theorem asciiIsalpha_eq (b : UInt8) : asciiIsalpha b = (byteChar b).isAlpha := by
  rw [Bool.eq_iff_iff, Char.isAlpha, Bool.or_eq_true, Char.isUpper_iff, Char.isLower_iff,
    byteChar_toNat]
  simp [asciiIsalpha]

@[simp]
theorem asciiIsdigit_eq (b : UInt8) : asciiIsdigit b = (byteChar b).isDigit := by
  rw [Bool.eq_iff_iff, Char.isDigit_iff, byteChar_toNat]
  simp [asciiIsdigit]

@[simp]
theorem byteChar_asciiToupper (b : UInt8) : byteChar (asciiToupper b) = (byteChar b).toUpper := by
  have hb : b.toNat < 256 := b.toNat_lt_size
  simp only [asciiToupper, Char.toUpper, byteChar_toNat]
  split_ifs with hl
  · have hsub : (b - 0x20).toNat = b.toNat - 32 := by
      simp only [UInt8.toNat, UInt8.sub_def, BitVec.toNat_sub] at hl hb ⊢
      simp
      omega
    rw [byteChar, hsub]
  · rfl

/-! ## The guard -/

/-- `kUnderscorePrefix` (`emitter.cc:157`). -/
def kUnderscorePrefix : List Char := "SAPI_".toList

/-- One byte of the loop of `GetIncludeGuard` (`emitter.cc:160-172`). -/
def includeGuardStep (guard : List Char) (c : UInt8) : List Char :=
  if asciiIsalpha c then guard ++ [byteChar (asciiToupper c)]
  else
    let guard := if guard.isEmpty then kUnderscorePrefix else guard
    if asciiIsdigit c then guard ++ [byteChar c]
    else if guard.getLast? ≠ some '_' then guard ++ ['_']
    else guard

/-- `absl::Hex(v, absl::kZeroPad16)`: the 16 lower-case hexadecimal digits of a `uint64_t`. -/
def hexZeroPad16 (v : UInt64) : List Char :=
  (List.range 16).reverse.map fun i => Nat.digitChar (v.toNat / 16 ^ i % 16)

/-- `GetIncludeGuard(filename)` (`emitter.cc:146-178`). `random` is the `uint64_t` that
    `absl::Uniform` draws for an empty file name. -/
def getIncludeGuard (filename : List UInt8) (random : UInt64) : String :=
  if filename.isEmpty then
    String.mk ("SANDBOXED_API_GENERATED_HEADER_".toList ++ (hexZeroPad16 random).map Char.toUpper
      ++ ['_'])
  else
    let guard := filename.foldl includeGuardStep []
    String.mk (if guard.getLast? = some '_' then guard else guard ++ ['_'])

/-! ## What a guard looks like -/

/-- A character of an include guard: `[A-Z0-9_]`. -/
def isGuardChar (c : Char) : Bool := c.isUpper || c.isDigit || c = '_'

/-- Two neighbours that are not both `_`. -/
def NotDoubleUnderscore (a b : Char) : Prop := ¬(a = '_' ∧ b = '_')

instance : DecidableRel NotDoubleUnderscore := fun a b =>
  inferInstanceAs (Decidable ¬(a = '_' ∧ b = '_'))

/-- An identifier that C and C++ do not reserve, shaped as an include guard: not empty, of
    `[A-Z0-9_]`, starting with an upper-case letter, ending in `_`, with no `__` in it. -/
structure IsGuard (g : List Char) : Prop where
  ne_nil : g ≠ []
  chars : ∀ c ∈ g, isGuardChar c
  head : ∀ c ∈ g.head?, c.isUpper
  last : g.getLast? = some '_'
  no_double : ¬['_', '_'] <:+: g

/-- What the loop has built so far: characters of a guard, an upper-case letter first, and no
    two `_` in a row. -/
structure GuardPrefix (g : List Char) : Prop where
  chars : ∀ c ∈ g, isGuardChar c
  head : ∀ c ∈ g.head?, c.isUpper
  chain : g.Chain' NotDoubleUnderscore

namespace GuardPrefix

theorem nil : GuardPrefix [] := ⟨by simp, by simp, List.chain'_nil⟩

theorem underscorePrefix : GuardPrefix kUnderscorePrefix :=
  ⟨by decide, by decide, by simp [kUnderscorePrefix, NotDoubleUnderscore]⟩

/-- Appending a character of a guard keeps the shape, if it is a letter when it comes first, and
    not a second `_`. -/
theorem push {g : List Char} {c : Char} (hg : GuardPrefix g) (hc : isGuardChar c)
    (hhead : g = [] → c.isUpper) (hlast : c = '_' → g.getLast? ≠ some '_') :
    GuardPrefix (g ++ [c]) where
  chars x hx := by
    rcases List.mem_append.1 hx with hx | hx
    · exact hg.chars x hx
    · rw [List.mem_singleton.1 hx]; exact hc
  head x hx := by
    cases g with
    | nil => simp only [List.nil_append, List.head?_cons, Option.mem_def, Option.some.injEq] at hx
             exact hx ▸ hhead rfl
    | cons y ys => exact hg.head x (by simpa using hx)
  chain := by
    refine List.chain'_append.2 ⟨hg.chain, List.chain'_singleton c, fun x hx y hy h => ?_⟩
    obtain rfl : c = y := by simpa using hy
    exact hlast h.2 (h.1 ▸ hx)

/-- Every byte keeps the shape. -/
theorem step {g : List Char} (hg : GuardPrefix g) (c : UInt8) :
    GuardPrefix (includeGuardStep g c) := by
  unfold includeGuardStep
  by_cases ha : asciiIsalpha c = true
  · -- a letter, upper-cased
    rw [if_pos ha, byteChar_asciiToupper]
    have hup := Char.isUpper_toUpper (by rwa [← asciiIsalpha_eq])
    exact hg.push (by simp [isGuardChar, hup]) (fun _ => hup) (by rintro h; simp [h] at hup)
  · -- any other byte, after `SAPI_` if nothing came before
    rw [if_neg ha]
    have hg' : GuardPrefix (if g.isEmpty then kUnderscorePrefix else g) := by
      split_ifs; exacts [underscorePrefix, hg]
    have hne : (if g.isEmpty then kUnderscorePrefix else g) ≠ [] := by
      split_ifs with h
      · simp [kUnderscorePrefix]
      · simpa using h
    generalize (if g.isEmpty then kUnderscorePrefix else g) = g' at hg' hne ⊢
    by_cases hd : asciiIsdigit c = true
    · rw [if_pos hd]
      have hdig : (byteChar c).isDigit := by rwa [← asciiIsdigit_eq]
      refine hg'.push (by simp [isGuardChar, hdig]) (fun h => absurd h hne) ?_
      rintro h; rw [h] at hdig; exact absurd hdig (by decide)
    · rw [if_neg hd]
      split_ifs with hl
      · exact hg'.push (by simp [isGuardChar]) (fun h => absurd h hne) (fun _ => hl)
      · exact hg'

end GuardPrefix

/-- Upper-case letters and digits after a non-empty shaped guard keep the shape. -/
theorem GuardPrefix.append_alnum {g s : List Char} (hg : GuardPrefix g) (hne : g ≠ [])
    (hs : ∀ c ∈ s, c.isUpper ∨ c.isDigit) : GuardPrefix (g ++ s) := by
  induction s generalizing g with
  | nil => simpa using hg
  | cons c s ih =>
    have hc := hs c (.head _)
    have hnu : c ≠ '_' := by rintro rfl; exact absurd hc (by decide)
    rw [← List.singleton_append, ← List.append_assoc]
    exact ih (hg.push (by simp [isGuardChar, hc]) (fun h => absurd h hne) (fun h => absurd h hnu))
      (by simp) (fun x hx => hs x (.tail _ hx))

/-- The loop never loses the shape. -/
theorem guardPrefix_foldl (filename : List UInt8) :
    GuardPrefix (filename.foldl includeGuardStep []) := by
  suffices ∀ g, GuardPrefix g → GuardPrefix (filename.foldl includeGuardStep g) from
    this [] GuardPrefix.nil
  induction filename with
  | nil => exact fun _ hg => hg
  | cons c cs ih => exact fun g hg => ih _ (hg.step c)

/-- The loop builds something from the first byte on. -/
theorem includeGuardStep_ne_nil (g : List Char) (c : UInt8) : includeGuardStep g c ≠ [] := by
  simp only [includeGuardStep]
  split_ifs <;> simp_all [kUnderscorePrefix]

theorem foldl_includeGuardStep_ne_nil {g : List Char} {filename : List UInt8} (h : g ≠ [] ∨ filename ≠ []) :
    filename.foldl includeGuardStep g ≠ [] := by
  induction filename generalizing g with
  | nil => simpa using h
  | cons c cs ih => exact ih (.inl (includeGuardStep_ne_nil g c))

/-- A shaped, non-empty guard that ends in `_` is an unreserved identifier. -/
theorem GuardPrefix.isGuard {g : List Char} (hg : GuardPrefix g) (hne : g ≠ [])
    (hlast : g.getLast? = some '_') : IsGuard g where
  ne_nil := hne
  chars := hg.chars
  head := hg.head
  last := hlast
  no_double h := by
    have := hg.chain.infix h
    simp [NotDoubleUnderscore] at this

/-- The upper-cased hexadecimal digit of a number below 16 is a digit or an upper-case letter. -/
theorem digitChar_toUpper : ∀ n < 16,
    (Nat.digitChar n).toUpper.isUpper ∨ (Nat.digitChar n).toUpper.isDigit
  | 0, _ | 1, _ | 2, _ | 3, _ | 4, _ | 5, _ | 6, _ | 7, _ | 8, _ | 9, _ | 10, _ | 11, _ | 12, _
  | 13, _ | 14, _ | 15, _ => by decide
  | _ + 16, h => absurd h (by omega)

/-- The guard of an empty file name is an unreserved identifier, whatever the random draw. -/
theorem randomGuard_isGuard (random : UInt64) :
    IsGuard ("SANDBOXED_API_GENERATED_HEADER_".toList ++ (hexZeroPad16 random).map Char.toUpper
      ++ ['_']) := by
  have hhex : ∀ c ∈ (hexZeroPad16 random).map Char.toUpper, c.isUpper ∨ c.isDigit := by
    simp only [hexZeroPad16, List.map_map, List.mem_map, List.mem_reverse, List.mem_range]
    rintro c ⟨i, -, rfl⟩
    exact digitChar_toUpper _ (Nat.mod_lt _ (by decide))
  have hlead : GuardPrefix "SANDBOXED_API_GENERATED_HEADER_".toList :=
    ⟨by decide, by decide, by simp [NotDoubleUnderscore]⟩
  have hlast : ("SANDBOXED_API_GENERATED_HEADER_".toList ++
      (hexZeroPad16 random).map Char.toUpper).getLast? ≠ some '_' := by
    rw [List.getLast?_append]
    cases h : ((hexZeroPad16 random).map Char.toUpper).getLast? with
    | none => simp [hexZeroPad16] at h
    | some x =>
      rintro ⟨⟩
      exact absurd (hhex _ (List.mem_of_getLast?_eq_some h)) (by decide)
  exact ((hlead.append_alnum (by simp) hhex).push (by decide) (by simp)
    fun _ => hlast).isGuard (by simp) (by rw [List.getLast?_append]; rfl)

/-! ## The letters and digits of the guard -/

/-- The file name's ASCII letters, upper-cased, and its digits, in order. -/
def lettersAndDigits (filename : List UInt8) : List Char :=
  ((filename.map byteChar).filter Char.isAlphanum).map Char.toUpper

@[simp]
theorem lettersAndDigits_append (a b : List UInt8) :
    lettersAndDigits (a ++ b) = lettersAndDigits a ++ lettersAndDigits b := by
  simp [lettersAndDigits, List.filter_append]

theorem Char.toUpper_of_isDigit {c : Char} (h : c.isDigit) : c.toUpper = c := by
  rw [Char.isDigit_iff] at h
  simp only [Char.toUpper]
  rw [if_neg (by omega)]

/-- What one byte adds to the guard: its letter or digit, or at most one `_`, after `SAPI_` when
    the guard is empty and the byte is not a letter. -/
theorem includeGuardStep_eq (g : List Char) (c : UInt8) :
    ∃ s, includeGuardStep g c =
        (if g = [] ∧ (byteChar c).isAlpha = false then kUnderscorePrefix else g) ++ s ∧
      s.filter Char.isAlphanum = lettersAndDigits [c] := by
  simp only [includeGuardStep, asciiIsalpha_eq, asciiIsdigit_eq, byteChar_asciiToupper]
  by_cases ha : (byteChar c).isAlpha = true
  · -- a letter
    have hup := Char.isUpper_toUpper ha
    have halnum : (byteChar c).isAlphanum = true := by simp [Char.isAlphanum, ha]
    refine ⟨[(byteChar c).toUpper], by simp [ha], ?_⟩
    have hupAlnum : (byteChar c).toUpper.isAlphanum = true := by
      simp [Char.isAlphanum, Char.isAlpha, hup]
    simp [lettersAndDigits, List.filter_cons, halnum, hupAlnum]
  · have hcond : (if g.isEmpty then kUnderscorePrefix else g) =
        if g = [] ∧ (byteChar c).isAlpha = false then kUnderscorePrefix else g := by
      simp [ha]
    rw [if_neg ha, hcond]
    generalize (if g = [] ∧ (byteChar c).isAlpha = false then kUnderscorePrefix else g) = g'
    by_cases hd : (byteChar c).isDigit = true
    · -- a digit
      refine ⟨[byteChar c], by rw [if_pos hd], ?_⟩
      simp [lettersAndDigits, Char.isAlphanum, hd, Char.toUpper_of_isDigit hd]
    · -- anything else
      have hkept : lettersAndDigits [c] = [] := by simp [lettersAndDigits, Char.isAlphanum, ha, hd]
      rw [if_neg hd, hkept]
      split_ifs
      · exact ⟨['_'], rfl, by decide⟩
      · exact ⟨[], by simp, rfl⟩

/-- Past the first byte, the loop only appends, and what it appends holds the letters and digits
    of the bytes it read. -/
theorem foldl_includeGuardStep_eq {g : List Char} (hg : g ≠ []) (cs : List UInt8) :
    ∃ s, cs.foldl includeGuardStep g = g ++ s ∧ s.filter Char.isAlphanum = lettersAndDigits cs := by
  induction cs generalizing g with
  | nil => exact ⟨[], by simp, rfl⟩
  | cons c cs ih =>
    obtain ⟨s₀, h₀, hs₀⟩ := includeGuardStep_eq g c
    rw [if_neg (fun h => hg h.1)] at h₀
    obtain ⟨s₁, h₁, hs₁⟩ := ih (g := includeGuardStep g c) (includeGuardStep_ne_nil g c)
    refine ⟨s₀ ++ s₁, by rw [List.foldl_cons, h₁, h₀, List.append_assoc], ?_⟩
    rw [List.filter_append, hs₀, hs₁, ← lettersAndDigits_append, List.singleton_append]

/-- The guard of a non-empty file name: the loop's guard, closed with `_` unless it ends in one. -/
theorem getIncludeGuard_cons (b : UInt8) (bs : List UInt8) (random : UInt64) :
    (getIncludeGuard (b :: bs) random).toList =
      let g := (b :: bs).foldl includeGuardStep []
      if g.getLast? = some '_' then g else g ++ ['_'] := rfl

/-- Closing the guard adds at most an underscore. -/
theorem closeGuard_eq (g : List Char) : ∃ t, (if g.getLast? = some '_' then g else g ++ ['_']) =
    g ++ t ∧ t.filter Char.isAlphanum = [] := by
  split_ifs
  · exact ⟨[], (List.append_nil g).symm, rfl⟩
  · exact ⟨['_'], rfl, by decide⟩

/-- Every include guard is a C/C++ identifier that is not reserved: not empty, of `[A-Z0-9_]`,
    starting with an upper-case letter, ending in `_`, without `__`. For a non-empty file name,
    the guard is `SAPI_`, exactly when the name does not start with an ASCII letter, followed by
    a body whose letters and digits are the name's ASCII letters upper-cased and its digits, in
    order. -/
theorem getIncludeGuard_isGuard (random : UInt64) :
    (∀ filename, IsGuard (getIncludeGuard filename random).toList) ∧
    ∀ b bs, ∃ body, (getIncludeGuard (b :: bs) random).toList =
        (if (byteChar b).isAlpha then [] else "SAPI_".toList) ++ body ∧
      body.filter Char.isAlphanum = lettersAndDigits (b :: bs) := by
  have hne : ∀ b bs, (b :: bs).foldl includeGuardStep [] ≠ [] := fun b bs =>
    foldl_includeGuardStep_ne_nil (.inr (List.cons_ne_nil b bs))
  refine ⟨fun filename => ?_, fun b bs => ?_⟩
  · cases filename with
    | nil => exact randomGuard_isGuard random
    | cons b bs =>
      have hg := guardPrefix_foldl (b :: bs)
      rw [getIncludeGuard_cons]
      dsimp only
      split_ifs with hlast
      · exact hg.isGuard (hne b bs) hlast
      · exact (hg.push (by decide) (fun h => absurd h (hne b bs)) fun _ => hlast).isGuard
          (by simp) (by rw [List.getLast?_append]; rfl)
  · obtain ⟨s₀, h₀, hs₀⟩ := includeGuardStep_eq [] b
    obtain ⟨s₁, h₁, hs₁⟩ := foldl_includeGuardStep_eq (includeGuardStep_ne_nil [] b) bs
    obtain ⟨t, ht, ht'⟩ := closeGuard_eq ((b :: bs).foldl includeGuardStep [])
    have hlead : (if ([] : List Char) = [] ∧ (byteChar b).isAlpha = false then kUnderscorePrefix
        else []) = if (byteChar b).isAlpha then [] else "SAPI_".toList := by
      cases (byteChar b).isAlpha <;> rfl
    refine ⟨s₀ ++ s₁ ++ t, ?_, ?_⟩
    · rw [getIncludeGuard_cons, ht, List.foldl_cons, h₁, h₀, hlead]
      simp only [List.append_assoc]
    · rw [List.filter_append, List.filter_append, hs₀, hs₁, ht', List.append_nil,
        ← lettersAndDigits_append, List.singleton_append]

end Sandbox2.Sapi
