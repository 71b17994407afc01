import Mathlib.Data.List.Nodup
import Mathlib.Data.Nat.Digits
import Mathlib.Data.String.Basic
import Mathlib.Tactic.Ring

/-!
# `EmitFunction`

For every function of the sandboxed library, the generator writes a method of the API class
(`EmitFunction`, `emitter.cc:299-365`). The method takes the function's parameters, named by
`GetParamName` (the source name with `_` appended, or `unnamed<i>_`). It declares a local
`v_ret_` for the return value, and a local `v_<name>` for each parameter that is not a pointer
or reference. It then calls the function through the class member `sandbox_`. A function that
returns a record by value, or takes one, is skipped with an error. The mapping of C types to
spellings lives in the generator's `types.cc`, which is not among the sources, so a type is
given by the spellings that mapping produces. Formatting the prototype comment goes through
clang-format, which is given as a function that may fail.

The names are not hygienic. The suffix `_` keeps a parameter from clashing with a C++ keyword,
but not from clashing with the wrapper's own names. A parameter `ret` gives a local `v_ret_`
next to the local `v_ret_`, and a parameter `sandbox` hides the member `sandbox_`. A
parameter `unnamed0` meets an unnamed first parameter. The names are distinct when no
parameter name starts with `v_` or `unnamed` and none is `ret` or `sandbox`
(`wrapperIdentifiers_nodup`).
-/

namespace Sandbox2.Sapi

/-- The codes of the `absl::Status` errors the generator returns. -/
inductive StatusCode
  | cancelled
  | internal
  deriving DecidableEq, Repr

/-- An `absl::Status` that is not OK. -/
structure Status where
  code : StatusCode
  message : String
  deriving DecidableEq, Repr

/-- What the generator reads of a `clang::QualType`: its kind, and the spellings the type
    mapping of `types.cc` gives it (`MapQualType`, `MapQualTypeParameter`, `MapQualTypeReturn`,
    `MapQualTypeParameterForCxx`). -/
structure QualType where
  isRecordType : Bool
  isVoidType : Bool
  isPointerOrReference : Bool
  mapQualType : String
  mapQualTypeParameter : String
  mapQualTypeReturn : String
  mapQualTypeParameterForCxx : String
  deriving DecidableEq, Repr

/-- A `clang::ParmVarDecl`: its type, and its name, empty when the parameter is unnamed. -/
structure ParmVarDecl where
  type : QualType
  name : String
  deriving DecidableEq, Repr

/-- A `clang::FunctionDecl`: its name, its qualified name, its declared return type, and its
    parameters. -/
structure FunctionDecl where
  name : String
  qualifiedName : String
  returnType : QualType
  params : List ParmVarDecl
  deriving DecidableEq, Repr

/-- `GetParamName(decl, index)` (`emitter.cc:260-265`). -/
def getParamName (p : ParmVarDecl) (index : Nat) : String :=
  if !p.name.isEmpty then p.name ++ "_" else "unnamed" ++ toString index ++ "_"

theorem getParamName_of_named {p : ParmVarDecl} (h : p.name ≠ "") (i : Nat) :
    getParamName p i = p.name ++ "_" := by
  rw [getParamName, if_pos (by rw [Bool.not_eq_true', ← Bool.not_eq_true, String.isEmpty_iff]; exact h)]

theorem getParamName_of_unnamed {p : ParmVarDecl} (h : p.name = "") (i : Nat) :
    getParamName p i = "unnamed" ++ toString i ++ "_" := by
  rw [getParamName, h]; rfl

/-- `absl::StrSplit(text, '\n')`: the lines of a text, the piece after the last newline included
    (empty when the text ends in a newline). -/
def splitLines : List Char → List (List Char)
  | [] => [[]]
  | c :: cs =>
    match splitLines cs with
    | [] => [[c]]
    | l :: ls => if c = '\n' then [] :: l :: ls else (c :: l) :: ls

/-- `PrintFunctionPrototypeComment(decl)` (`emitter.cc:267-297`). `reformat` is
    `internal::ReformatGoogleStyle("input", ·, 75)`: clang-format's output, or the text of its
    error, which becomes an internal error. -/
def printFunctionPrototypeComment (reformat : String → Except String String)
    (d : FunctionDecl) : Except Status String :=
  let out := d.returnType.mapQualTypeParameterForCxx ++ " " ++ d.qualifiedName ++ "(" ++
    ", ".intercalate (d.params.map fun p =>
      p.type.mapQualTypeParameterForCxx ++ if p.name.isEmpty then "" else " " ++ p.name) ++ ")"
  match reformat out with
  | .error e => .error ⟨.internal, e⟩
  | .ok formatted =>
    .ok (String.join ((splitLines formatted.data).map fun line => "// " ++ String.mk line ++ "\n"))

/-- `ParameterInfo` (`emitter.cc:319-322`). -/
structure ParameterInfo where
  qual : QualType
  name : String
  deriving DecidableEq, Repr

/-- The parameter loop of `EmitFunction` (`emitter.cc:326-343`) from parameter `i`: the
    `ParameterInfo` of each parameter, or the error of the first one of record type. -/
def parameterInfos (i : Nat) : List ParmVarDecl → Except Status (List ParameterInfo)
  | [] => .ok []
  | p :: ps =>
    if p.type.isRecordType then
      .error ⟨.cancelled, "passing record parameter '" ++ p.name ++ "' by value, skipping function"⟩
    else (⟨p.type, getParamName p i⟩ :: ·) <$> parameterInfos (i + 1) ps

/-- `EmitFunction(decl)` (`emitter.cc:299-365`). -/
def emitFunction (reformat : String → Except String String) (d : FunctionDecl) :
    Except Status String :=
  if d.returnType.isRecordType then
    .error ⟨.cancelled, "returning record by value, skipping function"⟩
  else do
    let prototype ← printFunctionPrototypeComment reformat d
    let params ← parameterInfos 0 d.params
    let locals := params.filter fun p => !p.qual.isPointerOrReference
    pure <| "\n" ++ prototype ++
      d.returnType.mapQualTypeReturn ++ " " ++ d.name ++ "(" ++
      ", ".intercalate (params.map fun p => p.qual.mapQualTypeParameter ++ " " ++ p.name) ++
      ") \x7b\n" ++
      d.returnType.mapQualType ++ " v_ret_;\n" ++
      String.join (locals.map fun p => p.qual.mapQualType ++ " v_" ++ p.name ++ "(" ++ p.name ++ ");\n") ++
      "\nSAPI_RETURN_IF_ERROR(sandbox_->Call(\"" ++ d.name ++ "\", &v_ret_" ++
      String.join (params.map fun p =>
        ", " ++ (if p.qual.isPointerOrReference then "" else "&v_") ++ p.name) ++
      "));\nreturn " ++
      (if d.returnType.isVoidType then "::absl::OkStatus()" else "v_ret_.GetValue()") ++ ";\n\x7d\n"

/-- The identifiers the wrapper declares or uses in its body (`emitter.cc:317-358`): its
    parameters, the local `v_ret_`, a local `v_<name>` for each parameter that is not a pointer
    or reference, and the member `sandbox_` it calls through. -/
def wrapperIdentifiers (params : List ParameterInfo) : List String :=
  params.map (·.name) ++ ["v_ret_"] ++
    (params.filter fun p => !p.qual.isPointerOrReference).map (fun p => "v_" ++ p.name) ++
    ["sandbox_"]

/-! ## The parameter names -/

theorem parameterInfos_cons_ok {i : Nat} {p : ParmVarDecl} {ps : List ParmVarDecl}
    {params : List ParameterInfo} (h : parameterInfos i (p :: ps) = .ok params) :
    ∃ rest, parameterInfos (i + 1) ps = .ok rest ∧ params = ⟨p.type, getParamName p i⟩ :: rest := by
  unfold parameterInfos at h
  split_ifs at h
  cases hr : parameterInfos (i + 1) ps with
  | error e => rw [hr] at h; cases h
  | ok rest => rw [hr] at h; exact ⟨rest, rfl, (Except.ok.inj h).symm⟩

/-- The decimal value of a list of digits. -/
def decimalValue (cs : List Char) : Nat := cs.foldl (fun n c => 10 * n + (c.toNat - 48)) 0

theorem foldl_decimal (a : Nat) (cs : List Char) :
    cs.foldl (fun n c => 10 * n + (c.toNat - 48)) a = a * 10 ^ cs.length + decimalValue cs := by
  induction cs generalizing a with
  | nil => simp [decimalValue]
  | cons c cs ih =>
    simp only [List.foldl_cons, decimalValue, List.length_cons] at ih ⊢
    rw [ih, ih (10 * 0 + _), Nat.pow_succ]
    ring

theorem digitChar_value : ∀ d < 10, (Nat.digitChar d).toNat - 48 = d
  | 0, _ | 1, _ | 2, _ | 3, _ | 4, _ | 5, _ | 6, _ | 7, _ | 8, _ | 9, _ => rfl
  | _ + 10, h => absurd h (by omega)

theorem decimalValue_toDigitsCore (fuel n : Nat) (ds : List Char) (h : n < fuel) :
    decimalValue (Nat.toDigitsCore 10 fuel n ds) = n * 10 ^ ds.length + decimalValue ds := by
  induction fuel generalizing n ds with
  | zero => omega
  | succ fuel ih =>
    have hd : decimalValue (Nat.digitChar (n % 10) :: ds) =
        n % 10 * 10 ^ ds.length + decimalValue ds := by
      rw [decimalValue, List.foldl_cons, foldl_decimal, digitChar_value _ (Nat.mod_lt _ (by omega))]
      simp
    simp only [Nat.toDigitsCore]
    split_ifs with h0
    · rw [hd, Nat.mod_eq_of_lt (by omega)]
    · rw [ih _ _ (by omega), hd, List.length_cons]
      calc n / 10 * 10 ^ (ds.length + 1) + (n % 10 * 10 ^ ds.length + decimalValue ds)
          = (10 * (n / 10) + n % 10) * 10 ^ ds.length + decimalValue ds := by ring
        _ = n * 10 ^ ds.length + decimalValue ds := by rw [Nat.div_add_mod]

/-- `toString` of a number is one-to-one: its digits spell it. -/
theorem toString_nat_injective {i j : Nat} (h : toString i = toString j) : i = j := by
  have hd : Nat.toDigits 10 i = Nat.toDigits 10 j := congrArg String.data h
  have := congrArg decimalValue hd
  rwa [Nat.toDigits, Nat.toDigits, decimalValue_toDigitsCore _ _ _ (by omega),
    decimalValue_toDigitsCore _ _ _ (by omega), List.length_nil, Nat.pow_zero, Nat.mul_one,
    Nat.mul_one] at this

/-- A name the wrapper can give a parameter without a clash: a source name that does not start
    with `v_` or `unnamed` and is neither `ret` nor `sandbox`, with `_` appended, or the name of
    an unnamed parameter. -/
def SafeParamName (n : String) : Prop :=
  (∃ a, n = a ++ "_" ∧ ¬"v_".data <+: a.data ∧ ¬"unnamed".data <+: a.data ∧ a ≠ "ret" ∧
    a ≠ "sandbox") ∨ ∃ j : Nat, n = "unnamed" ++ toString j ++ "_"

namespace SafeParamName

theorem data_eq {n : String} (h : SafeParamName n) :
    (∃ a, n.data = a.data ++ ['_'] ∧ ¬"v_".data <+: a.data ∧ ¬"unnamed".data <+: a.data ∧
      a ≠ "ret" ∧ a ≠ "sandbox") ∨ ∃ j : Nat, n.data = 'u' :: ("nnamed".data ++ (toString j).data ++ ['_']) := by
  rcases h with ⟨a, rfl, ha⟩ | ⟨j, rfl⟩
  · exact .inl ⟨a, rfl, ha⟩
  · exact .inr ⟨j, by simp⟩

theorem ne_nil {n : String} (h : SafeParamName n) : n.data ≠ [] := by
  rcases h.data_eq with ⟨a, ha, -⟩ | ⟨j, hj⟩ <;> simp [*]

/-- No parameter is called `v_ret_`. -/
theorem ne_v_ret {n : String} (h : SafeParamName n) : n ≠ "v_ret_" := by
  rintro rfl
  rcases h.data_eq with ⟨a, ha, hv, -⟩ | ⟨j, hj⟩
  · have : a.data = "v_ret".data := List.append_cancel_right (ha.symm.trans rfl)
    exact hv (by rw [this]; decide)
  · cases hj

/-- No parameter is called `sandbox_`. -/
theorem ne_sandbox {n : String} (h : SafeParamName n) : n ≠ "sandbox_" := by
  rintro rfl
  rcases h.data_eq with ⟨a, ha, -, -, -, hs⟩ | ⟨j, hj⟩
  · exact hs (String.ext (List.append_cancel_right (ha.symm.trans rfl)))
  · cases hj

/-- No local `v_<m>` is `v_ret_`. -/
theorem local_ne_v_ret {n : String} (h : SafeParamName n) : "v_" ++ n ≠ "v_ret_" := by
  intro he
  have hn : n.data = "ret_".data := List.append_cancel_left (congrArg String.data he)
  rcases h.data_eq with ⟨a, ha, -, -, hr, -⟩ | ⟨j, hj⟩
  · exact hr (String.ext (List.append_cancel_right (ha.symm.trans hn)))
  · rw [hj] at hn; cases hn

/-- No parameter is a local `v_<m>` of a parameter `m`. -/
theorem ne_local {n m : String} (h : SafeParamName n) (hm : m.data ≠ []) : n ≠ "v_" ++ m := by
  intro he
  have hdata : n.data = 'v' :: '_' :: m.data := congrArg String.data he
  rcases h.data_eq with ⟨a, ha, hv, -⟩ | ⟨j, hj⟩
  · obtain ⟨m', c, hm'⟩ : ∃ m' c, m.data = m' ++ [c] :=
      ⟨m.data.dropLast, m.data.getLast hm, (List.dropLast_append_getLast hm).symm⟩
    rw [ha, hm', ← List.cons_append, ← List.cons_append] at hdata
    have : a.data = 'v' :: '_' :: m' := (List.append_inj' hdata rfl).1
    exact hv (by rw [this]; exact List.prefix_append ['v', '_'] m')
  · rw [hj] at hdata; cases hdata

end SafeParamName

/-- The wrapper's identifiers are distinct when its parameter names are distinct and safe. -/
theorem wrapperIdentifiers_nodup_of_safe {params : List ParameterInfo}
    (hnodup : (params.map (·.name)).Nodup) (hsafe : ∀ p ∈ params, SafeParamName p.name) :
    (wrapperIdentifiers params).Nodup := by
  have hsafe' : ∀ n ∈ params.map (·.name), SafeParamName n := by
    intro n hn
    obtain ⟨p, hp, rfl⟩ := List.mem_map.1 hn
    exact hsafe p hp
  have hsub := (List.filter_sublist (p := fun p : ParameterInfo => !p.qual.isPointerOrReference)
    params).map (·.name)
  have hlocals : ((params.filter fun p => !p.qual.isPointerOrReference).map
      (fun p => "v_" ++ p.name)).Nodup := by
    rw [show (fun p : ParameterInfo => "v_" ++ p.name) = (fun n => "v_" ++ n) ∘ (·.name) from rfl,
      ← List.map_map]
    exact (hnodup.sublist hsub).map fun a b hab =>
      String.ext (List.append_cancel_left (congrArg String.data hab))
  have hlocal : ∀ l ∈ (params.filter fun p => !p.qual.isPointerOrReference).map
      (fun p => "v_" ++ p.name), ∃ n ∈ params.map (·.name), l = "v_" ++ n := by
    intro l hl
    rw [show (fun p : ParameterInfo => "v_" ++ p.name) = (fun n => "v_" ++ n) ∘ (·.name) from rfl,
      ← List.map_map] at hl
    obtain ⟨n, hn, rfl⟩ := List.mem_map.1 hl
    exact ⟨n, hsub.subset hn, rfl⟩
  rw [wrapperIdentifiers, List.nodup_append, List.nodup_append, List.nodup_append]
  refine ⟨⟨⟨hnodup, List.nodup_singleton _, ?_⟩, hlocals, ?_⟩, List.nodup_singleton _, ?_⟩
  · -- no parameter is `v_ret_`
    intro n hn h
    exact (hsafe' n hn).ne_v_ret (List.mem_singleton.1 h)
  · -- no local `v_<m>` is a parameter or `v_ret_`
    intro n hn hl
    obtain ⟨m, hm, rfl⟩ := hlocal _ hl
    rcases List.mem_append.1 hn with hn | hn
    · exact (hsafe' _ hn).ne_local (hsafe' m hm).ne_nil rfl
    · exact (hsafe' m hm).local_ne_v_ret (List.mem_singleton.1 hn)
  · -- nothing is `sandbox_`
    intro n hn hs
    rw [List.mem_singleton.1 hs] at hn
    rcases List.mem_append.1 hn with hn | hn
    · rcases List.mem_append.1 hn with hn | hn
      · exact (hsafe' _ hn).ne_sandbox rfl
      · exact absurd (List.mem_singleton.1 hn) (by decide)
    · obtain ⟨m, -, he⟩ := hlocal _ hn
      cases congrArg String.data he

theorem append_underscore_inj {a b : String} (h : a ++ "_" = b ++ "_") : a = b :=
  String.ext (List.append_cancel_right (congrArg String.data h))

/-- The names `GetParamName` gives a declaration's parameters from parameter `i` on are distinct
    and safe when the named parameters have distinct names, none of which starts with `v_` or
    `unnamed` or is `ret` or `sandbox`. Each is a source name with `_`, or `unnamed<j>_` for a
    `j` from `i` on. -/
theorem parameterInfos_names {i : Nat} {ps : List ParmVarDecl} {params : List ParameterInfo}
    (h : parameterInfos i ps = .ok params)
    (hdistinct : ps.Pairwise fun p q => p.name ≠ "" → p.name ≠ q.name)
    (hnames : ∀ p ∈ ps, p.name ≠ "" → ¬"v_".data <+: p.name.data ∧
      ¬"unnamed".data <+: p.name.data ∧ p.name ≠ "ret" ∧ p.name ≠ "sandbox") :
    (params.map (·.name)).Nodup ∧ ∀ q ∈ params,
      (∃ p ∈ ps, p.name ≠ "" ∧ q.name = p.name ++ "_") ∨
        ∃ j, i ≤ j ∧ q.name = "unnamed" ++ toString j ++ "_" := by
  induction ps generalizing i params with
  | nil => cases h; simp
  | cons p ps ih =>
    obtain ⟨rest, hrest, rfl⟩ := parameterInfos_cons_ok h
    rw [List.pairwise_cons] at hdistinct
    obtain ⟨hnodup, hform⟩ := ih hrest hdistinct.2 fun q hq => hnames q (.tail _ hq)
    have hunnamed : ∀ {a : String} {j : Nat}, a = "unnamed" ++ toString j → "unnamed".data <+: a.data :=
      fun he => he ▸ List.prefix_append _ _
    refine ⟨List.nodup_cons.2 ⟨fun hmem => ?_, hnodup⟩, ?_⟩
    · -- the head's name is none of the others
      obtain ⟨q, hq, hqn⟩ := List.mem_map.1 hmem
      change q.name = getParamName p i at hqn
      by_cases hp : p.name = ""
      · rw [getParamName_of_unnamed hp] at hqn
        rcases hform q hq with ⟨r, hr, hne, he⟩ | ⟨j, hj, he⟩
        · exact (hnames r (.tail _ hr) hne).2.1
            (hunnamed (append_underscore_inj (hqn.symm.trans he)).symm)
        · have := toString_nat_injective (String.ext (List.append_cancel_left
            (congrArg String.data (append_underscore_inj (hqn.symm.trans he)))))
          omega
      · rw [getParamName_of_named hp] at hqn
        rcases hform q hq with ⟨r, hr, -, he⟩ | ⟨j, -, he⟩
        · exact hdistinct.1 r hr hp (append_underscore_inj (hqn.symm.trans he))
        · exact (hnames p (.head _) hp).2.1 (hunnamed (append_underscore_inj (hqn.symm.trans he)))
    · -- every name is a source name or `unnamed<j>_`
      intro q hq
      rcases List.mem_cons.1 hq with rfl | hq
      · show (∃ r ∈ p :: ps, r.name ≠ "" ∧ getParamName p i = r.name ++ "_") ∨
          ∃ j, i ≤ j ∧ getParamName p i = "unnamed" ++ toString j ++ "_"
        by_cases hp : p.name = ""
        · exact .inr ⟨i, le_rfl, getParamName_of_unnamed hp i⟩
        · exact .inl ⟨p, .head _, hp, getParamName_of_named hp i⟩
      · rcases hform q hq with ⟨r, hr, hne, he⟩ | ⟨j, hj, he⟩
        · exact .inl ⟨r, .tail _ hr, hne, he⟩
        · exact .inr ⟨j, by omega, he⟩

/-- An accepted declaration has its parameters' `ParameterInfo`. -/
theorem emitFunction_ok_params {reformat : String → Except String String} {d : FunctionDecl}
    {out : String} (h : emitFunction reformat d = .ok out) :
    ∃ params, parameterInfos 0 d.params = .ok params := by
  unfold emitFunction at h
  by_cases hr : d.returnType.isRecordType = true
  · rw [if_pos hr] at h; cases h
  · rw [if_neg hr] at h
    cases hp : parameterInfos 0 d.params with
    | ok params => exact ⟨params, rfl⟩
    | error e =>
      cases hc : printFunctionPrototypeComment reformat d <;> simp [hc, hp, bind, Except.bind] at h

/-- When no named parameter starts with `v_` or `unnamed`, none is `ret` or `sandbox`, and the
    named parameters have distinct names, the identifiers of an accepted declaration's wrapper
    are pairwise distinct. -/
theorem wrapperIdentifiers_nodup {reformat : String → Except String String} {d : FunctionDecl}
    {out : String} (h : emitFunction reformat d = .ok out)
    (hdistinct : d.params.Pairwise fun p q => p.name ≠ "" → p.name ≠ q.name)
    (hnames : ∀ p ∈ d.params, p.name ≠ "" → ¬"v_".data <+: p.name.data ∧
      ¬"unnamed".data <+: p.name.data ∧ p.name ≠ "ret" ∧ p.name ≠ "sandbox") :
    ∃ params, parameterInfos 0 d.params = .ok params ∧ (wrapperIdentifiers params).Nodup := by
  obtain ⟨params, hparams⟩ := emitFunction_ok_params h
  obtain ⟨hnodup, hform⟩ := parameterInfos_names hparams hdistinct hnames
  refine ⟨params, hparams, wrapperIdentifiers_nodup_of_safe hnodup fun q hq => ?_⟩
  rcases hform q hq with ⟨p, hp, hne, he⟩ | ⟨j, -, he⟩
  · obtain ⟨hv, hu, hr, hs⟩ := hnames p hp hne
    exact .inl ⟨p.name, he, hv, hu, hr, hs⟩
  · exact .inr ⟨j, he⟩

/-- `int`, as the type mapping spells it. -/
def intType : QualType :=
  ⟨false, false, false, "::sapi::v::Int", "int", "::absl::StatusOr<int>", "int"⟩

/-- `int*`, as the type mapping spells it. -/
def intPtrType : QualType :=
  ⟨false, false, true, "::sapi::v::Ptr*", "::sapi::v::Ptr*", "::absl::StatusOr<int*>", "int*"⟩

/-- `void`, as the type mapping spells it. -/
def voidType : QualType :=
  ⟨false, true, false, "::sapi::v::Void", "void", "::absl::Status", "void"⟩

/-- clang-format finding nothing to change. -/
def keepFormat : String → Except String String := .ok

/-- `int add(int a, int* sum)`. -/
def addDecl : FunctionDecl := ⟨"add", "add", intType, [⟨intType, "a"⟩, ⟨intPtrType, "sum"⟩]⟩

theorem wrapperIdentifiers_nodup_add :
    emitFunction keepFormat addDecl = .ok (
      "\n// int add(int a, int* sum)\n::absl::StatusOr<int> add(int a_, ::sapi::v::Ptr* sum_) \x7b\n" ++
      "::sapi::v::Int v_ret_;\n::sapi::v::Int v_a_(a_);\n\n" ++
      "SAPI_RETURN_IF_ERROR(sandbox_->Call(\"add\", &v_ret_, &v_a_, sum_));\n" ++
      "return v_ret_.GetValue();\n\x7d\n") ∧
    addDecl.params.Pairwise (fun p q => p.name ≠ "" → p.name ≠ q.name) ∧
    (∀ p ∈ addDecl.params, p.name ≠ "" → ¬"v_".data <+: p.name.data ∧
      ¬"unnamed".data <+: p.name.data ∧ p.name ≠ "ret" ∧ p.name ≠ "sandbox") ∧
    ∃ params, parameterInfos 0 addDecl.params = .ok params ∧ (wrapperIdentifiers params).Nodup := by
  have h : emitFunction keepFormat addDecl = .ok (
      "\n// int add(int a, int* sum)\n::absl::StatusOr<int> add(int a_, ::sapi::v::Ptr* sum_) \x7b\n" ++
      "::sapi::v::Int v_ret_;\n::sapi::v::Int v_a_(a_);\n\n" ++
      "SAPI_RETURN_IF_ERROR(sandbox_->Call(\"add\", &v_ret_, &v_a_, sum_));\n" ++
      "return v_ret_.GetValue();\n\x7d\n") := rfl
  exact ⟨h, by decide, by decide, wrapperIdentifiers_nodup h (by decide) (by decide)⟩

/-- `int f(int ret)`. -/
def retDecl : FunctionDecl := ⟨"f", "f", intType, [⟨intType, "ret"⟩]⟩

/-- `void f(int sandbox)`. -/
def sandboxDecl : FunctionDecl := ⟨"f", "f", voidType, [⟨intType, "sandbox"⟩]⟩

/-- `void f(int, int unnamed0)`. -/
def unnamedDecl : FunctionDecl := ⟨"f", "f", voidType, [⟨intType, ""⟩, ⟨intType, "unnamed0"⟩]⟩

/-- Three accepted declarations whose wrappers repeat an identifier. For `int f(int ret)` the
    wrapper declares `v_ret_` twice and passes it twice. For `void f(int sandbox)` the parameter
    `sandbox_` hides the member it calls through. For `void f(int, int unnamed0)` both
    parameters are `unnamed0_`. -/
theorem emitFunction_identifiers_clash :
    emitFunction keepFormat retDecl = .ok (
      "\n// int f(int ret)\n::absl::StatusOr<int> f(int ret_) \x7b\n" ++
      "::sapi::v::Int v_ret_;\n::sapi::v::Int v_ret_(ret_);\n\n" ++
      "SAPI_RETURN_IF_ERROR(sandbox_->Call(\"f\", &v_ret_, &v_ret_));\n" ++
      "return v_ret_.GetValue();\n\x7d\n") ∧
    parameterInfos 0 retDecl.params = .ok [⟨intType, "ret_"⟩] ∧
    ¬(wrapperIdentifiers [⟨intType, "ret_"⟩]).Nodup ∧
    (∃ out, emitFunction keepFormat sandboxDecl = .ok out) ∧
    parameterInfos 0 sandboxDecl.params = .ok [⟨intType, "sandbox_"⟩] ∧
    ¬(wrapperIdentifiers [⟨intType, "sandbox_"⟩]).Nodup ∧
    (∃ out, emitFunction keepFormat unnamedDecl = .ok out) ∧
    parameterInfos 0 unnamedDecl.params = .ok [⟨intType, "unnamed0_"⟩, ⟨intType, "unnamed0_"⟩] ∧
    ¬(wrapperIdentifiers [⟨intType, "unnamed0_"⟩, ⟨intType, "unnamed0_"⟩]).Nodup :=
  ⟨rfl, rfl, by decide, ⟨_, rfl⟩, rfl, by decide, ⟨_, rfl⟩, rfl, by decide⟩

end Sandbox2.Sapi
