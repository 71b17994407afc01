import Sandbox2.Generator.Header
import Sandbox2.Generator.Function

/-!
# The `Emitter`

The generator's `Emitter` gathers what the header will hold, call by call (`emitter.cc:439-501`).
`EmitType` and `AddTypeDeclarations` render type declarations into the set `rendered_types_`,
and append each new one to `rendered_types_ordered_`. `AddFunction` inserts the function's
qualified name into `rendered_functions_` and then emits its wrapper into
`rendered_functions_ordered_`. The header `emitter.h` is not among the sources; the four
members are read from their uses. The sets are modelled by their membership.

Over every sequence of calls, `rendered_types_ordered_` is the emplaced types with repeats
left out, in first-insertion order, and it holds exactly the elements of `rendered_types_`
(`run_tracks`). The functions do not keep the same correspondence. `AddFunction` inserts the
name before it knows whether `EmitFunction` succeeds. A name whose first declaration fails
stays in `rendered_functions_` with no wrapper, and every later declaration of that name is
skipped. Each name gets the wrapper of its first declaration, if that one succeeded.
-/

namespace Sandbox2.Sapi

/-- What `EmitType` reads of a `clang::TypeDecl`: whether it stands in a system header, the
    namespaces around it (`GetNamespacePath`, `emitter.cc:181-190`), its name, and its spelling
    (`GetSpelling`, `emitter.cc:233-257`, which prints the declaration with clang's printer). -/
structure TypeDecl where
  inSystemHeader : Bool
  namespacePath : List String
  name : String
  spelling : String
  deriving DecidableEq, Repr

/-- The Abseil types the generated header includes anyway (`emitter.cc:466-473`). -/
def abslIncludedTypes : List String :=
  ["CordMemoryAccounting", "Duration", "LogEntry", "LogSeverity", "Span", "StatusCode",
    "StatusToStringMode", "SynchLocksHeld", "SynchWaitParams", "Time", "string_view", "tid_t"]

/-- The type `EmitType` hands to `rendered_types_.emplace` for a declaration
    (`emitter.cc:444-480`), or none when it skips the declaration. -/
def renderedTypeOf (t : TypeDecl) : Option RenderedType :=
  if t.inSystemHeader then none
  else
    match t.namespacePath with
    | [] => some ⟨"", t.spelling⟩
    | root :: rest =>
      if root = "std" ∨ root = "__gnu_cxx" ∨ root = "sapi" then none
      else if root = "absl" ∧ (rest.head?.map (·.endsWith "_internal") = some true ∨
          t.name ∈ abslIncludedTypes) then none
      else some ⟨"::".intercalate (root :: rest), t.spelling⟩

/-- The members of an `Emitter`: the set `rendered_types_` (an `absl::node_hash_set`, here its
    membership), the list `rendered_types_ordered_`, the set of qualified names
    `rendered_functions_`, and the wrappers `rendered_functions_ordered_`. -/
structure Emitter where
  renderedTypes : RenderedType → Bool
  renderedTypesOrdered : List RenderedType
  renderedFunctions : String → Bool
  renderedFunctionsOrdered : List String

namespace Emitter

/-- A new `Emitter`. -/
def empty : Emitter := ⟨fun _ => false, [], fun _ => false, []⟩

/-- `rendered_types_.emplace(ns_name, spelling)` and the push of a new element
    (`emitter.cc:480-484`). -/
def emplaceType (e : Emitter) (rt : RenderedType) : Emitter :=
  if e.renderedTypes rt then e
  else { e with renderedTypes := fun x => x == rt || e.renderedTypes x,
                renderedTypesOrdered := e.renderedTypesOrdered ++ [rt] }

/-- `Emitter::EmitType(type_decl)` (`emitter.cc:439-485`); `none` is a null declaration. -/
def emitType (e : Emitter) : Option TypeDecl → Emitter
  | none => e
  | some t =>
    match renderedTypeOf t with
    | none => e
    | some rt => e.emplaceType rt

/-- `Emitter::AddTypeDeclarations(type_decls)` (`emitter.cc:487-493`). -/
def addTypeDeclarations (e : Emitter) (typeDecls : List (Option TypeDecl)) : Emitter :=
  typeDecls.foldl emitType e

/-- `Emitter::AddFunction(decl)` (`emitter.cc:495-501`): the status it returns, and the
    emitter after it. -/
def addFunction (reformat : String → Except String String) (e : Emitter) (d : FunctionDecl) :
    Except Status Unit × Emitter :=
  if e.renderedFunctions d.qualifiedName then (.ok (), e)
  else
    let e := { e with renderedFunctions := fun n => n == d.qualifiedName || e.renderedFunctions n }
    match emitFunction reformat d with
    | .error s => (.error s, e)
    | .ok function => (.ok (), { e with renderedFunctionsOrdered := e.renderedFunctionsOrdered ++ [function] })

end Emitter

/-- A call on the `Emitter`. -/
inductive Call
  | emitType (typeDecl : Option TypeDecl)
  | addTypeDeclarations (typeDecls : List (Option TypeDecl))
  | addFunction (decl : FunctionDecl)

namespace Emitter

/-- One call; the generator goes on after an `AddFunction` that fails. -/
def call (reformat : String → Except String String) (e : Emitter) : Call → Emitter
  | .emitType t => e.emitType t
  | .addTypeDeclarations ts => e.addTypeDeclarations ts
  | .addFunction d => (e.addFunction reformat d).2

/-- A sequence of calls. -/
def run (reformat : String → Except String String) (e : Emitter) (calls : List Call) : Emitter :=
  calls.foldl (call reformat) e

end Emitter

/-! ## `eraseDups` -/

section EraseDups

variable {α : Type} [DecidableEq α]

theorem eraseDups_loop_append_singleton (x : α) (as bs : List α) :
    List.eraseDups.loop (as ++ [x]) bs =
      List.eraseDups.loop as bs ++ if x ∈ as ∨ x ∈ bs then [] else [x] := by
  induction as generalizing bs with
  | nil =>
    by_cases hx : x ∈ bs
    · simp [List.eraseDups.loop, List.elem_eq_true_of_mem hx, hx]
    · simp [List.eraseDups.loop, hx]
  | cons a as ih =>
    by_cases ha : a ∈ bs
    · -- `a` was seen: the loop goes on with the same accumulator
      have hl : ∀ cs, List.eraseDups.loop (a :: cs) bs = List.eraseDups.loop cs bs := fun cs => by
        simp [List.eraseDups.loop, ha]
      have hiff : (x ∈ as ∨ x ∈ bs) ↔ (x ∈ a :: as ∨ x ∈ bs) := by
        simp only [List.mem_cons]
        exact ⟨fun h => h.imp_left .inr, fun h => h.elim (·.elim (fun hx => .inr (hx ▸ ha)) .inl) .inr⟩
      rw [List.cons_append, hl, hl, ih]
      simp only [hiff]
    · -- `a` is new: the loop keeps it
      have hl : ∀ cs, List.eraseDups.loop (a :: cs) bs = List.eraseDups.loop cs (a :: bs) :=
        fun cs => by simp [List.eraseDups.loop, ha]
      have hiff : (x ∈ as ∨ x ∈ a :: bs) ↔ (x ∈ a :: as ∨ x ∈ bs) := by
        simp only [List.mem_cons]; tauto
      rw [List.cons_append, hl, hl, ih]
      simp only [hiff]

/-- Appending an element keeps it at the end, unless it came before. -/
theorem eraseDups_append_singleton (l : List α) (x : α) :
    (l ++ [x]).eraseDups = l.eraseDups ++ if x ∈ l then [] else [x] := by
  simp [List.eraseDups, eraseDups_loop_append_singleton]

theorem mem_eraseDups {l : List α} {x : α} : x ∈ l.eraseDups ↔ x ∈ l := by
  induction l using List.reverseRecOn with
  | nil => simp [List.eraseDups, List.eraseDups.loop]
  | append_singleton l y ih =>
    rw [eraseDups_append_singleton]
    by_cases hy : y ∈ l
    · simp only [hy, if_true, List.append_nil, ih, List.mem_append, List.mem_singleton]
      exact ⟨.inl, fun h => h.elim id fun h => h ▸ hy⟩
    · simp [hy, ih]

theorem nodup_eraseDups (l : List α) : l.eraseDups.Nodup := by
  induction l using List.reverseRecOn with
  | nil => simp [List.eraseDups, List.eraseDups.loop]
  | append_singleton l y ih =>
    rw [eraseDups_append_singleton]
    by_cases hy : y ∈ l
    · simpa [hy] using ih
    · rw [if_neg hy]
      exact List.nodup_append.2 ⟨ih, List.nodup_singleton y, by simpa [mem_eraseDups] using hy⟩

end EraseDups

/-! ## What a run keeps -/

/-- The types a call hands to `rendered_types_.emplace`, in order. -/
def Call.emplaced : Call → List RenderedType
  | .emitType t => (t.bind renderedTypeOf).toList
  | .addTypeDeclarations ts => ts.filterMap (·.bind renderedTypeOf)
  | .addFunction _ => []

/-- The declaration a call hands to `AddFunction`. -/
def Call.added : Call → Option FunctionDecl
  | .addFunction d => some d
  | _ => none

/-- The wrapper the first declaration named `n` gets, if `EmitFunction` accepts it. -/
def firstWrapper (reformat : String → Except String String) (decls : List FunctionDecl)
    (n : String) : Option String :=
  (decls.find? (·.qualifiedName == n)).bind fun d => (emitFunction reformat d).toOption

theorem firstWrapper_append_of_mem {reformat : String → Except String String}
    {decls : List FunctionDecl} {n : String} (hn : n ∈ decls.map (·.qualifiedName))
    (more : List FunctionDecl) :
    firstWrapper reformat (decls ++ more) n = firstWrapper reformat decls n := by
  obtain ⟨d, hd, rfl⟩ := List.mem_map.1 hn
  have hs : (decls.find? (·.qualifiedName == d.qualifiedName)).isSome :=
    List.find?_isSome.2 ⟨d, hd, by simp⟩
  obtain ⟨d', hd'⟩ := Option.isSome_iff_exists.1 hs
  simp [firstWrapper, List.find?_append, hd']

theorem firstWrapper_append_new {reformat : String → Except String String}
    {decls : List FunctionDecl} {d : FunctionDecl} (hn : d.qualifiedName ∉ decls.map (·.qualifiedName)) :
    firstWrapper reformat (decls ++ [d]) d.qualifiedName = (emitFunction reformat d).toOption := by
  have hnone : decls.find? (·.qualifiedName == d.qualifiedName) = none :=
    List.find?_eq_none.2 fun x hx hxn => hn (List.mem_map.2 ⟨x, hx, by simpa using hxn⟩)
  simp [firstWrapper, List.find?_append, hnone]

/-- The members of an emitter that has emplaced the types `emplaced` and been handed the
    declarations `added`. Its types are those types, listed once each in first-insertion order.
    Its names are the qualified names of the declarations. Its wrappers follow the names in
    first-insertion order: each name has the wrapper of its first declaration, if `EmitFunction`
    accepted it. -/
structure Tracks (reformat : String → Except String String) (e : Emitter)
    (emplaced : List RenderedType) (added : List FunctionDecl) : Prop where
  types : ∀ x, e.renderedTypes x = true ↔ x ∈ emplaced
  typesOrdered : e.renderedTypesOrdered = emplaced.eraseDups
  functions : ∀ n, e.renderedFunctions n = true ↔ n ∈ added.map (·.qualifiedName)
  functionsOrdered : e.renderedFunctionsOrdered =
    (added.map (·.qualifiedName)).eraseDups.filterMap (firstWrapper reformat added)

namespace Tracks

variable {reformat : String → Except String String} {e : Emitter} {types : List RenderedType}
  {decls : List FunctionDecl}

theorem empty : Tracks reformat Emitter.empty [] [] :=
  ⟨by simp [Emitter.empty], rfl, by simp [Emitter.empty], rfl⟩

theorem emplaceType (h : Tracks reformat e types decls) (rt : RenderedType) :
    Tracks reformat (e.emplaceType rt) (types ++ [rt]) decls := by
  unfold Emitter.emplaceType
  by_cases hrt : e.renderedTypes rt = true
  · have hmem := (h.types rt).1 hrt
    rw [if_pos hrt]
    refine ⟨fun x => ?_, by rw [eraseDups_append_singleton, if_pos hmem, List.append_nil,
      h.typesOrdered], h.functions, h.functionsOrdered⟩
    rw [h.types x, List.mem_append, List.mem_singleton]
    exact ⟨.inl, fun hx => hx.elim id fun hx => hx ▸ hmem⟩
  · have hmem : rt ∉ types := fun hm => hrt ((h.types rt).2 hm)
    rw [if_neg hrt]
    refine ⟨fun x => ?_, ?_, h.functions, h.functionsOrdered⟩
    · simp [h.types x, or_comm]
    · simp [eraseDups_append_singleton, hmem, h.typesOrdered]

theorem emitType (h : Tracks reformat e types decls) (t : Option TypeDecl) :
    Tracks reformat (e.emitType t) (types ++ (t.bind renderedTypeOf).toList) decls := by
  cases t with
  | none => simpa [Emitter.emitType] using h
  | some t =>
    cases hr : renderedTypeOf t with
    | none => simpa [Emitter.emitType, hr] using h
    | some rt => simpa [Emitter.emitType, hr] using h.emplaceType rt

theorem addTypeDeclarations (h : Tracks reformat e types decls) (ts : List (Option TypeDecl)) :
    Tracks reformat (e.addTypeDeclarations ts) (types ++ ts.filterMap (·.bind renderedTypeOf))
      decls := by
  induction ts generalizing e types with
  | nil => simpa [Emitter.addTypeDeclarations] using h
  | cons t ts ih =>
    have := ih (h.emitType t)
    cases ht : t.bind renderedTypeOf <;>
      simpa [Emitter.addTypeDeclarations, List.filterMap_cons, ht] using this

theorem addFunction (h : Tracks reformat e types decls) (d : FunctionDecl) :
    Tracks reformat (e.addFunction reformat d).2 types (decls ++ [d]) := by
  have hold : (decls.map (·.qualifiedName)).eraseDups.filterMap
      (firstWrapper reformat (decls ++ [d])) =
      (decls.map (·.qualifiedName)).eraseDups.filterMap (firstWrapper reformat decls) :=
    List.filterMap_congr fun n hn => firstWrapper_append_of_mem (mem_eraseDups.1 hn) [d]
  unfold Emitter.addFunction
  by_cases hn : e.renderedFunctions d.qualifiedName = true
  · -- a name seen before: nothing changes
    have hmem := (h.functions _).1 hn
    rw [if_pos hn]
    refine ⟨h.types, h.typesOrdered, fun n => ?_, ?_⟩
    · rw [h.functions n, List.map_append, List.mem_append, List.map_singleton,
        List.mem_singleton]
      exact ⟨.inl, fun hx => hx.elim id fun hx => hx ▸ hmem⟩
    · rw [h.functionsOrdered, List.map_append, List.map_singleton, eraseDups_append_singleton,
        if_pos hmem, List.append_nil, hold]
  · -- a new name: it is inserted, and the wrapper pushed if `EmitFunction` succeeds
    have hmem : d.qualifiedName ∉ decls.map (·.qualifiedName) := fun hm => hn ((h.functions _).2 hm)
    have hfuns : ∀ n, (n == d.qualifiedName || e.renderedFunctions n) = true ↔
        n ∈ (decls ++ [d]).map (·.qualifiedName) := fun n => by simp [h.functions n, or_comm]
    have hordered : (((decls ++ [d]).map (·.qualifiedName)).eraseDups.filterMap
        (firstWrapper reformat (decls ++ [d]))) =
        e.renderedFunctionsOrdered ++ ((emitFunction reformat d).toOption).toList := by
      rw [List.map_append, List.map_singleton, eraseDups_append_singleton, if_neg hmem,
        List.filterMap_append, hold, ← h.functionsOrdered, List.filterMap_cons, List.filterMap_nil,
        firstWrapper_append_new hmem]
      cases (emitFunction reformat d).toOption <;> rfl
    rw [if_neg hn]
    cases hf : emitFunction reformat d with
    | error s => exact ⟨h.types, h.typesOrdered, hfuns, by simpa [hf, Except.toOption] using hordered.symm⟩
    | ok f => exact ⟨h.types, h.typesOrdered, hfuns, by simpa [hf, Except.toOption] using hordered.symm⟩

end Tracks

/-- Over every sequence of calls from a new emitter, `rendered_types_ordered_` lists the emplaced
    types once each in first-insertion order, and holds exactly the elements of
    `rendered_types_`; `rendered_functions_` holds every name handed to `AddFunction`, and
    `rendered_functions_ordered_` the wrapper of each name's first declaration, if that one
    succeeded. -/
theorem run_tracks (reformat : String → Except String String) (calls : List Call) :
    Tracks reformat (Emitter.empty.run reformat calls) (calls.flatMap Call.emplaced)
      (calls.filterMap Call.added) := by
  induction calls using List.reverseRecOn with
  | nil => exact Tracks.empty
  | append_singleton calls c ih =>
    rw [Emitter.run, List.foldl_append, List.foldl_cons, List.foldl_nil, List.flatMap_append,
      List.filterMap_append]
    cases c with
    | emitType t => simpa [Emitter.call, Call.emplaced, Call.added] using ih.emitType t
    | addTypeDeclarations ts =>
      simpa [Emitter.call, Call.emplaced, Call.added] using ih.addTypeDeclarations ts
    | addFunction d => simpa [Emitter.call, Call.emplaced, Call.added] using ih.addFunction d

/-- Part (a): `rendered_types_ordered_` holds each element of `rendered_types_` exactly once. -/
theorem run_typesOrdered (reformat : String → Except String String) (calls : List Call) :
    let e := Emitter.empty.run reformat calls
    e.renderedTypesOrdered = (calls.flatMap Call.emplaced).eraseDups ∧
      e.renderedTypesOrdered.Nodup ∧ ∀ x, e.renderedTypes x = true ↔ x ∈ e.renderedTypesOrdered := by
  have h := run_tracks reformat calls
  refine ⟨h.typesOrdered, h.typesOrdered ▸ nodup_eraseDups _, fun x => ?_⟩
  rw [h.types, h.typesOrdered, mem_eraseDups]

/-- `Point`, a record. -/
def pointType : QualType :=
  ⟨true, false, false, "Point", "Point", "::absl::StatusOr<Point>", "Point"⟩

/-- `Point f(int)`: returns a record by value. -/
def recordOverload : FunctionDecl := ⟨"f", "f", pointType, [⟨intType, ""⟩]⟩

/-- `int f(int* p)`: an overload `EmitFunction` accepts. -/
def intOverload : FunctionDecl := ⟨"f", "f", intType, [⟨intPtrType, "p"⟩]⟩

/-- `AddFunction(Point f(int))` fails, and leaves `f` in `rendered_functions_`. The overload
    `int f(int* p)`, which `EmitFunction` accepts, is then skipped: after both calls the name `f`
    is rendered and there is no wrapper at all. -/
theorem addFunction_failure_hides_overload :
    (Emitter.empty.addFunction keepFormat recordOverload).1 =
      .error ⟨.cancelled, "returning record by value, skipping function"⟩ ∧
    (∃ out, emitFunction keepFormat intOverload = .ok out) ∧
    (Emitter.empty.run keepFormat [.addFunction recordOverload, .addFunction intOverload]).renderedFunctions
      "f" = true ∧
    (Emitter.empty.run keepFormat
      [.addFunction recordOverload, .addFunction intOverload]).renderedFunctionsOrdered = [] :=
  ⟨rfl, ⟨_, rfl⟩, rfl, rfl⟩

end Sandbox2.Sapi
