import Mathlib.Data.List.Chain

/-!
# The type-dependency section of `EmitHeader`

Before the API class, `EmitHeader` (`emitter.cc:393-414`) writes the types the API depends on,
each inside the namespace it was declared in. It walks the rendered types in order and keeps
`last_ns_name`. When the namespace changes, it closes the open block, if any, and opens a block
for the new namespace, unless that namespace is empty. The section is modelled piece by piece,
one piece per `absl::StrAppend`, and `Piece.render` gives the text of each piece.

The section is the maximal runs of types of one namespace, in order, each run in one block of
its namespace, or at top level when the namespace is empty (`typeSection_eq_runs`). Its text is
the heading, then for each run `namespace N {`, the run's spellings, each once, in order and
followed by `;`, and `}  // namespace N` (`emitTypeSection_eq_blocks`): no block opens inside
another or stays open.
-/

namespace Sandbox2.Sapi

/-- A type declaration as the header shows it: the namespace it stands in, `::`-joined and
    empty at top level, and its spelling. This is `RenderedType` of `emitter.h`, which is not
    among the sources; its two members are read from their uses in `emitter.cc`. -/
structure RenderedType where
  nsName : String
  spelling : String
  deriving DecidableEq, Repr

/-- What one `absl::StrAppend` of the section writes (`emitter.cc:394-412`). -/
inductive Piece
  | heading
  | openNs (name : String)
  | closeNs (name : String)
  | decl (spelling : String)
  deriving DecidableEq, Repr

/-- The text of a piece. -/
def Piece.render : Piece → String
  | .heading => "// Types this API depends on\n"
  | .openNs n => "namespace " ++ n ++ " \x7b\n"
  | .closeNs n => "\x7d  // namespace " ++ n ++ "\n\n"
  | .decl s => s ++ ";\n"

/-- `namespace N {`, unless `N` is empty. -/
def openIf (ns : String) : List Piece := if !ns.isEmpty then [.openNs ns] else []

/-- `}  // namespace N`, unless `N` is empty. -/
def closeIf (ns : String) : List Piece := if !ns.isEmpty then [.closeNs ns] else []

@[simp]
theorem openIf_empty : openIf "" = [] := rfl

@[simp]
theorem closeIf_empty : closeIf "" = [] := rfl

/-- The loop over `rendered_types` (`emitter.cc:396-408`), from `last_ns_name`, and the close
    after it (`emitter.cc:409-411`). After each type, `last_ns_name` is that type's namespace:
    the code assigns it only when it differs. -/
def typeSectionLoop (lastNsName : String) : List RenderedType → List Piece
  | [] => closeIf lastNsName
  | ⟨nsName, spelling⟩ :: rts =>
    (if lastNsName ≠ nsName then closeIf lastNsName ++ openIf nsName else []) ++
      .decl spelling :: typeSectionLoop nsName rts

/-- The type-dependency section of `EmitHeader` (`emitter.cc:393-414`), piece by piece. -/
def typeSection (renderedTypes : List RenderedType) : List Piece :=
  if renderedTypes.isEmpty then [] else .heading :: typeSectionLoop "" renderedTypes

/-- The text of the section, as `EmitHeader` appends it to the header. -/
def emitTypeSection (renderedTypes : List RenderedType) : String :=
  String.join ((typeSection renderedTypes).map Piece.render)

/-! ## Maximal runs -/

/-- The maximal runs of types that stand in one namespace: each run's namespace and its
    spellings. -/
def runs : List RenderedType → List (String × List String)
  | [] => []
  | ⟨ns, sp⟩ :: rts =>
    match runs rts with
    | [] => [(ns, [sp])]
    | (ns', sps) :: rest =>
      if ns = ns' then (ns, sp :: sps) :: rest else (ns, [sp]) :: (ns', sps) :: rest

/-- The runs give back the types, in order. -/
theorem runs_flatten (rts : List RenderedType) :
    (runs rts).flatMap (fun r => r.2.map (RenderedType.mk r.1)) = rts := by
  induction rts with
  | nil => rfl
  | cons rt rts ih =>
    obtain ⟨ns, sp⟩ := rt
    simp only [runs]
    split
    · next h => simp [h] at ih; simp [ih]
    · next ns' sps rest h =>
      rw [h] at ih
      split_ifs with heq
      · subst heq; simpa using ih
      · simpa using ih

/-- No run is empty. -/
theorem runs_ne_nil {rts : List RenderedType} : ∀ r ∈ runs rts, r.2 ≠ [] := by
  induction rts with
  | nil => simp [runs]
  | cons rt rts ih =>
    obtain ⟨ns, sp⟩ := rt
    simp only [runs]
    split
    · simp
    · next ns' sps rest h =>
      rw [h] at ih
      split_ifs
      · simpa using fun a b hr => ih (a, b) (.tail _ hr)
      · simpa using ih

/-- Neighbouring runs stand in different namespaces: the runs are maximal. -/
theorem runs_chain (rts : List RenderedType) : (runs rts).Chain' (fun a b => a.1 ≠ b.1) := by
  induction rts with
  | nil => exact List.chain'_nil
  | cons rt rts ih =>
    obtain ⟨ns, sp⟩ := rt
    simp only [runs]
    split
    · exact List.chain'_singleton _
    · next ns' sps rest h =>
      rw [h] at ih
      split_ifs with heq
      · subst heq
        cases rest with
        | nil => exact List.chain'_singleton _
        | cons b rest => exact List.chain'_cons.2 (List.chain'_cons.1 ih)
      · exact ih.cons heq

/-! ## The section is the runs, one block each -/

/-- The block of one run: `namespace N {`, its spellings, `}  // namespace N`, with the opening
    and closing left out when `N` is empty. -/
def runBlock (r : String × List String) : List Piece :=
  openIf r.1 ++ r.2.map .decl ++ closeIf r.1

/-- From `last_ns_name`, the loop closes its block and opens the first run's unless that run
    continues it, and then writes every run in its block. -/
theorem typeSectionLoop_eq (last : String) (rts : List RenderedType) :
    typeSectionLoop last rts =
      match runs rts with
      | [] => closeIf last
      | r :: rs => (if last = r.1 then [] else closeIf last ++ openIf r.1) ++ r.2.map .decl ++
          closeIf r.1 ++ rs.flatMap runBlock := by
  induction rts generalizing last with
  | nil => rfl
  | cons rt rts ih =>
    obtain ⟨ns, sp⟩ := rt
    rw [typeSectionLoop, ih ns, runs]
    cases runs rts with
    | nil => by_cases h : last = ns <;> simp [h]
    | cons r rs =>
      obtain ⟨ns', sps⟩ := r
      by_cases h' : ns = ns'
      · subst h'; by_cases h : last = ns <;> simp [h]
      · by_cases h : last = ns <;> simp [h, h', runBlock]

/-- The section: after its heading, every maximal run of one namespace in one block. -/
theorem typeSection_eq_runs (rts : List RenderedType) :
    typeSection rts = if rts = [] then [] else .heading :: (runs rts).flatMap runBlock := by
  unfold typeSection
  cases rts with
  | nil => rfl
  | cons rt rts =>
    rw [if_neg (by simp), if_neg (List.cons_ne_nil _ _), typeSectionLoop_eq]
    congr 1
    cases runs (rt :: rts) with
    | nil => rfl
    | cons r rs =>
      obtain ⟨ns, sps⟩ := r
      by_cases h : "" = ns
      · subst h; simp [runBlock]
      · simp [h, runBlock]

/-! ## The text of the section -/

@[simp]
theorem join_nil : String.join [] = "" := rfl

/-- `String.join` is a left fold from `""`: folding from `a` appends the join to `a`. -/
theorem foldl_append_eq (l : List String) :
    ∀ a : String, l.foldl (· ++ ·) a = a ++ String.join l := by
  induction l with
  | nil => intro a; simp [String.join]
  | cons s l ih =>
    intro a
    simp only [List.foldl_cons, String.join]
    rw [ih, ih ("" ++ s), String.empty_append, String.append_assoc]

@[simp]
theorem join_cons (s : String) (l : List String) : String.join (s :: l) = s ++ String.join l :=
  foldl_append_eq l ("" ++ s)

@[simp]
theorem join_append (l l' : List String) :
    String.join (l ++ l') = String.join l ++ String.join l' := by
  induction l with
  | nil => simp
  | cons s l ih => simp [ih, String.append_assoc]

theorem join_flatMap {α : Type} (l : List α) (f : α → List String) :
    String.join (l.flatMap f) = String.join (l.map fun a => String.join (f a)) := by
  induction l with
  | nil => rfl
  | cons a l ih => simp [List.flatMap_cons, ih]

/-- The text of the block of one run: `namespace N {`, each spelling followed by `;`, then
    `}  // namespace N` and a blank line; without the opening and the closing when `N` is
    empty. -/
def blockText (r : String × List String) : String :=
  (if r.1.isEmpty then "" else "namespace " ++ r.1 ++ " \x7b\n") ++
    String.join (r.2.map (· ++ ";\n")) ++
    (if r.1.isEmpty then "" else "\x7d  // namespace " ++ r.1 ++ "\n\n")

theorem runBlock_text (r : String × List String) :
    String.join ((runBlock r).map Piece.render) = blockText r := by
  obtain ⟨ns, sps⟩ := r
  by_cases h : ns.isEmpty = true <;>
    simp [runBlock, openIf, closeIf, blockText, h, Piece.render, Function.comp_def,
      String.append_assoc]

/-- The text of the section: after its heading, the block of every maximal run. -/
theorem emitTypeSection_eq_blocks (rts : List RenderedType) :
    emitTypeSection rts = if rts = [] then "" else
      "// Types this API depends on\n" ++ String.join ((runs rts).map blockText) := by
  rw [emitTypeSection, typeSection_eq_runs]
  split_ifs
  · rfl
  · simp only [List.map_cons, List.map_flatMap, join_cons, join_flatMap, runBlock_text]
    rfl

example : emitTypeSection [⟨"a", "struct S"⟩, ⟨"a", "struct T"⟩, ⟨"", "int U"⟩] =
    "// Types this API depends on\nnamespace a \x7b\nstruct S;\nstruct T;\n\x7d  // namespace a\n\n" ++
      "int U;\n" := by
  decide

/-- The text of the type-dependency section: after its heading, each maximal run of types of one
    namespace, in order, in one block `namespace N {` ... `}  // namespace N` that closes before
    the next opens, with the spellings of the run, each once and followed by `;`; at top level
    when the namespace is empty. -/
theorem typeSection_blocks (rts : List RenderedType) :
    emitTypeSection rts = (if rts = [] then "" else
      "// Types this API depends on\n" ++ String.join ((runs rts).map blockText)) ∧
    (runs rts).flatMap (fun r => r.2.map (RenderedType.mk r.1)) = rts ∧
    (∀ r ∈ runs rts, r.2 ≠ []) ∧ (runs rts).Chain' (fun a b => a.1 ≠ b.1) :=
  ⟨emitTypeSection_eq_blocks rts, runs_flatten rts, runs_ne_nil, runs_chain rts⟩

end Sandbox2.Sapi
