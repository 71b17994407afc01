import Sandbox2.Generator.Emitter
import Sandbox2.Generator.IncludeGuard

/-!
# The header the generator writes

`EmitHeader` (`emitter.cc:367-437`) writes the whole header from the wrappers and the rendered
types an `Emitter` gathered: the prolog with the include guard, the include of the embedded
sandboxee, the opening of the API's namespace, the types the API depends on, the class of the
embedded sandbox, the API class with the wrappers, the closing of the namespace, and the epilog.
`Emitter::EmitHeader` (`emitter.cc:503-509`) hands it to clang-format. The header is modelled
piece by piece, one piece per `absl::StrAppend` or `absl::StrAppendFormat` of a template, and
`HeaderPiece.render` gives the text of each.

For every sequence of calls on a new `Emitter`, the text of the header holds, inside the API's
namespace when the options give one, the type section, with each type the calls rendered once, in
the order first rendered, in the block of its own namespace, then the sandbox class, when a
sandboxee is embedded, and the API class with the wrapper of each function name's first
declaration (`emitHeader_text`). `GeneratorOptions` lives in `generator.h`, which is not among the
sources; its fields are read from their uses, `has_namespace()` among them.
-/

namespace Sandbox2.Sapi

/-- What `EmitHeader` reads of the generator's options: the output file name (its bytes), the
    directory and name of the embedded sandboxee, the API's namespace and whether it has one, and
    the API's name. -/
structure GeneratorOptions where
  outFile : List UInt8
  embedDir : String
  embedName : String
  namespaceName : String
  hasNamespace : Bool
  name : String

/-- What one `absl::StrAppend` or `absl::StrAppendFormat` of `EmitHeader` writes
    (`emitter.cc:370-436`). -/
inductive HeaderPiece
  | prolog (guard : String)
  | embedInclude (includeFile : String)
  | namespaceBegin (name : String)
  | typePiece (p : Piece)
  | embedClass (className embedId : String)
  | classHeader (className : String)
  | functions (definitions : List String)
  | classFooter
  | namespaceEnd (name : String)
  | epilog (guard : String)

/-- The text of a piece: the templates `kHeaderProlog`, `kEmbedInclude`,
    `kNamespaceBeginTemplate`, `kEmbedClassTemplate`, `kClassHeaderTemplate`,
    `kClassFooterTemplate`, `kNamespaceEndTemplate` and `kHeaderEpilog` (`emitter.cc:47-116`) with
    their arguments, a piece of the type section, and the wrappers joined by newlines. -/
def HeaderPiece.render : HeaderPiece → String
  | .prolog g =>
    "// AUTO-GENERATED by the Sandboxed API generator.\n" ++
    "// Edits will be discarded when regenerating this file.\n\n#ifndef " ++ g ++ "\n#define " ++
    g ++ "\n\n#include <cstdint>\n#include <type_traits>\n\n#include \"absl/base/macros.h\"\n" ++
    "#include \"absl/status/status.h\"\n#include \"absl/status/statusor.h\"\n" ++
    "#include \"sandboxed_api/sandbox.h\"\n#include \"sandboxed_api/util/status_macros.h\"\n" ++
    "#include \"sandboxed_api/vars.h\"\n\n"
  | .embedInclude f => "#include \"" ++ f ++ "_embed.h\"\n\n"
  | .namespaceBegin n => "\nnamespace " ++ n ++ " \x7b\n\n"
  | .typePiece p => p.render
  | .embedClass cls embedId =>
    "\n// Sandbox with embedded sandboxee and default policy\nclass " ++ cls ++
    " : public ::sapi::Sandbox \x7b\n public:\n  " ++ cls ++ "() : ::sapi::Sandbox(" ++ embedId ++
    "_embed_create()) \x7b\x7d\n\x7d;\n\n"
  | .classHeader cls =>
    "\n// Sandboxed API\nclass " ++ cls ++ " \x7b\n public:\n  explicit " ++ cls ++
    "(::sapi::Sandbox* sandbox) : sandbox_(sandbox) \x7b\x7d\n\n" ++
    "  ABSL_DEPRECATED(\"Call sandbox() instead\")\n" ++
    "  ::sapi::Sandbox* GetSandbox() const \x7b return sandbox(); \x7d\n" ++
    "  ::sapi::Sandbox* sandbox() const \x7b return sandbox_; \x7d\n"
  | .functions defs => "\n".intercalate defs
  | .classFooter => "\n private:\n  ::sapi::Sandbox* sandbox_;\n\x7d;\n"
  | .namespaceEnd n => "\n\x7d  // namespace " ++ n ++ "\n"
  | .epilog g => "\n#endif  // " ++ g

/-- The file `kEmbedInclude` includes (`emitter.cc:375-384`): `embed_dir` with `\` made `/` and
    one trailing `/` stripped, then `/` unless that is empty, then `embed_name`. -/
def embedIncludeFile (embedDir embedName : String) : String :=
  let dir := embedDir.data.map fun c => if c = '\\' then '/' else c
  let dir := if dir.getLast? = some '/' then dir.dropLast else dir
  String.mk dir ++ (if dir.isEmpty then "" else "/") ++ embedName

/-- `absl::StrReplaceAll(embed_name, {{"-", "_"}})` (`emitter.cc:420`). -/
def embedIdentifier (embedName : String) : String :=
  String.mk (embedName.data.map fun c => if c = '-' then '_' else c)

/-- `EmitHeader(function_definitions, rendered_types, options)` (`emitter.cc:367-437`), piece by
    piece; `random` is what `GetIncludeGuard` draws for an empty file name. -/
def emitHeaderPieces (functionDefinitions : List String) (renderedTypes : List RenderedType)
    (options : GeneratorOptions) (random : UInt64) : List HeaderPiece :=
  let includeGuard := getIncludeGuard options.outFile random
  [.prolog includeGuard] ++
  (if !options.embedName.isEmpty then
    [.embedInclude (embedIncludeFile options.embedDir options.embedName)] else []) ++
  (if options.hasNamespace then [.namespaceBegin options.namespaceName] else []) ++
  (typeSection renderedTypes).map .typePiece ++
  (if !options.embedName.isEmpty then
    [.embedClass (options.name ++ "Sandbox") (embedIdentifier options.embedName)] else []) ++
  [.classHeader (options.name ++ "Api"), .functions functionDefinitions, .classFooter] ++
  (if options.hasNamespace then [.namespaceEnd options.namespaceName] else []) ++
  [.epilog includeGuard]

/-- The text `EmitHeader` returns. -/
def emitHeader (functionDefinitions : List String) (renderedTypes : List RenderedType)
    (options : GeneratorOptions) (random : UInt64) : String :=
  String.join ((emitHeaderPieces functionDefinitions renderedTypes options random).map
    HeaderPiece.render)

/-- `Emitter::EmitHeader(options)` (`emitter.cc:503-509`): the header of the emitter's wrappers
    and types, through `internal::ReformatGoogleStyle(options.out_file, header)`, which is
    clang-format (`reformat`) with its error made an internal error. -/
def Emitter.emitHeader (reformat : String → Except String String) (e : Emitter)
    (options : GeneratorOptions) (random : UInt64) : Except Status String :=
  match reformat (Sandbox2.Sapi.emitHeader e.renderedFunctionsOrdered e.renderedTypesOrdered
      options random) with
  | .error err => .error ⟨.internal, err⟩
  | .ok header => .ok header

/-! ## The text of the header -/

/-- The pieces of the type section render to the text `emitTypeSection` writes. -/
theorem typeSection_pieces_text (rts : List RenderedType) :
    String.join (((typeSection rts).map HeaderPiece.typePiece).map HeaderPiece.render) =
      emitTypeSection rts := by
  simp [emitTypeSection, Function.comp_def, HeaderPiece.render]

/-- A piece the options may leave out is rendered or left empty. -/
theorem join_render_ite (b : Bool) (p : HeaderPiece) :
    String.join ((if b then [p] else []).map HeaderPiece.render) = if b then p.render else "" := by
  cases b <;> rfl

/-- For every sequence of calls on a new `Emitter` and all generator options, the text
    `EmitHeader` writes from the emitter's members, the text `Emitter::EmitHeader` hands to
    clang-format, is: the prolog with the include guard; the include of an embedded sandboxee;
    `namespace N {` when the options give a namespace; the heading of the type section and the
    block of each maximal run of types of one namespace, which holds each type the calls
    rendered once, in the order first rendered; the class `<name>Sandbox` of an embedded
    sandboxee; the class `<name>Api` with the wrapper of each function name's first declaration,
    if `EmitFunction` accepted it, in the order the names were first added; `}  // namespace N`;
    and the epilog. -/
theorem emitHeader_text (reformat : String → Except String String) (calls : List Call)
    (options : GeneratorOptions) (random : UInt64) :
    let e := Emitter.empty.run reformat calls
    let guard := getIncludeGuard options.outFile random
    let types := (calls.flatMap Call.emplaced).eraseDups
    let added := calls.filterMap Call.added
    emitHeader e.renderedFunctionsOrdered e.renderedTypesOrdered options random =
      "// AUTO-GENERATED by the Sandboxed API generator.\n" ++
        "// Edits will be discarded when regenerating this file.\n\n#ifndef " ++ guard ++
        "\n#define " ++ guard ++
        "\n\n#include <cstdint>\n#include <type_traits>\n\n#include \"absl/base/macros.h\"\n" ++
        "#include \"absl/status/status.h\"\n#include \"absl/status/statusor.h\"\n" ++
        "#include \"sandboxed_api/sandbox.h\"\n#include \"sandboxed_api/util/status_macros.h\"\n" ++
        "#include \"sandboxed_api/vars.h\"\n\n" ++
      (if !options.embedName.isEmpty then
        "#include \"" ++ embedIncludeFile options.embedDir options.embedName ++ "_embed.h\"\n\n"
        else "") ++
      (if options.hasNamespace then "\nnamespace " ++ options.namespaceName ++ " \x7b\n\n"
        else "") ++
      (if types = [] then "" else
        "// Types this API depends on\n" ++ String.join ((runs types).map blockText)) ++
      (if !options.embedName.isEmpty then
        "\n// Sandbox with embedded sandboxee and default policy\nclass " ++
          (options.name ++ "Sandbox") ++ " : public ::sapi::Sandbox \x7b\n public:\n  " ++
          (options.name ++ "Sandbox") ++ "() : ::sapi::Sandbox(" ++ embedIdentifier options.embedName ++
          "_embed_create()) \x7b\x7d\n\x7d;\n\n"
        else "") ++
      "\n// Sandboxed API\nclass " ++ (options.name ++ "Api") ++ " \x7b\n public:\n  explicit " ++
        (options.name ++ "Api") ++ "(::sapi::Sandbox* sandbox) : sandbox_(sandbox) \x7b\x7d\n\n" ++
        "  ABSL_DEPRECATED(\"Call sandbox() instead\")\n" ++
        "  ::sapi::Sandbox* GetSandbox() const \x7b return sandbox(); \x7d\n" ++
        "  ::sapi::Sandbox* sandbox() const \x7b return sandbox_; \x7d\n" ++
      "\n".intercalate
        ((added.map (·.qualifiedName)).eraseDups.filterMap (firstWrapper reformat added)) ++
      "\n private:\n  ::sapi::Sandbox* sandbox_;\n\x7d;\n" ++
      (if options.hasNamespace then "\n\x7d  // namespace " ++ options.namespaceName ++ "\n"
        else "") ++
      "\n#endif  // " ++ guard := by
  have h := run_tracks reformat calls
  simp only [h.typesOrdered, h.functionsOrdered, emitHeader, emitHeaderPieces, List.map_append,
    join_append, typeSection_pieces_text, emitTypeSection_eq_blocks, join_render_ite, List.map_cons,
    List.map_nil, join_cons, join_nil, String.append_empty, HeaderPiece.render, String.append_assoc]

end Sandbox2.Sapi
