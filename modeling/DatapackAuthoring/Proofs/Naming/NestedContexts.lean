import DatapackAuthoring.Proofs.Naming.ResolutionVerdict
import DatapackAuthoring.Proofs.Naming.ResolvedParts
import DatapackAuthoring.Proofs.WritingFaults
/-!
Contexts below contexts. A child keeps the namespace and puts its directory behind that of its
parent, so a chain of children does for every name what writing their directories in front of its
path does, and what is resolved below a context stays below it.
-/
namespace DatapackAuthoring

def behindAll : List String → String → String
  | [], path => path
  | first :: rest, path => first ++ "/" ++ behindAll rest path

/-- The name with texts put in front of its path. A namespace stays at the beginning. -/
def insertedName (texts : List String) (name : String) : String :=
  match splitNamespace name with
  | (some ns, path) => ns ++ ":" ++ behindAll texts path
  | (none, path) => behindAll texts path

def slashPieces (text : String) : List (List Char) := (text.toList.splitOn '/').filter (· ≠ [])

def Fault.quoting (name : String) : Fault → Fault
  | .namespaceUnderBasePath _ ns => .namespaceUnderBasePath name ns
  | other => other

theorem not_mem_behindAll {texts : List String} (plain : ∀ s ∈ texts, ':' ∉ s.toList)
    {path : String} (bare : ':' ∉ path.toList) : ':' ∉ (behindAll texts path).toList := by
  induction texts with
  | nil => exact bare
  | cons first rest ih =>
    have here := plain first List.mem_cons_self
    have later := ih fun s member => plain s (List.mem_cons_of_mem first member)
    simp [behindAll, here, later]

/-- A cut after the insertion is the cut before it, with the texts in front of the path. -/
theorem splitNamespace_insertedName {texts : List String} (plain : ∀ s ∈ texts, ':' ∉ s.toList)
    (name : String) :
    splitNamespace (insertedName texts name) =
      ((splitNamespace name).1, behindAll texts (splitNamespace name).2) := by
  by_cases colon : ':' ∈ name.toList
  · obtain ⟨ns, path, start, rfl⟩ := exists_namespace_of_mem colon
    simp only [insertedName, splitNamespace_append start]
  · simp only [insertedName, splitNamespace_of_not_mem colon]
    exact splitNamespace_of_not_mem (not_mem_behindAll plain colon)

theorem splitNamespace_isSome_iff (name : String) :
    (splitNamespace name).1.isSome = true ↔ ':' ∈ name.toList := by
  by_cases colon : ':' ∈ name.toList
  · obtain ⟨ns, path, start, rfl⟩ := exists_namespace_of_mem colon
    simp [splitNamespace_append start]
  · simp [splitNamespace_of_not_mem colon, colon]

namespace Directory

theorem pieces_append_slash (first second : String) :
    pieces (first ++ "/" ++ second) = pieces first ++ pieces second := by
  apply (List.map_inj_right fun _ _ => String.toList_inj.mp).mp
  have whole : (first ++ "/" ++ second).toList = first.toList ++ '/' :: second.toList := by simp
  rw [List.map_append, pieces_eq_splitOn, pieces_eq_splitOn, pieces_eq_splitOn, whole,
    List.splitOn_append_cons_self, List.filter_append]

theorem ofText_append_slash (first second : String) :
    ofText (first ++ "/" ++ second) = ofText first ++ ofText second :=
  eq_of_segments (pieces_append_slash first second)

theorem segments_nested_ofText (texts : List String) :
    (nested (texts.map ofText)).segments = texts.flatMap pieces := by
  simp [List.flatMap_def, Function.comp_def]

theorem pieces_behindAll (texts : List String) (path : String) :
    pieces (behindAll texts path) = texts.flatMap pieces ++ pieces path := by
  induction texts with
  | nil => rfl
  | cons first rest ih => simp [behindAll, pieces_append_slash, ih]

theorem empty_eq_ofText : empty = ofText "" := rfl

end Directory

theorem map_pieces (text : String) : (Directory.pieces text).map String.toList = slashPieces text :=
  Directory.pieces_eq_splitOn text

theorem splitOn_of_accepted {ns : String} {directory : Directory}
    (accepted : Accepted ns directory.text) :
    directory.text.toList.splitOn '/' = directory.segments.map String.toList := by
  apply Directory.splitOn_text
  intro none
  exact word_ne_nil accepted.pathWord (by simp [Directory.toList_text, none])

theorem clean_of_accepted {ns : String} {directory : Directory}
    (accepted : Accepted ns directory.text) :
    ∀ piece ∈ directory.segments.map String.toList, piece ≠ [] ∧ ¬['.', '.'] <:+: piece := by
  intro piece member
  refine ⟨(Directory.toList_of_mem_segments member).1, fun dots => ?_⟩
  have found : hasDoubleDot directory.text.toList = true := by
    rw [Directory.toList_text]
    exact (hasDoubleDot_slashed _).mpr ⟨piece, member, dots⟩
  rw [accepted.noDoubleDot] at found
  cases found

theorem Value.directory_of_asText? {value : Value} {text : String}
    (known : value.asText? = some text) : value.directory = .ok (.ofText text) := by
  by_cases filled : value.isTruthy = true
  · simp [directory, filled, known]
  · have blank : text = "" := by
      cases value <;> simp_all [Value.isTruthy, Value.asText?]
    simp [directory, filled, blank, Directory.empty_eq_ofText]

namespace Context

def nest (context : Context) : List Value → Except Fault Context
  | [] => .ok context
  | first :: rest => do
    let below ← context.child first
    below.nest rest

def under (context : Context) (texts : List String) : Context :=
  { context with directory := context.directory ++ .nested (texts.map .ofText) }

theorem segments_under (context : Context) (texts : List String) :
    (context.under texts).directory.segments =
      context.directory.segments ++ texts.flatMap Directory.pieces := by
  rw [under, Directory.segments_append, Directory.segments_nested_ofText]

theorem child_of_text {directory : Value} {text : String} (known : directory.asText? = some text)
    (context : Context) :
    context.child directory =
      .ok { context with directory := context.directory ++ .ofText text } := by
  rw [child, Value.directory_of_asText? known]
  rfl

theorem nest_of_texts {directories : List Value} {texts : List String}
    (known : directories.map Value.asText? = texts.map some) (context : Context) :
    context.nest directories = .ok (context.under texts) := by
  induction directories generalizing texts context with
  | nil =>
    obtain rfl : texts = [] := by simpa using known.symm
    have same : context.directory ++ Directory.nested [] = context.directory :=
      Directory.eq_of_segments (by simp)
    simp [nest, under, same]
  | cons first rest ih =>
    cases texts with
    | nil => cases known
    | cons text others =>
      simp only [List.map_cons, List.cons.injEq] at known
      have same : context.directory ++ .ofText text ++ Directory.nested (others.map .ofText) =
          context.directory ++ .nested ((text :: others).map .ofText) :=
        Directory.eq_of_segments (by simp)
      rw [nest, child_of_text known.1, ok_bind, ih known.2, under, under, same]

section

variable {texts : List String} (plain : ∀ s ∈ texts, ':' ∉ s.toList) (context : Context)
  (name : String)

include plain

theorem nsOf_insertedName :
    context.nsOf (insertedName texts name) = (context.under texts).nsOf name := by
  simp only [nsOf, splitNamespace_insertedName plain, under]
  rfl

theorem directoryOfName_insertedName :
    context.directoryOfName (insertedName texts name) =
      (context.under texts).directoryOfName name := by
  apply Directory.eq_of_segments
  simp only [directoryOfName, splitNamespace_insertedName plain, Directory.segments_append,
    Directory.segments_ofText, Directory.pieces_behindAll, segments_under, List.append_assoc]

theorem colon_mem_insertedName_iff :
    ':' ∈ (insertedName texts name).toList ↔ ':' ∈ name.toList := by
  rw [← splitNamespace_isSome_iff, splitNamespace_insertedName plain, splitNamespace_isSome_iff]

end

/- The rules quote no name, and neither does what cannot be written. -/

theorem quoting_of_checkNamespace {ns : String} {fault : Fault}
    (failed : checkNamespace ns = .error fault) (name : String) : fault.quoting name = fault := by
  unfold checkNamespace at failed
  split at failed
  · cases failed
  · cases failed
    rfl

theorem quoting_of_checkPath {path : String} {fault : Fault}
    (failed : checkPath path = .error fault) (name : String) : fault.quoting name = fault := by
  unfold checkPath at failed
  split at failed
  · cases failed
    rfl
  · split at failed
    · cases failed
      rfl
    · split at failed
      · cases failed
        rfl
      · cases failed

theorem quoting_of_validate {ns : Value} {path : String} {fault : Fault}
    (failed : validate ns (.text path) = .error fault) (name : String) :
    fault.quoting name = fault := by
  cases nsText : ns.asText? with
  | none =>
    simp only [validate, Value.asTextOrFault, nsText, error_bind] at failed
    cases failed
    rfl
  | some text =>
    rw [validate_of_texts nsText (Value.asText?_text path), judged, bind_eq_error_iff] at failed
    rcases failed with first | ⟨⟨⟩, -, rest⟩
    · exact quoting_of_checkNamespace first name
    · rcases bind_eq_error_iff.mp rest with second | ⟨⟨⟩, -, none⟩
      · exact quoting_of_checkPath second name
      · cases none

theorem quoting_of_writing {fault : Fault} (cause : fault.OfWriting) (name : String) :
    fault.quoting name = fault := by
  cases cause <;> rfl

/-- Below a chain of texts a name resolves as it does above with the texts inserted. -/
theorem resolve_insertedName {texts : List String} (plain : ∀ s ∈ texts, ':' ∉ s.toList)
    (context : Context) {value : Value} {name : String} (named : value.asText? = some name) :
    context.resolve (.text (insertedName texts name)) =
      ((context.under texts).resolve value).mapError (Fault.quoting (insertedName texts name)) := by
  have colon : (insertedName texts name).toList.contains ':' = name.toList.contains ':' := by
    rw [Bool.eq_iff_iff]
    simpa using colon_mem_insertedName_iff plain name
  have fixed : (context.under texts).ns = context.ns := rfl
  rw [resolve_of_asText? (Value.asText?_text _), resolve_of_asText? named,
    nsOf_insertedName plain, directoryOfName_insertedName plain, splitNamespace_insertedName plain,
    colon, fixed]
  split
  · cases written : context.ns.plain with
    | ok ns => rfl
    | error fault =>
      have cause := Value.writing_plain _ fault written
      exact congrArg Except.error (quoting_of_writing cause _).symm
  · cases valid : validate ((context.under texts).nsOf name)
        (.text ((context.under texts).directoryOfName name).text) with
    | ok parts => rfl
    | error fault => exact congrArg Except.error (quoting_of_validate valid _).symm

structure ResolvesBelow (context : Context) (texts : List String) (name : String)
    (identifier : Identifier) : Prop where
  fixed : context.ns.isAbsent = false →
    context.ns.asText? = some identifier.ns ∧ identifier.explicit = true
  segments : identifier.path.toList.splitOn '/' =
    context.directory.segments.map String.toList ++ texts.flatMap slashPieces ++
      slashPieces (splitNamespace name).2
  clean : ∀ piece ∈ identifier.path.toList.splitOn '/', piece ≠ [] ∧ ¬['.', '.'] <:+: piece
  own_iff : identifier.path = (context.under texts).directory.text ↔
    slashPieces (splitNamespace name).2 = []

theorem resolvesBelow_of_resolve {context : Context} {texts : List String} {value : Value}
    {name : String} {identifier : Identifier} (named : value.asText? = some name)
    (resolved : (context.under texts).resolve value = .ok identifier) :
    context.ResolvesBelow texts name identifier := by
  obtain ⟨other, same, composes⟩ := exists_composes_of_resolve resolved
  obtain rfl : other = name := Option.some.inj (same.symm.trans named)
  have accepted := (yields_of_resolve resolved).accepted
  rw [composes.path] at accepted
  have pieces := splitOn_of_accepted accepted
  have fixed : (context.under texts).ns = context.ns := rfl
  constructor
  · intro own
    have ns := composes.ns
    have explicit := composes.explicit
    simp only [nsOf, fixed, own] at ns explicit
    exact ⟨by simpa using ns, by simpa using explicit⟩
  · rw [composes.path, pieces]
    simp [directoryOfName, segments_under, map_pieces, List.map_flatMap]
  · rw [composes.path, pieces]
    exact clean_of_accepted accepted
  · rw [composes.path, ← map_pieces, List.map_eq_nil_iff]
    constructor
    · intro own
      have segments := congrArg Directory.segments (Directory.text_injective own)
      simpa [directoryOfName] using segments
    · intro none
      apply congrArg Directory.text
      apply Directory.eq_of_segments
      simp [directoryOfName, none]

end Context

end DatapackAuthoring
