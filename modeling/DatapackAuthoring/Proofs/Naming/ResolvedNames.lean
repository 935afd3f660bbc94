import DatapackAuthoring.Proofs.Naming.AcceptedParts
import DatapackAuthoring.Proofs.ValueShapes

namespace DatapackAuthoring

open Text

theorem splitNamespace_of_not_mem {name : String} (bare : ':' ∉ name.toList) :
    splitNamespace name = (none, name) := by
  rw [splitNamespace, (cutFirst_eq_none_iff ':' name.toList).mpr bare]

theorem splitNamespace_append {ns : String} (bare : ':' ∉ ns.toList) (path : String) :
    splitNamespace (ns ++ ":" ++ path) = (some ns, path) := by
  have shape : (ns ++ ":" ++ path).toList = ns.toList ++ ':' :: path.toList := by simp
  rw [splitNamespace, shape, cutFirst_append bare]
  simp

theorem eq_append_of_splitNamespace {name ns path : String}
    (split : splitNamespace name = (some ns, path)) : name = ns ++ ":" ++ path := by
  unfold splitNamespace at split
  cases found : cutFirst ':' name.toList with
  | none => simp [found] at split
  | some parts =>
    obtain ⟨rfl, rfl⟩ : String.ofList parts.1 = ns ∧ String.ofList parts.2 = path := by
      simpa [found] using split
    apply String.toList_inj.mp
    simp [(cutFirst_eq_some found).2]

theorem exists_namespace_of_mem {name : String} (colon : ':' ∈ name.toList) :
    ∃ ns path : String, ':' ∉ ns.toList ∧ name = ns ++ ":" ++ path := by
  cases found : cutFirst ':' name.toList with
  | none => exact absurd colon ((cutFirst_eq_none_iff ':' name.toList).mp found)
  | some parts =>
    obtain ⟨absent, whole⟩ := cutFirst_eq_some found
    refine ⟨String.ofList parts.1, String.ofList parts.2, by simpa using absent, ?_⟩
    apply String.toList_inj.mp
    simp [whole]

namespace Value

theorem parts_of_splitName {value given path : Value}
    (split : value.splitName = .ok (given, path)) :
    (given = absent ∧ path = value) ∨
      ∃ ns bare, given = text ns ∧ path = text bare ∧ value = text (ns ++ ":" ++ bare) := by
  unfold splitName at split
  split at split
  · rename_i s
    cases parts : splitNamespace s with
    | mk first bare =>
      cases first with
      | none =>
        obtain ⟨rfl, rfl⟩ : absent = given ∧ text s = path := by simpa [parts] using split
        exact .inl ⟨rfl, rfl⟩
      | some ns =>
        obtain ⟨rfl, rfl⟩ : text ns = given ∧ text bare = path := by simpa [parts] using split
        exact .inr ⟨ns, bare, rfl, rfl, by rw [eq_append_of_splitNamespace parts]⟩
  · obtain ⟨rfl, rfl⟩ := Prod.mk.inj (Except.ok.inj split)
    exact .inl ⟨rfl, rfl⟩
  · split at split
    · simp at split
    · split at split
      · simp at split
      · obtain ⟨rfl, rfl⟩ := Prod.mk.inj (Except.ok.inj split)
        exact .inl ⟨rfl, rfl⟩

end Value

namespace Context

variable {context : Context} {name : Value} {text ns : String}

theorem resolve_twice (named : name.asText? = some text) (fixed : context.ns.asText? = some ns)
    (colon : ':' ∈ text.toList) :
    context.resolve name = .error (.namespaceUnderBasePath text ns) := by
  simp [resolve, named, colon, Value.isAbsent_of_asText? fixed, Value.plain_of_asText? fixed]

theorem resolve_fixed (named : name.asText? = some text) (fixed : context.ns.asText? = some ns)
    (bare : ':' ∉ text.toList) :
    context.resolve name =
      let path := (context.directory ++ .ofText text).text
      judged ns path ⟨ns, path, true⟩ := by
  have judgement := identifier_of_texts fixed
    (Value.asText?_text (context.directory ++ .ofText text).text) true
  simpa [resolve, named, Value.isAbsent_of_asText? fixed, splitNamespace_of_not_mem bare, bare]
    using judgement

theorem resolve_chosen {bare : String} (named : name.asText? = some (ns ++ ":" ++ bare))
    (free : context.ns = .absent) (plain : ':' ∉ ns.toList) :
    context.resolve name =
      let path := (context.directory ++ .ofText bare).text
      judged ns path ⟨ns, path, true⟩ := by
  have judgement := identifier_of_texts (Value.asText?_text ns)
    (Value.asText?_text (context.directory ++ .ofText bare).text) true
  simpa [resolve, named, free, Value.isAbsent, splitNamespace_append plain] using judgement

theorem resolve_plain (named : name.asText? = some text) (free : context.ns = .absent)
    (default : context.defaultNs.asText? = some ns) (bare : ':' ∉ text.toList) :
    context.resolve name =
      let path := (context.directory ++ .ofText text).text
      judged ns path ⟨ns, path, false⟩ := by
  have judgement := identifier_of_texts default
    (Value.asText?_text (context.directory ++ .ofText text).text) false
  simpa [resolve, named, free, Value.isAbsent, splitNamespace_of_not_mem bare] using judgement

/-- What an identifier owes to the context that it was resolved under. -/
structure Yields (context : Context) (identifier : Identifier) : Prop where
  accepted : Accepted identifier.ns identifier.path
  joined : ∃ directory : Directory, identifier.path = directory.text
  implicit : identifier.explicit = false → context.defaultNs.asText? = some identifier.ns

theorem yields_of_resolve {identifier : Identifier}
    (resolved : context.resolve name = .ok identifier) : context.Yields identifier := by
  cases named : name.asText? with
  | none => simp [resolve, named] at resolved
  | some text =>
    simp only [resolve, named] at resolved
    split at resolved
    · obtain ⟨_, -, thrown⟩ := bind_eq_ok_iff.mp resolved
      simp at thrown
    · obtain ⟨⟨ns, path⟩, valid, same⟩ := bind_eq_ok_iff.mp resolved
      obtain ⟨nsText, pathText, accepted⟩ := texts_of_validate valid
      obtain rfl : (⟨ns, path, _⟩ : Identifier) = identifier := by simpa using same
      refine ⟨accepted, ⟨_, (Option.some.inj pathText).symm⟩, ?_⟩
      intro implicit
      simp only [Bool.or_eq_false_iff, Bool.not_eq_false', Option.isSome_eq_false_iff,
        Option.isNone_iff_eq_none] at implicit
      simpa [implicit.1, implicit.2] using nsText

end Context

namespace Identifier

variable {ns path : String} {defaultNs : Value}

theorem parse_chosen (plain : ':' ∉ ns.toList) (path : String) (defaultNs : Value) :
    parse (.text (ns ++ ":" ++ path)) defaultNs = judged ns path ⟨ns, path, true⟩ := by
  have judgement := identifier_of_texts (Value.asText?_text ns) (Value.asText?_text path) true
  simpa [parse, Value.splitName, splitNamespace_append plain, Value.isAbsent] using judgement

theorem parse_plain (bare : ':' ∉ path.toList) (default : defaultNs.asText? = some ns) :
    parse (.text path) defaultNs = judged ns path ⟨ns, path, false⟩ := by
  have judgement := identifier_of_texts default (Value.asText?_text path) false
  simpa [parse, Value.splitName, splitNamespace_of_not_mem bare, Value.isAbsent] using judgement

end Identifier

end DatapackAuthoring
