import DatapackAuthoring.Proofs.Naming.ResolvedNames

namespace DatapackAuthoring

namespace Context

def nsOf (context : Context) (name : String) : Value :=
  if !context.ns.isAbsent then context.ns
  else match (splitNamespace name).1 with
    | some ns => .text ns
    | none => context.defaultNs

def directoryOfName (context : Context) (name : String) : Directory :=
  context.directory ++ .ofText (splitNamespace name).2

/-- Resolution refuses a second namespace, and validates the two parts otherwise. -/
theorem resolve_of_asText? {context : Context} {value : Value} {name : String}
    (named : value.asText? = some name) :
    context.resolve value =
      if !context.ns.isAbsent && name.toList.contains ':' then do
        let ns ← context.ns.plain
        throw (.namespaceUnderBasePath name ns)
      else do
        let (ns, path) ← validate (context.nsOf name) (.text (context.directoryOfName name).text)
        return ⟨ns, path, !context.ns.isAbsent || (splitNamespace name).1.isSome⟩ := by
  simp only [resolve, named]
  rfl

structure Composes (context : Context) (name : String) (identifier : Identifier) : Prop where
  ns : (context.nsOf name).asText? = some identifier.ns
  path : identifier.path = (context.directoryOfName name).text
  explicit : identifier.explicit = (!context.ns.isAbsent || (splitNamespace name).1.isSome)

theorem exists_composes_of_resolve {context : Context} {name : Value} {identifier : Identifier}
    (resolved : context.resolve name = .ok identifier) :
    ∃ text, name.asText? = some text ∧ context.Composes text identifier := by
  cases named : name.asText? with
  | none => simp [resolve, named] at resolved
  | some text =>
    rw [resolve_of_asText? named] at resolved
    split at resolved
    · obtain ⟨_, -, thrown⟩ := bind_eq_ok_iff.mp resolved
      simp at thrown
    · obtain ⟨⟨ns, path⟩, valid, same⟩ := bind_eq_ok_iff.mp resolved
      obtain ⟨nsText, pathText, -⟩ := texts_of_validate valid
      obtain rfl := Except.ok.inj same
      exact ⟨text, rfl, nsText, (Option.some.inj pathText).symm, rfl⟩

end Context

end DatapackAuthoring
