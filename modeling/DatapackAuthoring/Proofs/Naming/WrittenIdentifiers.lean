import DatapackAuthoring.Proofs.Naming.ResolvedNames
/-!
Written identifiers. No accepted part holds a colon, so the first colon of a written identifier is
the one that joins its parts: parsing takes it apart where writing put it together, and so does
resolution where no namespace and no directory interfere.
-/
namespace DatapackAuthoring

open Text

theorem Accepted.ns_no_colon {ns path : String} (accepted : Accepted ns path) :
    ':' ∉ ns.toList :=
  not_mem_of_word accepted.nsWord (by decide) (by decide)

theorem Accepted.path_no_colon {ns path : String} (accepted : Accepted ns path) :
    ':' ∉ path.toList :=
  not_mem_of_word accepted.pathWord (by decide) (by decide)

namespace Identifier

@[simp] theorem text_explicit (ns path : String) : text ⟨ns, path, true⟩ = ns ++ ":" ++ path := rfl

@[simp] theorem text_implicit (ns path : String) : text ⟨ns, path, false⟩ = path := rfl

theorem parse_full {identifier : Identifier}
    (accepted : Accepted identifier.ns identifier.path) (defaultNs : Value) :
    parse (.text identifier.full) defaultNs = .ok { identifier with explicit := true } := by
  rw [full, parse_chosen accepted.ns_no_colon]
  exact judged_eq_ok_iff.mpr ⟨accepted, rfl⟩

theorem parse_text {identifier : Identifier} {defaultNs : Value}
    (accepted : Accepted identifier.ns identifier.path)
    (implicit : identifier.explicit = false → defaultNs.asText? = some identifier.ns) :
    parse (.text identifier.text) defaultNs = .ok identifier := by
  obtain ⟨ns, path, explicit⟩ := identifier
  cases explicit with
  | true => exact parse_full accepted defaultNs
  | false =>
    rw [text_implicit, parse_plain accepted.path_no_colon (implicit rfl)]
    exact judged_eq_ok_iff.mpr ⟨accepted, rfl⟩

theorem accepted_of_parse {text defaultNs : Value} {identifier : Identifier}
    (parsed : parse text defaultNs = .ok identifier) :
    Accepted identifier.ns identifier.path := by
  obtain ⟨⟨given, path⟩, -, rest⟩ := bind_eq_ok_iff.mp parsed
  obtain ⟨⟨ns, bare⟩, valid, same⟩ := bind_eq_ok_iff.mp rest
  obtain ⟨-, -, accepted⟩ := texts_of_validate valid
  obtain rfl := Except.ok.inj same
  exact accepted

theorem text_of_parse {value defaultNs : Value} {identifier : Identifier}
    (parsed : parse value defaultNs = .ok identifier) :
    value.asText? = some identifier.text := by
  obtain ⟨⟨given, path⟩, split, rest⟩ := bind_eq_ok_iff.mp parsed
  obtain ⟨⟨ns, bare⟩, valid, same⟩ := bind_eq_ok_iff.mp rest
  obtain ⟨nsText, pathText, -⟩ := texts_of_validate valid
  obtain rfl := Except.ok.inj same
  rcases Value.parts_of_splitName split with ⟨rfl, rfl⟩ | ⟨before, after, rfl, rfl, rfl⟩
  · simpa [text, Value.isAbsent] using pathText
  · obtain ⟨rfl, rfl⟩ : before = ns ∧ after = bare := by
      simpa [Value.isAbsent] using And.intro nsText pathText
    simp [text, full, Value.isAbsent]

end Identifier

theorem Context.resolve_text_of_yields {context root : Context} {identifier : Identifier}
    (yields : context.Yields identifier) (free : root.ns = .absent)
    (top : root.directory = .empty) (same : root.defaultNs = context.defaultNs) :
    root.resolve (.text identifier.text) = .ok identifier := by
  obtain ⟨directory, joined⟩ := yields.joined
  have whole : (root.directory ++ .ofText identifier.path).text = identifier.path := by
    rw [top, Directory.empty_append, joined, Directory.ofText_text]
  obtain ⟨ns, path, explicit⟩ := identifier
  cases explicit with
  | true =>
    rw [Identifier.text_explicit,
      resolve_chosen (Value.asText?_text _) free yields.accepted.ns_no_colon]
    simp only [whole]
    exact judged_eq_ok_iff.mpr ⟨yields.accepted, rfl⟩
  | false =>
    have default : root.defaultNs.asText? = some ns := by rw [same, yields.implicit rfl]
    rw [Identifier.text_implicit,
      resolve_plain (Value.asText?_text _) free default yields.accepted.path_no_colon]
    simp only [whole]
    exact judged_eq_ok_iff.mpr ⟨yields.accepted, rfl⟩

/-- Identifiers and their written forms determine each other. A resolved identifier is read back
    from its text, from its full form under any default namespace, and by resolution in the open;
    and a text that parses is the one that its identifier is written as. -/
theorem written_identifiers_read_back :
    (∀ (context : Context) (name : Value) (identifier : Identifier),
      context.resolve name = .ok identifier →
        Identifier.parse (.text identifier.text) context.defaultNs = .ok identifier ∧
        (∀ defaultNs, Identifier.parse (.text identifier.full) defaultNs =
          .ok { identifier with explicit := true }) ∧
        Context.resolve ⟨.absent, .empty, context.defaultNs⟩ (.text identifier.text) =
          .ok identifier) ∧
    (∀ (value defaultNs : Value) (identifier : Identifier),
      Identifier.parse value defaultNs = .ok identifier →
        value.asText? = some identifier.text) := by
  constructor
  · intro context name identifier resolved
    have yields := Context.yields_of_resolve resolved
    exact ⟨Identifier.parse_text yields.accepted yields.implicit,
      Identifier.parse_full yields.accepted, Context.resolve_text_of_yields yields rfl rfl rfl⟩
  · intro value defaultNs identifier parsed
    exact Identifier.text_of_parse parsed

theorem slashed_name_reads_back :
    let identifier : Identifier := ⟨"pack", "utils/a/b\n", true⟩
    Context.resolve ⟨.absent, .ofText "utils", .text "minecraft"⟩ (.text "pack:/a//b\n") =
        .ok identifier ∧
      Identifier.parse (.text identifier.text) (.text "minecraft") = .ok identifier ∧
      Identifier.parse (.text identifier.full) .absent = .ok identifier ∧
      Context.resolve ⟨.absent, .empty, .text "minecraft"⟩ (.text identifier.text) =
        .ok identifier ∧
      (Value.text "pack:utils/a/b\n").asText? = some identifier.text := by
  intro identifier
  have slashed : Context.resolve ⟨.absent, .ofText "utils", .text "minecraft"⟩
      (.text "pack:/a//b\n") = .ok identifier := rfl
  have written : Identifier.parse (.text "pack:utils/a/b\n") .absent = .ok identifier := rfl
  obtain ⟨parsed, full, resolved⟩ := written_identifiers_read_back.1 _ _ identifier slashed
  exact ⟨slashed, parsed, full .absent, resolved,
    written_identifiers_read_back.2 _ _ identifier written⟩

end DatapackAuthoring
