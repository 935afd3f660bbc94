import DatapackAuthoring.Proofs.Datapack.NamesLeadBack
/-!
The characters of identifiers. Namespaces and paths have an alphabet each, and the rules let one
line feed pass at the very end of either. So whichever way an identifier came about, it keeps to
the two alphabets exactly if there is no line feed in it, and so does the name that is written.
-/
namespace DatapackAuthoring

namespace Identifier

structure InAlphabet (identifier : Identifier) : Prop where
  ns_filled : identifier.ns.toList ≠ []
  ns_chars : ∀ c ∈ identifier.ns.toList, isNamespaceChar c = true
  path_filled : identifier.path.toList ≠ []
  path_chars : ∀ c ∈ identifier.path.toList, isPathChar c = true

end Identifier

inductive Value.ObtainedIdentifier : Value → Prop where
  | resolved {context : Context} {name : Value} {identifier : Identifier}
      (resolved : context.resolve name = .ok identifier) : ObtainedIdentifier identifier.toValue
  | parsed {text defaultNs : Value} {identifier : Identifier}
      (parsed : Identifier.parse text defaultNs = .ok identifier) :
      ObtainedIdentifier identifier.toValue
  | created {session : Session} {index : Nat} {name : Value} {request : Request}
      {resource : Resource}
      (made : (session.step (.create index name request)).result = .ok (.resource resource)) :
      ObtainedIdentifier resource.identifier

/-- A character of a written name, where a colon may stand between the parts. -/
def isNameChar (c : Char) : Bool := isPathChar c || c == ':'

theorem isPathChar_of_isNamespaceChar {c : Char} (char : isNamespaceChar c = true) :
    isPathChar c = true := by
  simp [isPathChar, char]

theorem in_alphabet_or_feed_of_word {alphabet : Char → Bool} {text : List Char}
    (word : Word alphabet text) : ∀ c ∈ text, alphabet c = true ∨ c = '\n' := by
  obtain ⟨body, -, all, rfl | rfl⟩ := word
  · intro c member
    exact .inl (all c member)
  · intro c member
    rcases List.mem_append.mp member with inside | last
    · exact .inl (all c inside)
    · exact .inr (List.mem_singleton.mp last)

theorem all_in_alphabet_iff {alphabet : Char → Bool} {text : List Char}
    (outside : alphabet '\n' = false) (chars : ∀ c ∈ text, alphabet c = true ∨ c = '\n') :
    (∀ c ∈ text, alphabet c = true) ↔ '\n' ∉ text := by
  constructor
  · intro all member
    have inside := all '\n' member
    rw [outside] at inside
    cases inside
  · intro none c member
    rcases chars c member with inside | rfl
    · exact inside
    · exact absurd member none

theorem Session.exists_resolved_of_create {session : Session} {index : Nat} {name : Value}
    {request : Request} {resource : Resource}
    (made : (session.step (.create index name request)).result = .ok (.resource resource)) :
    ∃ (context : Context) (identifier : Identifier), context.resolve name = .ok identifier ∧
      resource.identifier = identifier.toValue := by
  cases known : session.base index with
  | error fault => simp [step, known] at made
  | ok context =>
    simp only [step, known, changed] at made
    obtain ⟨draft, identifier, resolved, rfl, -⟩ :=
      Registry.create_eq_ok (Catalog.result_of_record made)
    exact ⟨context, identifier, resolved, rfl⟩

theorem Value.ObtainedIdentifier.exists_accepted {value : Value}
    (obtained : value.ObtainedIdentifier) :
    ∃ identifier : Identifier, value = identifier.toValue ∧
      Accepted identifier.ns identifier.path := by
  cases obtained with
  | resolved resolved => exact ⟨_, rfl, (Context.yields_of_resolve resolved).accepted⟩
  | parsed parsed => exact ⟨_, rfl, Identifier.accepted_of_parse parsed⟩
  | created made =>
    obtain ⟨context, identifier, resolved, carried⟩ := Session.exists_resolved_of_create made
    exact ⟨identifier, carried, (Context.yields_of_resolve resolved).accepted⟩

namespace Identifier

theorem inAlphabet_iff {identifier : Identifier}
    (accepted : Accepted identifier.ns identifier.path) :
    identifier.InAlphabet ↔ '\n' ∉ identifier.ns.toList ∧ '\n' ∉ identifier.path.toList := by
  have ns := all_in_alphabet_iff (by decide) (in_alphabet_or_feed_of_word accepted.nsWord)
  have path := all_in_alphabet_iff (by decide) (in_alphabet_or_feed_of_word accepted.pathWord)
  rw [← ns, ← path]
  constructor
  · intro inside
    exact ⟨inside.ns_chars, inside.path_chars⟩
  · rintro ⟨nsChars, pathChars⟩
    exact ⟨word_ne_nil accepted.nsWord, nsChars, word_ne_nil accepted.pathWord, pathChars⟩

theorem name_chars {identifier : Identifier} (accepted : Accepted identifier.ns identifier.path) :
    ∀ c ∈ identifier.text.toList, isNameChar c = true ∨ c = '\n' := by
  have ns : ∀ c ∈ identifier.ns.toList, isNameChar c = true ∨ c = '\n' := by
    intro c member
    refine (in_alphabet_or_feed_of_word accepted.nsWord c member).imp_left fun inside => ?_
    simp [isNameChar, isPathChar_of_isNamespaceChar inside]
  have path : ∀ c ∈ identifier.path.toList, isNameChar c = true ∨ c = '\n' := by
    intro c member
    refine (in_alphabet_or_feed_of_word accepted.pathWord c member).imp_left fun inside => ?_
    simp [isNameChar, inside]
  obtain ⟨first, second, explicit⟩ := identifier
  cases explicit with
  | false => exact path
  | true =>
    intro c member
    rw [text_explicit, String.toList_append, String.toList_append] at member
    rcases List.mem_append.mp member with front | back
    · rcases List.mem_append.mp front with early | colon
      · exact ns c early
      · rw [List.mem_singleton.mp colon]
        exact .inl rfl
    · exact path c back

end Identifier

/-- Whether it was resolved, parsed or given to a resource, an identifier has a namespace and a path
    over their alphabets, one line feed at the end of either aside. It keeps to the alphabets
    altogether exactly if it has no line feed, and its written name has no foreign character exactly
    if there is no line feed in that. -/
theorem alphabet_kept_but_for_line_feeds (value : Value) (obtained : value.ObtainedIdentifier) :
    ∃ identifier : Identifier, value = identifier.toValue ∧
      Word isNamespaceChar identifier.ns.toList ∧ Word isPathChar identifier.path.toList ∧
      (identifier.InAlphabet ↔
        '\n' ∉ identifier.ns.toList ∧ '\n' ∉ identifier.path.toList) ∧
      ((∀ c ∈ identifier.text.toList, isNameChar c = true) ↔
        '\n' ∉ identifier.text.toList) := by
  obtain ⟨identifier, same, accepted⟩ := obtained.exists_accepted
  exact ⟨identifier, same, accepted.nsWord, accepted.pathWord, Identifier.inAlphabet_iff accepted,
    all_in_alphabet_iff (by decide) (Identifier.name_chars accepted)⟩

theorem feeds_in_both_parts :
    let identifier : Identifier := ⟨"pack\n", "tools/go\n", true⟩
    let session : Session :=
      ⟨⟨"minecraft", ""⟩, .empty (.text "minecraft"),
        [⟨.text "pack\n", .ofText "tools", .text "minecraft"⟩]⟩
    let resource : Resource :=
      ⟨.kind .function, identifier.toValue, .tuple [.text "say hi"], .absent⟩
    (session.step (.create 0 (.text "go\n") (.function (.list [.text "say hi"])))).result =
        .ok (.resource resource) ∧
      ¬identifier.InAlphabet ∧ ¬∀ c ∈ identifier.text.toList, isNameChar c = true := by
  intro identifier session resource
  have made : (session.step (.create 0 (.text "go\n")
      (.function (.list [.text "say hi"])))).result = .ok (.resource resource) := rfl
  obtain ⟨other, same, -, -, inside, written⟩ :=
    alphabet_kept_but_for_line_feeds resource.identifier (.created made)
  obtain rfl : identifier = other := Identifier.toValue_injective same
  refine ⟨made, ?_, ?_⟩
  · rw [inside]
    decide
  · rw [written]
    decide

/-- A function of the default namespace under a name that ends in a line feed is made, and its name,
    which commands are written with, takes the line feed along. -/
theorem name_with_line_feed_accepted :
    let identifier : Identifier := ⟨"minecraft", "tick\n", false⟩
    let session : Session :=
      ⟨⟨"minecraft", ""⟩, .empty (.text "minecraft"),
        [⟨.absent, .empty, .text "minecraft"⟩]⟩
    (session.step (.create 0 (.text "tick\n") (.function (.list [])))).result =
        .ok (.resource ⟨.kind .function, identifier.toValue, .tuple [], .absent⟩) ∧
      Context.resolve ⟨.absent, .empty, .text "minecraft"⟩ (.text "tick\n") = .ok identifier ∧
      ¬identifier.InAlphabet ∧ identifier.text = "tick\n" := by
  intro identifier session
  refine ⟨rfl, rfl, ?_, rfl⟩
  intro inside
  have foreign := inside.path_chars '\n' (by decide)
  simp [isPathChar, isNamespaceChar] at foreign

end DatapackAuthoring
