import DatapackAuthoring.Proofs.Datapack.CreationOutcomes
import DatapackAuthoring.Proofs.Datapack.OpenedBases

namespace DatapackAuthoring

/-- No slash leads, trails or follows another. -/
def Tidy (path : String) : Prop := [] ∉ path.toList.splitOn '/'

instance (path : String) : Decidable (Tidy path) :=
  inferInstanceAs (Decidable ([] ∉ path.toList.splitOn '/'))

theorem tidy_iff_text_ofText {path : String} (filled : path ≠ "") :
    Tidy path ↔ (Directory.ofText path).text = path := by
  constructor
  · intro tidy
    have all : (path.toList.splitOn '/').filter (· ≠ []) = path.toList.splitOn '/' := by
      apply List.filter_eq_self.mpr
      intro piece member
      have filled : piece ≠ [] := by
        rintro rfl
        exact tidy member
      simpa using filled
    apply String.toList_inj.mp
    rw [Directory.toList_text, Directory.segments_ofText, Directory.pieces_eq_splitOn, all, slashed,
      List.intercalate_splitOn]
  · intro same member
    have segments : (Directory.ofText path).segments ≠ [] := by
      intro none
      apply filled
      rw [← same, Directory.text, none]
      rfl
    rw [← same, Directory.splitOn_text segments] at member
    exact (Directory.toList_of_mem_segments member).1 rfl

namespace Context

variable {context : Context} {name : String} {identifier : Identifier}

theorem text_eq_iff_tidy (free : context.ns = .absent) (top : context.directory = .empty)
    (resolved : context.resolve (.text name) = .ok identifier) :
    identifier.text = name ↔ Tidy (splitNamespace name).2 := by
  obtain ⟨other, same, composes⟩ := exists_composes_of_resolve resolved
  obtain rfl : name = other := Option.some.inj same
  have path : identifier.path = (Directory.ofText (splitNamespace name).2).text := by
    rw [composes.path, directoryOfName, top, Directory.empty_append]
  have filled : (splitNamespace name).2 ≠ "" := by
    intro blank
    rw [blank] at path
    exact word_ne_nil (yields_of_resolve resolved).accepted.pathWord (by rw [path]; rfl)
  rw [tidy_iff_text_ofText filled, ← path]
  have ns := composes.ns
  have explicit := composes.explicit
  obtain ⟨own, joined, spelled⟩ := identifier
  by_cases colon : ':' ∈ name.toList
  · obtain ⟨given, bare, start, rfl⟩ := exists_namespace_of_mem colon
    simp only [nsOf, free, splitNamespace_append start] at ns explicit ⊢
    obtain rfl : given = own := by simpa [Value.isAbsent] using ns
    obtain rfl : spelled = true := by simpa [Value.isAbsent] using explicit
    rw [Identifier.text_explicit, String.append_right_inj]
  · simp only [free, splitNamespace_of_not_mem colon] at explicit ⊢
    obtain rfl : spelled = false := by simpa [Value.isAbsent] using explicit
    rw [Identifier.text_implicit]

theorem text_eq_of_parse {defaultNs : Value} {parsed : Identifier} (free : context.ns = .absent)
    (resolved : context.resolve (.text name) = .ok identifier)
    (read : Identifier.parse (.text name) defaultNs = .ok parsed)
    (full : parsed.full = identifier.full) : identifier.text = name := by
  obtain ⟨other, same, composes⟩ := exists_composes_of_resolve resolved
  obtain rfl : name = other := Option.some.inj same
  have accepted := (yields_of_resolve resolved).accepted
  have written : name = parsed.text := Option.some.inj (Identifier.text_of_parse read)
  have spelled : identifier.explicit = true ↔ ':' ∈ name.toList := by
    rw [composes.explicit, free, ← splitNamespace_isSome_iff]
    simp [Value.isAbsent]
  -- Both full forms are parsed, which gives back their parts.
  have parts : ({ parsed with explicit := true } : Identifier) =
      { identifier with explicit := true } := by
    have one := Identifier.parse_full (Identifier.accepted_of_parse read) defaultNs
    rw [full, Identifier.parse_full accepted defaultNs] at one
    exact (Except.ok.inj one).symm
  obtain ⟨ns, path, explicit⟩ := identifier
  obtain ⟨ns', path', explicit'⟩ := parsed
  simp only [Identifier.mk.injEq, and_true] at parts
  obtain ⟨rfl, rfl⟩ := parts
  cases explicit' with
  | true =>
    rw [Identifier.text_explicit] at written
    obtain rfl : explicit = true := spelled.mpr (written ▸ colon_mem_append ns' path')
    exact written.symm
  | false =>
    rw [Identifier.text_implicit] at written
    have bare : ':' ∉ name.toList := written ▸ accepted.path_no_colon
    obtain rfl : explicit = false := by simpa using mt spelled.mp bare
    exact written.symm

end Context

theorem Registry.exists_parsed_of_get {registry : Registry} (keyed : registry.Keyed) {draft : Draft}
    {identifier : Identifier} {name : String} {kind tagType : Value}
    (found : registry.get kind (.text name) tagType = .ok (some (draft.named identifier))) :
    ∃ parsed, Identifier.parse (.text name) registry.defaultNs = .ok parsed ∧
      parsed.full = identifier.full := by
  obtain ⟨key, asked, looked⟩ := bind_eq_ok_iff.mp found
  obtain ⟨full, read, rest⟩ := bind_eq_ok_iff.mp asked
  obtain ⟨⟨⟩, -, rest⟩ := bind_eq_ok_iff.mp rest
  obtain ⟨⟨⟩, -, whole⟩ := bind_eq_ok_iff.mp rest
  obtain rfl := Except.ok.inj whole
  obtain ⟨parsed, reading, same⟩ := map_eq_ok_iff.mp read
  refine ⟨parsed, reading, ?_⟩
  -- The entry that is found is kept under the key of its resource.
  obtain ⟨entry, first, resource⟩ := Option.map_eq_some_iff.mp (Except.ok.inj looked)
  have own := keyed entry (List.mem_of_find?_eq_some first)
  rw [resource] at own
  have key : (draft.addressed identifier).key = entry.1 :=
    Except.ok.inj (((draft.addressed identifier).registry_key
      ((draft.addressed identifier).fullOf_identifier registry)).symm.trans own)
  have agree := List.find?_some first
  simp only [Key.same, Bool.and_eq_true, beq_iff_eq] at agree
  rw [same, ← agree.2, ← key]
  rfl

namespace Session

theorem create_eq_ok {session : Session} {index : Nat} {context : Context}
    (known : session.base index = .ok context) {name : Value} {request : Request}
    {resource : Resource}
    (made : (session.step (.create index name request)).result = .ok (.resource resource)) :
    (session.catalog.registry.create context name request).result = .ok resource := by
  rw [step_create known] at made
  exact Catalog.result_of_record made

theorem defaultNs_of_start {settings : Settings} {session : Session} {log : List LogLine}
    (started : start settings = .ok (session, log)) (steps : List Step) :
    (session.run steps).1.catalog.registry.defaultNs = .text settings.defaultNs := by
  rw [(growsTo_run session steps).defaultNs_eq, eq_of_start started]
  rfl

end Session

/-- In a datapack without a default directory, let the root have made a resource under some name.
    From then on that very name leads the registry to the resource if and only if no slash leads or
    trails in its path or follows another, and these names are the ones that the resource has. -/
theorem found_as_given_iff_tidy (settings : Settings) (session : Session) (log : List LogLine)
    (before after : List Step) (name : String) (request : Request) (resource : Resource)
    (top : settings.defaultDirectory = "")
    (started : Session.start settings = .ok (session, log))
    (made : ((session.run before).1.step (.create 0 (.text name) request)).result =
      .ok (.resource resource)) :
    let present := ((session.run before).1.step (.create 0 (.text name) request)).state
    let later := (present.run after).1.catalog.registry
    (later.get resource.kind (.text name) resource.tagType = .ok (some resource) ↔
      Tidy (splitNamespace name).2) ∧
    (Tidy (splitNamespace name).2 ↔ resource.name = .ok name) := by
  intro present later
  have root := Session.base_root started before
  have empty : settings.root.directory = .empty := by
    rw [Settings.root, top, Directory.empty_eq_ofText]
  have went := Session.create_eq_ok root made
  have grows := Session.growsTo_run present after
  obtain ⟨draft, identifier, resolved, rfl, -, -⟩ := Registry.create_eq_ok went
  have tidy := Context.text_eq_iff_tidy rfl empty resolved
  refine ⟨⟨?_, ?_⟩, ?_⟩
  · intro found
    have here := Session.keyed_run (Session.keyed_of_start started) before
    have keyed : later.Keyed := Session.keyed_run (Session.keyed_step here _) after
    obtain ⟨parsed, read, full⟩ := Registry.exists_parsed_of_get keyed found
    exact tidy.mp (Context.text_eq_of_parse rfl resolved read full)
  · intro plain
    have aligned := Session.defaultNs_of_start started before
    obtain ⟨other, same, found⟩ := Registry.get_created went aligned
    obtain rfl : identifier = other := Identifier.toValue_injective same
    have here := found (.text identifier.text) List.mem_cons_self
    rw [tidy.mpr plain, ← Session.registry_create root] at here
    exact grows.get_eq_some here
  · rw [← tidy, Resource.name, Draft.named, Identifier.plain_toValue]
    simp

theorem tag_found_as_given :
    let session : Session :=
      ⟨⟨"minecraft", ""⟩, .empty (.text "minecraft"), [⟨.absent, .ofText "", .text "minecraft"⟩]⟩
    let request : Request := .tag (.text "blocks") (.list [.text "pack:ore"]) (.bool false)
    let made := session.step (.create 0 (.text "pack:ores/all\n") request)
    ∃ resource, made.result = .ok (.resource resource) ∧
      (made.state.run [.child 0 (.text "ores")]).1.catalog.registry.get resource.kind
        (.text "pack:ores/all\n") resource.tagType = .ok (some resource) := by
  intro session request made
  let resource : Resource :=
    ⟨.kind .tag, .identifier (.text "pack") (.text "ores/all\n") (.bool true),
      .map false [(.text "replace", .bool false), (.text "values", .list [.text "pack:ore"])],
      .tagType .blocks⟩
  have answer : made.result = .ok (.resource resource) := rfl
  obtain ⟨found, -⟩ :=
    found_as_given_iff_tidy ⟨"minecraft", ""⟩ session [.created "minecraft" ""] []
      [.child 0 (.text "ores")] "pack:ores/all\n" request resource rfl rfl answer
  exact ⟨resource, answer, found.mpr (by decide +kernel)⟩

/-- A function is made under a name with two slashes in a row. The registry has it under the name
    with one of them, and nothing under the name that was given. -/
theorem doubled_slash_not_found :
    let session : Session :=
      ⟨⟨"minecraft", ""⟩, .empty (.text "minecraft"), [⟨.absent, .ofText "", .text "minecraft"⟩]⟩
    let made := session.step (.create 0 (.text "a//b") (.function (.list [])))
    let resource : Resource :=
      ⟨.kind .function, .identifier (.text "minecraft") (.text "a/b") (.bool false), .tuple [],
        .absent⟩
    let registry := made.state.catalog.registry
    Session.start ⟨"minecraft", ""⟩ = .ok (session, [.created "minecraft" ""]) ∧
      made.result = .ok (.resource resource) ∧
      registry.get resource.kind (.text "a//b") resource.tagType = .ok none ∧
      registry.get resource.kind (.text "a/b") resource.tagType = .ok (some resource) :=
  ⟨rfl, rfl, rfl, rfl⟩

end DatapackAuthoring
