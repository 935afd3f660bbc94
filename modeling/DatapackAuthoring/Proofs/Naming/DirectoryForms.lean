import DatapackAuthoring.Proofs.Naming.NestedContexts

namespace DatapackAuthoring

namespace Directory

theorem pieces_empty : pieces "" = [] := rfl

theorem pieces_intercalate (texts : List String) :
    pieces ("/".intercalate texts) = texts.flatMap pieces := by
  induction texts with
  | nil => simp [pieces_empty]
  | cons first rest ih =>
    cases rest with
    | nil => simp
    | cons second others =>
      rw [List.flatMap_cons, String.intercalate_cons_cons, pieces_append_slash, ih]

theorem ofText_intercalate (texts : List String) :
    ofText ("/".intercalate texts) = nested (texts.map ofText) := by
  apply eq_of_segments
  rw [segments_ofText, pieces_intercalate, segments_nested_ofText]

end Directory

theorem Value.mapM_directory_of_texts {parts : List Value} {texts : List String}
    (known : parts.map Value.asText? = texts.map some) :
    parts.mapM Value.directory = .ok (texts.map Directory.ofText) := by
  induction parts generalizing texts with
  | nil =>
    cases texts with
    | nil => rfl
    | cons text others => cases known
  | cons part rest ih =>
    cases texts with
    | nil => cases known
    | cons text others =>
      simp only [List.map_cons, List.cons.injEq] at known
      rw [mapM_cons_eq_ok_iff]
      exact ⟨_, _, Value.directory_of_asText? known.1, ih known.2, rfl⟩

namespace Context

theorem make_of_text {directory : Value} {text : String} (known : directory.asText? = some text)
    (ns defaultNs : Value) :
    make ns directory defaultNs = .ok ⟨ns, .ofText text, defaultNs⟩ := by
  have present := Value.isAbsent_of_asText? known
  simp [make, directoryOf, present, known]

theorem make_of_parts {directory : Value} {parts : List Value} {texts : List String}
    (sequence : directory.asSequence? = some parts)
    (known : parts.map Value.asText? = texts.map some) (ns defaultNs : Value) :
    make ns directory defaultNs = .ok ⟨ns, .nested (texts.map .ofText), defaultNs⟩ := by
  have present : directory.isAbsent = false := by
    cases directory with
    | absent => cases sequence
    | _ => rfl
  have walked : directory.elements = .ok parts := by
    cases directory with
    | list items | tuple items =>
      rw [← Option.some.inj sequence]
      rfl
    | _ => cases sequence
  simp [make, directoryOf, present, Value.asText?_of_asSequence? sequence, walked,
    Value.mapM_directory_of_texts known]

theorem nest_empty {parts : List Value} {texts : List String}
    (known : parts.map Value.asText? = texts.map some) (ns defaultNs : Value) :
    nest ⟨ns, .empty, defaultNs⟩ parts = .ok ⟨ns, .nested (texts.map .ofText), defaultNs⟩ := by
  rw [nest_of_texts known, under, Directory.empty_append]

theorem child_of_blank {directory : Value} (blank : directory.isTruthy = false)
    (context : Context) : context.child directory = .ok context := by
  have none : directory.directory = .ok .empty := by simp [Value.directory, blank]
  rw [child, none, ok_bind, Directory.append_empty]
  rfl

theorem nest_pair {first second : Value} {text further : String}
    (one : first.asText? = some text) (two : second.asText? = some further) (context : Context) :
    context.nest [first, second] = context.child (.text (text ++ "/" ++ further)) := by
  rw [child_of_text (Value.asText?_text _), Directory.ofText_append_slash]
  simp only [nest, child_of_text one, child_of_text two, ok_bind, Directory.append_assoc]

theorem kept_of_child {context below : Context} {directory : Value}
    (made : context.child directory = .ok below) :
    below.ns = context.ns ∧ below.defaultNs = context.defaultNs := by
  obtain ⟨_, -, same⟩ := bind_eq_ok_iff.mp made
  rw [← Except.ok.inj same]
  exact ⟨rfl, rfl⟩

end Context

/-- Parts as a sequence, the same parts joined by slashes, and a chain of children of the parts make
the same context. Its segments are the nonempty pieces of the parts between slashes, none of them
with a slash in it. A context is what its own segments and the text of its directory make; a child
of a child is a child of the two texts joined, and the empty and the absent directory make no
difference. No child changes the namespaces. -/
theorem directories_have_one_form :
    (∀ (parts : List Value) (texts : List String) (ns defaultNs : Value),
      parts.map Value.asText? = texts.map some →
      ∃ context : Context, context.ns = ns ∧ context.defaultNs = defaultNs ∧
        Context.make ns (.list parts) defaultNs = .ok context ∧
        Context.make ns (.tuple parts) defaultNs = .ok context ∧
        Context.make ns (.text ("/".intercalate texts)) defaultNs = .ok context ∧
        Context.nest ⟨ns, .empty, defaultNs⟩ parts = .ok context ∧
        context.directory.segments.map String.toList = texts.flatMap slashPieces ∧
        ∀ segment ∈ context.directory.segments, segment ≠ "" ∧ '/' ∉ segment.toList) ∧
    (∀ context : Context,
      Context.make context.ns (.tuple (context.directory.segments.map .text)) context.defaultNs =
        .ok context ∧
      Context.make context.ns (.text context.directory.text) context.defaultNs = .ok context ∧
      context.child (.text "") = .ok context ∧ context.child .absent = .ok context ∧
      ∀ (directory : Value) (below : Context), context.child directory = .ok below →
        below.ns = context.ns ∧ below.defaultNs = context.defaultNs) ∧
    (∀ (context : Context) (first second : Value) (text further : String),
      first.asText? = some text → second.asText? = some further →
        ∃ deep, context.nest [first, second] = .ok deep ∧
          context.child (.text (text ++ "/" ++ further)) = .ok deep) := by
  refine ⟨?_, ?_, ?_⟩
  · intro parts texts ns defaultNs known
    let directory := Directory.nested (texts.map .ofText)
    have joined : Context.make ns (.text ("/".intercalate texts)) defaultNs =
        .ok ⟨ns, directory, defaultNs⟩ := by
      rw [Context.make_of_text (Value.asText?_text _), Directory.ofText_intercalate]
    have segments : directory.segments.map String.toList = texts.flatMap slashPieces := by
      rw [Directory.segments_nested_ofText, List.map_flatMap]
      simp only [map_pieces]
    refine ⟨⟨ns, directory, defaultNs⟩, rfl, rfl, Context.make_of_parts rfl known ns defaultNs,
      Context.make_of_parts rfl known ns defaultNs, joined,
      Context.nest_empty known ns defaultNs, segments, ?_⟩
    intro segment member
    obtain ⟨filled, whole⟩ := directory.clean segment member
    exact ⟨fun blank => filled (by rw [blank]; rfl), whole⟩
  · intro context
    have own : (context.directory.segments.map Value.text).map Value.asText? =
        context.directory.segments.map some := by simp [Function.comp_def]
    have segments : Directory.nested (context.directory.segments.map .ofText) =
        context.directory := by
      rw [← Directory.ofText_intercalate]
      exact context.directory.ofText_text
    refine ⟨?_, ?_, Context.child_of_blank rfl context, Context.child_of_blank rfl context, ?_⟩
    · rw [Context.make_of_parts rfl own, segments]
    · rw [Context.make_of_text (Value.asText?_text _), Directory.ofText_text]
    · intro directory below made
      exact Context.kept_of_child made
  · intro context first second text further one two
    have nested := Context.nest_pair one two context
    rw [Context.child_of_text (Value.asText?_text _)] at nested ⊢
    exact ⟨_, nested, rfl⟩

theorem slashes_leave_no_trace :
    let parts : List Value := [.text "/a//b", .text "", .text "/", .text "c/"]
    let context : Context := ⟨.text "pack", .ofText "a/b/c", .text "minecraft"⟩
    Context.make (.text "pack") (.list parts) (.text "minecraft") = .ok context ∧
      Context.make (.text "pack") (.text "/a//b////c/") (.text "minecraft") = .ok context ∧
      Context.nest ⟨.text "pack", .empty, .text "minecraft"⟩ parts = .ok context ∧
      Context.make (.text "pack") (.tuple [.text "a", .text "b", .text "c"]) (.text "minecraft") =
        .ok context ∧
      context.nest [.text "d/", .text "/e"] = context.child (.text "d///e") := by
  intro parts context
  obtain ⟨forms, rebuilt, chained⟩ := directories_have_one_form
  obtain ⟨made, ns, defaultNs, listed, -, joined, nested, -⟩ :=
    forms parts ["/a//b", "", "/", "c/"] (.text "pack") (.text "minecraft") rfl
  have same : made = context := by
    have known : Context.make (.text "pack") (.list parts) (.text "minecraft") = .ok context := by
      rfl
    exact Except.ok.inj (listed.symm.trans known)
  rw [same] at listed joined nested
  obtain ⟨deep, below, child⟩ := chained context (.text "d/") (.text "/e") "d/" "/e" rfl rfl
  exact ⟨listed, joined, nested, (rebuilt context).1, below.trans child.symm⟩

end DatapackAuthoring
