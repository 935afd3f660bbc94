import DatapackAuthoring.Proofs.Selector.ApartKeys

namespace DatapackAuthoring

open Argument

def Argument.own (argument : Argument) : Except Fault (List (String × String)) := do
  let texts ← argument.texts
  argument.labelled texts

theorem Argument.own_eq_ok_iff {argument : Argument} {pairs : List (String × String)} :
    argument.own = .ok pairs ↔ argument.Writes pairs := bind_eq_ok_iff

theorem Argument.own_of_label {argument : Argument} {key : String}
    (label : argument.label = .ok key) :
    argument.own = argument.texts.map fun texts => texts.map (key, ·) := by
  unfold own
  cases argument.texts with
  | error fault => rfl
  | ok texts => exact labelled_of_label label texts

namespace Entries

def collected : Entries → Except Fault (List (String × String))
  | [] => .ok []
  | entry :: rest => do
    let own ← (ofEntry entry).own
    let others ← collected rest
    return own ++ others

variable {entries others : Entries} {pairs : List (String × String)}

theorem collected_eq_ok_iff :
    entries.collected = .ok pairs ↔ WritesAll (entries.map ofEntry) pairs := by
  induction entries generalizing pairs with
  | nil =>
    constructor
    · intro done
      obtain rfl : [] = pairs := Except.ok.inj done
      exact .nil
    · rintro ⟨⟩
      rfl
  | cons entry rest ih =>
    constructor
    · intro done
      obtain ⟨own, first, done⟩ := bind_eq_ok_iff.mp done
      obtain ⟨more, later, whole⟩ := bind_eq_ok_iff.mp done
      obtain rfl : own ++ more = pairs := Except.ok.inj whole
      exact .cons (own_eq_ok_iff.mp first) (ih.mp later)
    · rintro (_ | ⟨first, later⟩)
      simp [collected, own_eq_ok_iff.mpr first, ih.mpr later]

theorem collected_singleton (entry : Value × Value) :
    collected [entry] = (ofEntry entry).own := by
  cases own : (ofEntry entry).own <;> simp [collected, own]

theorem collected_append_eq_ok_iff :
    collected (entries ++ others) = .ok pairs ↔
      ∃ early late, entries.collected = .ok early ∧ others.collected = .ok late ∧
        pairs = early ++ late := by
  simp only [collected_eq_ok_iff, List.map_append, writesAll_append_iff]

theorem collected_cons_eq_ok_iff {entry : Value × Value} :
    collected (entry :: entries) = .ok pairs ↔
      ∃ own others, (ofEntry entry).own = .ok own ∧ entries.collected = .ok others ∧
        pairs = own ++ others := by
  simp only [collected, bind_eq_ok_iff, pure_eq_ok, Except.ok.injEq]
  constructor
  · rintro ⟨own, first, others, later, rfl⟩
    exact ⟨own, others, first, later, rfl⟩
  · rintro ⟨own, others, first, later, rfl⟩
    exact ⟨own, first, others, later, rfl⟩

end Entries

namespace Value

theorem zip_map_plain (items : List Value) :
    items.zip (items.map plain) = items.map fun item => (item, item.plain) := by
  induction items with
  | nil => rfl
  | cons item rest ih => simp [ih]

theorem manyForm_eq_mapM (value : Value) :
    value.manyForm value.plain value.itemForms = value.asMany.mapM plain := by
  cases sequence : value.asSequence? with
  | some items =>
    rw [asMany_of_asSequence? sequence, manyForm, itemForms_eq_map, sequence]
    simp only [Option.getD_some, zip_map_plain, List.filter_map, List.mapM_map]
    rfl
  | none =>
    rw [manyForm, sequence]
    cases missing : value.isAbsent with
    | true =>
      rw [eq_absent_of_isAbsent missing]
      rfl
    | false =>
      rw [asMany_of_single sequence missing]
      cases written : value.plain <;> simp [written, Except.map]

theorem underKey_many {special : SpecialKey} (many : special = .tag ∨ special = .predicate)
    (value : Value) :
    value.forms.underKey (some special) value = value.asMany.mapM plain := by
  rw [← manyForm_eq_mapM]
  cases missing : value.isAbsent with
  | true =>
    rw [eq_absent_of_isAbsent missing]
    rcases many with rfl | rfl <;> rfl
  | false =>
    simp only [Forms.underKey, missing, Bool.false_eq_true, if_false]
    rcases many with rfl | rfl <;> rfl

end Value

namespace Spec

variable {spec one other : Spec} {pairs : List (String × String)}

def pairsUnder (spec : Spec) (special : SpecialKey) : Except Fault (List (String × String)) :=
  Entries.collected (spec.arguments.under? special.name).toList

theorem pairs_eq_ok_iff_collected :
    spec.pairs = .ok pairs ↔ spec.arguments.inOrder.collected = .ok pairs := by
  rw [pairs_eq_ok_iff, Entries.collected_eq_ok_iff]

theorem pairs_eq_ok_iff_by_key :
    spec.pairs = .ok pairs ↔
      ∃ score advancements tag predicate team others,
        spec.pairsUnder .score = .ok score ∧ spec.pairsUnder .advancements = .ok advancements ∧
        spec.pairsUnder .tag = .ok tag ∧ spec.pairsUnder .predicate = .ok predicate ∧
        spec.pairsUnder .team = .ok team ∧
        (spec.arguments.ofKind none).collected = .ok others ∧
        pairs = score ++ (advancements ++ (tag ++ (predicate ++ (team ++ others)))) := by
  rw [pairs_eq_ok_iff_collected, Entries.inOrder_eq_append]
  simp only [SpecialKey.all, List.flatMap_cons, List.flatMap_nil, List.append_nil,
    List.append_assoc, Entries.collected_append_eq_ok_iff, pairsUnder]
  constructor
  · rintro ⟨score, _, first, ⟨advancements, _, second, ⟨tag, _, third, ⟨predicate, _, fourth,
      ⟨team, others, fifth, last, rfl⟩, rfl⟩, rfl⟩, rfl⟩, rfl⟩
    exact ⟨score, advancements, tag, predicate, team, others, first, second, third, fourth, fifth,
      last, rfl⟩
  · rintro ⟨score, advancements, tag, predicate, team, others, first, second, third, fourth,
      fifth, last, rfl⟩
    exact ⟨score, _, first, ⟨advancements, _, second, ⟨tag, _, third, ⟨predicate, _, fourth,
      ⟨team, others, fifth, last, rfl⟩, rfl⟩, rfl⟩, rfl⟩, rfl⟩

theorem encode_eq (spec : Spec) :
    spec.encode =
      spec.pairs.map fun pairs => (selectorWording (.free spec.target.text) pairs).text := by
  rw [encode, wording]
  cases spec.pairs with
  | error fault => rfl
  | ok pairs => cases pairs <;> rfl

theorem encode_perm (apart : one.arguments.Apart) (target : one.target.text = other.target.text)
    (same : one.arguments.Perm other.arguments)
    (unmoved : one.arguments.ofKind none = other.arguments.ofKind none) :
    one.encode = other.encode := by
  have order := apart.inOrder_perm same unmoved
  rw [encode_eq, encode_eq, target, Spec.pairs, Spec.pairs, Argument.pairs, Argument.pairs,
    inOrder_written, inOrder_written, order]

theorem pairs_remove {front back : Entries} {entry : Value × Value}
    (given : spec.arguments = front ++ entry :: back) (apart : spec.arguments.Apart)
    (written : spec.pairs = .ok pairs) :
    ∃ before own after, (ofEntry entry).own = .ok own ∧ pairs = before ++ (own ++ after) ∧
      Spec.pairs { spec with arguments := front ++ back } = .ok (before ++ after) := by
  rw [given] at apart
  obtain ⟨early, late, whole, rest⟩ := apart.inOrder_remove
  rw [pairs_eq_ok_iff_collected, given, whole, Entries.collected_append_eq_ok_iff] at written
  obtain ⟨before, _, first, written, rfl⟩ := written
  obtain ⟨own, after, here, last, rfl⟩ := Entries.collected_cons_eq_ok_iff.mp written
  refine ⟨before, own, after, here, rfl, ?_⟩
  rw [pairs_eq_ok_iff_collected]
  simp only [rest, Entries.collected_append_eq_ok_iff]
  exact ⟨before, after, first, last, rfl⟩

theorem pairsUnder_many {special : SpecialKey} (many : special = .tag ∨ special = .predicate) :
    spec.pairsUnder special =
      ((spec.arguments.get special.name).asMany.mapM Value.plain).map fun texts =>
        texts.map (special.name, ·) := by
  rw [pairsUnder, Entries.get, Entries.get?_eq]
  cases found : spec.arguments.under? special.name with
  | none => rfl
  | some entry =>
    have named := Entries.asText?_of_under? found
    have label : (ofEntry entry).label = .ok special.name := Value.plain_of_asText? named
    have texts : (ofEntry entry).texts = entry.2.asMany.mapM Value.plain := by
      simp only [ofEntry, SpecialKey.ofValue?_eq_some_iff.mpr named]
      exact Value.underKey_many many entry.2
    rw [Option.toList_some, Entries.collected_singleton, own_of_label label, texts]
    rfl

end Spec

theorem Argument.own_of_texts {key value : Value} {name : String} {items : List Value}
    {texts : List String} (plain : key.plain = .ok name)
    (other : SpecialKey.ofValue? key = none) (sequence : value.asSequence? = some items)
    (each : items.map Value.asText? = texts.map some) :
    (ofEntry (key, value)).own = .ok (texts.map (name, ·)) := by
  have all : ∀ item ∈ items, item.asText?.isSome = true := by
    intro item member
    have found : item.asText? ∈ texts.map some := each ▸ List.mem_map_of_mem member
    obtain ⟨text, -, same⟩ := List.mem_map.mp found
    rw [← same]
    rfl
  have kept : items.filterMap Value.asText? = texts := by
    have unwrapped := congrArg (List.filterMap id) each
    simpa [List.filterMap_map] using unwrapped
  have written : (ofEntry (key, value)).texts = .ok texts := by
    simp only [ofEntry, other, Forms.underKey, Value.genericForm,
      Value.asText?_of_asSequence? sequence, sequence]
    rw [if_pos (List.all_eq_true.mpr all), kept]
  have label : (ofEntry (key, value)).label = .ok name := plain
  rw [own_of_label label, written]
  rfl

/-- The pairs of a selector are those of its special keys, in their fixed order, and then those of
all other keys in the order given, and an argument writes the same wherever it stands. So the text
does not tell where the special keys were given; an argument that is left out takes its own pairs
with it and no more; and where a key has many values, there is one pair for each of them, in their
order. -/
theorem pairs_follow_their_keys :
    (∀ (spec : Spec) (pairs : List (String × String)), spec.pairs = .ok pairs ↔
      ∃ score advancements tag predicate team others,
        spec.pairsUnder .score = .ok score ∧ spec.pairsUnder .advancements = .ok advancements ∧
        spec.pairsUnder .tag = .ok tag ∧ spec.pairsUnder .predicate = .ok predicate ∧
        spec.pairsUnder .team = .ok team ∧
        (spec.arguments.ofKind none).collected = .ok others ∧
        pairs = score ++ (advancements ++ (tag ++ (predicate ++ (team ++ others))))) ∧
    (∀ one other : Spec, one.arguments.Apart → one.target.text = other.target.text →
      one.arguments.Perm other.arguments →
      one.arguments.ofKind none = other.arguments.ofKind none → one.encode = other.encode) ∧
    (∀ (spec : Spec) (front back : Entries) (entry : Value × Value)
        (pairs : List (String × String)), spec.arguments = front ++ entry :: back →
      spec.arguments.Apart → spec.pairs = .ok pairs →
      ∃ before own after, (ofEntry entry).own = .ok own ∧ pairs = before ++ (own ++ after) ∧
        Spec.pairs { spec with arguments := front ++ back } = .ok (before ++ after)) ∧
    (∀ (spec : Spec) (special : SpecialKey), special = .tag ∨ special = .predicate →
      spec.pairsUnder special =
        ((spec.arguments.get special.name).asMany.mapM Value.plain).map fun texts =>
          texts.map (special.name, ·)) ∧
    (∀ (key value : Value) (name : String) (items : List Value) (texts : List String),
      key.plain = .ok name → SpecialKey.ofValue? key = none → value.asSequence? = some items →
      items.map Value.asText? = texts.map some →
        (ofEntry (key, value)).own = .ok (texts.map (name, ·))) := by
  refine ⟨?_, ?_, ?_, ?_, ?_⟩
  · intro spec pairs
    exact Spec.pairs_eq_ok_iff_by_key
  · intro one other apart target same unmoved
    exact Spec.encode_perm apart target same unmoved
  · intro spec front back entry pairs given apart written
    exact Spec.pairs_remove given apart written
  · intro spec special many
    exact Spec.pairsUnder_many many
  · intro key value name items texts plain other sequence each
    exact own_of_texts plain other sequence each

theorem tags_move_and_leave :
    let types : Value × Value := (.text "type", .tuple [.text "cow", .text "pig"])
    let limit : Value × Value := (.text "limit", .int 3)
    let tags : Value × Value := (.text "tag", .tuple [.text "b", .absent, .text "a"])
    let spec : Spec := ⟨.glyph .allEntities, [types, limit, tags], .bool false, .bool false⟩
    let moved : Spec := ⟨.free "@e", [tags, types, limit], .bool false, .bool false⟩
    let pairs := [("tag", "b"), ("tag", "a"), ("type", "cow"), ("type", "pig"), ("limit", "3")]
    spec.arguments.Apart ∧ spec.pairs = .ok pairs ∧ spec.encode = moved.encode ∧
      spec.pairsUnder .tag = .ok [("tag", "b"), ("tag", "a")] ∧
      (ofEntry types).own = .ok [("type", "cow"), ("type", "pig")] ∧
      ∃ before own after, (ofEntry tags).own = .ok own ∧ pairs = before ++ (own ++ after) ∧
        Spec.pairs { spec with arguments := [types, limit] } = .ok (before ++ after) := by
  intro types limit tags spec moved pairs
  have apart : spec.arguments.Apart := by
    show List.Nodup _
    decide
  have written : spec.pairs = .ok pairs := rfl
  obtain ⟨-, alike, removed, many, listed⟩ := pairs_follow_their_keys
  have shuffled : spec.arguments.Perm moved.arguments :=
    List.perm_append_singleton tags [types, limit]
  have same := alike spec moved apart rfl shuffled rfl
  have own := listed types.1 types.2 "type" [.text "cow", .text "pig"] ["cow", "pig"] rfl rfl rfl
    rfl
  exact ⟨apart, written, same, many spec .tag (.inl rfl), own,
    removed spec [types, limit] [] tags pairs rfl apart written⟩

end DatapackAuthoring
