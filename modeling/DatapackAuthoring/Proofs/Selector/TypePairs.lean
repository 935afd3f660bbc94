import DatapackAuthoring.Proofs.Selector.BuiltSelectors
import DatapackAuthoring.Proofs.Selector.KeyedPairs
/-!
The entity types of a selector, as its promises see them and as its text shows them. The promises
leave out absent types, the text does not: two types of which one is absent are written as a range,
and any other number of types, one of them absent, cannot be written at all.
-/
namespace DatapackAuthoring

/-- Nothing, one text, or a sequence of texts of which some may be absent. -/
inductive Value.IsTypes (value : Value) : Prop where
  | none (absent : value.isAbsent = true)
  | one {s : String} (text : value.asText? = some s)
  | many {items : List Value} (sequence : value.asSequence? = some items)
      (each : ∀ item ∈ items, item.isAbsent = true ∨ ∃ s, item.asText? = some s)

def Value.hasGap (value : Value) : Bool := (value.asSequence?.getD []).any isAbsent

namespace Value

def boundText (value : Value) : String := value.asText?.getD ""

theorem boundForm_eq_boundText {value : Value}
    (item : value.isAbsent = true ∨ ∃ s, value.asText? = some s) :
    value.boundForm value.plain = .ok value.boundText := by
  cases value <;> simp_all [boundForm, boundText, isAbsent, asText?, numberForm, plain]

theorem map_some_filterMap_asText? {items : List Value}
    (texts : ∀ item ∈ items, ∃ s, item.asText? = some s) :
    (items.filterMap asText?).map some = items.map asText? := by
  induction items with
  | nil => rfl
  | cons item rest ih =>
    obtain ⟨s, text⟩ := texts item List.mem_cons_self
    simp [text, ih fun item later => texts item (List.mem_cons_of_mem _ later)]

variable {value : Value} {items : List Value}

theorem genericTexts_of_asSequence? (sequence : value.asSequence? = some items) :
    value.genericTexts =
      if items.all fun item => item.asText?.isSome then .ok (items.filterMap asText?)
      else value.rangeText.map ([·]) := by
  simp only [genericTexts, genericForm, asText?_of_asSequence? sequence, sequence, rangeText]

theorem rangeText_eq_ok {text : String} (sequence : value.asSequence? = some items)
    (written : value.rangeText = .ok text) :
    ∃ low high lowText highText, items = [low, high] ∧ low.boundForm low.plain = .ok lowText ∧
      high.boundForm high.plain = .ok highText ∧ text = lowText ++ ".." ++ highText := by
  simp only [rangeText, rangeForm, sequence, itemForms_eq_map, Option.getD_some] at written
  match items with
  | [low, high] =>
    obtain ⟨lowText, lower, written⟩ := bind_eq_ok_iff.mp written
    obtain ⟨highText, upper, written⟩ := bind_eq_ok_iff.mp written
    exact ⟨low, high, lowText, highText, rfl, lower, upper, (Except.ok.inj written).symm⟩
  | [] | [_] | _ :: _ :: _ :: _ =>
    obtain ⟨shown, -, written⟩ := bind_eq_ok_iff.mp written
    cases written

variable {texts : List String}

theorem genericTexts_of_no_gap (types : value.IsTypes) (present : value.isAbsent = false)
    (whole : value.hasGap = false) (written : value.genericTexts = .ok texts) :
    texts.map some = value.asMany.map asText? := by
  cases types with
  | none absent =>
    rw [present] at absent
    cases absent
  | @one s text =>
    have single : texts = [s] := by
      simp only [genericTexts, genericForm, text] at written
      exact (Except.ok.inj written).symm
    rw [single, asMany_of_single (asSequence?_of_asText? text) present, List.map_singleton,
      List.map_singleton, text]
  | @many items sequence each =>
    simp only [hasGap, sequence, Option.getD_some, List.any_eq_false, Bool.not_eq_true] at whole
    have all : ∀ item ∈ items, ∃ s, item.asText? = some s := by
      intro item member
      rcases each item member with absent | text
      · rw [whole item member] at absent
        cases absent
      · exact text
    have kept : value.asMany = items := by
      rw [asMany_of_asSequence? sequence, List.filter_eq_self]
      intro item member
      simp [whole item member]
    have list : texts = items.filterMap asText? := by
      rw [genericTexts_of_asSequence? sequence, if_pos] at written
      · exact (Except.ok.inj written).symm
      · simpa [List.all_eq_true, Option.isSome_iff_exists] using all
    rw [kept, list, map_some_filterMap_asText? all]

theorem genericTexts_of_gap (types : value.IsTypes) (gap : value.hasGap = true)
    (written : value.genericTexts = .ok texts) :
    ∃ low high, value.asSequence? = some [low, high] ∧
      texts = [low.boundText ++ ".." ++ high.boundText] := by
  cases types with
  | none absent =>
    rw [eq_absent_of_isAbsent absent] at gap
    cases gap
  | one text =>
    rw [hasGap, asSequence?_of_asText? text] at gap
    cases gap
  | @many items sequence each =>
    obtain ⟨missing, member, absent⟩ : ∃ item ∈ items, item.isAbsent = true := by
      simpa [hasGap, sequence, List.any_eq_true] using gap
    rw [genericTexts_of_asSequence? sequence, if_neg] at written
    · obtain ⟨text, ranged, rfl⟩ := map_eq_ok_iff.mp written
      obtain ⟨low, high, lowText, highText, rfl, lower, upper, rfl⟩ :=
        rangeText_eq_ok sequence ranged
      rw [boundForm_eq_boundText (each low (by simp))] at lower
      rw [boundForm_eq_boundText (each high (by simp))] at upper
      cases lower
      cases upper
      exact ⟨low, high, sequence, rfl⟩
    · intro all
      have text := List.all_eq_true.mp all missing member
      rw [eq_absent_of_isAbsent absent] at text
      cases text

end Value

namespace Spec

variable {spec : Spec}

theorem isTypes_of_players
    (texts : ∀ type ∈ spec.types, ∃ word ∈ playerTypes, type.asText? = some word) :
    (spec.arguments.get "type").IsTypes := by
  rw [types] at texts
  cases sequence : (spec.arguments.get "type").asSequence? with
  | some items =>
    rw [Value.asMany_of_asSequence? sequence] at texts
    refine .many sequence fun item member => ?_
    cases absent : item.isAbsent with
    | true => exact .inl rfl
    | false =>
      obtain ⟨word, -, text⟩ := texts item (List.mem_filter.mpr ⟨member, by simp [absent]⟩)
      exact .inr ⟨word, text⟩
  | none =>
    cases absent : (spec.arguments.get "type").isAbsent with
    | true => exact .none absent
    | false =>
      rw [Value.asMany_of_single sequence absent] at texts
      obtain ⟨word, -, text⟩ := texts _ List.mem_cons_self
      exact .one text

end Spec

theorem range_ne_types {low high : Value} {types : List Value}
    (among : ∀ type ∈ types, type = low ∨ type = high) :
    [some (low.boundText ++ ".." ++ high.boundText)] ≠ types.map Value.asText? := by
  intro same
  have member : some (low.boundText ++ ".." ++ high.boundText) ∈ types.map Value.asText? :=
    same ▸ List.mem_cons_self
  obtain ⟨type, inside, text⟩ := List.mem_map.mp member
  have length : type.boundText.length = (low.boundText ++ ".." ++ high.boundText).length := by
    rw [Value.boundText, text, Option.getD_some]
  have dots : "..".length = 2 := rfl
  simp only [String.length_append] at length
  rcases among type inside with rfl | rfl
  · omega
  · omega

theorem range_not_mem_playerTypes (low high : String) : low ++ ".." ++ high ∉ playerTypes := by
  intro member
  have dotted : '.' ∈ (low ++ ".." ++ high).toList := by simp
  have plain : ∀ type ∈ playerTypes, '.' ∉ type.toList := by decide
  exact plain _ member dotted

namespace Spec

section

variable {spec : Spec} {pairs : List (String × String)}
variable (built : spec.Built) (named : spec.arguments.Named) (written : spec.pairs = .ok pairs)
include built named written

theorem typeTexts_or :
    (spec.arguments.get "type" = .absent ∧ textsUnder "type" pairs = []) ∨
      ((spec.arguments.get "type").isAbsent = false ∧
        (spec.arguments.get "type").genericTexts = .ok (textsUnder "type" pairs)) := by
  rw [Entries.get]
  obtain ⟨missing, nothing⟩ | ⟨value, given, texts⟩ :=
    genericTexts_or "type" named written rfl
  · rw [missing]
    exact .inl ⟨rfl, nothing⟩
  · rw [given]
    exact .inr ⟨built.isAbsent_get? given, texts⟩

theorem typeTexts_of_no_gap (types : (spec.arguments.get "type").IsTypes)
    (whole : (spec.arguments.get "type").hasGap = false) :
    (textsUnder "type" pairs).map some = spec.types.map Value.asText? := by
  rcases typeTexts_or built named written with ⟨absent, nothing⟩ | ⟨present, texts⟩
  · rw [nothing, Spec.types, absent]
    rfl
  · exact Value.genericTexts_of_no_gap types present whole texts

theorem typeTexts_of_gap (types : (spec.arguments.get "type").IsTypes)
    (gap : (spec.arguments.get "type").hasGap = true) :
    ∃ low high, (spec.arguments.get "type").asSequence? = some [low, high] ∧
      textsUnder "type" pairs = [low.boundText ++ ".." ++ high.boundText] := by
  rcases typeTexts_or built named written with ⟨absent, -⟩ | ⟨-, texts⟩
  · rw [absent] at gap
    cases gap
  · exact Value.genericTexts_of_gap types gap texts

theorem typeTexts_eq_types_iff (types : (spec.arguments.get "type").IsTypes) :
    (textsUnder "type" pairs).map some = spec.types.map Value.asText? ↔
      (spec.arguments.get "type").hasGap = false := by
  constructor
  · intro same
    rw [← Bool.not_eq_true]
    intro gap
    obtain ⟨low, high, sequence, range⟩ := typeTexts_of_gap built named written types gap
    have among : ∀ type ∈ spec.types, type = low ∨ type = high := by
      intro type member
      rw [Spec.types, Value.asMany_of_asSequence? sequence] at member
      simpa using (List.mem_filter.mp member).1
    rw [range] at same
    exact range_ne_types among same
  · exact typeTexts_of_no_gap built named written types

end

theorem BuiltForPlayers.typeTexts_iff {spec : Spec} {pairs : List (String × String)}
    (built : spec.BuiltForPlayers) (named : spec.arguments.Named)
    (written : spec.pairs = .ok pairs) :
    (∀ text ∈ textsUnder "type" pairs, text ∈ playerTypes) ↔
      (spec.arguments.get "type").hasGap = false := by
  have types := isTypes_of_players built.players
  constructor
  · intro player
    rw [← Bool.not_eq_true]
    intro gap
    obtain ⟨low, high, -, range⟩ := typeTexts_of_gap built.built named written types gap
    exact range_not_mem_playerTypes _ _ (player _ (range ▸ List.mem_cons_self))
  · intro whole text member
    have same := typeTexts_of_no_gap built.built named written types whole
    obtain ⟨type, inside, read⟩ := List.mem_map.mp (same ▸ List.mem_map_of_mem member)
    obtain ⟨word, player, known⟩ := built.players type inside
    obtain rfl : word = text := Option.some.inj (known.symm.trans read)
    exact player

end Spec

/-- The pairs of the type key hold the types that the promises look at, one pair each, exactly if
no type is absent; two types with one absent make a range instead. The text of a selector built for
players alone names no other types under the same condition, and under no other. -/
theorem type_pairs_iff_no_gap (spec : Spec) (pairs : List (String × String)) (built : spec.Built)
    (named : spec.arguments.Named) (written : spec.pairs = .ok pairs) :
    ((spec.arguments.get "type").IsTypes →
      ((textsUnder "type" pairs).map some = spec.types.map Value.asText? ↔
        (spec.arguments.get "type").hasGap = false) ∧
      ((spec.arguments.get "type").hasGap = true →
        ∃ low high, (spec.arguments.get "type").asSequence? = some [low, high] ∧
          textsUnder "type" pairs = [low.boundText ++ ".." ++ high.boundText])) ∧
    (spec.BuiltForPlayers →
      ((∀ text ∈ textsUnder "type" pairs, text ∈ playerTypes) ↔
        (spec.arguments.get "type").hasGap = false)) := by
  constructor
  · intro types
    exact ⟨Spec.typeTexts_eq_types_iff built named written types,
      Spec.typeTexts_of_gap built named written types⟩
  · intro players
    exact players.typeTexts_iff named written

theorem listed_types_shown :
    let spec : Spec := ⟨.free "@a",
      [(.text "type", .tuple [.text "player", .text "minecraft:player"])], .bool false, .bool true⟩
    let pairs := [("type", "player"), ("type", "minecraft:player")]
    spec.pairs = .ok pairs ∧
      (textsUnder "type" pairs).map some = spec.types.map Value.asText? ∧
      ∀ text ∈ textsUnder "type" pairs, text ∈ playerTypes := by
  intro spec pairs
  have players : spec.BuiltForPlayers :=
    @Spec.BuiltForPlayers.player spec (.target .allPlayers)
      [(.text "type", .list [.text "player", .text "minecraft:player"])] rfl
  have named : spec.arguments.Named := ⟨by simp [spec, Value.asText?], by decide⟩
  have written : spec.pairs = .ok pairs := rfl
  have types : (spec.arguments.get "type").IsTypes := by
    apply Value.IsTypes.many rfl
    simp [Value.asText?]
  obtain ⟨listed, only⟩ := type_pairs_iff_no_gap spec pairs players.built named written
  exact ⟨written, (listed types).1.mpr rfl, (only players).mpr rfl⟩

theorem player_or_none_makes_range :
    let spec : Spec := ⟨.free "@a", [(.text "type", .tuple [.text "player", .absent])],
      .bool false, .bool true⟩
    spec.BuiltForPlayers ∧ spec.arguments.Named ∧ spec.types.map Value.asText? = [some "player"] ∧
      spec.pairs = .ok [("type", "player..")] ∧ "player.." ∉ playerTypes ∧
      spec.encode = .ok "@a[type=player..]" := by
  intro spec
  have built : spec.BuiltForPlayers :=
    @Spec.BuiltForPlayers.direct spec (.text "@a")
      (.map false [(.text "type", .tuple [.text "player", .absent])]) (.bool false) (.bool true)
      rfl rfl
  exact ⟨built, ⟨by simp [spec, Value.asText?], by decide⟩, rfl, rfl, by decide, rfl⟩

end DatapackAuthoring
