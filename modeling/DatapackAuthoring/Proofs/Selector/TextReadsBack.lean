import DatapackAuthoring.Proofs.Selector.WrittenPairs
import DatapackAuthoring.Proofs.Selector.WrittenReadings
/-!
The text of a selector says no less than its pairs. The scores and the advancements come first,
each as one group; every other pair is a key with a text. Texts that hold none of the separating
characters can all be told apart again, however deep the advancements go.
-/
namespace DatapackAuthoring

open Argument

/-- The keys whose texts are groups. -/
def IsGrouped (key : Value) : Prop :=
  SpecialKey.ofValue? key = some .score ∨ SpecialKey.ofValue? key = some .advancements
deriving Decidable

namespace Entries

def ungrouped (entries : Entries) : Entries :=
  ([SpecialKey.tag, .predicate, .team].filterMap fun special => entries.under? special.name) ++
    entries.filter fun entry => (SpecialKey.ofValue? entry.1).isNone

theorem inOrder_eq_groups_append (entries : Entries) :
    entries.inOrder = (entries.under? SpecialKey.score.name).toList ++
      ((entries.under? SpecialKey.advancements.name).toList ++ entries.ungrouped) := by
  rw [inOrder, ungrouped, SpecialKey.all, List.filterMap_cons, List.filterMap_cons]
  cases entries.under? SpecialKey.score.name <;>
    cases entries.under? SpecialKey.advancements.name <;> rfl

theorem of_mem_ungrouped {entries : Entries} {entry : Value × Value}
    (member : entry ∈ entries.ungrouped) : entry ∈ entries ∧ ¬ IsGrouped entry.1 := by
  rcases List.mem_append.mp member with early | late
  · obtain ⟨special, among, found⟩ := List.mem_filterMap.mp early
    have known := SpecialKey.ofValue?_eq_some_iff.mpr (asText?_of_under? found)
    refine ⟨mem_of_under? found, ?_⟩
    rw [IsGrouped, known]
    revert among
    cases special <;> simp
  · obtain ⟨inside, none⟩ := List.mem_filter.mp late
    rw [Option.isNone_iff_eq_none] at none
    exact ⟨inside, by simp [IsGrouped, none]⟩

end Entries

namespace Spec

def scores (spec : Spec) : Except Fault (List (String × String)) :=
  let value := spec.arguments.get "score"
  if value.isAbsent then .ok [] else value.scores

def progress (spec : Spec) : Except Fault (List (String × Progress)) :=
  let value := spec.arguments.get "advancements"
  if value.isAbsent then .ok [] else value.progress

structure Reads (spec : Spec) (reading : Reading) : Prop where
  target : spec.target.text = reading.target
  pairs : spec.pairs = .ok reading.pairs
  scores : spec.scores = .ok reading.scores
  progress : spec.progress = .ok reading.progress

/-- Every separating character in the text is one the writer put there. -/
structure Legible (spec : Spec) : Prop where
  target : '[' ∉ spec.target.text.toList
  keys : ∀ entry ∈ spec.arguments, ∀ key, entry.1.plain = .ok key → Unmarked key
  scores : ∀ scores, spec.scores = .ok scores →
    ∀ score ∈ scores, Unmarked score.1 ∧ Unmarked score.2
  progress : ∀ parts, spec.progress = .ok parts →
    ∀ name ∈ Progress.partNames parts, Unmarked name
  texts : ∀ entry ∈ spec.arguments, ¬ IsGrouped entry.1 → ∀ texts,
    (Argument.ofEntry entry).texts = .ok texts → ∀ text ∈ texts, Unmarked text

instance (spec : Spec) : Decidable spec.Legible :=
  decidable_of_iff (_ ∧ _ ∧ _ ∧ _ ∧ _)
    ⟨fun ⟨target, keys, scores, progress, texts⟩ => ⟨target, keys, scores, progress, texts⟩,
     fun legible => ⟨legible.target, legible.keys, legible.scores, legible.progress,
       legible.texts⟩⟩

variable {spec : Spec}

theorem writesAll_grouped_iff {α : Type} {entries : Entries} {result : Except Fault α}
    (special : SpecialKey) (empty : α) (render : α → List String) (nothing : render empty = [])
    (form : (entries.get special.name).forms.underKey (some special) (entries.get special.name) =
      if (entries.get special.name).isAbsent then .ok []
      else result.map fun found => groupForm (render found))
    {pairs : List (String × String)} :
    WritesAll ((entries.under? special.name).toList.map Argument.ofEntry) pairs ↔
      ∃ found, (if (entries.get special.name).isAbsent then .ok empty else result) = .ok found ∧
        pairs = Reading.groupPairs special.name (render found) := by
  rw [writesAll_special_iff, form]
  cases (entries.get special.name).isAbsent with
  | true => simp [Reading.groupPairs, groupForm, nothing]
  | false => exact exists_map_eq_ok_iff

theorem exists_reads {pairs : List (String × String)} (written : spec.pairs = .ok pairs) :
    ∃ reading, spec.Reads reading ∧
      WritesAll (spec.arguments.ungrouped.map Argument.ofEntry) reading.words := by
  have all := Spec.pairs_eq_ok_iff.mp written
  rw [Entries.inOrder_eq_groups_append, List.map_append, List.map_append] at all
  obtain ⟨first, later, scoreGroup, all, whole⟩ := writesAll_append_iff.mp all
  obtain ⟨second, words, progressGroup, others, rfl⟩ := writesAll_append_iff.mp all
  obtain ⟨scores, scored, rfl⟩ :=
    (writesAll_grouped_iff .score [] Reading.scoreTexts rfl rfl).mp scoreGroup
  obtain ⟨progress, made, rfl⟩ :=
    (writesAll_grouped_iff .advancements [] Progress.partTexts rfl rfl).mp progressGroup
  let reading : Reading := ⟨spec.target.text, scores, progress, words⟩
  have same : pairs = reading.pairs := whole
  exact ⟨reading, ⟨rfl, same ▸ written, scored, made⟩, others⟩

theorem Legible.unmarked_words (legible : spec.Legible) {words : List (String × String)}
    (others : WritesAll (spec.arguments.ungrouped.map Argument.ofEntry) words) :
    ∀ pair ∈ words, Unmarked pair.1 ∧ Unmarked pair.2 := by
  intro pair member
  obtain ⟨argument, among, label, texts, written, inside⟩ := exists_of_mem_writesAll others member
  obtain ⟨entry, ungrouped, rfl⟩ := List.mem_map.mp among
  obtain ⟨given, alone⟩ := Entries.of_mem_ungrouped ungrouped
  exact ⟨legible.keys entry given pair.1 label,
    legible.texts entry given alone texts written pair.2 inside⟩

theorem Legible.reading (legible : spec.Legible) {reading : Reading} (reads : spec.Reads reading)
    (words : ∀ pair ∈ reading.words, Unmarked pair.1 ∧ Unmarked pair.2) : reading.Legible := by
  have scores := Tree.unmarked_map_ofPair (legible.scores reading.scores reads.scores)
  have progress := Tree.unmarked_ofParts reading.progress
    (legible.progress reading.progress reads.progress)
  refine ⟨reads.target ▸ legible.target, ?_⟩
  intro text member
  rw [Reading.parts, Tree.partLeaves_append, Tree.partLeaves_append] at member
  rcases List.mem_append.mp member with score | member
  · exact Tree.unmarked_grouped (by decide) scores text score
  · rcases List.mem_append.mp member with advancement | word
    · exact Tree.unmarked_grouped (by decide) progress text advancement
    · exact Tree.unmarked_map_ofPair words text word

theorem Reads.text {reading : Reading} (reads : spec.Reads reading) :
    spec.encode = .ok reading.text := by
  have wording (target : Wording) (pairs : List (String × String)) :
      (selectorWording target pairs).text = (selectorWording (.free target.text) pairs).text := by
    cases pairs <;> rfl
  rw [encode, Spec.wording, reads.pairs, Reading.text, ← reads.target, ← wording]
  rfl

theorem Legible.exists_ofText? (legible : spec.Legible) {text : String}
    (encoded : spec.encode = .ok text) :
    ∃ reading, Reading.ofText? text = some reading ∧ spec.Reads reading := by
  obtain ⟨wording, composed, -⟩ := map_eq_ok_iff.mp encoded
  obtain ⟨pairs, written, -⟩ := bind_eq_ok_iff.mp composed
  obtain ⟨reading, reads, others⟩ := exists_reads written
  have back := Reading.ofText?_text reading
    (legible.reading reads (legible.unmarked_words others))
  have same : text = reading.text := Except.ok.inj (encoded.symm.trans reads.text)
  exact ⟨reading, same ▸ back, reads⟩

end Spec

/-- The text of a selector can be read in one way only. Whatever is encoded from a legible selector
gives back the target, every pair in its order, the scores, and the advancements at every depth; so
two legible selectors with one text have one target and the same pairs. -/
theorem selector_text_reads_back :
    (∀ (spec : Spec) (text : String), spec.encode = .ok text → spec.Legible →
      ∃ reading, Reading.ofText? text = some reading ∧ spec.Reads reading) ∧
    (∀ (spec other : Spec) (text : String), spec.encode = .ok text → other.encode = .ok text →
      spec.Legible → other.Legible →
        spec.target.text = other.target.text ∧ spec.pairs = other.pairs) := by
  constructor
  · intro spec text encoded legible
    exact legible.exists_ofText? encoded
  · intro spec other text encoded alike legible clear
    obtain ⟨reading, found, reads⟩ := legible.exists_ofText? encoded
    obtain ⟨again, refound, rereads⟩ := clear.exists_ofText? alike
    obtain rfl : reading = again := Option.some.inj (found.symm.trans refound)
    exact ⟨reads.target.trans rereads.target.symm, reads.pairs.trans rereads.pairs.symm⟩

theorem nested_groups_read_back :
    let text := "@e[score={kills=1.., deaths=0}, " ++
      "advancements={story={iron={deep=false}}, root=true}, " ++
      "tag=boss, tag=old, team=, type=cow, limit=3]"
    let spec : Spec :=
      { target := .glyph .allEntities
        arguments :=
          [(.text "type", .tuple [.text "cow"]),
           (.text "advancements", .map true [
             (.text "story", .map true [(.text "iron", .map true [(.text "deep", .bool false)])]),
             (.text "end", .absent), (.text "root", .bool true)]),
           (.text "limit", .int 3), (.text "team", .bool false),
           (.text "score", .map true [
             (.text "kills", .tuple [.int 1, .absent]), (.text "deaths", .int 0)]),
           (.text "tag", .tuple [.text "boss", .absent, .text "old"])]
        singleResultOnly := .bool false
        playersOnly := .bool false }
    let other : Spec :=
      { target := .free "@e"
        arguments :=
          [(.text "score", .map true [(.text "kills", .text "1.."), (.text "deaths", .int 0)]),
           (.text "tag", .tuple [.text "boss", .text "old"]), (.text "team", .text ""),
           (.text "type", .text "cow"), (.text "limit", .int 3),
           (.text "advancements", .map true [
             (.text "story", .map true [(.text "iron", .map true [(.text "deep", .int 0)])]),
             (.text "root", .int 1)])]
        singleResultOnly := .bool false
        playersOnly := .bool true }
    (∃ reading, Reading.ofText? text = some reading ∧ spec.Reads reading) ∧
      spec.target.text = other.target.text ∧ spec.pairs = other.pairs := by
  intro text spec other
  have encoded : spec.encode = .ok text := rfl
  have alike : other.encode = .ok text := rfl
  have legible : spec.Legible := by decide +kernel
  have clear : other.Legible := by decide +kernel
  exact ⟨selector_text_reads_back.1 spec text encoded legible,
    selector_text_reads_back.2 spec other text encoded alike legible clear⟩

end DatapackAuthoring
