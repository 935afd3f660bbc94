import DatapackAuthoring.Proofs.Outcome
import DatapackAuthoring.Proofs.ValueShapes
import DatapackAuthoring.Selector.Spec
/-!
The pairs of a selector, argument by argument. All texts are written before the first key is, and
this decides which fault is reported; where nothing fails, the pairs are those of one argument
after the other, each text under the key of its argument.
-/
namespace DatapackAuthoring

namespace Argument

/-- What an argument writes by itself: its texts, each with its key. -/
def Writes (argument : Argument) (pairs : List (String × String)) : Prop :=
  ∃ texts, argument.texts = .ok texts ∧ argument.labelled texts = .ok pairs

inductive WritesAll : List Argument → List (String × String) → Prop where
  | nil : WritesAll [] []
  | cons {argument : Argument} {rest : List Argument} {group pairs : List (String × String)}
      (first : argument.Writes group) (others : WritesAll rest pairs) :
      WritesAll (argument :: rest) (group ++ pairs)

theorem writesAll_iff {ordered : List Argument} {pairs : List (String × String)} :
    (∃ texts groups, ordered.mapM Argument.texts = .ok texts ∧
      (ordered.zip texts).mapM (fun (argument, texts) => argument.labelled texts) = .ok groups ∧
      groups.flatten = pairs) ↔ WritesAll ordered pairs := by
  induction ordered generalizing pairs with
  | nil =>
    constructor
    · rintro ⟨texts, groups, -, labelled, rfl⟩
      obtain rfl : [] = groups := Except.ok.inj labelled
      exact .nil
    · rintro ⟨⟩
      exact ⟨[], [], rfl, rfl, rfl⟩
  | cons argument rest ih =>
    constructor
    · rintro ⟨texts, groups, written, labelled, rfl⟩
      obtain ⟨own, others, first, later, rfl⟩ := mapM_cons_eq_ok_iff.mp written
      obtain ⟨group, more, label, labels, rfl⟩ := mapM_cons_eq_ok_iff.mp labelled
      exact .cons ⟨own, first, label⟩ (ih.mp ⟨others, more, later, labels, rfl⟩)
    · rintro (_ | ⟨⟨own, first, label⟩, tail⟩)
      obtain ⟨others, more, later, labels, rfl⟩ := ih.mpr tail
      exact ⟨own :: others, _ :: more, mapM_cons_eq_ok_iff.mpr ⟨own, others, first, later, rfl⟩,
        mapM_cons_eq_ok_iff.mpr ⟨_, more, label, labels, rfl⟩, rfl⟩

theorem pairs_eq_ok_iff {arguments : List Argument} {pairs : List (String × String)} :
    Argument.pairs arguments = .ok pairs ↔ WritesAll (inOrder arguments) pairs := by
  rw [← writesAll_iff]
  simp only [Argument.pairs, bind_eq_ok_iff, pure_eq_ok, Except.ok.injEq]
  constructor
  · rintro ⟨texts, written, groups, labelled, flat⟩
    exact ⟨texts, groups, written, labelled, flat⟩
  · rintro ⟨texts, groups, written, labelled, flat⟩
    exact ⟨texts, written, groups, labelled, flat⟩

theorem writesAll_append_iff {before after : List Argument} {pairs : List (String × String)} :
    WritesAll (before ++ after) pairs ↔
      ∃ early late, WritesAll before early ∧ WritesAll after late ∧ pairs = early ++ late := by
  induction before generalizing pairs with
  | nil =>
    constructor
    · intro all
      exact ⟨[], pairs, .nil, all, rfl⟩
    · rintro ⟨early, late, ⟨⟩, all, rfl⟩
      exact all
  | cons argument rest ih =>
    constructor
    · rintro (_ | ⟨first, others⟩)
      obtain ⟨early, late, front, back, rfl⟩ := ih.mp others
      exact ⟨_, late, .cons first front, back, (List.append_assoc ..).symm⟩
    · rintro ⟨early, late, _ | ⟨first, front⟩, back, rfl⟩
      rw [List.append_assoc]
      exact .cons first (ih.mpr ⟨_, late, front, back, rfl⟩)

variable {argument : Argument} {pairs : List (String × String)}

theorem labelled_of_label {key : String} (label : argument.label = .ok key)
    (texts : List String) : argument.labelled texts = .ok (texts.map (key, ·)) := by
  unfold labelled
  induction texts with
  | nil => rfl
  | cons text rest ih =>
    exact mapM_cons_eq_ok_iff.mpr ⟨(key, text), rest.map (key, ·), by simp [label], ih, rfl⟩

/-- An argument with no text does not need a key. -/
theorem Writes.eq_nil_or (writes : argument.Writes pairs) :
    pairs = [] ∨ ∃ key texts, argument.label = .ok key ∧ argument.texts = .ok texts ∧
      pairs = texts.map (key, ·) := by
  obtain ⟨texts, written, labelled⟩ := writes
  cases label : argument.label with
  | ok key =>
    rw [labelled_of_label label] at labelled
    exact .inr ⟨key, texts, rfl, written, (Except.ok.inj labelled).symm⟩
  | error fault =>
    cases texts with
    | nil => exact .inl (Except.ok.inj labelled).symm
    | cons text rest =>
      obtain ⟨pair, others, failed, -⟩ := mapM_cons_eq_ok_iff.mp labelled
      simp [label] at failed

theorem writes_iff_of_label {key : String} (label : argument.label = .ok key) :
    argument.Writes pairs ↔ ∃ texts, argument.texts = .ok texts ∧ pairs = texts.map (key, ·) := by
  simp only [Writes, labelled_of_label label, Except.ok.injEq, eq_comm]

theorem writesAll_singleton_iff : WritesAll [argument] pairs ↔ argument.Writes pairs := by
  constructor
  · rintro (_ | ⟨first, _ | _⟩)
    rwa [List.append_nil]
  · intro first
    have all := WritesAll.cons first .nil
    rwa [List.append_nil] at all

theorem exists_of_mem_writesAll {arguments : List Argument} (all : WritesAll arguments pairs)
    {pair : String × String} (member : pair ∈ pairs) :
    ∃ argument ∈ arguments, argument.label = .ok pair.1 ∧
      ∃ texts, argument.texts = .ok texts ∧ pair.2 ∈ texts := by
  induction all with
  | nil => cases member
  | @cons argument rest group others first tail ih =>
    rcases List.mem_append.mp member with early | late
    · rcases first.eq_nil_or with rfl | ⟨key, texts, label, written, rfl⟩
      · cases early
      · obtain ⟨text, inside, rfl⟩ := List.mem_map.mp early
        exact ⟨argument, List.mem_cons_self, label, texts, written, inside⟩
    · obtain ⟨other, later, found⟩ := ih late
      exact ⟨other, List.mem_cons_of_mem _ later, found⟩

end Argument

theorem SpecialKey.ofValue?_eq_some_iff {key : Value} {special : SpecialKey} :
    SpecialKey.ofValue? key = some special ↔ key.asText? = some special.name := by
  constructor
  · intro found
    have named := List.find?_some found
    exact eq_of_beq named
  · intro named
    cases special <;> simp [ofValue?, all, named, name]

namespace Entries

def under? (entries : Entries) (key : String) : Option (Value × Value) :=
  entries.find? fun entry => entry.1.asText? == some key

theorem get?_eq (entries : Entries) (key : String) :
    entries.get? key = (entries.under? key).map Prod.snd := rfl

theorem asText?_of_under? {entries : Entries} {key : String} {entry : Value × Value}
    (found : entries.under? key = some entry) : entry.1.asText? = some key := by
  have named := List.find?_some found
  exact eq_of_beq named

theorem mem_of_under? {entries : Entries} {key : String} {entry : Value × Value}
    (found : entries.under? key = some entry) : entry ∈ entries :=
  List.mem_of_find?_eq_some found

def inOrder (entries : Entries) : Entries :=
  (SpecialKey.all.filterMap fun special => entries.under? special.name) ++
    entries.filter fun entry => (SpecialKey.ofValue? entry.1).isNone

end Entries

theorem Argument.inOrder_written (entries : Entries) :
    inOrder (Value.written entries) = entries.inOrder.map Argument.ofEntry := by
  have special (key : SpecialKey) :
      ((Argument.special · == some key) ∘ Argument.ofEntry) =
        fun entry => entry.1.asText? == some key.name := by
    funext entry
    exact Bool.eq_iff_iff.mpr (by simp [Argument.ofEntry, SpecialKey.ofValue?_eq_some_iff])
  rw [Value.written_eq_map, inOrder, Entries.inOrder, List.map_append, List.map_filterMap,
    List.filter_map]
  simp only [List.find?_map, special]
  rfl

theorem Argument.writesAll_special_iff {entries : Entries} {special : SpecialKey}
    {pairs : List (String × String)} :
    WritesAll ((entries.under? special.name).toList.map ofEntry) pairs ↔
      ∃ texts, (entries.get special.name).forms.underKey (some special)
          (entries.get special.name) = .ok texts ∧ pairs = texts.map (special.name, ·) := by
  rw [Entries.get, Entries.get?_eq]
  cases found : entries.under? special.name with
  | none =>
    have nothing : WritesAll [] pairs ↔ pairs = [] :=
      ⟨by rintro ⟨⟩; rfl, by rintro rfl; exact .nil⟩
    simp [nothing, Forms.underKey, Value.isAbsent]
  | some entry =>
    have named : entry.1.asText? = some special.name := Entries.asText?_of_under? found
    have label : (ofEntry entry).label = .ok special.name := Value.plain_of_asText? named
    have texts : (ofEntry entry).texts = entry.2.forms.underKey (some special) entry.2 := by
      rw [← SpecialKey.ofValue?_eq_some_iff.mpr named, ofEntry]
    simp [writesAll_singleton_iff, writes_iff_of_label label, texts]

theorem Spec.pairs_eq_ok_iff {spec : Spec} {pairs : List (String × String)} :
    spec.pairs = .ok pairs ↔
      Argument.WritesAll (spec.arguments.inOrder.map Argument.ofEntry) pairs := by
  rw [Spec.pairs, Argument.pairs_eq_ok_iff, Argument.inOrder_written]

end DatapackAuthoring
