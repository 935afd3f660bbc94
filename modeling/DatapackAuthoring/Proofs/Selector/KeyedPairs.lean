import DatapackAuthoring.Proofs.Selector.WrittenPairs
import Mathlib.Data.List.Nodup
import Mathlib.Data.List.Perm.Basic

namespace DatapackAuthoring

open Argument

structure Entries.Named (entries : Entries) : Prop where
  text : ∀ entry ∈ entries, ∃ s, entry.1.asText? = some s
  distinct : (entries.map fun entry => entry.1.asText?).Nodup

def textsUnder (key : String) (pairs : List (String × String)) : List String :=
  (pairs.filter fun pair => pair.1 == key).map Prod.snd

theorem textsUnder_append (key : String) (pairs others : List (String × String)) :
    textsUnder key (pairs ++ others) = textsUnder key pairs ++ textsUnder key others := by
  simp [textsUnder]

theorem textsUnder_map_same (key : String) (texts : List String) :
    textsUnder key (texts.map (key, ·)) = texts := by
  simp [textsUnder, List.filter_map, Function.comp_def]

theorem mem_textsUnder_iff {key text : String} {pairs : List (String × String)} :
    text ∈ textsUnder key pairs ↔ (key, text) ∈ pairs := by
  simp [textsUnder]

theorem textsUnder_eq_nil {key : String} {pairs : List (String × String)}
    (other : ∀ pair ∈ pairs, pair.1 ≠ key) : textsUnder key pairs = [] := by
  simpa [textsUnder] using fun key' text member => other (key', text) member

namespace Entries.Named

variable {entries : Entries} {entry : Value × Value} {key : String}

theorem under?_eq_some_iff (named : entries.Named) :
    entries.under? key = some entry ↔ entry ∈ entries ∧ entry.1.asText? = some key := by
  constructor
  · intro found
    exact ⟨mem_of_under? found, asText?_of_under? found⟩
  · rintro ⟨member, text⟩
    cases found : entries.under? key with
    | none =>
      have missing := List.find?_eq_none.mp found entry member
      simp [text] at missing
    | some first =>
      have same := List.inj_on_of_nodup_map named.distinct (mem_of_under? found) member
        ((asText?_of_under? found).trans text.symm)
      rw [same]

theorem mem_inOrder_iff (named : entries.Named) :
    entry ∈ entries.inOrder ↔ entry ∈ entries := by
  rw [inOrder, List.mem_append, List.mem_filterMap, List.mem_filter]
  constructor
  · rintro (⟨special, -, found⟩ | ⟨member, -⟩)
    · exact mem_of_under? found
    · exact member
  · intro member
    cases known : SpecialKey.ofValue? entry.1 with
    | none => exact .inr ⟨member, rfl⟩
    | some special =>
      have text := SpecialKey.ofValue?_eq_some_iff.mp known
      exact .inl ⟨special, special.mem_all, named.under?_eq_some_iff.mpr ⟨member, text⟩⟩

theorem nodup_inOrder (named : entries.Named) : entries.inOrder.Nodup := by
  have known {special : SpecialKey} {entry : Value × Value}
      (found : entries.under? special.name = some entry) :
      SpecialKey.ofValue? entry.1 = some special :=
    SpecialKey.ofValue?_eq_some_iff.mpr (asText?_of_under? found)
  -- No entry is found under two special keys, nor under one of them and among the others.
  refine List.nodup_append.mpr ⟨?_, ?_, ?_⟩
  · apply List.Nodup.filterMap
    · intro special other entry found again
      exact Option.some.inj ((known found).symm.trans (known again))
    · decide
  · exact (List.Nodup.of_map _ named.distinct).filter _
  · rintro entry early other late rfl
    obtain ⟨special, -, found⟩ := List.mem_filterMap.mp early
    have unknown := (List.mem_filter.mp late).2
    rw [known found] at unknown
    cases unknown

theorem inOrder_perm (named : entries.Named) : entries.inOrder.Perm entries :=
  (List.perm_ext_iff_of_nodup named.nodup_inOrder (List.Nodup.of_map _ named.distinct)).mpr
    fun _ => named.mem_inOrder_iff

theorem perm (named : entries.Named) {others : Entries} (same : entries.Perm others) :
    others.Named :=
  ⟨fun entry member => named.text entry (same.mem_iff.mpr member),
   (same.map _).nodup_iff.mp named.distinct⟩

theorem textsUnder_of_unused (named : entries.Named) {pairs : List (String × String)}
    (all : WritesAll (entries.map ofEntry) pairs)
    (unused : ∀ entry ∈ entries, entry.1.asText? ≠ some key) : textsUnder key pairs = [] := by
  apply textsUnder_eq_nil
  intro pair member same
  obtain ⟨argument, among, label, -⟩ := exists_of_mem_writesAll all member
  obtain ⟨entry, inside, rfl⟩ := List.mem_map.mp among
  obtain ⟨s, text⟩ := named.text entry inside
  have labelled : (ofEntry entry).label = .ok s := Value.plain_of_asText? text
  obtain rfl : s = pair.1 := Except.ok.inj (labelled.symm.trans label)
  exact unused entry inside (same ▸ text)

theorem texts_of_writesAll (named : entries.Named) {pairs : List (String × String)}
    (all : WritesAll (entries.map ofEntry) pairs) (member : entry ∈ entries)
    (text : entry.1.asText? = some key) :
    (ofEntry entry).texts = .ok (textsUnder key pairs) := by
  induction entries generalizing pairs with
  | nil => cases member
  | cons first rest ih =>
    have later : Named rest :=
      ⟨fun entry inside => named.text entry (List.mem_cons_of_mem _ inside),
       (List.nodup_cons.mp named.distinct).2⟩
    have apart : ∀ other ∈ rest, other.1.asText? ≠ first.1.asText? := by
      intro other inside same
      exact (List.nodup_cons.mp named.distinct).1 (List.mem_map.mpr ⟨other, inside, same⟩)
    obtain ⟨group, others, writes, tail, rfl⟩ : ∃ group others, (ofEntry first).Writes group ∧
        WritesAll (rest.map ofEntry) others ∧ pairs = group ++ others := by
      cases all with
      | cons writes tail => exact ⟨_, _, writes, tail, rfl⟩
    obtain ⟨name, named⟩ := named.text first List.mem_cons_self
    obtain ⟨texts, written, rfl⟩ := (writes_iff_of_label (Value.plain_of_asText? named)).mp writes
    -- The first group holds one name alone, which is no name of the others.
    rw [textsUnder_append]
    rcases List.mem_cons.mp member with rfl | inside
    · obtain rfl : name = key := Option.some.inj (named.symm.trans text)
      rw [textsUnder_map_same, later.textsUnder_of_unused tail (named ▸ apart), List.append_nil]
      exact written
    · have different : name ≠ key := by
        intro same
        exact apart entry inside (text.trans (same ▸ named.symm))
      have elsewhere : textsUnder key (texts.map (name, ·)) = [] :=
        textsUnder_eq_nil (by simp [different])
      rw [elsewhere, List.nil_append]
      exact ih later tail inside

end Entries.Named

namespace Spec

variable {spec : Spec} {pairs : List (String × String)} {key : String}

theorem textsUnder_eq_nil (named : spec.arguments.Named) (written : spec.pairs = .ok pairs)
    (missing : spec.arguments.get? key = none) : textsUnder key pairs = [] := by
  have order := named.inOrder_perm
  apply (named.perm order.symm).textsUnder_of_unused (Spec.pairs_eq_ok_iff.mp written)
  intro entry member text
  have found := named.under?_eq_some_iff.mpr ⟨order.mem_iff.mp member, text⟩
  rw [Entries.get?_eq, found] at missing
  cases missing

theorem textsUnder_eq (named : spec.arguments.Named) (written : spec.pairs = .ok pairs)
    {value : Value} (given : spec.arguments.get? key = some value) :
    value.forms.underKey (SpecialKey.ofValue? (.text key)) value = .ok (textsUnder key pairs) := by
  rw [Entries.get?_eq] at given
  obtain ⟨entry, found, rfl⟩ := Option.map_eq_some_iff.mp given
  have order := named.inOrder_perm
  have text := Entries.asText?_of_under? found
  have texts := (named.perm order.symm).texts_of_writesAll (Spec.pairs_eq_ok_iff.mp written)
    (order.mem_iff.mpr (Entries.mem_of_under? found)) text
  have same : SpecialKey.ofValue? entry.1 = SpecialKey.ofValue? (.text key) := by
    rw [SpecialKey.ofValue?, SpecialKey.ofValue?, text]
    rfl
  rw [ofEntry, same] at texts
  exact texts

theorem genericTexts_or (key : String) (named : spec.arguments.Named) (written : spec.pairs = .ok pairs)
    (generic : SpecialKey.ofValue? (.text key) = none) :
    (spec.arguments.get? key = none ∧ textsUnder key pairs = []) ∨
      ∃ value, spec.arguments.get? key = some value ∧
        value.genericTexts = .ok (textsUnder key pairs) := by
  cases given : spec.arguments.get? key with
  | none => exact .inl ⟨rfl, textsUnder_eq_nil named written given⟩
  | some value =>
    have texts := textsUnder_eq named written given
    rw [generic] at texts
    exact .inr ⟨value, rfl, texts⟩

end Spec

end DatapackAuthoring
