import DatapackAuthoring.Proofs.Selector.WrittenPairs
import Mathlib.Data.List.Nodup
import Mathlib.Data.List.Perm.Basic
/-!
Arguments of which no two have the same text as their key, as in any map. The order in which they
are written goes by kinds: each special key is a kind, and all other keys together are the last
one. Within a kind nothing is moved, so arguments can be left out, moved past other kinds or
changed under their keys without a change in the order of the rest.
-/
namespace DatapackAuthoring

namespace SpecialKey

/-- The kinds of keys in the order in which they are written; none stands for all other keys. -/
def kinds : List (Option SpecialKey) := all.map some ++ [none]

theorem mem_kinds (kind : Option SpecialKey) : kind ∈ kinds := by
  cases kind with
  | none => simp [kinds]
  | some special => simp [kinds, special.mem_all]

theorem nodup_kinds : kinds.Nodup := by decide

end SpecialKey

namespace Entries

def Apart (entries : Entries) : Prop :=
  (entries.filterMap fun entry => entry.1.asText?).Nodup

def ofKind (entries : Entries) (kind : Option SpecialKey) : Entries :=
  entries.filter fun entry => SpecialKey.ofValue? entry.1 == kind

theorem mem_ofKind_iff {entries : Entries} {kind : Option SpecialKey} {entry : Value × Value} :
    entry ∈ entries.ofKind kind ↔ entry ∈ entries ∧ SpecialKey.ofValue? entry.1 = kind := by
  simp [ofKind]

theorem ofKind_append (entries others : Entries) (kind : Option SpecialKey) :
    (entries ++ others).ofKind kind = entries.ofKind kind ++ others.ofKind kind := by
  simp [ofKind]

theorem inOrder_eq_append (entries : Entries) :
    entries.inOrder =
      (SpecialKey.all.flatMap fun special => (entries.under? special.name).toList) ++
        entries.ofKind none := by
  have others : entries.filter (fun entry => (SpecialKey.ofValue? entry.1).isNone) =
      entries.ofKind none := by
    simp [ofKind]
  rw [inOrder, others, List.filterMap_eq_flatMap_toList]

theorem mem_of_mem_inOrder {entries : Entries} {entry : Value × Value}
    (member : entry ∈ entries.inOrder) : entry ∈ entries := by
  rcases List.mem_append.mp member with early | late
  · obtain ⟨special, -, found⟩ := List.mem_filterMap.mp early
    exact mem_of_under? found
  · exact (List.mem_filter.mp late).1

/-- A change of arguments that keeps the keys, or leaves arguments out. -/
def KeepsKeys (change : Value × Value → Option (Value × Value)) : Prop :=
  ∀ entry changed, change entry = some changed → changed.1 = entry.1

variable {change : Value × Value → Option (Value × Value)}

theorem filter_filterMap (keeps : KeepsKeys change) (asked : Value → Bool) (entries : Entries) :
    (entries.filterMap change).filter (fun entry => asked entry.1) =
      (entries.filter fun entry => asked entry.1).filterMap change := by
  rw [List.filter_filterMap, List.filterMap_filter]
  congr 1
  funext entry
  cases changed : change entry with
  | none => simp
  | some other =>
    have key := keeps entry other changed
    cases known : asked entry.1 <;> simp [Option.filter, key, known]

theorem ofKind_filterMap (keeps : KeepsKeys change) (entries : Entries)
    (kind : Option SpecialKey) :
    ofKind (entries.filterMap change) kind = (entries.ofKind kind).filterMap change :=
  filter_filterMap keeps (fun key => SpecialKey.ofValue? key == kind) entries

namespace Apart

variable {entries others : Entries}

theorem sublist (apart : entries.Apart) (fewer : others.Sublist entries) : others.Apart :=
  List.Nodup.sublist (fewer.filterMap _) apart

theorem perm (apart : entries.Apart) (same : entries.Perm others) : others.Apart :=
  (same.filterMap _).nodup_iff.mp apart

theorem filterMap (apart : entries.Apart) (keeps : KeepsKeys change) :
    Apart (entries.filterMap change) := by
  refine List.Nodup.sublist ?_ apart
  induction entries with
  | nil => simp
  | cons entry rest ih =>
    have later := ih (apart.sublist (List.sublist_cons_self entry rest))
    cases changed : change entry with
    | none =>
      rw [List.filterMap_cons_none changed]
      exact later.trans ((List.sublist_cons_self entry rest).filterMap _)
    | some other =>
      rw [List.filterMap_cons_some changed]
      cases text : entry.1.asText? with
      | none => simpa [keeps entry other changed, text] using later
      | some key => simpa [keeps entry other changed, text] using later

theorem toList_under? (apart : entries.Apart) (key : String) :
    (entries.under? key).toList = entries.filter fun entry => entry.1.asText? == some key := by
  induction entries with
  | nil => rfl
  | cons entry rest ih =>
    have later := ih (apart.sublist (List.sublist_cons_self entry rest))
    by_cases here : entry.1.asText? = some key
    · have none : ∀ other ∈ rest, other.1.asText? ≠ some key := by
        intro other member again
        simp only [Apart, List.filterMap_cons, here, List.nodup_cons] at apart
        exact apart.1 (List.mem_filterMap.mpr ⟨other, member, again⟩)
      have nothing : rest.filter (fun entry => entry.1.asText? == some key) = [] := by
        simpa [List.filter_eq_nil_iff] using none
      simp [under?, here, nothing]
    · simpa [under?, here] using later

theorem toList_under?_name (apart : entries.Apart) (special : SpecialKey) :
    (entries.under? special.name).toList = entries.ofKind (some special) := by
  rw [apart.toList_under?, ofKind]
  congr 1
  funext entry
  rw [Bool.eq_iff_iff, beq_iff_eq, beq_iff_eq, SpecialKey.ofValue?_eq_some_iff]

theorem inOrder_eq (apart : entries.Apart) :
    entries.inOrder = SpecialKey.kinds.flatMap entries.ofKind := by
  rw [inOrder_eq_append, SpecialKey.kinds, List.flatMap_append, List.flatMap_map]
  congr 1
  · exact List.flatMap_congr fun special _ => apart.toList_under?_name special
  · simp

theorem mem_inOrder_iff (apart : entries.Apart) {entry : Value × Value} :
    entry ∈ entries.inOrder ↔ entry ∈ entries := by
  rw [inOrder_eq apart, List.mem_flatMap]
  constructor
  · rintro ⟨kind, -, member⟩
    exact (mem_ofKind_iff.mp member).1
  · intro member
    exact ⟨_, SpecialKey.mem_kinds _, mem_ofKind_iff.mpr ⟨member, rfl⟩⟩

theorem inOrder_eq_nil_iff (apart : entries.Apart) : entries.inOrder = [] ↔ entries = [] := by
  rw [List.eq_nil_iff_forall_not_mem, List.eq_nil_iff_forall_not_mem]
  exact forall_congr' fun entry => not_congr apart.mem_inOrder_iff

theorem under?_filterMap (apart : entries.Apart) (keeps : KeepsKeys change) (key : String) :
    under? (entries.filterMap change) key = (entries.under? key).bind change := by
  have lists : (under? (entries.filterMap change) key).toList =
      ((entries.under? key).bind change).toList := by
    rw [(apart.filterMap keeps).toList_under?, Option.toList_bind, apart.toList_under?]
    have asked := filter_filterMap keeps (fun value => value.asText? == some key) entries
    rw [asked, List.filterMap_eq_flatMap_toList]
    rfl
  simpa using congrArg List.head? lists

theorem inOrder_filterMap (apart : entries.Apart) (keeps : KeepsKeys change) :
    inOrder (entries.filterMap change) = entries.inOrder.filterMap change := by
  rw [inOrder_eq (apart.filterMap keeps), inOrder_eq apart, List.filterMap_flatMap]
  exact List.flatMap_congr fun kind _ => ofKind_filterMap keeps entries kind

theorem inOrder_perm (apart : entries.Apart) (same : entries.Perm others)
    (unmoved : entries.ofKind none = others.ofKind none) : entries.inOrder = others.inOrder := by
  rw [inOrder_eq apart, inOrder_eq (apart.perm same)]
  apply List.flatMap_congr
  rintro (_ | special) -
  · exact unmoved
  · have shuffled : (entries.ofKind (some special)).Perm (others.ofKind (some special)) :=
      same.filter _
    rw [← apart.toList_under?_name, ← (apart.perm same).toList_under?_name] at shuffled ⊢
    cases found : others.under? special.name with
    | none =>
      rw [found] at shuffled
      exact shuffled.eq_nil
    | some entry =>
      rw [found] at shuffled
      exact shuffled.eq_singleton

theorem inOrder_remove {front back : Entries} {entry : Value × Value}
    (apart : Apart (front ++ entry :: back)) :
    ∃ before after, inOrder (front ++ entry :: back) = before ++ entry :: after ∧
      inOrder (front ++ back) = before ++ after := by
  have remaining : Apart (front ++ back) :=
    apart.sublist ((List.Sublist.refl front).append (List.sublist_cons_self entry back))
  let kind := SpecialKey.ofValue? entry.1
  obtain ⟨earlier, later, kinds⟩ := List.append_of_mem (SpecialKey.mem_kinds kind)
  have distinct := SpecialKey.nodup_kinds
  rw [kinds, List.nodup_middle, List.nodup_cons, List.mem_append, not_or] at distinct
  have own : ofKind (front ++ entry :: back) kind =
      front.ofKind kind ++ entry :: back.ofKind kind := by
    simp [ofKind, kind]
  have elsewhere {others : List (Option SpecialKey)} (other : kind ∉ others) :
      others.flatMap (ofKind (front ++ entry :: back)) =
        others.flatMap (ofKind (front ++ back)) := by
    apply List.flatMap_congr
    intro different member
    have unlike : kind ≠ different := fun same => other (same ▸ member)
    simp [ofKind, kind, unlike]
  refine ⟨earlier.flatMap (ofKind (front ++ back)) ++ front.ofKind kind,
    back.ofKind kind ++ later.flatMap (ofKind (front ++ back)), ?_, ?_⟩
  · rw [inOrder_eq apart, kinds, List.flatMap_append, List.flatMap_cons,
      elsewhere distinct.1.1, elsewhere distinct.1.2, own]
    simp
  · rw [inOrder_eq remaining, kinds, List.flatMap_append, List.flatMap_cons, ofKind_append]
    simp

end Apart

end Entries

end DatapackAuthoring
