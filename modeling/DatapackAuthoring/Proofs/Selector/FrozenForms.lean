import DatapackAuthoring.Proofs.Selector.BuiltSelectors
import DatapackAuthoring.Proofs.Selector.PairsByKey
/-!
Construction as a normal form. A selector holds a frozen copy of its arguments, in which lists have
become tuples and absent values are gone. The copy of a copy is the same again, and two sets of
arguments have one copy exactly if nothing but lists, frozen maps and absent values tells them
apart. Whatever is read of a selector is read of the copy.
-/
namespace DatapackAuthoring

namespace Value

/- Sequences hold items and maps hold entries, so what follows is about all three together. -/

mutual

theorem frozen_frozen (value : Value) : value.frozen.frozen = value.frozen := by
  cases value with
  | list items | tuple items => simp only [frozen, frozenItems_frozenItems items]
  | map sealed entries => simp only [frozen, frozenEntries_frozenEntries entries]
  | _ => simp only [frozen]

theorem frozenItems_frozenItems (items : List Value) :
    frozenItems (frozenItems items) = frozenItems items := by
  cases items with
  | nil => rfl
  | cons item rest =>
    simp only [frozenItems, frozen_frozen item, frozenItems_frozenItems rest]

theorem frozenEntries_frozenEntries (entries : List (Value × Value)) :
    frozenEntries (frozenEntries entries) = frozenEntries entries := by
  cases entries with
  | nil => rfl
  | cons entry rest =>
    obtain ⟨key, value⟩ := entry
    simp only [frozenEntries, frozen_frozen value, frozenEntries_frozenEntries rest]

end

theorem asSequence?_frozen (value : Value) :
    value.frozen.asSequence? = value.asSequence?.map frozenItems := by
  cases value <;> simp [frozen, asSequence?]

theorem asMap?_frozen (value : Value) :
    value.frozen.asMap? = value.asMap?.map frozenEntries := by
  cases value <;> simp [frozen, asMap?]

theorem frozen_of_asSequence? {value : Value} {items : List Value}
    (sequence : value.asSequence? = some items) : value.frozen = tuple (frozenItems items) := by
  cases value with
  | list own | tuple own => rw [← Option.some.inj sequence, frozen]
  | _ => cases sequence

theorem frozen_of_asMap? {value : Value} {entries : Entries}
    (sealed : value.asMap? = some entries) : value.frozen = map true (frozenEntries entries) := by
  cases value with
  | map own inside => rw [← Option.some.inj sealed, frozen]
  | _ => cases sealed

theorem frozen_of_single {value : Value} (single : value.asSequence? = none)
    (plain : value.asMap? = none) : value.frozen = value := by
  cases value with
  | list items | tuple items => cases single
  | map sealed entries => cases plain
  | _ => simp only [frozen]

mutual

/-- At no depth does anything tell the two apart but which sequences are lists and which maps are
    frozen. -/
inductive Alike : Value → Value → Prop where
  | same (value : Value) : Alike value value
  | sequence {value other : Value} {items others : List Value}
      (left : value.asSequence? = some items) (right : other.asSequence? = some others)
      (each : AlikeItems items others) : Alike value other
  | map {value other : Value} {entries others : List (Value × Value)}
      (left : value.asMap? = some entries) (right : other.asMap? = some others)
      (each : AlikeEntries entries others) : Alike value other

inductive AlikeItems : List Value → List Value → Prop where
  | nil : AlikeItems [] []
  | cons {item other : Value} {rest more : List Value} (first : Alike item other)
      (later : AlikeItems rest more) : AlikeItems (item :: rest) (other :: more)

inductive AlikeEntries : List (Value × Value) → List (Value × Value) → Prop where
  | nil : AlikeEntries [] []
  | cons (key : Value) {value other : Value} {rest more : List (Value × Value)}
      (first : Alike value other) (later : AlikeEntries rest more) :
      AlikeEntries ((key, value) :: rest) ((key, other) :: more)

end

mutual

theorem Alike.frozen_eq : ∀ {value other : Value}, Alike value other →
    value.frozen = other.frozen
  | _, _, .same value => rfl
  | _, _, .sequence left right each => by
    rw [frozen_of_asSequence? left, frozen_of_asSequence? right, each.frozenItems_eq]
  | _, _, .map left right each => by
    rw [frozen_of_asMap? left, frozen_of_asMap? right, each.frozenEntries_eq]

theorem AlikeItems.frozenItems_eq : ∀ {items others : List Value}, AlikeItems items others →
    frozenItems items = frozenItems others
  | _, _, .nil => rfl
  | _, _, .cons first later => by
    rw [frozenItems, frozenItems, first.frozen_eq, later.frozenItems_eq]

theorem AlikeEntries.frozenEntries_eq : ∀ {entries others : List (Value × Value)},
    AlikeEntries entries others → frozenEntries entries = frozenEntries others
  | _, _, .nil => rfl
  | _, _, .cons key first later => by
    rw [frozenEntries, frozenEntries, first.frozen_eq, later.frozenEntries_eq]

end

section

variable {value other : Value} (copies : value.frozen = other.frozen)
include copies

theorem exists_items_of_frozen_eq {items : List Value} (left : value.asSequence? = some items) :
    ∃ others, other.asSequence? = some others ∧ frozenItems items = frozenItems others := by
  have images := congrArg asSequence? copies
  rw [asSequence?_frozen, asSequence?_frozen, left] at images
  obtain ⟨others, right, same⟩ := Option.map_eq_some_iff.mp images.symm
  exact ⟨others, right, same.symm⟩

theorem exists_entries_of_frozen_eq {entries : Entries} (left : value.asMap? = some entries) :
    ∃ others, other.asMap? = some others ∧ frozenEntries entries = frozenEntries others := by
  have images := congrArg asMap? copies
  rw [asMap?_frozen, asMap?_frozen, left] at images
  obtain ⟨others, right, same⟩ := Option.map_eq_some_iff.mp images.symm
  exact ⟨others, right, same.symm⟩

theorem eq_of_frozen_eq (single : value.asSequence? = none) (plain : value.asMap? = none) :
    value = other := by
  have sequences := congrArg asSequence? copies
  have maps := congrArg asMap? copies
  rw [asSequence?_frozen, asSequence?_frozen, single] at sequences
  rw [asMap?_frozen, asMap?_frozen, plain] at maps
  rwa [frozen_of_single single plain,
    frozen_of_single (Option.map_eq_none_iff.mp sequences.symm)
      (Option.map_eq_none_iff.mp maps.symm)] at copies

end

mutual

theorem alike_of_frozen_eq (value other : Value) (copies : value.frozen = other.frozen) :
    Alike value other := by
  cases value with
  | list items | tuple items =>
    obtain ⟨others, right, same⟩ := exists_items_of_frozen_eq copies rfl
    exact .sequence rfl right (alikeItems_of_frozenItems_eq items others same)
  | map sealed entries =>
    obtain ⟨others, right, same⟩ := exists_entries_of_frozen_eq copies rfl
    exact .map rfl right (alikeEntries_of_frozenEntries_eq entries others same)
  | _ =>
    rw [eq_of_frozen_eq copies rfl rfl]
    exact .same other

theorem alikeItems_of_frozenItems_eq (items others : List Value)
    (copies : frozenItems items = frozenItems others) : AlikeItems items others := by
  cases items with
  | nil =>
    cases others with
    | nil => exact .nil
    | cons other more => simp [frozenItems] at copies
  | cons item rest =>
    cases others with
    | nil => simp [frozenItems] at copies
    | cons other more =>
      simp only [frozenItems, List.cons.injEq] at copies
      obtain ⟨first, later⟩ := copies
      exact .cons (alike_of_frozen_eq item other first)
        (alikeItems_of_frozenItems_eq rest more later)

theorem alikeEntries_of_frozenEntries_eq (entries others : List (Value × Value))
    (copies : frozenEntries entries = frozenEntries others) : AlikeEntries entries others := by
  cases entries with
  | nil =>
    cases others with
    | nil => exact .nil
    | cons other more => simp [frozenEntries] at copies
  | cons entry rest =>
    obtain ⟨key, value⟩ := entry
    cases others with
    | nil => simp [frozenEntries] at copies
    | cons other more =>
      simp only [frozenEntries, List.cons.injEq, Prod.mk.injEq] at copies
      obtain ⟨⟨same, first⟩, later⟩ := copies
      rw [same]
      exact .cons other.1 (alike_of_frozen_eq value other.2 first)
        (alikeEntries_of_frozenEntries_eq rest more later)

end

theorem alike_iff {value other : Value} : Alike value other ↔ value.frozen = other.frozen :=
  ⟨Alike.frozen_eq, alike_of_frozen_eq value other⟩

theorem Alike.isAbsent_eq {value other : Value} (alike : Alike value other) :
    value.isAbsent = other.isAbsent := by
  rw [← isAbsent_frozen value, alike.frozen_eq, isAbsent_frozen]

end Value

namespace Entries

inductive Alike : Entries → Entries → Prop where
  | nil : Alike [] []
  | cons (key : Value) {value other : Value} {rest more : Entries} (first : value.Alike other)
      (later : Alike rest more) : Alike ((key, value) :: rest) ((key, other) :: more)
  | left (key : Value) {rest more : Entries} (later : Alike rest more) :
      Alike ((key, .absent) :: rest) more
  | right (key : Value) {rest more : Entries} (later : Alike rest more) :
      Alike rest ((key, .absent) :: more)

def held (entries : Entries) : Entries :=
  (entries.filter fun entry => !entry.2.isAbsent).map fun (key, value) => (key, value.frozen)

theorem frozenArguments_eq (sealed : Bool) (entries : Entries) :
    frozenArguments (.map sealed entries) = .ok entries.held := rfl

theorem held_cons_absent (key : Value) (rest : Entries) :
    held ((key, .absent) :: rest) = held rest := rfl

theorem held_cons_present {value : Value} (present : value.isAbsent = false) (key : Value)
    (rest : Entries) : held ((key, value) :: rest) = (key, value.frozen) :: held rest := by
  simp [held, present]

theorem held_held (entries : Entries) : entries.held.held = entries.held := by
  induction entries with
  | nil => rfl
  | cons entry rest ih =>
    obtain ⟨key, value⟩ := entry
    cases missing : value.isAbsent with
    | true =>
      rw [Value.eq_absent_of_isAbsent missing, held_cons_absent]
      exact ih
    | false =>
      have present : value.frozen.isAbsent = false := by rw [Value.isAbsent_frozen, missing]
      rw [held_cons_present missing, held_cons_present present, Value.frozen_frozen, ih]

theorem Alike.held_eq {entries others : Entries} (alike : entries.Alike others) :
    entries.held = others.held := by
  induction alike with
  | nil => rfl
  | left key later ih => exact ih
  | right key later ih => exact ih
  | @cons key value other rest more first later ih =>
    have both := first.isAbsent_eq
    cases missing : value.isAbsent with
    | true =>
      rw [missing] at both
      rw [Value.eq_absent_of_isAbsent missing, Value.eq_absent_of_isAbsent both.symm]
      exact ih
    | false =>
      rw [missing] at both
      rw [held_cons_present missing, held_cons_present both.symm, first.frozen_eq, ih]

theorem alike_of_held_eq {entries others : Entries} (copies : entries.held = others.held) :
    entries.Alike others := by
  induction entries generalizing others with
  | nil =>
    induction others with
    | nil => exact .nil
    | cons other more ih =>
      obtain ⟨key, value⟩ := other
      cases missing : value.isAbsent with
      | true =>
        rw [Value.eq_absent_of_isAbsent missing] at copies ⊢
        exact .right key (ih copies)
      | false =>
        rw [held_cons_present missing] at copies
        cases copies
  | cons entry rest ih =>
    obtain ⟨key, value⟩ := entry
    cases missing : value.isAbsent with
    | true =>
      rw [Value.eq_absent_of_isAbsent missing] at copies ⊢
      exact .left key (ih copies)
    | false =>
      rw [held_cons_present missing] at copies
      -- The first entry has its copy in that of the first present entry on the other side.
      induction others with
      | nil => cases copies
      | cons other more inner =>
        obtain ⟨name, held⟩ := other
        cases lacking : held.isAbsent with
        | true =>
          rw [Value.eq_absent_of_isAbsent lacking] at copies ⊢
          exact .right name (inner copies)
        | false =>
          rw [held_cons_present lacking] at copies
          simp only [List.cons.injEq, Prod.mk.injEq] at copies
          obtain ⟨⟨rfl, first⟩, later⟩ := copies
          exact .cons key (Value.alike_iff.mpr first) (ih later)

theorem alike_iff {entries others : Entries} :
    entries.Alike others ↔ entries.held = others.held :=
  ⟨Alike.held_eq, alike_of_held_eq⟩

end Entries

theorem frozenArguments_of_frozenArguments {arguments : Value} {copy : Entries}
    (made : frozenArguments arguments = .ok copy) (sealed : Bool) :
    frozenArguments (.map sealed copy) = .ok copy := by
  unfold frozenArguments at made
  split at made
  · rw [← Except.ok.inj made]
    rfl
  · rename_i entries
    have copied : Entries.held entries = copy := Except.ok.inj made
    rw [← copied, Entries.frozenArguments_eq, Entries.held_held]
  · cases made

namespace Spec

/-- Nothing that can be read of the two selectors tells them apart, their promises aside. -/
structure ReadsAs (spec other : Spec) : Prop where
  target : spec.target.text = other.target.text
  arguments : spec.arguments = other.arguments
  encode : spec.encode = other.encode
  isSingle : spec.isSingle = other.isSingle
  isPlayer : spec.isPlayer = other.isPlayer

theorem ReadsAs.symm {spec other : Spec} (reads : spec.ReadsAs other) : other.ReadsAs spec :=
  ⟨reads.target.symm, reads.arguments.symm, reads.encode.symm, reads.isSingle.symm,
    reads.isPlayer.symm⟩

theorem ReadsAs.trans {spec other third : Spec} (reads : spec.ReadsAs other)
    (further : other.ReadsAs third) : spec.ReadsAs third :=
  ⟨reads.target.trans further.target, reads.arguments.trans further.arguments,
    reads.encode.trans further.encode, reads.isSingle.trans further.isSingle,
    reads.isPlayer.trans further.isPlayer⟩

theorem readsAs_of_parts {spec other : Spec} (target : spec.target.text = other.target.text)
    (arguments : spec.arguments = other.arguments) : spec.ReadsAs other := by
  refine ⟨target, arguments, ?_, ?_, ?_⟩
  · rw [encode_eq, encode_eq, Spec.pairs, Spec.pairs, target, arguments]
  · rw [isSingle, isSingle, target, arguments]
  · rw [isPlayer, isPlayer, types, types, target, arguments]

def plainly (spec : Spec) : Spec := { spec with target := .free spec.target.text }

theorem plainly_readsAs (spec : Spec) : spec.plainly.ReadsAs spec := readsAs_of_parts rfl rfl

theorem checkCapabilities_plainly (spec : Spec) :
    spec.plainly.checkCapabilities = spec.checkCapabilities := rfl

theorem wording_ofWording (wording : Wording) :
    (Value.ofWording wording).wording = .ok (.free wording.text) := by
  cases wording <;> rfl

theorem build_plainly {target arguments single players : Value} {spec : Spec}
    (built : (build target arguments single players).result = .ok spec) :
    build (.ofWording spec.target) (.map true spec.arguments) spec.singleResultOnly
        spec.playersOnly =
      ⟨(build target arguments single players).warnings, .ok spec.plainly⟩ := by
  obtain ⟨accepted, sort, mode, sorted, played⟩ := build_result_eq_ok_iff.mp built
  have again : Accepted (.ofWording spec.target) (.map true spec.arguments)
      spec.singleResultOnly spec.playersOnly spec.plainly :=
    ⟨wording_ofWording spec.target, frozenArguments_of_frozenArguments accepted.arguments true,
      rfl, rfl, spec.checkCapabilities_plainly.trans accepted.capable⟩
  rw [build_of_accepted accepted sorted played, build_of_accepted again sorted played]

end Spec

/-- A selector that is built once more from what it holds reads like itself, with the same promises
and the same warnings; its target is then a plain text. Two sets of arguments are held as one and
the same copy exactly if they are alike, and whatever is built with one of them, or refused, is
built with the other or refused for the same cause. -/
theorem construction_is_a_normal_form :
    (∀ (target arguments single players : Value) (spec : Spec),
      let made := Spec.build target arguments single players
      made.result = .ok spec →
        Spec.build (.ofWording spec.target) (.map true spec.arguments) spec.singleResultOnly
            spec.playersOnly = ⟨made.warnings, .ok spec.plainly⟩ ∧
          spec.plainly.ReadsAs spec ∧
          spec.plainly.singleResultOnly = spec.singleResultOnly ∧
          spec.plainly.playersOnly = spec.playersOnly) ∧
    (∀ (sealed closed : Bool) (entries others : Entries),
      (entries.Alike others ↔
        frozenArguments (.map sealed entries) = frozenArguments (.map closed others)) ∧
      (entries.Alike others → ∀ target single players : Value,
        Spec.build target (.map sealed entries) single players =
          Spec.build target (.map closed others) single players)) := by
  constructor
  · intro target arguments single players spec made built
    exact ⟨Spec.build_plainly built, spec.plainly_readsAs, rfl, rfl⟩
  · intro sealed closed entries others
    rw [Entries.frozenArguments_eq, Entries.frozenArguments_eq, Except.ok.injEq]
    refine ⟨Entries.alike_iff, ?_⟩
    intro alike target single players
    have same : frozenArguments (.map sealed entries) = frozenArguments (.map closed others) :=
      congrArg Except.ok alike.held_eq
    rw [Spec.build, Spec.build, Spec.accept, Spec.accept, same]

theorem rebuilt_from_what_it_holds :
    let target : Value := .identifier (.text "minecraft") (.target .allEntities) (.bool false)
    let bounds (deep : Value) : Value := .map false [(.text "kills", deep)]
    let entries : Entries :=
      [(.text "limit", .absent), (.text "sort", .text "up"),
       (.text "score", bounds (.list [.int 2, .absent]))]
    let others : Entries :=
      [(.text "sort", .text "up"), (.text "score", bounds (.tuple [.int 2, .absent]))]
    let spec : Spec :=
      ⟨.glyph .allEntities,
        [(.text "sort", .text "up"),
         (.text "score", .map true [(.text "kills", .tuple [.int 2, .absent])])],
        .bool false, .bool false⟩
    let build (entries : Entries) :=
      Spec.build target (.map false entries) (.bool false) (.bool false)
    build entries = build others ∧
      build entries = ⟨[.unknownSort (.text "up")], .ok spec⟩ ∧
      spec.encode = .ok "@e[score=\x7bkills=2..\x7d, sort=up]" ∧
      Spec.build (.target .allEntities) (.map true spec.arguments) (.bool false) (.bool false) =
        ⟨[.unknownSort (.text "up")], .ok spec.plainly⟩ := by
  intro target bounds entries others spec build
  obtain ⟨again, alike⟩ := construction_is_a_normal_form
  have built : build entries = ⟨[.unknownSort (.text "up")], .ok spec⟩ := rfl
  have result : (build entries).result = .ok spec := by rw [built]
  have rebuilt := (again target (.map false entries) (.bool false) (.bool false) spec result).1
  have nested : (bounds (.list [.int 2, .absent])).Alike (bounds (.tuple [.int 2, .absent])) :=
    Value.alike_iff.mpr rfl
  have same : entries.Alike others :=
    .left _ (.cons _ (.same _) (.cons _ nested .nil))
  exact ⟨(alike false false entries others).2 same target (.bool false) (.bool false), built, rfl,
    rebuilt⟩

end DatapackAuthoring
