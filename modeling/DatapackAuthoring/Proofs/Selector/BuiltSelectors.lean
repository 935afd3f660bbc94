import DatapackAuthoring.Proofs.Outcome
import DatapackAuthoring.Proofs.ValueShapes
import DatapackAuthoring.Selector.Spec

namespace DatapackAuthoring

theorem Value.isAbsent_frozen (value : Value) : value.frozen.isAbsent = value.isAbsent := by
  cases value <;> rfl

namespace Value

mutual

theorem isOverlong_frozen (value : Value) : value.frozen.isOverlong = value.isOverlong := by
  cases value with
  | list items | tuple items => simp only [frozen, isOverlong, anyOverlong_frozenItems items]
  | map sealed entries => simp only [frozen, isOverlong, anyEntryOverlong_frozenEntries entries]
  | _ => simp only [frozen]

theorem anyOverlong_frozenItems (items : List Value) :
    anyOverlong (frozenItems items) = anyOverlong items := by
  cases items with
  | nil => rfl
  | cons item rest =>
    simp only [frozenItems, anyOverlong, isOverlong_frozen item, anyOverlong_frozenItems rest]

theorem anyEntryOverlong_frozenEntries (entries : List (Value × Value)) :
    anyEntryOverlong (frozenEntries entries) = anyEntryOverlong entries := by
  cases entries with
  | nil => rfl
  | cons entry rest =>
    obtain ⟨key, value⟩ := entry
    simp only [frozenEntries, anyEntryOverlong, isOverlong_frozen value,
      anyEntryOverlong_frozenEntries rest]

end

end Value

theorem isAbsent_of_mem_frozenArguments {arguments : Value} {entries : Entries}
    (frozen : frozenArguments arguments = .ok entries) {entry : Value × Value}
    (member : entry ∈ entries) : entry.2.isAbsent = false := by
  unfold frozenArguments at frozen
  split at frozen
  · cases frozen
    cases member
  · cases frozen
    obtain ⟨given, present, rfl⟩ := List.mem_map.mp member
    rw [Value.isAbsent_frozen]
    simpa using (List.mem_filter.mp present).2
  · cases frozen

theorem Value.isAmong_eq_true_iff {value : Value} {words : List String} :
    value.isAmong words = .ok true ↔ ∃ word ∈ words, value.asText? = some word := by
  simp only [isAmong, bind_eq_ok_iff, pure_eq_ok, Except.ok.injEq, Option.any_eq_true,
    List.contains_iff_mem]
  constructor
  · rintro ⟨-, -, word, text, member⟩
    exact ⟨word, member, text⟩
  · rintro ⟨word, member, text⟩
    exact ⟨(), hashed_of_asText? text, word, text, member⟩

theorem foreignTypes_eq_nil_iff {types : List Value} :
    foreignTypes types = .ok [] ↔
      ∀ type ∈ types, ∃ word ∈ playerTypes, type.asText? = some word := by
  induction types with
  | nil => simp [foreignTypes]
  | cons type rest ih =>
    rw [List.forall_mem_cons, ← ih, ← Value.isAmong_eq_true_iff]
    simp only [foreignTypes, bind_eq_ok_iff, pure_eq_ok, Except.ok.injEq]
    constructor
    · rintro ⟨player, among, others, later, none⟩
      cases player with
      | true =>
        have empty : others = [] := none
        exact ⟨among, empty ▸ later⟩
      | false => simp at none
    · rintro ⟨among, later⟩
      exact ⟨true, among, [], later, rfl⟩

namespace Spec

theorem checkCapabilities_eq_ok_iff {spec : Spec} :
    spec.checkCapabilities = .ok () ↔
      (spec.singleResultOnly.isTruthy = true → spec.isSingle = true) ∧
      (spec.playersOnly.isTruthy = true → foreignTypes spec.types = .ok []) := by
  unfold checkCapabilities
  cases spec.singleResultOnly.isTruthy <;> cases spec.isSingle <;>
    cases spec.playersOnly.isTruthy <;> simp
  all_goals
    cases foreignTypes spec.types with
    | error fault => simp
    | ok types => cases types <;> simp

structure Accepted (target arguments singleResultOnly playersOnly : Value) (spec : Spec) :
    Prop where
  target : target.wording = .ok spec.target
  arguments : frozenArguments arguments = .ok spec.arguments
  singleResultOnly : spec.singleResultOnly = singleResultOnly
  playersOnly : spec.playersOnly = playersOnly
  capable : spec.checkCapabilities = .ok ()

variable {target arguments singleResultOnly playersOnly : Value} {spec : Spec}

theorem accept_eq_ok_iff :
    accept target arguments singleResultOnly playersOnly = .ok spec ↔
      Accepted target arguments singleResultOnly playersOnly spec := by
  simp only [accept, bind_eq_ok_iff, pure_eq_ok, Except.ok.injEq]
  constructor
  · rintro ⟨wording, worded, entries, frozen, done, capable, rfl⟩
    exact ⟨worded, frozen, rfl, rfl, capable⟩
  · rintro ⟨worded, frozen, rfl, rfl, capable⟩
    exact ⟨_, worded, _, frozen, (), capable, rfl⟩

theorem build_of_accepted (accepted : Accepted target arguments singleResultOnly playersOnly spec)
    {sort mode : List Warning} (sorted : spec.sortWarnings = .ok sort)
    (played : spec.gameModeWarnings = .ok mode) :
    build target arguments singleResultOnly playersOnly = ⟨sort ++ mode, .ok spec⟩ := by
  simp only [build, accept_eq_ok_iff.mpr accepted, checkWords, sorted, played]

theorem build_result_eq_ok_iff :
    (build target arguments singleResultOnly playersOnly).result = .ok spec ↔
      Accepted target arguments singleResultOnly playersOnly spec ∧
      ∃ sort mode, spec.sortWarnings = .ok sort ∧ spec.gameModeWarnings = .ok mode := by
  rw [← accept_eq_ok_iff, build]
  cases accept target arguments singleResultOnly playersOnly with
  | error fault => simp
  | ok accepted =>
    have words : (checkWords accepted).result = .ok spec ↔ accepted = spec ∧
        ∃ sort mode, accepted.sortWarnings = .ok sort ∧ accepted.gameModeWarnings = .ok mode := by
      unfold checkWords
      cases accepted.sortWarnings with
      | error fault => simp
      | ok sort => cases accepted.gameModeWarnings <;> simp
    rw [words, Except.ok.injEq]
    exact and_congr_right fun same => by rw [same]

end Spec

theorem build_of_flaggedSelector {constructor : String} {single players : Bool}
    {target : Value} {arguments : Entries} {spec : Spec}
    (built : (flaggedSelector constructor single players target arguments).result = .ok spec) :
    (Spec.build target (.map false arguments) (.bool single) (.bool players)).result =
      .ok spec := by
  unfold flaggedSelector namedArguments at built
  split at built
  · cases built
  · rename_i named allowed
    split at allowed <;> cases allowed
    exact built

theorem exists_build_of_selector {target : Value} {arguments : Entries} {spec : Spec}
    (built : (selector target arguments).result = .ok spec) :
    ∃ glyph single, target.plain = .ok glyph ∧
      (Spec.build (.text glyph) (.map false arguments) (.bool single)
        (.bool (isPlayerGlyph glyph))).result = .ok spec := by
  unfold selector namedArguments at built
  split at built
  · cases built
  · cases built
  · rename_i named glyph allowed plain
    split at allowed <;> cases allowed
    exact ⟨glyph, _, plain, built⟩

namespace Spec

def Built (spec : Spec) : Prop :=
  ∃ target arguments single players : Value,
    (build target arguments single players).result = .ok spec

theorem Built.isAbsent_get? {spec : Spec} (built : spec.Built) {key : String} {value : Value}
    (given : spec.arguments.get? key = some value) : value.isAbsent = false := by
  obtain ⟨target, arguments, single, players, built⟩ := built
  have accepted := (build_result_eq_ok_iff.mp built).1
  obtain ⟨entry, found, rfl⟩ := Option.map_eq_some_iff.mp given
  exact isAbsent_of_mem_frozenArguments accepted.arguments (List.mem_of_find?_eq_some found)

inductive BuiltForPlayers (spec : Spec) : Prop where
  | direct {target arguments single players : Value} (promised : players.isTruthy = true)
      (built : (build target arguments single players).result = .ok spec)
  | player {target : Value} {arguments : Entries}
      (built : (playerSelector target arguments).result = .ok spec)
  | singlePlayer {target : Value} {arguments : Entries}
      (built : (singlePlayerSelector target arguments).result = .ok spec)
  | ofGlyph {target : Value} {arguments : Entries} {glyph : String}
      (plain : target.plain = .ok glyph) (players : isPlayerGlyph glyph = true)
      (built : (selector target arguments).result = .ok spec)

variable {spec : Spec}

theorem BuiltForPlayers.exists_build (built : spec.BuiltForPlayers) :
    ∃ target arguments single players : Value, players.isTruthy = true ∧
      (build target arguments single players).result = .ok spec := by
  cases built with
  | direct promised built => exact ⟨_, _, _, _, promised, built⟩
  | player built => exact ⟨_, _, _, _, rfl, build_of_flaggedSelector built⟩
  | singlePlayer built => exact ⟨_, _, _, _, rfl, build_of_flaggedSelector built⟩
  | ofGlyph plain players built =>
    obtain ⟨glyph, single, same, built⟩ := exists_build_of_selector built
    cases plain.symm.trans same
    exact ⟨_, _, _, .bool _, players, built⟩

theorem BuiltForPlayers.built (built : spec.BuiltForPlayers) : spec.Built := by
  obtain ⟨target, arguments, single, players, -, built⟩ := built.exists_build
  exact ⟨target, arguments, single, players, built⟩

theorem BuiltForPlayers.players (built : spec.BuiltForPlayers) :
    ∀ type ∈ spec.types, ∃ word ∈ playerTypes, type.asText? = some word := by
  obtain ⟨target, arguments, single, players, promised, built⟩ := built.exists_build
  have accepted := (build_result_eq_ok_iff.mp built).1
  have promises := checkCapabilities_eq_ok_iff.mp accepted.capable
  exact foreignTypes_eq_nil_iff.mp (promises.2 (accepted.playersOnly ▸ promised))

end Spec

end DatapackAuthoring
