import DatapackAuthoring.Proofs.Number.Numerals
import DatapackAuthoring.Proofs.Selector.SingleLimit

namespace DatapackAuthoring

open Number

def IsModeWord (word : String) : Prop := ∃ mode ∈ gameModes, word = mode ∨ word = "!" ++ mode

instance (word : String) : Decidable (IsModeWord word) :=
  inferInstanceAs (Decidable (∃ mode ∈ gameModes, word = mode ∨ word = "!" ++ mode))

theorem withoutNegation_mem_iff {word : String} :
    withoutNegation word ∈ gameModes ↔ IsModeWord word := by
  constructor
  · intro known
    unfold withoutNegation at known
    split at known
    · rename_i rest negated
      refine ⟨_, known, .inr (String.toList_inj.mp ?_)⟩
      simp [negated]
    · exact ⟨word, known, .inl rfl⟩
  · rintro ⟨mode, member, same⟩
    have both : ∀ mode ∈ gameModes,
        withoutNegation mode ∈ gameModes ∧ withoutNegation ("!" ++ mode) ∈ gameModes := by decide
    obtain rfl | rfl := same
    · exact (both _ member).1
    · exact (both _ member).2

theorem not_isModeWord_of_mem {word : String} {c : Char} (member : c ∈ word.toList)
    (odd : c.isLower = false ∧ c ≠ '!') : ¬IsModeWord word := by
  rintro ⟨mode, known, same⟩
  have small : (gameModes.all fun mode => mode.toList.all Char.isLower) = true := by decide
  have letters : ∀ mode ∈ gameModes, ∀ c ∈ mode.toList, c.isLower = true := by
    simpa only [List.all_eq_true] using small
  have marked : c ∈ ("!" ++ mode).toList := by
    obtain rfl | rfl := same
    · simp [member]
    · exact member
  rw [String.toList_append, List.mem_append] at marked
  obtain mark | letter := marked
  · simp [odd.2] at mark
  · rw [letters mode known c letter] at odd
    simp at odd

/- Numbers. -/

theorem isLower_of_isDigit {c : Char} (digit : c.isDigit = true) : c.isLower = false := by
  rw [Bool.eq_false_iff]
  intro lower
  unfold Char.isLower at lower
  rw [Bool.and_eq_true, decide_eq_true_eq, decide_eq_true_eq] at lower
  have order : 'a'.toNat ≤ '9'.toNat :=
    Nat.le_trans (UInt32.le_iff_toNat_le.mp lower.1) (Char.isDigit_iff_toNat.mp digit).2
  exact absurd order (by decide)

theorem not_isModeWord_of_finite (negative : Bool) (size : Magnitude) :
    ¬IsModeWord (Binary64.finite negative size).text := by
  obtain ⟨c, rest, body, digit⟩ := Layout.exists_write_eq_cons valueLayout_mark size.shortest
  refine not_isModeWord_of_mem (c := c) (by simp [Binary64.text, body])
    ⟨isLower_of_isDigit digit, ?_⟩
  rintro rfl
  cases digit

/- What a value shows, and what is written of it. -/

namespace Value

theorem genericTexts_of_isModeWord {value : Value} {word : String}
    (shown : value.plain = .ok word) (known : IsModeWord word) :
    value.genericTexts = .ok [word] := by
  have text {s : String} (own : value.asText? = some s) : value.genericTexts = .ok [word] := by
    rw [plain_of_asText? own] at shown
    simp only [genericTexts, genericForm, own, Except.ok.inj shown]
  cases value with
  | text s => exact text rfl
  | target t => exact text rfl
  | bool flag =>
    simp only [plain] at shown
    obtain ⟨-, rfl⟩ := literal_eq_ok_iff.mp shown
    cases flag <;> exact absurd known (by decide)
  | float x =>
    cases x with
    | finite negative size =>
      simp only [plain] at shown
      obtain ⟨-, rfl⟩ := literal_eq_ok_iff.mp shown
      exact absurd known (not_isModeWord_of_finite negative size)
    | _ => simp [genericTexts, genericForm, asText?, asSequence?, numberForm, shown, Except.map]
  | list items =>
    simp only [plain] at shown
    obtain ⟨-, rfl⟩ := literal_eq_ok_iff.mp shown
    exact absurd known (not_isModeWord_of_mem (c := '[') (by simp [literalText, bracketed]) (by decide))
  | tuple items =>
    simp only [plain] at shown
    obtain ⟨-, rfl⟩ := literal_eq_ok_iff.mp shown
    refine absurd known (not_isModeWord_of_mem (c := '(') ?_ (by decide))
    unfold literalText parenthesized
    split <;> simp
  | _ => simp [genericTexts, genericForm, asText?, asSequence?, numberForm, shown, Except.map]

def IsWord (value : Value) : Prop := value.isAbsent = true ∨ ∃ s, value.asText? = some s

def IsKnownSort (sort : Value) : Prop :=
  sort.isAbsent = true ∨ ∃ word ∈ sortOrders, sort.asText? = some word

def IsKnownMode (mode : Value) : Prop :=
  mode.isAbsent = true ∨ ∃ word, mode.plain = .ok word ∧ IsModeWord word

theorem isKnownSort_iff {sort : Value} (word : sort.IsWord) :
    sort.IsKnownSort ↔ ∀ word ∈ sort.asText?, word ∈ sortOrders := by
  obtain missing | ⟨s, text⟩ := word
  · rw [eq_absent_of_isAbsent missing]
    simp [IsKnownSort, isAbsent, asText?]
  · simp [IsKnownSort, isAbsent_of_asText? text, text]

theorem isKnownMode_iff {mode : Value} (word : mode.IsWord) :
    mode.IsKnownMode ↔ ∀ word ∈ mode.asText?, IsModeWord word := by
  obtain missing | ⟨s, text⟩ := word
  · rw [eq_absent_of_isAbsent missing]
    simp [IsKnownMode, isAbsent, asText?]
  · simp [IsKnownMode, isAbsent_of_asText? text, plain_of_asText? text, text]

end Value

inductive WordReport (known : Prop) (warning : Warning) : List Warning → Prop where
  | silent (yes : known) : WordReport known warning []
  | warned (no : ¬known) : WordReport known warning [warning]

theorem WordReport.eq_if {known : Prop} [Decidable known] {warning : Warning}
    {warnings : List Warning} (reports : WordReport known warning warnings) :
    warnings = if known then [] else [warning] := by
  cases reports with
  | silent yes => rw [if_pos yes]
  | warned no => rw [if_neg no]

namespace Spec

variable {spec : Spec} {warnings : List Warning}

theorem reports_sort (reported : spec.sortWarnings = .ok warnings) :
    WordReport (spec.arguments.get "sort").IsKnownSort (.unknownSort (spec.arguments.get "sort"))
      warnings := by
  simp only [sortWarnings] at reported
  generalize spec.arguments.get "sort" = sort at *
  split at reported
  · rename_i missing
    cases reported
    exact .silent (.inl missing)
  · rename_i present
    obtain ⟨among, looked, reported⟩ := bind_eq_ok_iff.mp reported
    have means : among = true ↔ sort.IsKnownSort := by
      rw [Value.IsKnownSort, or_iff_right present, ← Value.isAmong_eq_true_iff, looked,
        Except.ok.injEq]
    cases among with
    | true =>
      cases reported
      exact .silent (means.mp rfl)
    | false =>
      obtain ⟨-, -, reported⟩ := bind_eq_ok_iff.mp reported
      cases reported
      exact .warned (mt means.mpr Bool.false_ne_true)

theorem reports_gameMode (reported : spec.gameModeWarnings = .ok warnings) :
    WordReport (spec.arguments.get "gamemode").IsKnownMode
      (.unknownGameMode (spec.arguments.get "gamemode")) warnings := by
  simp only [gameModeWarnings] at reported
  generalize spec.arguments.get "gamemode" = mode at *
  split at reported
  · rename_i missing
    cases reported
    exact .silent (.inl missing)
  · rename_i present
    obtain ⟨word, shown, reported⟩ := bind_eq_ok_iff.mp reported
    have means : gameModes.contains (withoutNegation word) = true ↔ mode.IsKnownMode := by
      rw [Value.IsKnownMode, or_iff_right present, List.contains_iff_mem, withoutNegation_mem_iff]
      simp [shown]
    cases known : gameModes.contains (withoutNegation word) with
    | true =>
      rw [known] at reported
      cases reported
      exact .silent (means.mp known)
    | false =>
      rw [known] at reported
      obtain ⟨-, -, reported⟩ := bind_eq_ok_iff.mp reported
      cases reported
      refine .warned fun yes => ?_
      rw [means.mpr yes] at known
      cases known

variable {target arguments single players : Value}

theorem exists_reports_of_build
    (built : (build target arguments single players).result = .ok spec) :
    ∃ sort mode, (build target arguments single players).warnings = sort ++ mode ∧
      WordReport (spec.arguments.get "sort").IsKnownSort (.unknownSort (spec.arguments.get "sort"))
        sort ∧
      WordReport (spec.arguments.get "gamemode").IsKnownMode
        (.unknownGameMode (spec.arguments.get "gamemode")) mode := by
  obtain ⟨accepted, sort, mode, sorted, played⟩ := build_result_eq_ok_iff.mp built
  refine ⟨sort, mode, ?_, reports_sort sorted, reports_gameMode played⟩
  rw [build_of_accepted accepted sorted played]

theorem known_of_silent (built : (build target arguments single players).result = .ok spec)
    (silent : (build target arguments single players).warnings = []) :
    (spec.arguments.get "sort").IsKnownSort ∧ (spec.arguments.get "gamemode").IsKnownMode := by
  obtain ⟨sort, mode, whole, first, second⟩ := exists_reports_of_build built
  rw [silent] at whole
  obtain ⟨rfl, rfl⟩ := List.append_eq_nil_iff.mp whole.symm
  constructor
  · cases first with
    | silent yes => exact yes
  · cases second with
    | silent yes => exact yes

section

variable {pairs : List (String × String)} (built : spec.Built) (named : spec.arguments.Named)
  (written : spec.pairs = .ok pairs)
include built named written

theorem sortTexts_of_known (known : (spec.arguments.get "sort").IsKnownSort) :
    ∀ text ∈ textsUnder "sort" pairs, text ∈ sortOrders := by
  obtain ⟨-, nothing⟩ | ⟨value, given, texts⟩ := genericTexts_or "sort" named written rfl
  · simp [nothing]
  · rw [Entries.get, given, Option.getD_some] at known
    obtain absent | ⟨word, member, own⟩ := known
    · rw [built.isAbsent_get? given] at absent
      cases absent
    · have single : value.genericTexts = .ok [word] := by
        simp only [Value.genericTexts, Value.genericForm, own]
      rw [← Except.ok.inj (single.symm.trans texts)]
      simpa using member

theorem modeTexts_of_known (known : (spec.arguments.get "gamemode").IsKnownMode) :
    ∀ text ∈ textsUnder "gamemode" pairs, IsModeWord text := by
  obtain ⟨-, nothing⟩ | ⟨value, given, texts⟩ :=
    genericTexts_or "gamemode" named written rfl
  · simp [nothing]
  · rw [Entries.get, given, Option.getD_some] at known
    obtain absent | ⟨word, shown, mode⟩ := known
    · rw [built.isAbsent_get? given] at absent
      cases absent
    · have single := Value.genericTexts_of_isModeWord shown mode
      rw [← Except.ok.inj (single.symm.trans texts)]
      simpa using mode

end

end Spec

inductive Fault.OfPromise : Fault → Prop where
  | limitRequired (target limit : String) : OfPromise (.limitRequired target limit)
  | singleExpected (selector : String) : OfPromise (.singleExpected selector)
  | notPlayerType (target type : String) : OfPromise (.notPlayerType target type)

/-- Words are looked at when all promises hold, and none of them breaks one. -/
theorem Spec.warnings_of_promise {target arguments single players : Value} {fault : Fault}
    (failed : (build target arguments single players).result = .error fault)
    (broken : fault.OfPromise) : (build target arguments single players).warnings = [] := by
  cases accepted : accept target arguments single players with
  | error cause => simp only [build, accepted]
  | ok spec =>
    cases sorted : spec.sortWarnings with
    | error cause => simp only [build, accepted, checkWords, sorted]
    | ok sort =>
      cases played : spec.gameModeWarnings with
      | error cause =>
        simp only [build, accepted, checkWords, sorted, played] at failed
        have writing := spec.writing_gameModeWarnings cause played
        rw [Except.error.inj failed] at writing
        cases broken <;> cases writing
      | ok mode => simp [build, accepted, checkWords, sorted, played] at failed

/-- A selector that is built without a warning shows known words only, whatever its values are: a
sort order, and a game mode with or without a mark in front. Where the values are texts, there is a
warning for each that is not known and none for one that is, first of the sort order and then of
the game mode. A selector that is refused for a promise comes without a warning. -/
theorem silence_means_known_words :
    (∀ (target : Value) (frozen : Bool) (entries : Entries) (single players : Value) (spec : Spec)
        (pairs : List (String × String)), entries.Named →
      let made := Spec.build target (.map frozen entries) single players
      made.result = .ok spec → made.warnings = [] → spec.pairs = .ok pairs →
        (∀ text, ("sort", text) ∈ pairs → text ∈ sortOrders) ∧
        (∀ text, ("gamemode", text) ∈ pairs → IsModeWord text)) ∧
    (∀ (target arguments single players : Value) (spec : Spec),
      let made := Spec.build target arguments single players
      let sort := spec.arguments.get "sort"
      let mode := spec.arguments.get "gamemode"
      made.result = .ok spec → sort.IsWord → mode.IsWord →
        made.warnings =
          (if ∀ word ∈ sort.asText?, word ∈ sortOrders then [] else [.unknownSort sort]) ++
          (if ∀ word ∈ mode.asText?, IsModeWord word then [] else [.unknownGameMode mode])) ∧
    (∀ (target arguments single players : Value) (fault : Fault),
      let made := Spec.build target arguments single players
      made.result = .error fault → fault.OfPromise → made.warnings = []) := by
  refine ⟨?_, ?_, ?_⟩
  · intro target frozen entries single players spec pairs named made built silent written
    obtain ⟨sort, mode⟩ := Spec.known_of_silent built silent
    have accepted := (Spec.build_result_eq_ok_iff.mp built).1
    have own : spec.arguments.Named := named.frozenArguments accepted.arguments
    have whole : spec.Built := ⟨_, _, _, _, built⟩
    constructor
    · intro text pair
      exact Spec.sortTexts_of_known whole own written sort text (mem_textsUnder_iff.mpr pair)
    · intro text pair
      exact Spec.modeTexts_of_known whole own written mode text (mem_textsUnder_iff.mpr pair)
  · intro target arguments single players spec made sort mode built sorted played
    obtain ⟨early, late, whole, first, second⟩ := Spec.exists_reports_of_build built
    rw [Value.isKnownSort_iff sorted] at first
    rw [Value.isKnownMode_iff played] at second
    rw [whole, first.eq_if, second.eq_if]
  · intro target arguments single players fault made failed broken
    exact Spec.warnings_of_promise failed broken

/-- A game mode that is the path of an identifier is known, and is written as it shows. Of two
unknown words both are reported, the sort order first, and neither where the limit is refused. -/
theorem opposite_mode_from_an_identifier :
    let mode : Value := .identifier (.text "minecraft") (.text "!creative") (.bool false)
    let entries : Entries := [(.text "gamemode", mode), (.text "sort", .text "nearest")]
    let spec : Spec := ⟨.free "@a", entries, .bool false, .bool false⟩
    let unknown : Entries := [(.text "gamemode", .text "!!fly"), (.text "sort", .text "up")]
    let loud := Spec.build (.text "@a") (.map false unknown) (.bool false) (.bool false)
    let refused := Spec.build (.text "@a") (.map false unknown) (.bool true) (.bool false)
    spec.pairs = .ok [("gamemode", "!creative"), ("sort", "nearest")] ∧
      "nearest" ∈ sortOrders ∧ IsModeWord "!creative" ∧
      loud.warnings = [.unknownSort (.text "up"), .unknownGameMode (.text "!!fly")] ∧
      refused.result = .error (.limitRequired "@a" "None") ∧ refused.warnings = [] := by
  intro mode entries spec unknown loud refused
  obtain ⟨shown, reported, unreported⟩ := silence_means_known_words
  have named : entries.Named := ⟨by simp [entries, Value.asText?], by decide⟩
  have built : Spec.build (.text "@a") (.map false entries) (.bool false) (.bool false) =
      ⟨[], .ok spec⟩ := rfl
  have written : spec.pairs = .ok [("gamemode", "!creative"), ("sort", "nearest")] := rfl
  obtain ⟨sorts, modes⟩ := shown (.text "@a") false entries (.bool false) (.bool false) spec _ named
    (by rw [built]) (by rw [built]) written
  have failed : refused.result = .error (.limitRequired "@a" "None") := rfl
  have warned := reported (.text "@a") (.map false unknown) (.bool false) (.bool false)
    ⟨.free "@a", unknown, .bool false, .bool false⟩ rfl (.inr ⟨"up", rfl⟩) (.inr ⟨"!!fly", rfl⟩)
  exact ⟨written, sorts "nearest" (by simp), modes "!creative" (by simp), warned, failed,
    unreported _ _ _ _ _ failed (.limitRequired _ _)⟩

end DatapackAuthoring
