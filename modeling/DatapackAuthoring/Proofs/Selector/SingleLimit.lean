import DatapackAuthoring.Proofs.Selector.BuiltSelectors
import DatapackAuthoring.Proofs.Selector.KeyedPairs
import DatapackAuthoring.Proofs.WritingFaults
/-!
The promise of a single result and the limit in the text. The promise looks at the value of the
limit, the text shows what the value is written as. Zero and one may be held in several ways, and
all of these are written alike; nothing else passes as a limit.
-/
namespace DatapackAuthoring

open Number

attribute [local instance (2000)] instPowNat

theorem signedUnits_zero_or_one {negative : Bool} {size : Magnitude}
    (single : signedUnits negative size = 0 ∨ signedUnits negative size = unitsPerOne) :
    size.isWhole = true ∧
      (size.wholePart = 0 ∨ (negative = false ∧ size.wholePart = 1)) := by
  have positive := unitsPerOne_pos
  unfold Magnitude.isWhole Magnitude.wholePart
  unfold signedUnits at single
  -- The number of units in one is only known to be positive, so that no power is evaluated.
  generalize unitsPerOne = one at *
  have units : size.units = 0 ∨ (negative = false ∧ size.units = one) := by
    cases negative with
    | false =>
      simp only [Bool.false_eq_true, if_false] at single
      rcases single with zero | whole
      · exact .inl (by omega)
      · exact .inr ⟨rfl, by omega⟩
    | true =>
      simp only [if_true] at single
      omega
  rcases units with zero | ⟨plain, whole⟩
  · simp [zero]
  · simp [plain, whole, Nat.div_self positive]

namespace Value

theorem isSingleLimit_frozen (value : Value) :
    isSingleLimit value.frozen = isSingleLimit value := by
  cases value <;> rfl

theorem limitsToSingle_frozen (target : String) (limit : Value) :
    DatapackAuthoring.limitsToSingle target limit.frozen =
      DatapackAuthoring.limitsToSingle target limit := by
  rw [DatapackAuthoring.limitsToSingle, DatapackAuthoring.limitsToSingle, isAbsent_frozen,
    isSingleLimit_frozen]

theorem genericTexts_of_isSingleLimit {limit : Value} (single : isSingleLimit limit = true) :
    ∃ text ∈ ["0", "1"], limit.genericTexts = .ok [text] := by
  cases limit with
  | int n =>
    have known : n = 0 ∨ n = 1 := by simpa [isSingleLimit] using single
    rcases known with rfl | rfl
    · exact ⟨"0", by simp, rfl⟩
    · exact ⟨"1", by simp, rfl⟩
  | float x =>
    cases x with
    | finite negative size =>
      have known : signedUnits negative size = 0 ∨ signedUnits negative size = unitsPerOne := by
        rw [isSingleLimit, Bool.or_eq_true] at single
        exact single.imp eq_of_beq eq_of_beq
      obtain ⟨whole, parts⟩ := signedUnits_zero_or_one known
      have written : (float (.finite negative size)).genericTexts =
          .ok [wholeText (if negative then -(size.wholePart : Int) else size.wholePart)] := by
        simp only [genericTexts, genericForm, asText?, asSequence?, numberForm, whole, if_true]
        rfl
      rw [written]
      rcases parts with zero | ⟨plain, one⟩
      · refine ⟨"0", by simp, ?_⟩
        simp only [zero]
        cases negative <;> rfl
      · refine ⟨"1", by simp, ?_⟩
        simp only [plain, one]
        rfl
    | _ => cases single
  | _ => cases single

end Value

theorem Value.limitsToSingle_of_isOverlong (target : String) {limit : Value}
    (long : limit.isOverlong = true) :
    DatapackAuthoring.limitsToSingle target limit = false := by
  cases limit with
  | int n =>
    have nonzero : n ≠ 0 := by
      rintro rfl
      exact absurd long (by decide)
    have many : n ≠ 1 := by
      rintro rfl
      exact absurd long (by decide)
    simp [DatapackAuthoring.limitsToSingle, isAbsent, isSingleLimit, nonzero, many]
  | absent => cases long
  | float x => cases long
  | _ => simp [DatapackAuthoring.limitsToSingle, isAbsent, isSingleLimit]

theorem Target.any_ofGlyph?_iff {asked : Target → Bool} {text : String} :
    (Target.ofGlyph? text).any asked = true ↔ ∃ target, target.glyph = text ∧ asked target := by
  constructor
  · intro found
    obtain ⟨target, known, yes⟩ := (Option.any_eq_true ..).mp found
    have named := List.find?_some known
    exact ⟨target, eq_of_beq named, yes⟩
  · rintro ⟨target, rfl, yes⟩
    cases target <;> exact yes

theorem mem_of_isSingleGlyph {text : String} (single : isSingleGlyph text = true) :
    text ∈ ["@s", "@p", "@r"] := by
  obtain ⟨target, rfl, one⟩ := Target.any_ofGlyph?_iff.mp single
  cases target with
  | self | nearestPlayer | randomPlayer => decide
  | allPlayers | allEntities => cases one

namespace Entries.Named

variable {entries copy : Entries} {frozen : Bool}

theorem mem_frozenArguments_iff (made : frozenArguments (.map frozen entries) = .ok copy)
    {entry : Value × Value} :
    entry ∈ copy ↔ ∃ given ∈ entries, given.2.isAbsent = false ∧
      entry = (given.1, given.2.frozen) := by
  obtain rfl := Except.ok.inj made
  rw [List.mem_map]
  constructor
  · rintro ⟨given, member, rfl⟩
    obtain ⟨inside, present⟩ := List.mem_filter.mp member
    exact ⟨given, inside, by simpa using present, rfl⟩
  · rintro ⟨given, inside, present, rfl⟩
    exact ⟨given, List.mem_filter.mpr ⟨inside, by simp [present]⟩, rfl⟩

theorem frozenArguments (named : entries.Named)
    (made : DatapackAuthoring.frozenArguments (.map frozen entries) = .ok copy) : copy.Named := by
  constructor
  · intro entry member
    obtain ⟨given, inside, -, rfl⟩ := (mem_frozenArguments_iff made).mp member
    exact named.text given inside
  · obtain rfl := Except.ok.inj made
    rw [List.map_map]
    exact named.distinct.sublist (List.filter_sublist.map _)

theorem get_frozenArguments (named : entries.Named)
    (made : DatapackAuthoring.frozenArguments (.map frozen entries) = .ok copy) (key : String) :
    copy.get key = (entries.get key).frozen := by
  have copied := named.frozenArguments made
  cases kept : copy.under? key with
  | some entry =>
    obtain ⟨member, text⟩ := copied.under?_eq_some_iff.mp kept
    obtain ⟨given, inside, -, rfl⟩ := (mem_frozenArguments_iff made).mp member
    have found := named.under?_eq_some_iff.mpr ⟨inside, text⟩
    simp [Entries.get, get?_eq, kept, found]
  | none =>
    cases found : entries.under? key with
    | none => simp [Entries.get, get?_eq, kept, found, Value.frozen]
    | some given =>
      obtain ⟨inside, text⟩ := named.under?_eq_some_iff.mp found
      have absent : given.2.isAbsent = true := by
        by_contra present
        have member := (mem_frozenArguments_iff made).mpr
          ⟨given, inside, by simpa using present, rfl⟩
        have again := copied.under?_eq_some_iff.mpr ⟨member, text⟩
        rw [kept] at again
        cases again
      simp [Entries.get, get?_eq, kept, found, Value.eq_absent_of_isAbsent absent, Value.frozen]

end Entries.Named

/- Construction. -/

theorem Value.fault_of_isAmong {value : Value} {words : List String} {fault : Fault}
    (failed : value.isAmong words = .error fault) : ∃ type, fault = .unhashable type := by
  cases known : value.unhashable? with
  | none => simp [isAmong, hashed, known] at failed
  | some type =>
    simp only [isAmong, hashed, known, error_bind, Except.error.injEq] at failed
    exact ⟨type, failed.symm⟩

theorem fault_of_foreignTypes {types : List Value} {fault : Fault}
    (failed : foreignTypes types = .error fault) : ∃ type, fault = .unhashable type := by
  induction types with
  | nil => cases failed
  | cons first rest ih =>
    cases among : first.isAmong playerTypes with
    | error other =>
      simp only [foreignTypes, among, error_bind, Except.error.injEq] at failed
      exact failed ▸ Value.fault_of_isAmong among
    | ok player =>
      cases later : foreignTypes rest with
      | error other =>
        simp only [foreignTypes, among, later, ok_bind, error_bind, Except.error.injEq] at failed
        exact ih (failed ▸ later)
      | ok others => simp [foreignTypes, among, later] at failed

namespace Spec

variable {spec : Spec} {shown limit : String}

theorem fault_of_sortWarnings {fault : Fault} (failed : spec.sortWarnings = .error fault) :
    (∃ type, fault = .unhashable type) ∨ fault = .tooManyDigits := by
  simp only [sortWarnings] at failed
  split at failed
  · cases failed
  · obtain among | ⟨known, -, failed⟩ := bind_eq_error_iff.mp failed
    · exact .inl (Value.fault_of_isAmong among)
    · split at failed
      · cases failed
      · obtain long | ⟨shown, -, done⟩ := bind_eq_error_iff.mp failed
        · exact .inr (Value.literal_eq_error_iff.mp long).2.symm
        · cases done

theorem writing_gameModeWarnings (spec : Spec) : Writing spec.gameModeWarnings := by
  simp only [gameModeWarnings]
  split
  · exact .ok []
  · refine (Value.writing_plain _).bind fun word => ?_
    split
    · exact .ok []
    · exact (Value.writing_literal _).bind fun shown => .ok _

theorem checkWords_ne_limitRequired :
    (checkWords spec).result ≠ .error (.limitRequired shown limit) := by
  intro refused
  unfold checkWords at refused
  cases sorted : spec.sortWarnings with
  | error fault =>
    obtain ⟨type, rfl⟩ | rfl := fault_of_sortWarnings sorted <;> simp [sorted] at refused
  | ok sort =>
    cases played : spec.gameModeWarnings with
    | error fault =>
      have cause := spec.writing_gameModeWarnings fault played
      cases cause <;> simp [sorted, played] at refused
    | ok mode => simp [sorted, played] at refused

theorem checkCapabilities_of_many (promised : spec.singleResultOnly.isTruthy = true)
    (many : spec.isSingle = false) :
    spec.checkCapabilities =
      (spec.arguments.get "limit").literal >>= fun limit =>
        .error (.limitRequired spec.target.text limit) := by
  simp [checkCapabilities, promised, many]

theorem checkCapabilities_eq_limitRequired_iff :
    spec.checkCapabilities = .error (.limitRequired shown limit) ↔
      spec.singleResultOnly.isTruthy = true ∧ spec.isSingle = false ∧ spec.target.text = shown ∧
        (spec.arguments.get "limit").literal = .ok limit := by
  cases refused : spec.singleResultOnly.isTruthy && !spec.isSingle with
  | true =>
    rw [Bool.and_eq_true, Bool.not_eq_true'] at refused
    rw [checkCapabilities_of_many refused.1 refused.2, bind_eq_error_iff]
    simp [refused.1, refused.2, Value.literal_eq_error_iff, and_comm]
  | false =>
    refine iff_of_false ?_ ?_
    · intro failed
      simp only [checkCapabilities, refused, Bool.false_eq_true, if_false] at failed
      cases promised : spec.playersOnly.isTruthy with
      | false => simp [promised] at failed
      | true =>
        simp only [promised, if_true, pure_eq_ok, throw_eq_error] at failed
        obtain unknown | ⟨types, -, failed⟩ := bind_eq_error_iff.mp failed
        · obtain ⟨type, same⟩ := fault_of_foreignTypes unknown
          cases same
        · cases types with
          | nil => cases failed
          | cons type rest =>
            obtain long | ⟨text, -, failed⟩ := bind_eq_error_iff.mp failed
            · obtain ⟨-, same⟩ := Value.literal_eq_error_iff.mp long
              cases same
            · cases failed
    · rintro ⟨promised, many, -⟩
      simp [promised, many] at refused

variable {target arguments single players : Value} {entries : Entries} {frozen : Bool}

theorem accept_of_wording {wording : Wording} (worded : target.wording = .ok wording)
    {copy : Entries} (made : frozenArguments arguments = .ok copy) :
    let spec : Spec := ⟨wording, copy, single, players⟩
    accept target arguments single players = spec.checkCapabilities.map fun _ => spec := by
  intro spec
  simp only [accept, worded, made, ok_bind]
  cases spec.checkCapabilities <;> rfl

theorem accept_eq_limitRequired_iff_promised (named : entries.Named) :
    accept target (.map frozen entries) single players = .error (.limitRequired shown limit) ↔
      single.isTruthy = true ∧ target.plain = .ok shown ∧
        limitsToSingle shown (entries.get "limit") = false ∧
        (entries.get "limit").frozen.literal = .ok limit := by
  cases worded : target.wording with
  | error fault =>
    have cause := Value.writing_wording target fault worded
    have none : target.plain = .error fault := by
      rw [← Value.text_wording, worded]
      rfl
    rw [none]
    cases cause <;> simp [accept, worded]
  | ok wording =>
    have text : target.plain = .ok wording.text := Value.plain_eq_ok_iff.mpr ⟨wording, worded, rfl⟩
    obtain ⟨copy, made⟩ : ∃ copy, frozenArguments (.map frozen entries) = .ok copy := ⟨_, rfl⟩
    let spec : Spec := ⟨wording, copy, single, players⟩
    have refused : accept target (.map frozen entries) single players =
          .error (.limitRequired shown limit) ↔
        spec.checkCapabilities = .error (.limitRequired shown limit) := by
      rw [accept_of_wording worded made]
      cases spec.checkCapabilities <;> simp [Except.map]
    rw [refused, checkCapabilities_eq_limitRequired_iff, text, Except.ok.injEq]
    have limits : spec.arguments.get "limit" = (entries.get "limit").frozen :=
      named.get_frozenArguments made "limit"
    rw [isSingle, limits, Value.limitsToSingle_frozen]
    constructor
    · rintro ⟨promised, many, rfl, shown⟩
      exact ⟨promised, rfl, many, shown⟩
    · rintro ⟨promised, rfl, many, shown⟩
      exact ⟨promised, many, rfl, shown⟩

theorem accept_eq_limitRequired_iff (named : entries.Named) (promised : single.isTruthy = true) :
    accept target (.map frozen entries) single players = .error (.limitRequired shown limit) ↔
      target.plain = .ok shown ∧ limitsToSingle shown (entries.get "limit") = false ∧
        (entries.get "limit").frozen.literal = .ok limit :=
  (accept_eq_limitRequired_iff_promised named).trans (and_iff_right promised)

theorem build_eq_limitRequired_iff :
    (build target arguments single players).result = .error (.limitRequired shown limit) ↔
      accept target arguments single players = .error (.limitRequired shown limit) := by
  unfold build
  cases accept target arguments single players with
  | error fault => simp
  | ok spec => simp [checkWords_ne_limitRequired]

theorem warnings_of_limitRequired
    (refused : (build target arguments single players).result =
      .error (.limitRequired shown limit)) :
    (build target arguments single players).warnings = [] := by
  unfold build
  rw [build_eq_limitRequired_iff.mp refused]

theorem build_of_overlong (named : entries.Named) (promised : single.isTruthy = true)
    (plain : target.plain = .ok shown) (many : limitsToSingle shown (entries.get "limit") = false)
    (long : (entries.get "limit").isOverlong = true) :
    build target (.map frozen entries) single players = ⟨[], .error .tooManyDigits⟩ := by
  obtain ⟨wording, worded, rfl⟩ := Value.plain_eq_ok_iff.mp plain
  obtain ⟨copy, made⟩ : ∃ copy, frozenArguments (.map frozen entries) = .ok copy := ⟨_, rfl⟩
  have limits : copy.get "limit" = (entries.get "limit").frozen :=
    named.get_frozenArguments made "limit"
  let spec : Spec := ⟨wording, copy, single, players⟩
  have single : spec.isSingle = false := by
    rw [isSingle, limits, Value.limitsToSingle_frozen]
    exact many
  have unshown : (copy.get "limit").literal = .error .tooManyDigits :=
    Value.literal_eq_error_iff.mpr ⟨by rw [limits, Value.isOverlong_frozen, long], rfl⟩
  have failed : spec.checkCapabilities = .error .tooManyDigits := by
    rw [checkCapabilities_of_many promised single, unshown, error_bind]
  rw [build, accept_of_wording worded made, failed]
  rfl

/- The text. -/

/-- The ways to come by a selector that can only match one entity. -/
inductive BuiltForOne (spec : Spec) : Prop where
  | promised (built : spec.Built) (promised : spec.singleResultOnly.isTruthy = true)
  | single {target : Value} {arguments : Entries}
      (built : (singleSelector target arguments).result = .ok spec)
  | singlePlayer {target : Value} {arguments : Entries}
      (built : (singlePlayerSelector target arguments).result = .ok spec)
  | passed {single argument : Value} (built : spec.Built) (asked : single.isTruthy = true)
      (passed : selectorArgument spec.toValue single = .ok argument)

theorem isSingle_of_build (promised : single.isTruthy = true)
    (built : (build target arguments single players).result = .ok spec) :
    spec.isSingle = true := by
  have accepted := (build_result_eq_ok_iff.mp built).1
  have promises := checkCapabilities_eq_ok_iff.mp accepted.capable
  exact promises.1 (accepted.singleResultOnly ▸ promised)

theorem isSingle_of_selectorArgument {argument : Value} (asked : single.isTruthy = true)
    (passed : selectorArgument spec.toValue single = .ok argument) : spec.isSingle = true := by
  obtain ⟨subject, arguments, promised, players⟩ := spec
  obtain ⟨wording, -, rest⟩ := bind_eq_ok_iff.mp passed
  by_contra many
  rw [Bool.not_eq_true] at many
  simp [asked, many] at rest

theorem BuiltForOne.isSingle (built : spec.BuiltForOne) : spec.isSingle = true := by
  cases built with
  | promised built promised =>
    obtain ⟨target, arguments, single, players, built⟩ := built
    have accepted := (build_result_eq_ok_iff.mp built).1
    exact isSingle_of_build (accepted.singleResultOnly ▸ promised) built
  | single built => exact isSingle_of_build rfl (build_of_flaggedSelector built)
  | singlePlayer built => exact isSingle_of_build rfl (build_of_flaggedSelector built)
  | passed built asked passed => exact isSingle_of_selectorArgument asked passed

theorem limitTexts_of_isSingle {pairs : List (String × String)} (built : spec.Built)
    (named : spec.arguments.Named) (single : spec.isSingle = true)
    (written : spec.pairs = .ok pairs) :
    (textsUnder "limit" pairs = [] ∧ spec.target.text ∈ ["@s", "@p", "@r"]) ∨
      ∃ text ∈ ["0", "1"], textsUnder "limit" pairs = [text] := by
  obtain ⟨given, nothing⟩ | ⟨limit, given, texts⟩ :=
    genericTexts_or "limit" named written rfl
  · have absent : spec.arguments.get "limit" = .absent := by rw [Entries.get, given]; rfl
    have glyph : isSingleGlyph spec.target.text = true := by
      simpa [Spec.isSingle, limitsToSingle, absent, Value.isAbsent, isSingleLimit] using single
    exact .inl ⟨nothing, mem_of_isSingleGlyph glyph⟩
  · have present := built.isAbsent_get? given
    have shown : spec.arguments.get "limit" = limit := by rw [Entries.get, given]; rfl
    have one : isSingleLimit limit = true := by
      simpa [Spec.isSingle, limitsToSingle, shown, present] using single
    obtain ⟨text, known, generic⟩ := Value.genericTexts_of_isSingleLimit one
    exact .inr ⟨text, known, (Except.ok.inj (generic.symm.trans texts)).symm⟩

end Spec

/-- A selector that has to match one entity is refused for its limit exactly if target and limit do
    not see to it and the limit can be shown, before any word is looked at. A limit that is too long
    to be shown is not taken either, yet something else is reported. Where target and limit do see
    to it, whether this was promised at the start or asked for in the end, the text shows it: it has
    no limit and a target that is single by itself, or one limit, which is written as zero or one. -/
theorem single_promise_shown (target : Value) (frozen : Bool) (entries : Entries)
    (single players : Value) (named : entries.Named) (promised : single.isTruthy = true) :
    let made := Spec.build target (.map frozen entries) single players
    let limit := entries.get "limit"
    (∀ shown text, made.result = .error (.limitRequired shown text) ↔
      target.plain = .ok shown ∧ limitsToSingle shown limit = false ∧
        limit.frozen.literal = .ok text) ∧
    (∀ shown, target.plain = .ok shown → limitsToSingle shown limit = false →
      made.warnings = [] ∧
        ((∃ text, made.result = .error (.limitRequired shown text)) ↔ limit.isOverlong = false) ∧
        (limit.isOverlong = true → made.result = .error .tooManyDigits)) ∧
    (∀ spec : Spec, spec.BuiltForOne → spec.isSingle = true) ∧
    (∀ (spec : Spec) (pairs : List (String × String)), spec.Built → spec.arguments.Named →
      spec.isSingle = true → spec.pairs = .ok pairs →
        (textsUnder "limit" pairs = [] ∧ spec.target.text ∈ ["@s", "@p", "@r"]) ∨
          ∃ text ∈ ["0", "1"], textsUnder "limit" pairs = [text]) := by
  intro made limit
  have refusals (shown text : String) : made.result = .error (.limitRequired shown text) ↔
      target.plain = .ok shown ∧ limitsToSingle shown limit = false ∧
        limit.frozen.literal = .ok text :=
    Spec.build_eq_limitRequired_iff.trans (Spec.accept_eq_limitRequired_iff named promised)
  refine ⟨refusals, ?_, fun spec built => built.isSingle, ?_⟩
  · intro shown plain many
    cases long : limit.isOverlong with
    | true =>
      have failed : made = ⟨[], .error .tooManyDigits⟩ :=
        Spec.build_of_overlong named promised plain many long
      simp [failed]
    | false =>
      have short : limit.frozen.literal = .ok limit.frozen.literalText :=
        Value.literal_eq_ok_iff.mpr ⟨limit.isOverlong_frozen.trans long, rfl⟩
      have refused := (refusals shown _).mpr ⟨plain, many, short⟩
      exact ⟨Spec.warnings_of_limitRequired refused, iff_of_true ⟨_, refused⟩ rfl, nofun⟩
  · intro spec pairs built named single written
    exact Spec.limitTexts_of_isSingle built named single written

/-- Yes is no limit, and the unknown sort order is not reported. Zero with a minus is a limit, and
    is written without it. -/
theorem negative_zero_is_a_limit :
    let refused := Spec.build (.target .allEntities)
      (.map false [(.text "sort", .text "up"), (.text "limit", .bool true)]) (.bool true) .absent
    let zero : Value := .float (.finite true ⟨0, by decide, by decide +kernel⟩)
    let spec : Spec := ⟨.free "@e", [(.text "limit", zero)], .bool true, .bool false⟩
    refused.result = .error (.limitRequired "@e" "True") ∧ refused.warnings = [] ∧
      spec.isSingle = true ∧ spec.pairs = .ok [("limit", "0")] ∧
      ∃ text ∈ ["0", "1"], textsUnder "limit" [("limit", "0")] = [text] := by
  intro refused zero spec
  have named : Entries.Named [(.text "sort", .text "up"), (.text "limit", .bool true)] :=
    ⟨by simp [Value.asText?], by decide⟩
  obtain ⟨refusals, silent, singles, texts⟩ := single_promise_shown (.target .allEntities) false _
    (.bool true) .absent named rfl
  have result := (refusals "@e" "True").mpr ⟨rfl, rfl, rfl⟩
  have built : spec.BuiltForOne :=
    @Spec.BuiltForOne.single spec (.target .allEntities) [(.text "limit", zero)] rfl
  have single := singles spec built
  have whole : spec.Built :=
    ⟨.target .allEntities, .map false [(.text "limit", zero)], .bool true, .bool false, rfl⟩
  have written : spec.pairs = .ok [("limit", "0")] := by decide +kernel
  have shown := texts spec [("limit", "0")] whole
    ⟨by simp [spec, Value.asText?], by simp [spec]⟩ single written
  refine ⟨result, (silent "@e" rfl rfl).1, single, written, ?_⟩
  rcases shown with ⟨none, -⟩ | one
  · cases none
  · exact one

theorem overlong_limit_not_shown :
    let limit : Value := .int (10 ^ (5000 : Nat) : Nat)
    let made := Spec.build (.text "@e") (.map false [(.text "limit", limit)]) (.bool true)
      (.bool false)
    limitsToSingle "@e" limit = false ∧ made.result = .error .tooManyDigits ∧
      ¬ ∃ shown text, made.result = .error (.limitRequired shown text) := by
  intro limit made
  have long : limit.isOverlong = true := @isOverlong_ten_pow 5000 (by decide)
  have many := Value.limitsToSingle_of_isOverlong "@e" long
  have named : Entries.Named [(.text "limit", limit)] := ⟨by simp [Value.asText?], by simp⟩
  have failed : made = ⟨[], .error .tooManyDigits⟩ :=
    Spec.build_of_overlong named rfl (Value.plain_of_asText? rfl) many long
  exact ⟨many, by rw [failed], by simp [failed]⟩

end DatapackAuthoring
