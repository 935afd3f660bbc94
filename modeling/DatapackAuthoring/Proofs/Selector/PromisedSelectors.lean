import DatapackAuthoring.Proofs.Selector.FrozenForms
import DatapackAuthoring.Proofs.Selector.SingleLimit

namespace DatapackAuthoring

theorem isPlayerGlyph_iff {text : String} :
    isPlayerGlyph text = true ↔ text ∈ ["@p", "@r", "@a"] := by
  rw [isPlayerGlyph, Target.any_ofGlyph?_iff]
  constructor
  · rintro ⟨target, rfl, player⟩
    cases target <;> simp_all [Target.isPlayer, Target.glyph]
  · intro member
    simp only [List.mem_cons, List.not_mem_nil, or_false] at member
    obtain rfl | rfl | rfl := member
    · exact ⟨.nearestPlayer, rfl, rfl⟩
    · exact ⟨.randomPlayer, rfl, rfl⟩
    · exact ⟨.allPlayers, rfl, rfl⟩

theorem matchesMany_iff {text : String} :
    ((Target.ofGlyph? text).any fun target => !target.isSingle) = true ↔
      text ∈ ["@a", "@e"] := by
  rw [Target.any_ofGlyph?_iff]
  constructor
  · rintro ⟨target, rfl, many⟩
    cases target <;> simp_all [Target.isSingle, Target.glyph]
  · intro member
    simp only [List.mem_cons, List.not_mem_nil, or_false] at member
    obtain rfl | rfl := member
    · exact ⟨.allPlayers, rfl, rfl⟩
    · exact ⟨.allEntities, rfl, rfl⟩

theorem Value.plain_text (s : String) : (text s).plain = .ok s := by rw [plain]

def Reported.Succeeds {α : Type} (reported : Reported α) : Prop := ∃ a, reported.result = .ok a

namespace Spec

variable {target other arguments single players : Value} {spec : Spec}

def bare (target arguments : Value) : Reported Spec :=
  build target arguments (.bool false) (.bool false)

theorem plain_of_build (built : (build target arguments single players).result = .ok spec) :
    target.plain = .ok spec.target.text :=
  Value.plain_eq_ok_iff.mpr ⟨spec.target, (build_result_eq_ok_iff.mp built).1.target, rfl⟩

theorem text_of_build {text : String} (plain : target.plain = .ok text)
    (built : (build target arguments single players).result = .ok spec) :
    spec.target.text = text :=
  Except.ok.inj ((plain_of_build built).symm.trans plain)

/-- A selector that was built comes out again, to be read as before, whatever it is to promise as
    long as the promises hold, and also of a target that merely shows the same text. -/
theorem exists_build_readsAs {text : String} (promised only : Value)
    (built : (build target arguments single players).result = .ok spec)
    (plain : target.plain = .ok text) (same : other.plain = .ok text)
    (one : promised.isTruthy = true → spec.isSingle = true)
    (types : only.isTruthy = true → foreignTypes spec.types = .ok []) :
    ∃ twin, build other arguments promised only =
        ⟨(build target arguments single players).warnings, .ok twin⟩ ∧ twin.ReadsAs spec ∧
      twin.singleResultOnly = promised ∧ twin.playersOnly = only := by
  obtain ⟨accepted, sort, mode, sorted, played⟩ := build_result_eq_ok_iff.mp built
  obtain ⟨wording, worded, rfl⟩ := Value.plain_eq_ok_iff.mp same
  let twin : Spec := ⟨wording, spec.arguments, promised, only⟩
  have reads : twin.ReadsAs spec := readsAs_of_parts (text_of_build plain built).symm rfl
  have capable : twin.checkCapabilities = .ok () :=
    checkCapabilities_eq_ok_iff.mpr ⟨fun asked => reads.isSingle.trans (one asked), types⟩
  have again : Accepted other arguments promised only twin :=
    ⟨worded, accepted.arguments, rfl, rfl, capable⟩
  refine ⟨twin, ?_, reads, rfl, rfl⟩
  rw [build_of_accepted accepted sorted played, build_of_accepted again sorted played]

theorem isSingle_eq_of_build {entries : Entries} (named : entries.Named) {frozen : Bool}
    (built : (build target (.map frozen entries) single players).result = .ok spec) :
    spec.isSingle = limitsToSingle spec.target.text (entries.get "limit") := by
  have copied := (build_result_eq_ok_iff.mp built).1.arguments
  rw [isSingle, named.get_frozenArguments copied "limit", Value.limitsToSingle_frozen]

/-- What `made` is of the selector without promises: the same, if the promises hold. -/
structure Narrows (bare made : Reported Spec) (single players : Bool) : Prop where
  succeeds_iff : made.Succeeds ↔ ∃ spec, bare.result = .ok spec ∧
    (single = true → spec.isSingle = true) ∧
    (players = true → foreignTypes spec.types = .ok [])
  reads : ∀ spec, made.result = .ok spec → ∃ plain, bare.result = .ok plain ∧
    spec.ReadsAs plain ∧ made.warnings = bare.warnings

theorem exists_bare_of_build {text : String} (plain : target.plain = .ok text)
    (same : other.plain = .ok text)
    (built : (build other arguments single players).result = .ok spec) :
    ∃ twin, bare target arguments =
        ⟨(build other arguments single players).warnings, .ok twin⟩ ∧ spec.ReadsAs twin := by
  have none : (Value.bool false).isTruthy = true → False := by simp [Value.isTruthy]
  obtain ⟨twin, rebuilt, reads, -, -⟩ := exists_build_readsAs (.bool false) (.bool false) built
    same plain (fun asked => (none asked).elim) (fun asked => (none asked).elim)
  exact ⟨twin, rebuilt, reads.symm⟩

theorem narrows_build {text : String} (plain : target.plain = .ok text)
    (same : other.plain = .ok text) (arguments : Value) (single players : Bool) :
    Narrows (bare target arguments) (build other arguments (.bool single) (.bool players))
      single players := by
  constructor
  · constructor
    · rintro ⟨spec, built⟩
      obtain ⟨twin, rebuilt, reads⟩ := exists_bare_of_build plain same built
      have accepted := (build_result_eq_ok_iff.mp built).1
      obtain ⟨one, types⟩ := checkCapabilities_eq_ok_iff.mp accepted.capable
      rw [accepted.singleResultOnly] at one
      rw [accepted.playersOnly, Spec.types, reads.arguments] at types
      exact ⟨twin, by rw [rebuilt], fun asked => reads.isSingle ▸ one asked, types⟩
    · rintro ⟨spec, built, one, types⟩
      obtain ⟨twin, rebuilt, -⟩ := exists_build_readsAs (.bool single) (.bool players)
        built plain same one types
      exact ⟨twin, by rw [rebuilt]⟩
  · intro spec built
    obtain ⟨twin, rebuilt, reads⟩ := exists_bare_of_build plain same built
    exact ⟨twin, by rw [rebuilt], reads, by rw [rebuilt]⟩

theorem build_of_no_text {fault : Fault} (failed : target.plain = .error fault) :
    build target arguments single players = ⟨[], .error fault⟩ := by
  have unworded : target.wording = .error fault := by
    rw [← Value.text_wording] at failed
    cases worded : target.wording with
    | error other =>
      rw [worded] at failed
      rw [Except.error.inj failed]
    | ok wording =>
      rw [worded] at failed
      cases failed
  simp only [build, accept, unworded, error_bind]

end Spec

/- The constructors, for arguments none of which has the name of the target. -/

section

variable {target : Value} {entries : Entries} (free : entries.get? "target" = none)
include free

theorem namedArguments_of_free (constructor : String) :
    namedArguments constructor entries = .ok (.map false entries) := by
  simp [namedArguments, free]

theorem flaggedSelector_eq (constructor : String) (single players : Bool) :
    flaggedSelector constructor single players target entries =
      Spec.build target (.map false entries) (.bool single) (.bool players) := by
  rw [flaggedSelector, namedArguments_of_free free]

theorem selector_eq {glyph : String} (plain : target.plain = .ok glyph) :
    selector target entries =
      Spec.build (.text glyph) (.map false entries)
        (.bool (((Target.ofGlyph? glyph).any fun target => !target.isSingle) &&
          isSingleLimit (entries.get "limit")))
        (.bool (isPlayerGlyph glyph)) := by
  simp only [selector, namedArguments_of_free free, plain]

theorem selector_of_no_text {fault : Fault} (failed : target.plain = .error fault) :
    selector target entries = ⟨[], .error fault⟩ := by
  simp only [selector, namedArguments_of_free free, failed]

def waysToBuild (target : Value) (entries : Entries) : List (Reported Spec) :=
  [Spec.bare target (.map false entries), selector target entries, singleSelector target entries,
    playerSelector target entries, singlePlayerSelector target entries]

theorem exists_bare_of_way {made : Reported Spec} (way : made ∈ waysToBuild target entries)
    {spec : Spec} (built : made.result = .ok spec) :
    ∃ plain, (Spec.bare target (.map false entries)).result = .ok plain ∧ spec.ReadsAs plain ∧
      made.warnings = (Spec.bare target (.map false entries)).warnings := by
  simp only [waysToBuild, singleSelector, playerSelector, singlePlayerSelector,
    flaggedSelector_eq free, List.mem_cons, List.not_mem_nil, or_false] at way
  cases plain : target.plain with
  | error fault =>
    rw [selector_of_no_text free plain, Spec.bare] at way
    simp only [Spec.build_of_no_text plain, or_self] at way
    rw [way] at built
    cases built
  | ok glyph =>
    rw [selector_eq free plain] at way
    have same := Value.plain_text glyph
    obtain rfl | rfl | rfl | rfl | rfl := way
    · exact (Spec.narrows_build plain plain _ false false).reads spec built
    · exact (Spec.narrows_build plain same _ _ _).reads spec built
    · exact (Spec.narrows_build plain plain _ true false).reads spec built
    · exact (Spec.narrows_build plain plain _ false true).reads spec built
    · exact (Spec.narrows_build plain plain _ true true).reads spec built

theorem readsAs_of_ways {one other : Reported Spec} (first : one ∈ waysToBuild target entries)
    (second : other ∈ waysToBuild target entries) {spec twin : Spec}
    (built : one.result = .ok spec) (again : other.result = .ok twin) :
    spec.ReadsAs twin ∧ one.warnings = other.warnings := by
  obtain ⟨plain, bare, reads, warned⟩ := exists_bare_of_way free first built
  obtain ⟨same, bare', reads', warned'⟩ := exists_bare_of_way free second again
  obtain rfl : plain = same := Except.ok.inj (bare.symm.trans bare')
  exact ⟨reads.trans reads'.symm, warned.trans warned'.symm⟩

theorem succeeds_flaggedSelector_iff (constructor : String) (single players : Bool) :
    (flaggedSelector constructor single players target entries).Succeeds ↔
      ∃ spec, (Spec.bare target (.map false entries)).result = .ok spec ∧
        (single = true → spec.isSingle = true) ∧
        (players = true → foreignTypes spec.types = .ok []) := by
  rw [flaggedSelector_eq free]
  cases plain : target.plain with
  | error fault => simp [Spec.bare, Spec.build_of_no_text plain, Reported.Succeeds]
  | ok glyph => exact (Spec.narrows_build plain plain _ single players).succeeds_iff

theorem succeeds_singlePlayerSelector_iff :
    (singlePlayerSelector target entries).Succeeds ↔
      (singleSelector target entries).Succeeds ∧ (playerSelector target entries).Succeeds := by
  simp only [singlePlayerSelector, singleSelector, playerSelector,
    succeeds_flaggedSelector_iff free]
  constructor
  · rintro ⟨spec, bare, one, types⟩
    exact ⟨⟨spec, bare, one, by simp⟩, ⟨spec, bare, by simp, types⟩⟩
  · rintro ⟨⟨spec, bare, one, -⟩, twin, again, -, types⟩
    obtain rfl : spec = twin := Except.ok.inj (bare.symm.trans again)
    exact ⟨spec, bare, one, types⟩

section

variable (named : entries.Named)
include named

theorem singlePlayerSelector_of_limitRequired {shown limit : String}
    (refused : (singleSelector target entries).result = .error (.limitRequired shown limit)) :
    (singlePlayerSelector target entries).result = .error (.limitRequired shown limit) := by
  have promised : (Value.bool true).isTruthy = true := rfl
  rw [singleSelector, flaggedSelector_eq free, Spec.build_eq_limitRequired_iff,
    Spec.accept_eq_limitRequired_iff named promised] at refused
  rwa [singlePlayerSelector, flaggedSelector_eq free, Spec.build_eq_limitRequired_iff,
    Spec.accept_eq_limitRequired_iff named promised]

theorem selector_ne_limitRequired (shown limit : String) :
    (selector target entries).result ≠ .error (.limitRequired shown limit) := by
  intro refused
  cases plain : target.plain with
  | error fault =>
    rw [selector_of_no_text free plain] at refused
    have cause := Value.writing_plain target fault plain
    rw [Except.error.inj refused] at cause
    cases cause
  | ok glyph =>
    rw [selector_eq free plain, Spec.build_eq_limitRequired_iff,
      Spec.accept_eq_limitRequired_iff_promised named] at refused
    obtain ⟨promised, -, many, -⟩ := refused
    rw [Value.isTruthy, Bool.and_eq_true] at promised
    simp [limitsToSingle, promised.2] at many

theorem succeeds_selector_iff :
    (selector target entries).Succeeds ↔
      ∃ spec, (Spec.bare target (.map false entries)).result = .ok spec ∧
        (isPlayerGlyph spec.target.text = true → foreignTypes spec.types = .ok []) := by
  cases plain : target.plain with
  | error fault =>
    simp [selector_of_no_text free plain, Spec.bare, Spec.build_of_no_text plain,
      Reported.Succeeds]
  | ok glyph =>
    rw [selector_eq free plain,
      (Spec.narrows_build plain (Value.plain_text glyph) _ _ _).succeeds_iff]
    apply exists_congr
    intro spec
    apply and_congr_right
    intro bare
    rw [Spec.text_of_build plain bare, and_iff_right]
    intro promised
    rw [Bool.and_eq_true] at promised
    rw [Spec.isSingle_eq_of_build named bare, limitsToSingle, promised.2, Bool.or_true]

theorem succeeds_selector_iff_player {glyph : String} (plain : target.plain = .ok glyph)
    (player : glyph ∈ ["@p", "@r", "@a"]) :
    (selector target entries).Succeeds ↔ (playerSelector target entries).Succeeds := by
  rw [succeeds_selector_iff free named, playerSelector, succeeds_flaggedSelector_iff free]
  apply exists_congr
  intro spec
  apply and_congr_right
  intro bare
  simp [Spec.text_of_build plain bare, isPlayerGlyph_iff.mpr player]

theorem succeeds_selector_iff_bare
    (other : ∀ glyph ∈ ["@p", "@r", "@a"], target.plain ≠ .ok glyph) :
    (selector target entries).Succeeds ↔
      (Spec.bare target (.map false entries)).Succeeds := by
  rw [succeeds_selector_iff free named]
  apply exists_congr
  intro spec
  apply and_iff_left_of_imp
  intro bare player
  exact absurd (Spec.plain_of_build bare) (other _ (isPlayerGlyph_iff.mp player))

theorem singleResultOnly_of_selector {spec : Spec}
    (built : (selector target entries).result = .ok spec) :
    spec.singleResultOnly.isTruthy = true ↔
      spec.target.text ∈ ["@a", "@e"] ∧ spec.isSingle = true := by
  cases plain : target.plain with
  | error fault =>
    rw [selector_of_no_text free plain] at built
    cases built
  | ok glyph =>
    rw [selector_eq free plain] at built
    have shown := Spec.text_of_build (Value.plain_text glyph) built
    have promised := (Spec.build_result_eq_ok_iff.mp built).1.singleResultOnly
    rw [promised, Value.isTruthy, Bool.and_eq_true, matchesMany_iff, ← shown,
      Spec.isSingle_eq_of_build named built]
    apply and_congr_right
    intro many
    have none : isSingleGlyph spec.target.text = false := by
      simp only [List.mem_cons, List.not_mem_nil, or_false] at many
      obtain same | same := many
      · rw [same]
        rfl
      · rw [same]
        rfl
    simp [limitsToSingle, none]

end

end

/- Selectors for players. -/

theorem onlyPlayerTypes_of_players {types : List Value}
    (players : ∀ type ∈ types, ∃ word ∈ playerTypes, type.asText? = some word) :
    onlyPlayerTypes types = .ok true := by
  induction types with
  | nil => rfl
  | cons type rest ih =>
    obtain ⟨first, later⟩ := List.forall_mem_cons.mp players
    rw [onlyPlayerTypes, Value.isAmong_eq_true_iff.mpr first, ok_bind, if_pos rfl, ih later]

theorem Spec.BuiltForPlayers.isPlayer_iff {spec : Spec} (built : spec.BuiltForPlayers) :
    spec.isPlayer = .ok true ↔ spec.target.text ∈ ["@p", "@r", "@a"] ∨ spec.types ≠ [] := by
  rw [← isPlayerGlyph_iff, isPlayer, onlyPlayerTypes_of_players built.players]
  cases isPlayerGlyph spec.target.text with
  | true => simp
  | false => cases spec.types <;> simp

/-- However a selector is made from a target and arguments, it reads the same, and the same words
are reported. There is one for a single player exactly if there is one for a single entity and one
for players, and where the former is refused for its limit, so is the one for a single player. The
general constructor asks for no limit. For a glyph of players it makes a selector exactly if the
constructor for players does, for any other target exactly if there is one without promises, and it
promises a single result exactly if a target that matches many has a limit to one. What was built
for players is known to be players, unless it has no glyph of players and no type. -/
theorem constructors_narrow_one_selector :
    (∀ (target : Value) (entries : Entries), entries.Named → entries.get? "target" = none →
      let bare := Spec.bare target (.map false entries)
      let general := selector target entries
      let single := singleSelector target entries
      let player := playerSelector target entries
      let both := singlePlayerSelector target entries
      let ways := [bare, general, single, player, both]
      (∀ one ∈ ways, ∀ other ∈ ways, ∀ spec twin, one.result = .ok spec →
        other.result = .ok twin → spec.ReadsAs twin ∧ one.warnings = other.warnings) ∧
      (both.Succeeds ↔ single.Succeeds ∧ player.Succeeds) ∧
      (∀ shown limit, single.result = .error (.limitRequired shown limit) →
        both.result = .error (.limitRequired shown limit)) ∧
      (∀ shown limit, general.result ≠ .error (.limitRequired shown limit)) ∧
      (∀ glyph ∈ ["@p", "@r", "@a"], target.plain = .ok glyph →
        (general.Succeeds ↔ player.Succeeds)) ∧
      ((∀ glyph ∈ ["@p", "@r", "@a"], target.plain ≠ .ok glyph) →
        (general.Succeeds ↔ bare.Succeeds)) ∧
      (∀ spec, general.result = .ok spec → (spec.singleResultOnly.isTruthy = true ↔
        spec.target.text ∈ ["@a", "@e"] ∧ spec.isSingle = true))) ∧
    (∀ spec : Spec, spec.BuiltForPlayers →
      (spec.isPlayer = .ok true ↔
        spec.target.text ∈ ["@p", "@r", "@a"] ∨ spec.types ≠ [])) := by
  constructor
  · intro target entries named free bare general single player both ways
    refine ⟨?_, succeeds_singlePlayerSelector_iff free, ?_, ?_, ?_, ?_, ?_⟩
    · intro one first other second spec twin built again
      exact readsAs_of_ways free first second built again
    · intro shown limit refused
      exact singlePlayerSelector_of_limitRequired free named refused
    · intro shown limit
      exact selector_ne_limitRequired free named shown limit
    · intro glyph known plain
      exact succeeds_selector_iff_player free named plain known
    · intro other
      exact succeeds_selector_iff_bare free named other
    · intro spec built
      exact singleResultOnly_of_selector free named built
  · intro spec built
    exact built.isPlayer_iff

theorem limited_entities_read_alike :
    let target : Value := .target .allEntities
    let entries : Entries := [(.text "type", .list [.text "player"]), (.text "limit", .int 1)]
    let held : Entries := [(.text "type", .tuple [.text "player"]), (.text "limit", .int 1)]
    let one : Spec := ⟨.free "@e", held, .bool true, .bool false⟩
    let twin : Spec := ⟨.free "@e", held, .bool true, .bool true⟩
    let unlimited : Entries := [(.text "type", .text "player")]
    (selector target entries).result = .ok one ∧
      (singlePlayerSelector target entries).result = .ok twin ∧ one.ReadsAs twin ∧
      one.encode = .ok "@e[type=player, limit=1]" ∧
      (one.singleResultOnly.isTruthy = true ↔
        one.target.text ∈ ["@a", "@e"] ∧ one.isSingle = true) ∧
      twin.isPlayer = .ok true ∧
      (singlePlayerSelector target unlimited).result = .error (.limitRequired "@e" "None") := by
  intro target entries held one twin unlimited
  obtain ⟨narrow, known⟩ := constructors_narrow_one_selector
  have named : entries.Named := ⟨by simp [entries, Value.asText?], by decide⟩
  obtain ⟨reads, -, -, -, -, -, promised⟩ := narrow target entries named rfl
  have general : (selector target entries).result = .ok one := rfl
  have both : (singlePlayerSelector target entries).result = .ok twin := rfl
  have same := reads (selector target entries) (by simp) (singlePlayerSelector target entries)
    (by simp) one twin general both
  have few : unlimited.Named := ⟨by simp [unlimited, Value.asText?], by decide⟩
  obtain ⟨-, -, refused, -, -, -, -⟩ := narrow target unlimited few rfl
  have player := known twin (.singlePlayer both)
  exact ⟨general, both, same.1, rfl, promised one general,
    player.mpr (.inr (List.cons_ne_nil _ _)), refused "@e" "None" rfl⟩

end DatapackAuthoring
