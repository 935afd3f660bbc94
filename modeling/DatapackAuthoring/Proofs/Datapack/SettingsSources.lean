import DatapackAuthoring.Proofs.Datapack.FileLines
/-!
Where settings come from. What the library does that collects them is taken from its documentation:
which names it minds, that it passes over all others, what it makes of a simple line, and which
source comes first. From that it follows that each field has the value of the first source that
names it, be that value empty or not, and that no other entry of any source has a say in it. The
directory loses the slashes around it, and settings that are given outright stay as they are.
-/
namespace DatapackAuthoring

open Text

def LastSets (lines : List (String × String)) (name value : String) : Prop :=
  ∃ before after, lines = before ++ (name, value) :: after ∧ ∀ line ∈ after, line.1 ≠ name

/-- What a search comes back with: a value that is held under one of the names asked for, and
nothing only where none is. -/
structure Finds {α : Type} (holds : String → α → Prop) (asked : String → Bool)
    (found : Option α) : Prop where
  of_some {value : α} (here : found = some value) :
    ∃ written, holds written value ∧ asked written = true
  of_none (missing : found = none) {written : String} {value : α} (held : holds written value) :
    asked written = false

def FileLine.settings (lines : List FileLine) : List (String × String) := lines.filterMap setting?

/-- Values that are given outright go by the names of their fields, and `isFor` may or may not mind
the case of these names. -/
structure Loader.Documented (loader : Loader) (isFor : String → String → Bool) : Prop where
  isFor_self (name : String) : isFor name name = true
  isSpelling_of_isFor {written name : String} (named : isFor written name = true) :
    isSpelling written name = true
  /- What is found. Case does not matter for variables; of several lines that set one the last does. -/
  given (entries : List (String × Value)) (name : String) :
    Finds (fun written value => (written, value) ∈ entries) (isFor · name)
      (loader.fromGiven entries name)
  environment (entries : List (String × String)) (name : String) :
    Finds (fun written text => (written, text) ∈ entries) (isSpelling · name)
      (loader.fromEnvironment entries name)
  file {lines : List FileLine} (simple : ∀ line ∈ lines, line.Simple) (name : String) :
    Finds (LastSets (FileLine.settings lines)) (isSpelling · name)
      (loader.fromFile (FileLine.file lines) name)
  /- Other names are ignored. -/
  given_ignores {entries others : List (String × Value)} {name : String}
    (same : (entries.filter fun entry => isFor entry.1 name) =
      others.filter fun entry => isFor entry.1 name) :
    loader.fromGiven entries name = loader.fromGiven others name
  environment_ignores {entries others : List (String × String)} {name : String}
    (same : (entries.filter fun entry => isSpelling entry.1 name) =
      others.filter fun entry => isSpelling entry.1 name) :
    loader.fromEnvironment entries name = loader.fromEnvironment others name
  file_ignores {lines others : List FileLine} (simple : ∀ line ∈ lines, line.Simple)
    (plain : ∀ line ∈ others, line.Simple) {name : String}
    (same : ((FileLine.settings lines).filter fun line => isSpelling line.1 name) =
      (FileLine.settings others).filter fun line => isSpelling line.1 name) :
    loader.fromFile (FileLine.file lines) name = loader.fromFile (FileLine.file others) name
  /- The order of the sources. -/
  given_first {found : Candidates} {value : Value} (given : found.given = some value) :
    loader.chosen found = value
  environment_second {found : Candidates} {text : String} (ungiven : found.given = none)
    (set : found.environment = some text) : loader.chosen found = .text text
  file_third {found : Candidates} {text : String} (ungiven : found.given = none)
    (unset : found.environment = none) (written : found.file = some text) :
    loader.chosen found = .text text
  default_last {found : Candidates} (ungiven : found.given = none)
    (unset : found.environment = none) (unwritten : found.file = none) :
    loader.chosen found = .text found.default
  /- Texts are what the fields are declared to be. -/
  texts_pass (texts : SettingField → String) :
    loader.validated (fun field => .text (texts field)) = .ok texts

structure PlainSources where
  given : List (String × String)
  environment : List (String × String)
  file : Option (List FileLine)
  simple : ∀ lines ∈ file, ∀ line ∈ lines, line.Simple

namespace PlainSources

def sources (plain : PlainSources) : Sources :=
  ⟨plain.given.map fun (name, text) => (name, .text text), plain.environment,
    plain.file.map FileLine.file⟩

def lines (plain : PlainSources) : List FileLine := plain.file.getD []

def fileSettings (plain : PlainSources) : List (String × String) := FileLine.settings plain.lines

/-- A text that a field has in the first source that names it. -/
inductive Supplies (isFor : String → String → Bool) (plain : PlainSources) (field : SettingField) :
    String → Prop where
  | given {written text : String} (member : (written, text) ∈ plain.given)
      (named : isFor written field.name = true) : Supplies isFor plain field text
  | environment {written text : String}
      (ungiven : ∀ entry ∈ plain.given, isFor entry.1 field.name = false)
      (member : (written, text) ∈ plain.environment)
      (named : isSpelling written field.variableName = true) : Supplies isFor plain field text
  | file {written text : String}
      (ungiven : ∀ entry ∈ plain.given, isFor entry.1 field.name = false)
      (unset : ∀ entry ∈ plain.environment, isSpelling entry.1 field.variableName = false)
      (last : LastSets plain.fileSettings written text)
      (named : isSpelling written field.variableName = true) : Supplies isFor plain field text
  | default
      (ungiven : ∀ entry ∈ plain.given, isFor entry.1 field.name = false)
      (unset : ∀ entry ∈ plain.environment, isSpelling entry.1 field.variableName = false)
      (unwritten : ∀ line ∈ plain.fileSettings, isSpelling line.1 field.variableName = false) :
      Supplies isFor plain field field.default

structure AgreeOn (isFor : String → String → Bool) (field : SettingField)
    (one other : PlainSources) : Prop where
  given : (one.given.filter fun entry => isFor entry.1 field.name) =
    other.given.filter fun entry => isFor entry.1 field.name
  environment : (one.environment.filter fun entry => isSpelling entry.1 field.variableName) =
    other.environment.filter fun entry => isSpelling entry.1 field.variableName
  file : (one.fileSettings.filter fun line => isSpelling line.1 field.variableName) =
    other.fileSettings.filter fun line => isSpelling line.1 field.variableName

theorem simple_lines (plain : PlainSources) : ∀ line ∈ plain.lines, line.Simple := by
  have simple := plain.simple
  unfold lines
  cases own : plain.file with
  | none => exact List.forall_mem_nil _
  | some lines => exact simple lines own

end PlainSources

theorem lastSets_of_find? {lines : List (String × String)} {asked : String → Bool}
    {line : String × String}
    (found : lines.reverse.find? (fun line => asked line.1) = some line) :
    LastSets lines line.1 line.2 ∧ asked line.1 = true := by
  obtain ⟨named, after, before, split, others⟩ := List.find?_eq_some_iff_append.mp found
  refine ⟨⟨before.reverse, after.reverse, ?_, ?_⟩, named⟩
  · simpa using congrArg List.reverse split
  · intro other member same
    have unnamed := others other (List.mem_reverse.mp member)
    rw [same, named] at unnamed
    cases unnamed

theorem exists_lastSets {lines : List (String × String)} {line : String × String}
    (member : line ∈ lines) : ∃ value, LastSets lines line.1 value := by
  cases found : lines.reverse.find? fun other => other.1 == line.1 with
  | none =>
    have other := List.find?_eq_none.mp found line (List.mem_reverse.mpr member)
    simp at other
  | some last =>
    obtain ⟨sets, same⟩ := @lastSets_of_find? lines (· == line.1) last found
    exact ⟨last.2, eq_of_beq same ▸ sets⟩

theorem field_of_isSpelling {field other : SettingField}
    (same : isSpelling field.name other.name = true) : field = other := by
  revert same
  cases field <;> cases other <;> decide +kernel

namespace Settings

def text (settings : Settings) : SettingField → String
  | .defaultNamespace => settings.defaultNs
  | .defaultDirectory => settings.defaultDirectory

def given (settings : Settings) : List (String × Value) :=
  [SettingField.defaultNamespace, .defaultDirectory].map fun field =>
    (field.name, .text (settings.text field))

theorem mem_given (settings : Settings) (field : SettingField) :
    (field.name, .text (settings.text field)) ∈ settings.given := by
  cases field <;> simp [given]

theorem of_mem_given {settings : Settings} {entry : String × Value}
    (member : entry ∈ settings.given) :
    ∃ field : SettingField, entry = (field.name, .text (settings.text field)) := by
  obtain ⟨field, -, rfl⟩ := List.mem_map.mp member
  exact ⟨field, rfl⟩

end Settings

namespace Loader.Documented

variable {loader : Loader} {isFor : String → String → Bool} (documented : loader.Documented isFor)
include documented

theorem file_nil (name : String) : loader.fromFile (FileLine.file []) name = none := by
  cases own : loader.fromFile (FileLine.file []) name with
  | none => rfl
  | some text =>
    obtain ⟨written, ⟨before, after, nothing, -⟩, -⟩ :=
      (documented.file (List.forall_mem_nil _) name).of_some own
    simp [FileLine.settings] at nothing

theorem candidates_file (plain : PlainSources) (field : SettingField) :
    (loader.candidates plain.sources field).file =
      loader.fromFile (FileLine.file plain.lines) field.variableName := by
  cases own : plain.file with
  | none => simp [candidates, PlainSources.sources, PlainSources.lines, own, documented.file_nil]
  | some lines => simp [candidates, PlainSources.sources, PlainSources.lines, own]

theorem exists_supplies (plain : PlainSources) (field : SettingField) :
    ∃ text, loader.chosen (loader.candidates plain.sources field) = .text text ∧
      plain.Supplies isFor field text := by
  cases own : loader.fromGiven plain.sources.given field.name with
  | some value =>
    obtain ⟨written, held, named⟩ := (documented.given _ _).of_some own
    obtain ⟨⟨name, text⟩, member, same⟩ := List.mem_map.mp held
    obtain ⟨rfl, rfl⟩ := Prod.mk.inj same
    exact ⟨text, documented.given_first own, .given member named⟩
  | none =>
    have ungiven : ∀ entry ∈ plain.given, isFor entry.1 field.name = false := by
      intro entry member
      have held : (entry.1, Value.text entry.2) ∈ plain.sources.given :=
        List.mem_map.mpr ⟨entry, member, rfl⟩
      exact (documented.given _ _).of_none own held
    cases set : loader.fromEnvironment plain.environment field.variableName with
    | some text =>
      obtain ⟨written, member, named⟩ := (documented.environment _ _).of_some set
      exact ⟨text, documented.environment_second own set, .environment ungiven member named⟩
    | none =>
      have unset : ∀ entry ∈ plain.environment, isSpelling entry.1 field.variableName = false :=
        fun entry member => (documented.environment _ _).of_none set member
      have file := documented.candidates_file plain field
      cases line : loader.fromFile (FileLine.file plain.lines) field.variableName with
      | some text =>
        obtain ⟨written, last, named⟩ := (documented.file plain.simple_lines _).of_some line
        exact ⟨text, documented.file_third own set (file.trans line),
          .file ungiven unset last named⟩
      | none =>
        refine ⟨field.default, documented.default_last own set (file.trans line),
          .default ungiven unset ?_⟩
        intro entry member
        obtain ⟨value, last⟩ := exists_lastSets member
        exact (documented.file plain.simple_lines _).of_none line last

theorem exists_texts (plain : PlainSources) :
    ∃ texts : SettingField → String, loader.texts plain.sources = .ok texts ∧
      ∀ field, loader.chosen (loader.candidates plain.sources field) = .text (texts field) ∧
        plain.Supplies isFor field (texts field) := by
  choose texts found using documented.exists_supplies plain
  refine ⟨texts, ?_, found⟩
  rw [Loader.texts, funext fun field => (found field).1]
  exact documented.texts_pass texts

theorem candidates_congr {field : SettingField} {one other : PlainSources}
    (agree : PlainSources.AgreeOn isFor field one other) :
    loader.candidates one.sources field = loader.candidates other.sources field := by
  have given : loader.fromGiven one.sources.given field.name =
      loader.fromGiven other.sources.given field.name := by
    apply documented.given_ignores
    have asValues := congrArg (List.map fun (name, text) => (name, Value.text text)) agree.given
    simpa only [PlainSources.sources, List.filter_map, Function.comp_def] using asValues
  have environment : loader.fromEnvironment one.sources.environment field.variableName =
      loader.fromEnvironment other.sources.environment field.variableName :=
    documented.environment_ignores agree.environment
  have file : (loader.candidates one.sources field).file =
      (loader.candidates other.sources field).file := by
    rw [documented.candidates_file, documented.candidates_file]
    exact documented.file_ignores one.simple_lines other.simple_lines agree.file
  simp only [candidates] at file ⊢
  rw [given, environment, file]

theorem fromGiven_given (settings : Settings) (field : SettingField) :
    loader.fromGiven settings.given field.name = some (.text (settings.text field)) := by
  cases found : loader.fromGiven settings.given field.name with
  | none =>
    have unnamed := (documented.given _ _).of_none found (settings.mem_given field)
    rw [documented.isFor_self] at unnamed
    cases unnamed
  | some value =>
    obtain ⟨written, member, named⟩ := (documented.given _ _).of_some found
    obtain ⟨own, same⟩ := settings.of_mem_given member
    obtain ⟨rfl, rfl⟩ := Prod.mk.inj same
    rw [field_of_isSpelling (documented.isSpelling_of_isFor named)]

theorem load_given (settings : Settings)
    (stripped : withoutOuterSlashes settings.defaultDirectory = settings.defaultDirectory)
    (environment : List (String × String)) (file : Option String) :
    Settings.load loader ⟨settings.given, environment, file⟩ = .ok settings := by
  have found (field : SettingField) :
      loader.chosen (loader.candidates ⟨settings.given, environment, file⟩ field) =
        .text (settings.text field) :=
    documented.given_first (documented.fromGiven_given settings field)
  have collected : loader.texts ⟨settings.given, environment, file⟩ = .ok settings.text := by
    rw [Loader.texts, funext found]
    exact documented.texts_pass settings.text
  rw [Settings.load_of_texts collected, Settings.text, Settings.text, stripped]

end Loader.Documented

theorem withoutOuterSlashes_clean (text : String) :
    (∃ front back, text.toList = front ++ (withoutOuterSlashes text).toList ++ back ∧
      (∀ c ∈ front, c = '/') ∧ ∀ c ∈ back, c = '/') ∧
    (withoutOuterSlashes text).toList.head? ≠ some '/' ∧
      (withoutOuterSlashes text).toList.getLast? ≠ some '/' := by
  rw [withoutOuterSlashes, String.toList_ofList]
  refine ⟨?_, ?_, ?_⟩
  · simpa using exists_around_strip (· == '/') text.toList
  · intro first
    simpa using of_mem_head?_strip (Option.mem_def.mpr first)
  · intro last
    simpa using of_mem_getLast?_strip (Option.mem_def.mpr last)

theorem withoutOuterSlashes_idem (text : String) :
    withoutOuterSlashes (withoutOuterSlashes text) = withoutOuterSlashes text := by
  simp only [withoutOuterSlashes, String.toList_ofList, strip_strip]

/-- Let the library be as it is documented, whether or not it minds the case of given names. From
texts given outright, an environment and a file of simple lines, settings are always loaded. Each
field has the text of the first source that names it, where an empty text counts like any other; of
the text for the directory the slashes at its ends are left out, and nothing else. Sources that
agree on a field load it alike. Loaded settings can be given again, and are loaded as they are. -/
theorem settings_from_first_source (loader : Loader) (isFor : String → String → Bool)
    (documented : loader.Documented isFor) :
    (∀ plain : PlainSources,
      ∃ settings directory, Settings.load loader plain.sources = .ok settings ∧
        plain.Supplies isFor .defaultNamespace settings.defaultNs ∧
        plain.Supplies isFor .defaultDirectory directory ∧
        (∃ front back, directory.toList = front ++ settings.defaultDirectory.toList ++ back ∧
          (∀ c ∈ front, c = '/') ∧ ∀ c ∈ back, c = '/') ∧
        settings.defaultDirectory.toList.head? ≠ some '/' ∧
        settings.defaultDirectory.toList.getLast? ≠ some '/' ∧
        ∀ environment file,
          Settings.load loader ⟨settings.given, environment, file⟩ = .ok settings) ∧
    (∀ (one other : PlainSources) (settings others : Settings),
      Settings.load loader one.sources = .ok settings →
      Settings.load loader other.sources = .ok others →
      (PlainSources.AgreeOn isFor .defaultNamespace one other →
        settings.defaultNs = others.defaultNs) ∧
      (PlainSources.AgreeOn isFor .defaultDirectory one other →
        settings.defaultDirectory = others.defaultDirectory)) := by
  constructor
  · intro plain
    obtain ⟨texts, collected, found⟩ := documented.exists_texts plain
    let settings : Settings :=
      ⟨texts .defaultNamespace, withoutOuterSlashes (texts .defaultDirectory)⟩
    obtain ⟨around, begins, ends⟩ := withoutOuterSlashes_clean (texts .defaultDirectory)
    exact ⟨settings, texts .defaultDirectory, Settings.load_of_texts collected,
      (found .defaultNamespace).2, (found .defaultDirectory).2, around, begins, ends,
      documented.load_given settings (withoutOuterSlashes_idem _)⟩
  · intro one other settings others loaded reloaded
    obtain ⟨texts, collected, found⟩ := documented.exists_texts one
    obtain ⟨again, recollected, refound⟩ := documented.exists_texts other
    obtain rfl := Except.ok.inj ((Settings.load_of_texts collected).symm.trans loaded)
    obtain rfl := Except.ok.inj ((Settings.load_of_texts recollected).symm.trans reloaded)
    have same {field : SettingField} (agree : PlainSources.AgreeOn isFor field one other) :
        texts field = again field := by
      have alike := (found field).1.symm.trans
        ((congrArg loader.chosen (documented.candidates_congr agree)).trans (refound field).1)
      simpa using alike
    exact ⟨same, fun agree => congrArg withoutOuterSlashes (same agree)⟩

/- The loader for simple files is an instance. -/

theorem firstFor_eq_head? {α : Type} (asked : String → Bool) (entries : List (String × α)) :
    firstFor asked entries = ((entries.filter fun entry => asked entry.1).head?).map Prod.snd := by
  rw [firstFor, List.head?_filter]

theorem finds_firstFor {α : Type} (asked : String → Bool) (entries : List (String × α)) :
    Finds (fun written value => (written, value) ∈ entries) asked (firstFor asked entries) := by
  constructor
  · intro value here
    obtain ⟨entry, found, rfl⟩ := Option.map_eq_some_iff.mp here
    have named := List.find?_some found
    exact ⟨entry.1, List.mem_of_find?_eq_some found, named⟩
  · intro missing written value held
    have unasked := List.find?_eq_none.mp (Option.map_eq_none_iff.mp missing) _ held
    simpa using unasked

theorem finds_last (asked : String → Bool) (lines : List (String × String)) :
    Finds (LastSets lines) asked (firstFor asked lines.reverse) := by
  constructor
  · intro value here
    obtain ⟨line, found, rfl⟩ := Option.map_eq_some_iff.mp here
    exact ⟨line.1, lastSets_of_find? found⟩
  · rintro missing written value ⟨before, after, rfl, -⟩
    have unasked := List.find?_eq_none.mp (Option.map_eq_none_iff.mp missing) (written, value)
    simpa using unasked

theorem fromFile_plain {lines : List FileLine} (simple : ∀ line ∈ lines, line.Simple)
    (name : String) : Loader.plain.fromFile (FileLine.file lines) name =
      firstFor (isSpelling · name) (FileLine.settings lines).reverse := by
  simp only [Loader.plain, FileLine.filterMap_read?_file simple, FileLine.settings]

theorem documented_plain : Loader.plain.Documented (· == ·) where
  isFor_self name := by simp
  isSpelling_of_isFor named := by simp [isSpelling, eq_of_beq named]
  given entries name := finds_firstFor (· == name) entries
  environment entries name := by
    have finds := finds_firstFor (isSpelling · name) entries.reverse
    simp only [List.mem_reverse] at finds
    exact finds
  file simple name := by
    rw [fromFile_plain simple]
    exact finds_last (isSpelling · name) _
  given_ignores {entries others name} same := by
    simp only [Loader.plain, firstFor_eq_head?, same]
  environment_ignores same := by
    simp only [Loader.plain, firstFor_eq_head?, List.filter_reverse, same]
  file_ignores simple plain name same := by
    rw [fromFile_plain simple, fromFile_plain plain]
    simp only [firstFor_eq_head?, List.filter_reverse, same]
  given_first given := by simp [Loader.plain, given]
  environment_second ungiven set := by simp [Loader.plain, ungiven, set]
  file_third ungiven unset written := by simp [Loader.plain, ungiven, unset, written]
  default_last ungiven unset unwritten := by simp [Loader.plain, ungiven, unset, unwritten]
  texts_pass texts := rfl

theorem empty_namespace_hides_the_file :
    let text := "# names\nPACKSMITH_DEFAULT_NAMESPACE=low\n \n" ++
      "PACKSMITH_DEFAULT_DIRECTORY=//a\n\tPACKSMITH_DEFAULT_DIRECTORY=/gen//lib/#1"
    let sources : Sources :=
      ⟨[("other", .text "y")], [("Packsmith_Default_Namespace", ""), ("PATH", "/bin")], some text⟩
    let settings : Settings := ⟨"", "gen//lib/#1"⟩
    Loader.plain.Documented (· == ·) ∧ Settings.load .plain sources = .ok settings ∧
      (∃ plain : PlainSources, plain.sources = sources ∧
        plain.Supplies (· == ·) .defaultNamespace "") ∧
      Settings.load .plain ⟨settings.given, sources.environment, none⟩ = .ok settings := by
  intro text sources settings
  let lines : List FileLine :=
    [.comment [] " names".toList, .setting [] "PACKSMITH_DEFAULT_NAMESPACE" "low", .blank [' '],
     .setting [] "PACKSMITH_DEFAULT_DIRECTORY" "//a",
     .setting ['\t'] "PACKSMITH_DEFAULT_DIRECTORY" "/gen//lib/#1"]
  have simple : ∀ own ∈ some lines, ∀ line ∈ own, line.Simple := by
    rintro own ⟨⟩
    simp only [lines, List.forall_mem_cons]
    refine ⟨?_, ?_, ?_, ?_, ?_, ?_⟩ <;> decide +kernel
  let plain : PlainSources :=
    ⟨[("other", "y")], [("Packsmith_Default_Namespace", ""), ("PATH", "/bin")], some lines, simple⟩
  have written : FileLine.file lines = text := by decide +kernel
  have same : plain.sources = sources := congrArg (Sources.mk _ _ ∘ some) written
  have evaluated : Settings.load .plain sources = .ok settings := by decide +kernel
  obtain ⟨supplied, -⟩ := settings_from_first_source .plain (· == ·) documented_plain
  obtain ⟨own, directory, loaded, ns, -, -, -, -, again⟩ := supplied plain
  rw [same] at loaded
  obtain rfl : settings = own := Except.ok.inj (evaluated.symm.trans loaded)
  exact ⟨documented_plain, evaluated, ⟨plain, same, ns⟩, again _ _⟩

end DatapackAuthoring
