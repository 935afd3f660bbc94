import DatapackAuthoring.Proofs.Datapack.FileLines
import DatapackAuthoring.Proofs.Datapack.OpenedBases

namespace DatapackAuthoring

open Text

/- Slashes at either end add no piece. -/

theorem filled_pieces_append (before after : List Char) :
    ((before ++ '/' :: after).splitOn '/').filter (· ≠ []) =
      (before.splitOn '/').filter (· ≠ []) ++ (after.splitOn '/').filter (· ≠ []) := by
  rw [List.splitOn_append_cons_self, List.filter_append]

theorem filled_pieces_of_slashes {slashes : List Char} (all : ∀ c ∈ slashes, c = '/') :
    (slashes.splitOn '/').filter (· ≠ []) = [] := by
  induction slashes with
  | nil => simp
  | cons c rest ih =>
    obtain ⟨rfl, later⟩ := List.forall_mem_cons.mp all
    have step := filled_pieces_append [] rest
    rw [List.nil_append] at step
    rw [step, ih later]
    simp

theorem filled_pieces_behind {slashes : List Char} (all : ∀ c ∈ slashes, c = '/')
    (text : List Char) :
    ((slashes ++ text).splitOn '/').filter (· ≠ []) = (text.splitOn '/').filter (· ≠ []) := by
  induction slashes with
  | nil => rfl
  | cons c rest ih =>
    obtain ⟨rfl, later⟩ := List.forall_mem_cons.mp all
    have step := filled_pieces_append [] (rest ++ text)
    rw [List.nil_append] at step
    rw [List.cons_append, step, ih later]
    simp

theorem filled_pieces_before {slashes : List Char} (all : ∀ c ∈ slashes, c = '/')
    (text : List Char) :
    ((text ++ slashes).splitOn '/').filter (· ≠ []) = (text.splitOn '/').filter (· ≠ []) := by
  cases slashes with
  | nil => rw [List.append_nil]
  | cons c rest =>
    obtain ⟨rfl, later⟩ := List.forall_mem_cons.mp all
    rw [filled_pieces_append, filled_pieces_of_slashes later, List.append_nil]

theorem Directory.ofText_withoutOuterSlashes (text : String) :
    ofText (withoutOuterSlashes text) = ofText text := by
  apply eq_of_segments
  apply (List.map_inj_right fun _ _ => String.toList_inj.mp).mp
  obtain ⟨front, back, whole, slashesFront, slashesBack⟩ :=
    exists_around_strip (· == '/') text.toList
  simp only [beq_iff_eq] at slashesFront slashesBack
  rw [segments_ofText, segments_ofText, pieces_eq_splitOn, pieces_eq_splitOn, withoutOuterSlashes,
    String.toList_ofList]
  generalize strip (· == '/') text.toList = kept at whole ⊢
  rw [whole, filled_pieces_before slashesBack, filled_pieces_behind slashesFront]

namespace Settings

theorem basePath_given {loader : Loader} {sources : Sources} {texts : SettingField → String}
    {settings : Settings} {directory : Value} (collected : loader.texts sources = .ok texts)
    (loaded : load loader sources = .ok settings)
    (same : directory.asText? = some (texts .defaultDirectory)) :
    settings.basePath .absent directory = .ok settings.root := by
  obtain rfl := Except.ok.inj ((load_of_texts collected).symm.trans loaded)
  rw [basePath_of_asText? same, root, Directory.ofText_withoutOuterSlashes]

theorem basePath_congr {settings others : Settings}
    (same : settings.defaultNs = others.defaultNs) (ns directory : Value) :
    settings.basePath ns directory = others.basePath ns directory := by
  rw [basePath, basePath, same]

end Settings

namespace Session

theorem result_basePath (session : Session) (ns directory : Value) :
    (session.step (.basePath ns directory)).result =
      (session.settings.basePath ns directory).map Answer.base := by
  rw [step]
  cases session.settings.basePath ns directory <;> rfl

theorem base_of_basePath {session : Session} {ns directory : Value} {context : Context}
    (made : session.settings.basePath ns directory = .ok context) :
    (session.step (.basePath ns directory)).state.base session.bases.length = .ok context := by
  rw [base_eq_ok_iff, step, bases_opened, made]
  simp [Except.toOption]

theorem bases_prefix_descend (session : Session) (index : Nat) (directories : List Value) :
    session.bases <+: (session.descend index directories).1.bases := by
  induction directories generalizing session index with
  | nil => exact List.prefix_rfl
  | cons first rest ih => exact (session.bases_prefix_step _).trans (ih _ _)

/-- Two base paths under which every name is answered alike and every creation goes the same way,
    now and after any further steps. -/
def Alike (session : Session) (one other : Nat) : Prop :=
  ∀ (after : List Step) (name : Value),
    let present := (session.run after).1
    present.step (.getName one name) = present.step (.getName other name) ∧
      ∀ request, present.step (.create one name request) =
        present.step (.create other name request)

theorem alike_of_base {session : Session} {one other : Nat} {context : Context}
    (first : session.base one = .ok context) (second : session.base other = .ok context) :
    session.Alike one other := by
  intro after name present
  have same : present.base one = present.base other := by
    rw [base_run first, base_run second]
  constructor
  · simp only [step, same]
  · intro request
    simp only [step, same]

theorem alike_of_descend {session : Session} {one other : Nat} {context scope : Context}
    {directories : List Value} (first : session.base one = .ok context)
    (second : session.base other = .ok context) (nested : context.nest directories = .ok scope) :
    let left := session.descend one directories
    let right := left.1.descend other directories
    right.1.Alike left.2 right.2 := by
  intro left right
  have arrived : left.1.base left.2 = .ok scope := base_of_descend first nested
  have beside : left.1.base other = .ok context :=
    base_of_prefix (session.bases_prefix_descend one directories) second
  have stays : right.1.base left.2 = .ok scope :=
    base_of_prefix (left.1.bases_prefix_descend other directories) arrived
  exact alike_of_base stays (base_of_descend beside nested)

theorem result_getName_descend {session : Session} {index : Nat} {context scope : Context}
    {directories : List Value} (known : session.base index = .ok context)
    (nested : context.nest directories = .ok scope) (after : List Step) (name : Value) :
    let deep := session.descend index directories
    ((deep.1.run after).1.step (.getName deep.2 name)).result =
      (scope.resolve name).map Answer.identifier :=
  result_getName (base_run (base_of_descend known nested) after) name

end Session

/-- Let a datapack have been started with a default directory that was given as some text, wherever
    the settings were collected from. Then a base path that is opened with that text, and without a namespace, has the context of the root.
    A chain of base paths below the one and the same chain below the other end in base paths that
    are alike, and so are the root and the base path themselves. In two datapacks with one default
    namespace, whatever their default directories are and whatever was done in them, base paths are
    opened with the same answer, and below those that are opened every chain ends in base paths
    that resolve every name to the same identifier or fault. -/
theorem default_directory_stays_at_the_root :
    (∀ (loader : Loader) (sources : Sources) (texts : SettingField → String)
      (settings : Settings) (directory : Value) (session : Session) (log : List LogLine)
      (before : List Step),
      loader.texts sources = .ok texts →
      Settings.load loader sources = .ok settings →
      directory.asText? = some (texts .defaultDirectory) →
      Session.start settings = .ok (session, log) →
      let here := (session.run before).1
      let opened := here.step (.basePath .absent directory)
      ∃ root, here.base 0 = .ok root ∧ opened.result = .ok (.base root) ∧
        ∀ directories scope, root.nest directories = .ok scope →
          let left := opened.state.descend 0 directories
          let right := left.1.descend here.bases.length directories
          right.1.Alike left.2 right.2) ∧
    (∀ (settings others : Settings) (session other : Session) (log lines : List LogLine)
      (before earlier : List Step) (ns directory : Value),
      settings.defaultNs = others.defaultNs →
      Session.start settings = .ok (session, log) →
      Session.start others = .ok (other, lines) →
      let here := (session.run before).1
      let there := (other.run earlier).1
      let opened := here.step (.basePath ns directory)
      let counterpart := there.step (.basePath ns directory)
      opened.result = counterpart.result ∧
        ∀ context directories scope, opened.result = .ok (.base context) →
          context.nest directories = .ok scope →
          let deep := opened.state.descend here.bases.length directories
          let below := counterpart.state.descend there.bases.length directories
          ∀ after later name,
            ((deep.1.run after).1.step (.getName deep.2 name)).result =
              ((below.1.run later).1.step (.getName below.2 name)).result) := by
  constructor
  · intro loader sources texts settings directory session log before collected loaded same started
      here opened
    have own : here.settings = settings := Session.settings_of_start started before
    have made : here.settings.basePath .absent directory = .ok settings.root := by
      rw [own]
      exact Settings.basePath_given collected loaded same
    have top : here.base 0 = .ok settings.root := Session.base_root started before
    have answered : opened.result = .ok (.base settings.root) := by
      have result : opened.result = _ := here.result_basePath .absent directory
      rw [result, made]
      rfl
    refine ⟨settings.root, top, answered, ?_⟩
    intro directories scope nested
    exact Session.alike_of_descend (Session.base_of_prefix (here.bases_prefix_step _) top)
      (Session.base_of_basePath made) nested
  · intro settings others session other log lines before earlier ns directory agree started begun
      here there opened counterpart
    have own : here.settings = settings := Session.settings_of_start started before
    have their : there.settings = others := Session.settings_of_start begun earlier
    have same : here.settings.basePath ns directory = there.settings.basePath ns directory := by
      rw [own, their, Settings.basePath_congr agree]
    have one : opened.result = _ := here.result_basePath ns directory
    have two : counterpart.result = _ := there.result_basePath ns directory
    refine ⟨by rw [one, two, same], ?_⟩
    intro context directories scope answered nested deep below after later name
    obtain ⟨found, made, again⟩ := map_eq_ok_iff.mp (one.symm.trans answered)
    obtain rfl : found = context := by simpa using again
    have first := Session.result_getName_descend (Session.base_of_basePath made) nested after name
    have second :=
      Session.result_getName_descend (Session.base_of_basePath (same ▸ made)) nested later name
    exact first.trans second.symm

theorem generated_tools_either_way :
    let sources : Sources := ⟨[("default_directory", .text "//gen//lib/")], [], none⟩
    let settings : Settings := ⟨"minecraft", "gen//lib"⟩
    let plain : Settings := ⟨"minecraft", ""⟩
    let session : Session := ⟨settings, .empty (.text "minecraft"), [settings.root]⟩
    let other : Session := ⟨plain, .empty (.text "minecraft"), [plain.root]⟩
    let left := (session.step (.basePath .absent (.text "//gen//lib/"))).state.descend 0
      [.text "tools"]
    let right := left.1.descend 1 [.text "tools"]
    let opening : Step := .basePath (.text "pack") (.text "lib")
    let deep := (session.step opening).state.descend 1 [.text "tools"]
    let below := (other.step opening).state.descend 1 [.text "tools"]
    Settings.load .plain sources = .ok settings ∧ right.1.Alike left.2 right.2 ∧
      (right.1.step (.getName right.2 (.text "go"))).result =
        .ok (.identifier ⟨"minecraft", "gen/lib/tools/go", false⟩) ∧
      (deep.1.step (.getName deep.2 (.text "go"))).result =
        (below.1.step (.getName below.2 (.text "go"))).result := by
  intro sources settings plain session other left right opening deep below
  let texts (field : SettingField) : String :=
    if field = .defaultNamespace then "minecraft" else "//gen//lib/"
  have collected : Loader.plain.texts sources = .ok texts :=
    Loader.plain_texts fun field => by cases field <;> rfl
  have loaded : Settings.load .plain sources = .ok settings :=
    (Settings.load_of_texts collected).trans (by decide +kernel)
  have started : Session.start settings = .ok (session, _) := Session.start_eq settings
  have begun : Session.start plain = .ok (other, _) := Session.start_eq plain
  obtain ⟨withinOne, betweenTwo⟩ := default_directory_stays_at_the_root
  refine ⟨loaded, ?_, ?_, ?_⟩
  · obtain ⟨root, top, -, alike⟩ :=
      withinOne .plain sources texts settings (.text "//gen//lib/") session _ [] collected loaded
        rfl started
    obtain rfl : settings.root = root := Except.ok.inj top
    exact alike [.text "tools"] _ rfl
  · simp only [right, left, session, settings]
    rfl
  · obtain ⟨-, resolved⟩ :=
      betweenTwo settings plain session other _ _ [] [] (.text "pack") (.text "lib") rfl started
        begun
    exact resolved _ [.text "tools"] _ rfl rfl [] [] (.text "go")

end DatapackAuthoring
