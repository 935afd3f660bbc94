import DatapackAuthoring.Proofs.Naming.ResolvedNames
/-!
What resolution answers, said of segments. The code judges one joined path; here the directory and
the name give a list of segments, and each rule is a condition on the segments one by one. The
rules stand in their order, and the first that applies decides.
-/
namespace DatapackAuthoring

def isSegmentChar (c : Char) : Bool := isNamespaceChar c || c == '.'

/-- A character of a segment is outside the alphabet. A line feed at the very end of the last
    segment passes, unless there is nothing before it. -/
def HasForeignChar (segments : List (List Char)) : Prop :=
  ∃ above before c after below, segments = above ++ (before ++ c :: after) :: below ∧
    isSegmentChar c = false ∧
    ¬(c = '\n' ∧ after = [] ∧ below = [] ∧ (above ≠ [] ∨ before ≠ []))

def HasDoubleDot (segments : List (List Char)) : Prop := ∃ s ∈ segments, ['.', '.'] <:+: s

def segmentsUnder (directory : Directory) (bare : String) : List (List Char) :=
  directory.segments.map String.toList ++ (bare.toList.splitOn '/').filter (· ≠ [])

def pathOf (segments : List (List Char)) : String := String.ofList (slashed segments)

inductive Verdict (ns : String) (segments : List (List Char)) (explicit : Bool) :
    Except Fault Identifier → Prop where
  | invalidNamespace (bad : ¬Word isNamespaceChar ns.toList) :
      Verdict ns segments explicit (.error (.invalidNamespace ns))
  | emptyName (good : Word isNamespaceChar ns.toList) (blank : segments = []) :
      Verdict ns segments explicit (.error .emptyName)
  | invalidPath (good : Word isNamespaceChar ns.toList) (filled : segments ≠ [])
      (foreign : HasForeignChar segments) :
      Verdict ns segments explicit (.error (.invalidPath (pathOf segments)))
  | doubleDot (good : Word isNamespaceChar ns.toList) (filled : segments ≠ [])
      (inside : ¬HasForeignChar segments) (dots : HasDoubleDot segments) :
      Verdict ns segments explicit (.error (.doubleDot (pathOf segments)))
  | accepted (good : Word isNamespaceChar ns.toList) (filled : segments ≠ [])
      (inside : ¬HasForeignChar segments) (single : ¬HasDoubleDot segments) :
      Verdict ns segments explicit (.ok ⟨ns, pathOf segments, explicit⟩)

/-- The answer to a name, under the namespace of a context if there is one, a directory, and a
    default namespace. -/
inductive Ruling (given : Option String) (directory : Directory) (defaultNs name : String) :
    Except Fault Identifier → Prop where
  | twice {ns : String} (fixed : given = some ns) (colon : ':' ∈ name.toList) :
      Ruling given directory defaultNs name (.error (.namespaceUnderBasePath name ns))
  | fixed {ns : String} {result : Except Fault Identifier} (fixed : given = some ns)
      (bare : ':' ∉ name.toList) (verdict : Verdict ns (segmentsUnder directory name) true result) :
      Ruling given directory defaultNs name result
  | chosen {ns path : String} {result : Except Fault Identifier} (free : given = none)
      (whole : name = ns ++ ":" ++ path) (first : ':' ∉ ns.toList)
      (verdict : Verdict ns (segmentsUnder directory path) true result) :
      Ruling given directory defaultNs name result
  | plain {result : Except Fault Identifier} (free : given = none) (bare : ':' ∉ name.toList)
      (verdict : Verdict defaultNs (segmentsUnder directory name) false result) :
      Ruling given directory defaultNs name result

def Value.asOptionalText? : Value → Option (Option String)
  | .absent => some none
  | value => value.asText?.map some

theorem isPathChar_eq (c : Char) : isPathChar c = (isSegmentChar c || c == '/') := by
  simp only [isPathChar, isSegmentChar, Bool.or_assoc, Bool.or_comm (c == '/')]

/-- The exception for a line feed at the end is the same on the joined path and on segments. -/
theorem word_slashed_iff {segments : List (List Char)}
    (clean : ∀ s ∈ segments, s ≠ [] ∧ '/' ∉ s) (filled : segments ≠ []) :
    Word isPathChar (slashed segments) ↔ ¬HasForeignChar segments := by
  have started : slashed segments ≠ [] := fun none =>
    filled ((slashed_eq_nil_iff fun s member => (clean s member).1).mp none)
  rw [word_iff_never_strays started]
  constructor
  · rintro never ⟨above, before, c, after, below, split, foreign, notLast⟩
    have joined := slashed_around above (before ++ c :: after) below
    rw [← split] at joined
    have notSlash : c ≠ '/' := by
      rintro rfl
      exact (clean (before ++ '/' :: after) (by simp [split])).2 (by simp)
    refine never (above.flatMap (· ++ ['/']) ++ before) c (after ++ below.flatMap ('/' :: ·))
      (by simp [joined]) ⟨by simp [isPathChar_eq, foreign, notSlash], ?_⟩
    rintro ⟨feed, last, more⟩
    obtain ⟨noneAfter, noneBelow⟩ := (nothing_below_iff after below).mp last
    exact notLast ⟨feed, noneAfter, noneBelow, (something_above_iff above before).mp more⟩
  · intro inside pre c post joined ⟨stray, notLast⟩
    rw [isPathChar_eq, Bool.or_eq_false_iff] at stray
    obtain ⟨above, before, after, below, split, rfl, rfl⟩ :=
      exists_segment_of_slashed (by simpa using stray.2) joined
    refine inside ⟨above, before, c, after, below, split, stray.1, ?_⟩
    rintro ⟨feed, rfl, rfl, more⟩
    exact notLast ⟨feed, rfl, (something_above_iff above before).mpr more⟩

theorem segmentsUnder_eq (directory : Directory) (bare : String) :
    segmentsUnder directory bare =
      (directory ++ .ofText bare : Directory).segments.map String.toList := by
  simp [segmentsUnder, Directory.pieces_eq_splitOn]

theorem text_append_ofText (directory : Directory) (bare : String) :
    (directory ++ .ofText bare).text = pathOf (segmentsUnder directory bare) := by
  rw [pathOf, segmentsUnder_eq, ← Directory.toList_text, String.ofList_toList]

theorem toList_pathOf (segments : List (List Char)) :
    (pathOf segments).toList = slashed segments := String.toList_ofList

theorem verdict_judged (ns : String) {segments : List (List Char)} (explicit : Bool)
    (clean : ∀ s ∈ segments, s ≠ [] ∧ '/' ∉ s) :
    Verdict ns segments explicit
      (judged ns (pathOf segments) ⟨ns, pathOf segments, explicit⟩) := by
  unfold judged
  by_cases good : Word isNamespaceChar ns.toList
  · rw [checkNamespace_of_word good, ok_bind]
    by_cases blank : segments = []
    · have path : pathOf segments = "" := by simp [pathOf, blank]
      rw [path, checkPath_of_empty, error_bind]
      exact .emptyName good blank
    · have filled : (pathOf segments).toList ≠ [] := by
        rw [toList_pathOf]
        exact fun none => blank ((slashed_eq_nil_iff fun s member => (clean s member).1).mp none)
      have word := word_slashed_iff clean blank
      rw [← toList_pathOf] at word
      by_cases foreign : HasForeignChar segments
      · rw [checkPath_of_not_word filled fun passes => word.mp passes foreign, error_bind]
        exact .invalidPath good blank foreign
      · rw [checkPath_of_word (word.mpr foreign), toList_pathOf]
        by_cases dots : HasDoubleDot segments
        · rw [if_pos ((hasDoubleDot_slashed segments).mpr dots), error_bind]
          exact .doubleDot good blank foreign dots
        · rw [if_neg fun found => dots ((hasDoubleDot_slashed segments).mp found), ok_bind]
          exact .accepted good blank foreign dots
  · rw [checkNamespace_of_not_word good, error_bind]
    exact .invalidNamespace good

theorem verdict_unique {ns : String} {segments : List (List Char)} {explicit : Bool}
    {first second : Except Fault Identifier} (one : Verdict ns segments explicit first)
    (other : Verdict ns segments explicit second) : first = second := by
  cases one <;> cases other <;> first | rfl | contradiction

theorem colon_mem_append (ns path : String) : ':' ∈ (ns ++ ":" ++ path).toList := by simp

theorem ruling_unique {given : Option String} {directory : Directory} {defaultNs name : String}
    {first second : Except Fault Identifier} (one : Ruling given directory defaultNs name first)
    (other : Ruling given directory defaultNs name second) : first = second := by
  cases one with
  | twice fixed colon =>
    cases other with
    | twice fixed' _ => rw [Option.some.inj (fixed.symm.trans fixed')]
    | fixed _ bare _ => exact absurd colon bare
    | chosen free _ _ _ => simp [fixed] at free
    | plain free _ _ => simp [fixed] at free
  | fixed fixed bare verdict =>
    cases other with
    | twice _ colon => exact absurd colon bare
    | fixed fixed' _ verdict' =>
      obtain rfl := Option.some.inj (fixed.symm.trans fixed')
      exact verdict_unique verdict verdict'
    | chosen free _ _ _ => simp [fixed] at free
    | plain free _ _ => simp [fixed] at free
  | @chosen ns path _ free whole start verdict =>
    cases other with
    | twice fixed _ => simp [free] at fixed
    | fixed fixed _ _ => simp [free] at fixed
    | @chosen ns' path' _ _ whole' start' verdict' =>
      have same := splitNamespace_append start path
      rw [← whole, whole', splitNamespace_append start' path'] at same
      obtain ⟨rfl, rfl⟩ : ns' = ns ∧ path' = path := by simpa using same
      exact verdict_unique verdict verdict'
    | plain _ bare _ => exact absurd (whole ▸ colon_mem_append ns path) bare
  | plain free bare verdict =>
    cases other with
    | twice fixed _ => simp [free] at fixed
    | fixed fixed _ _ => simp [free] at fixed
    | @chosen ns path _ _ whole _ _ => exact absurd (whole ▸ colon_mem_append ns path) bare
    | plain _ _ verdict' => exact verdict_unique verdict verdict'

theorem Value.eq_absent_of_optional {value : Value} (free : value.asOptionalText? = some none) :
    value = .absent := by
  cases value <;> simp_all [asOptionalText?, asText?]

theorem Value.asText?_of_optional {value : Value} {s : String}
    (fixed : value.asOptionalText? = some (some s)) : value.asText? = some s := by
  cases value <;> simp_all [asOptionalText?, asText?]

theorem verdict_under (ns : String) (directory : Directory) (bare : String) (explicit : Bool) :
    Verdict ns (segmentsUnder directory bare) explicit
      (judged ns (directory ++ .ofText bare).text
        ⟨ns, (directory ++ .ofText bare).text, explicit⟩) := by
  rw [text_append_ofText]
  exact verdict_judged ns explicit (segmentsUnder_eq directory bare ▸
    fun _ => Directory.toList_of_mem_segments)

theorem ruling_resolve {context : Context} {name : Value} {given : Option String}
    {text defaultNs : String} (named : name.asText? = some text)
    (ns : context.ns.asOptionalText? = some given)
    (default : context.defaultNs.asText? = some defaultNs) :
    Ruling given context.directory defaultNs text (context.resolve name) := by
  cases given with
  | some own =>
    have fixed := Value.asText?_of_optional ns
    by_cases colon : ':' ∈ text.toList
    · rw [Context.resolve_twice named fixed colon]
      exact .twice rfl colon
    · rw [Context.resolve_fixed named fixed colon]
      exact .fixed rfl colon (verdict_under own context.directory text true)
  | none =>
    have free := Value.eq_absent_of_optional ns
    by_cases colon : ':' ∈ text.toList
    · obtain ⟨own, path, start, rfl⟩ := exists_namespace_of_mem colon
      rw [Context.resolve_chosen named free start]
      exact .chosen rfl rfl start (verdict_under own context.directory path true)
    · rw [Context.resolve_plain named free default colon]
      exact .plain rfl colon (verdict_under defaultNs context.directory text false)

theorem segments_eq_nil_of_emptyName {ns : String} {segments : List (List Char)} {explicit : Bool}
    (verdict : Verdict ns segments explicit (.error .emptyName)) : segments = [] := by
  cases verdict
  assumption

/-- Resolution of a text, under a context whose namespace is a text or absent and whose default
    namespace is a text, answers what the rules say. Below a directory no name is empty. -/
theorem resolve_iff_ruling (context : Context) (name : Value) (given : Option String)
    (text defaultNs : String) (named : name.asText? = some text)
    (ns : context.ns.asOptionalText? = some given)
    (default : context.defaultNs.asText? = some defaultNs) :
    (∀ result, context.resolve name = result ↔
      Ruling given context.directory defaultNs text result) ∧
    (context.directory.segments ≠ [] → context.resolve name ≠ .error .emptyName) := by
  have ruling := ruling_resolve named ns default
  constructor
  · intro result
    constructor
    · rintro rfl
      exact ruling
    · intro other
      exact ruling_unique ruling other
  · intro below empty
    rw [empty] at ruling
    have blank : ∃ bare, segmentsUnder context.directory bare = [] := by
      cases ruling with
      | fixed _ _ verdict => exact ⟨_, segments_eq_nil_of_emptyName verdict⟩
      | chosen _ _ _ verdict => exact ⟨_, segments_eq_nil_of_emptyName verdict⟩
      | plain _ _ verdict => exact ⟨_, segments_eq_nil_of_emptyName verdict⟩
    obtain ⟨bare, none⟩ := blank
    simp [segmentsUnder, below] at none

theorem ruling_dots_before_line_feed :
    let context : Context := ⟨.absent, .ofText "utils", .text "minecraft"⟩
    Ruling none context.directory "minecraft" "b//c..d\n" (.error (.doubleDot "utils/b/c..d\n")) ∧
      context.resolve (.text "b//c..d\n") ≠ .error .emptyName := by
  intro context
  have answer : Context.resolve ⟨.absent, .ofText "utils", .text "minecraft"⟩
      (.text "b//c..d\n") = .error (.doubleDot "utils/b/c..d\n") := rfl
  have below : (Directory.ofText "utils").segments ≠ [] := by decide +kernel
  obtain ⟨ruled, filled⟩ :=
    resolve_iff_ruling context (.text "b//c..d\n") none "b//c..d\n" "minecraft" rfl rfl rfl
  exact ⟨(ruled _).mp answer, filled below⟩

end DatapackAuthoring
