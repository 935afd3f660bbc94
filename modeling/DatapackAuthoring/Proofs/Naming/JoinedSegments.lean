import DatapackAuthoring.Naming.Directory
import DatapackAuthoring.Naming.Rules
/-!
Segments joined by slashes. No segment is empty or holds a slash, so the joined text gives its
segments back, and a condition on its characters or on its dots is one on each segment by itself.
-/
namespace DatapackAuthoring

open Text

theorem cut_eq_splitOn (sep : Char) (text : List Char) : cut sep text = text.splitOn sep := by
  induction text with
  | nil => simp [cut]
  | cons c rest ih =>
    rw [List.splitOn_cons_eq_if_modifyHead, ← ih]
    by_cases same : c = sep
    · simp [cut, same]
    · cases pieces : cut sep rest with
      | nil => exact absurd pieces (cut_ne_nil sep rest)
      | cons piece others => simp [cut, same, pieces]

theorem cutFirst_append {sep : Char} {before : List Char} (absent : sep ∉ before)
    (after : List Char) : cutFirst sep (before ++ sep :: after) = some (before, after) := by
  induction before with
  | nil => simp [cutFirst]
  | cons c rest ih =>
    simp only [List.mem_cons, not_or] at absent
    simp [cutFirst, Ne.symm absent.1, ih absent.2]

def slashed (segments : List (List Char)) : List Char := ['/'].intercalate segments

@[simp] theorem slashed_nil : slashed [] = [] := rfl

@[simp] theorem slashed_singleton (piece : List Char) : slashed [piece] = piece := by
  simp [slashed]

theorem slashed_cons_cons (piece next : List Char) (rest : List (List Char)) :
    slashed (piece :: next :: rest) = piece ++ '/' :: slashed (next :: rest) := by
  simp [slashed]

theorem slashed_eq_nil_iff {segments : List (List Char)} (nonempty : ∀ s ∈ segments, s ≠ []) :
    slashed segments = [] ↔ segments = [] := by
  cases segments with
  | nil => simp
  | cons piece rest =>
    have filled := nonempty piece List.mem_cons_self
    cases rest with
    | nil => simp [filled]
    | cons next rest => simp [slashed_cons_cons]

theorem slashed_around (above : List (List Char)) (piece : List Char) (below : List (List Char)) :
    slashed (above ++ piece :: below) =
      above.flatMap (· ++ ['/']) ++ piece ++ below.flatMap ('/' :: ·) := by
  induction above generalizing piece with
  | nil =>
    induction below generalizing piece with
    | nil => simp
    | cons next rest ih =>
      simp only [List.nil_append] at ih ⊢
      rw [slashed_cons_cons, ih next]
      simp
  | cons first rest ih =>
    cases rest with
    | nil =>
      have step := ih piece
      rw [List.nil_append] at step
      rw [List.singleton_append, slashed_cons_cons, step]
      simp
    | cons second rest =>
      rw [List.cons_append, List.cons_append, slashed_cons_cons, ← List.cons_append, ih piece]
      simp

theorem something_above_iff (above : List (List Char)) (before : List Char) :
    above.flatMap (· ++ ['/']) ++ before ≠ [] ↔ above ≠ [] ∨ before ≠ [] := by
  cases above <;> simp

theorem nothing_below_iff (after : List Char) (below : List (List Char)) :
    after ++ below.flatMap ('/' :: ·) = [] ↔ after = [] ∧ below = [] := by
  cases below <;> simp

theorem exists_segment_of_slashed {segments : List (List Char)} {pre post : List Char} {c : Char}
    (notSlash : c ≠ '/') (joined : slashed segments = pre ++ c :: post) :
    ∃ above before after below, segments = above ++ (before ++ c :: after) :: below ∧
      pre = above.flatMap (· ++ ['/']) ++ before ∧
      post = after ++ below.flatMap ('/' :: ·) := by
  induction segments generalizing pre with
  | nil => simp at joined
  | cons piece rest ih =>
    cases rest with
    | nil =>
      rw [slashed_singleton] at joined
      exact ⟨[], pre, post, [], by simp [joined], by simp, by simp⟩
    | cons next rest =>
      rw [slashed_cons_cons] at joined
      rcases List.append_eq_append_iff.mp joined with ⟨gap, pre_eq, tail⟩ | ⟨gap, piece_eq, tail⟩
      · -- The character comes after the first segment and the slash that follows it.
        cases gap with
        | nil =>
          simp only [List.nil_append, List.cons.injEq] at tail
          exact absurd tail.1.symm notSlash
        | cons d gap =>
          simp only [List.cons_append, List.cons.injEq] at tail
          obtain ⟨rfl, tail⟩ := tail
          obtain ⟨above, before, after, below, split, pre_gap, post_eq⟩ := ih tail
          refine ⟨piece :: above, before, after, below, by simp [split], ?_, post_eq⟩
          simp [pre_eq, pre_gap]
      · cases gap with
        | nil =>
          simp only [List.nil_append, List.cons.injEq] at tail
          exact absurd tail.1 notSlash
        | cons d gap =>
          simp only [List.cons_append, List.cons.injEq] at tail
          obtain ⟨rfl, tail⟩ := tail
          refine ⟨[], pre, gap, next :: rest, by simp [piece_eq], by simp, ?_⟩
          have around := slashed_around [] next rest
          rw [List.nil_append] at around
          rw [tail, around]
          simp

theorem hasDoubleDot_iff (text : List Char) : hasDoubleDot text = true ↔ ['.', '.'] <:+: text := by
  fun_induction hasDoubleDot text with
  | case1 rest => simp [List.infix_cons_iff]
  | case2 c rest notDots ih =>
    rw [ih, List.infix_cons_iff]
    constructor
    · exact .inr
    · rintro (start | later)
      · obtain ⟨tail, same⟩ := start
        simp only [List.cons_append, List.nil_append, List.cons.injEq] at same
        exact absurd same.2.symm (notDots tail same.1.symm)
      · exact later
  | case3 => simp

theorem hasDoubleDot_append_slash (piece rest : List Char) :
    hasDoubleDot (piece ++ '/' :: rest) = (hasDoubleDot piece || hasDoubleDot rest) := by
  fun_induction hasDoubleDot piece with
  | case1 tail => simp [hasDoubleDot]
  | case2 c tail notDots ih =>
    have apart : ∀ others, c = '.' → tail ++ '/' :: rest = '.' :: others → False := by
      intro others dot same
      cases tail with
      | nil => simp at same
      | cons d tail =>
        simp only [List.cons_append, List.cons.injEq] at same
        exact notDots tail dot (by rw [same.1])
    rw [List.cons_append, hasDoubleDot.eq_2 _ _ apart, ih]
  | case3 => simp [hasDoubleDot]

/-- Two dots in a row never meet across a slash. -/
theorem hasDoubleDot_slashed (segments : List (List Char)) :
    hasDoubleDot (slashed segments) = true ↔ ∃ s ∈ segments, ['.', '.'] <:+: s := by
  induction segments with
  | nil => simp [hasDoubleDot]
  | cons piece rest ih =>
    cases rest with
    | nil => simp [hasDoubleDot_iff]
    | cons next rest =>
      rw [slashed_cons_cons, hasDoubleDot_append_slash, Bool.or_eq_true, ih, hasDoubleDot_iff]
      simp

namespace Directory

theorem toList_text (directory : Directory) :
    directory.text.toList = slashed (directory.segments.map String.toList) := by
  simp [text, slashed]

theorem toList_of_mem_segments {directory : Directory} {piece : List Char}
    (member : piece ∈ directory.segments.map String.toList) : piece ≠ [] ∧ '/' ∉ piece := by
  obtain ⟨segment, found, rfl⟩ := List.mem_map.mp member
  exact directory.clean segment found

theorem pieces_eq_splitOn (text : String) :
    (pieces text).map String.toList = (text.toList.splitOn '/').filter (· ≠ []) := by
  have nonempty : (fun piece : List Char => !piece.isEmpty) = fun piece => decide (piece ≠ []) := by
    funext piece
    cases piece <;> simp
  simp [pieces, cut_eq_splitOn, nonempty, Function.comp_def]

theorem splitOn_text {directory : Directory} (filled : directory.segments ≠ []) :
    directory.text.toList.splitOn '/' = directory.segments.map String.toList := by
  rw [toList_text, slashed]
  apply List.splitOn_intercalate
  · intro piece member
    exact (toList_of_mem_segments member).2
  · simpa using filled

theorem pieces_text (directory : Directory) : pieces directory.text = directory.segments := by
  apply (List.map_inj_right fun _ _ => String.toList_inj.mp).mp
  rw [pieces_eq_splitOn]
  by_cases filled : directory.segments = []
  · simp [toList_text, filled]
  · rw [splitOn_text filled]
    apply List.filter_eq_self.mpr
    intro piece member
    simpa using (toList_of_mem_segments member).1

theorem eq_of_segments {first second : Directory} (same : first.segments = second.segments) :
    first = second := by
  obtain ⟨segments, clean⟩ := first
  obtain ⟨others, tidy⟩ := second
  obtain rfl : segments = others := same
  rfl

theorem ofText_text (directory : Directory) : ofText directory.text = directory :=
  eq_of_segments (pieces_text directory)

theorem text_injective {first second : Directory} (same : first.text = second.text) :
    first = second := by
  rw [← ofText_text first, same, ofText_text]

theorem empty_append (directory : Directory) : empty ++ directory = directory :=
  eq_of_segments rfl

theorem append_empty (directory : Directory) : directory ++ empty = directory :=
  eq_of_segments (List.append_nil _)

theorem append_assoc (first second third : Directory) :
    first ++ second ++ third = first ++ (second ++ third) :=
  eq_of_segments (List.append_assoc ..)

end Directory

end DatapackAuthoring
