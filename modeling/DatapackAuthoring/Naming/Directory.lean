import DatapackAuthoring.Text.Segments
/-!
Directories. Slashes lead, trail and repeat without meaning, so a directory is the list of its
segments, the nonempty pieces between them.
-/
namespace DatapackAuthoring

structure Directory where
  segments : List String
  clean : ∀ s ∈ segments, s.toList ≠ [] ∧ '/' ∉ s.toList
deriving DecidableEq

namespace Directory

def empty : Directory := ⟨[], by simp⟩

def pieces (text : String) : List String :=
  ((Text.cut '/' text.toList).filter fun piece => !piece.isEmpty).map String.ofList

theorem pieces_clean (text : String) : ∀ s ∈ pieces text, s.toList ≠ [] ∧ '/' ∉ s.toList := by
  intro s member
  obtain ⟨piece, found, rfl⟩ := List.mem_map.mp member
  obtain ⟨cut, nonempty⟩ := List.mem_filter.mp found
  rw [String.toList_ofList]
  exact ⟨by simpa using nonempty, Text.sep_not_mem_of_mem_cut cut⟩

def ofText (text : String) : Directory := ⟨pieces text, pieces_clean text⟩

def append (above below : Directory) : Directory :=
  ⟨above.segments ++ below.segments, by
    intro s member
    rcases List.mem_append.mp member with first | second
    · exact above.clean s first
    · exact below.clean s second⟩

instance : Append Directory := ⟨append⟩

def nested (directories : List Directory) : Directory := directories.foldr append empty

def text (directory : Directory) : String := "/".intercalate directory.segments

@[simp] theorem segments_append (above below : Directory) :
    (above ++ below).segments = above.segments ++ below.segments := rfl

@[simp] theorem segments_ofText (text : String) : (ofText text).segments = pieces text := rfl

@[simp] theorem segments_nested (directories : List Directory) :
    (nested directories).segments = (directories.map segments).flatten := by
  induction directories with
  | nil => rfl
  | cons first rest ih => simpa [nested, append] using ih

example : (ofText "//a/b//c/").text = "a/b/c" ∧ ofText "/" = empty := by
  decide +kernel

end Directory

end DatapackAuthoring
