namespace DatapackAuthoring.Text

/-- The pieces between the occurrences of `sep`, empty ones included; at least one piece. -/
def cut (sep : Char) : List Char → List (List Char)
  | [] => [[]]
  | c :: rest =>
    if c = sep then [] :: cut sep rest
    else match cut sep rest with
      | [] => [[c]]
      | piece :: pieces => (c :: piece) :: pieces

def cutFirst (sep : Char) : List Char → Option (List Char × List Char)
  | [] => none
  | c :: rest =>
    if c = sep then some ([], rest)
    else (cutFirst sep rest).map fun (before, after) => (c :: before, after)

theorem cut_ne_nil (sep : Char) (text : List Char) : cut sep text ≠ [] := by
  cases text with
  | nil => simp [cut]
  | cons c rest =>
    unfold cut
    split
    · simp
    · split <;> simp

theorem sep_not_mem_of_mem_cut {sep : Char} {text piece : List Char}
    (member : piece ∈ cut sep text) : sep ∉ piece := by
  induction text generalizing piece with
  | nil => simp [cut] at member; simp [member]
  | cons c rest ih =>
    unfold cut at member
    split at member <;> rename_i same
    · rcases List.mem_cons.mp member with rfl | later
      · simp
      · exact ih later
    · split at member <;> rename_i pieces
      · exact absurd pieces (cut_ne_nil sep rest)
      · rcases List.mem_cons.mp member with rfl | later
        · simp [Ne.symm same, ih (pieces ▸ List.mem_cons_self)]
        · exact ih (pieces ▸ List.mem_cons_of_mem _ later)

theorem cutFirst_eq_none_iff (sep : Char) (text : List Char) :
    cutFirst sep text = none ↔ sep ∉ text := by
  induction text with
  | nil => simp [cutFirst]
  | cons c rest ih =>
    unfold cutFirst
    split <;> rename_i same
    · simp [same]
    · simp [ih, Ne.symm same]

theorem cutFirst_eq_some {sep : Char} {text before after : List Char}
    (found : cutFirst sep text = some (before, after)) :
    sep ∉ before ∧ text = before ++ sep :: after := by
  induction text generalizing before with
  | nil => simp [cutFirst] at found
  | cons c rest ih =>
    unfold cutFirst at found
    split at found <;> rename_i same
    · simp only [Option.some.injEq, Prod.mk.injEq] at found
      obtain ⟨rfl, rfl⟩ := found
      simp [same]
    · obtain ⟨⟨inner, tail⟩, here, eq⟩ := Option.map_eq_some_iff.mp found
      simp only [Prod.mk.injEq] at eq
      obtain ⟨rfl, rfl⟩ := eq
      obtain ⟨absent, whole⟩ := ih here
      exact ⟨by simp [absent, Ne.symm same], by simp [whole]⟩

end DatapackAuthoring.Text
