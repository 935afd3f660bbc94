import DatapackAuthoring.Text.Blank

namespace DatapackAuthoring.Text

variable {kind : Char → Bool} {text : List Char}

theorem dropWhile_of_head? (clean : ∀ c ∈ text.head?, kind c = false) :
    text.dropWhile kind = text := by
  cases text with
  | nil => rfl
  | cons c rest => exact List.dropWhile_cons_of_neg (by simp [clean c rfl])

theorem of_mem_head?_dropWhile {c : Char} (first : c ∈ (text.dropWhile kind).head?) :
    kind c = false := by
  have clean := List.head?_dropWhile_not kind text
  rw [Option.mem_def.mp first] at clean
  exact clean

theorem strip_of_clean (first : ∀ c ∈ text.head?, kind c = false)
    (last : ∀ c ∈ text.getLast?, kind c = false) : strip kind text = text := by
  have back : ∀ c ∈ text.reverse.head?, kind c = false := by simpa using last
  rw [strip, dropWhile_of_head? first, dropWhile_of_head? back, List.reverse_reverse]

theorem exists_strip_append_eq_dropWhile (kind : Char → Bool) (text : List Char) :
    ∃ back, strip kind text ++ back = text.dropWhile kind ∧ ∀ c ∈ back, kind c = true := by
  let rest := text.dropWhile kind
  refine ⟨(rest.reverse.takeWhile kind).reverse, ?_, ?_⟩
  · rw [strip, ← List.reverse_append, List.takeWhile_append_dropWhile, List.reverse_reverse]
  · intro c member
    exact List.all_eq_true.mp List.all_takeWhile c (List.mem_reverse.mp member)

theorem exists_around_strip (kind : Char → Bool) (text : List Char) :
    ∃ front back, text = front ++ strip kind text ++ back ∧ (∀ c ∈ front, kind c = true) ∧
      ∀ c ∈ back, kind c = true := by
  obtain ⟨back, whole, blank⟩ := exists_strip_append_eq_dropWhile kind text
  refine ⟨text.takeWhile kind, back, ?_, List.all_eq_true.mp List.all_takeWhile, blank⟩
  rw [List.append_assoc, whole, List.takeWhile_append_dropWhile]

theorem of_mem_head?_strip {c : Char} (first : c ∈ (strip kind text).head?) : kind c = false := by
  obtain ⟨back, whole, -⟩ := exists_strip_append_eq_dropWhile kind text
  have kept : c ∈ (text.dropWhile kind).head? := by
    rw [← whole, List.head?_append, Option.mem_def.mp first]
    rfl
  exact of_mem_head?_dropWhile kept

theorem of_mem_getLast?_strip {c : Char} (last : c ∈ (strip kind text).getLast?) :
    kind c = false := by
  rw [strip, List.getLast?_reverse] at last
  exact of_mem_head?_dropWhile last

theorem strip_strip (kind : Char → Bool) (text : List Char) :
    strip kind (strip kind text) = strip kind text :=
  strip_of_clean (fun _ => of_mem_head?_strip) fun _ => of_mem_getLast?_strip

end DatapackAuthoring.Text
