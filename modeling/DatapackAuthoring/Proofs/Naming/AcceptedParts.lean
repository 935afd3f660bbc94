import DatapackAuthoring.Naming.Resolve
import DatapackAuthoring.Proofs.Naming.JoinedSegments
import DatapackAuthoring.Proofs.Outcome

namespace DatapackAuthoring

open Text

/-- Characters of the alphabet, at least one, and perhaps one line feed after them. -/
def Word (alphabet : Char → Bool) (text : List Char) : Prop :=
  ∃ body, body ≠ [] ∧ (∀ c ∈ body, alphabet c = true) ∧ (text = body ∨ text = body ++ ['\n'])

theorem isWordOver_append_newline (alphabet : Char → Bool) (body : List Char) :
    isWordOver alphabet (body ++ ['\n']) = (!body.isEmpty && body.all alphabet) := by
  simp [isWordOver, withoutFinalNewline]

theorem isWordOver_of_last_ne {alphabet : Char → Bool} {text : List Char}
    (last : text.getLast? ≠ some '\n') :
    isWordOver alphabet text = (!text.isEmpty && text.all alphabet) := by
  simp [isWordOver, withoutFinalNewline, last]

theorem isWordOver_iff_word {alphabet : Char → Bool} (outside : alphabet '\n' = false)
    (text : List Char) : isWordOver alphabet text = true ↔ Word alphabet text := by
  constructor
  · intro passes
    by_cases last : text.getLast? = some '\n'
    · obtain ⟨body, rfl⟩ := List.getLast?_eq_some_iff.mp last
      rw [isWordOver_append_newline] at passes
      exact ⟨body, by simp_all, by simp_all, .inr rfl⟩
    · rw [isWordOver_of_last_ne last] at passes
      exact ⟨text, by simp_all, by simp_all, .inl rfl⟩
  · rintro ⟨body, filled, all, rfl | rfl⟩
    · have last : text.getLast? ≠ some '\n' := by
        intro last
        have := all _ (List.mem_of_getLast? last)
        simp [outside] at this
      rw [isWordOver_of_last_ne last]
      simpa [filled] using all
    · rw [isWordOver_append_newline]
      simpa [filled] using all

theorem word_ne_nil {alphabet : Char → Bool} {text : List Char} (word : Word alphabet text) :
    text ≠ [] := by
  obtain ⟨body, filled, _, rfl | rfl⟩ := word
  · exact filled
  · simp

theorem not_mem_of_word {alphabet : Char → Bool} {text : List Char} {c : Char}
    (word : Word alphabet text) (outside : alphabet c = false) (notFeed : c ≠ '\n') :
    c ∉ text := by
  obtain ⟨body, _, all, same⟩ := word
  have absent : c ∉ body := by
    intro member
    have := all c member
    simp [outside] at this
  rcases same with rfl | rfl
  · exact absent
  · simp [absent, notFeed]

/-- The text leaves the alphabet at a character between `before` and `after`. A line feed at the
    very end does not count, unless it is all there is. -/
def Strays (alphabet : Char → Bool) (before : List Char) (c : Char) (after : List Char) : Prop :=
  alphabet c = false ∧ ¬(c = '\n' ∧ after = [] ∧ before ≠ [])

theorem word_iff_never_strays {alphabet : Char → Bool} {text : List Char} (filled : text ≠ []) :
    Word alphabet text ↔
      ∀ before c after, text = before ++ c :: after → ¬Strays alphabet before c after := by
  constructor
  · rintro ⟨body, started, all, same⟩ before c after split ⟨stray, notLast⟩
    have notBody : c ∉ body := by
      intro member
      have := all c member
      simp [stray] at this
    rcases same with rfl | rfl
    · exact notBody (by simp [split])
    · rcases List.append_eq_append_iff.mp split with ⟨rest, rfl, tail⟩ | ⟨rest, rfl, tail⟩
      · cases rest with
        | nil =>
          simp only [List.nil_append, List.cons.injEq] at tail
          exact notLast ⟨tail.1.symm, tail.2.symm, by simpa using started⟩
        | cons d rest => simp at tail
      · cases rest with
        | nil =>
          simp only [List.nil_append, List.cons.injEq] at tail
          exact notLast ⟨tail.1, tail.2, by simpa using started⟩
        | cons d rest =>
          simp only [List.cons_append, List.cons.injEq] at tail
          exact notBody (by simp [tail.1])
  · -- Only the last character may be outside, so it is taken apart from those in front of it.
    intro clean
    obtain ⟨front, last, rfl⟩ := (List.eq_nil_or_concat text).resolve_left filled
    rw [List.concat_eq_append] at clean ⊢
    have inner : ∀ c ∈ front, alphabet c = true := by
      intro c member
      obtain ⟨before, after, rfl⟩ := List.append_of_mem member
      have := clean before c (after ++ [last]) (by simp)
      simpa [Strays] using this
    have ends := clean front last [] rfl
    by_cases good : alphabet last = true
    · refine ⟨front ++ [last], by simp, ?_, .inl rfl⟩
      intro c member
      rcases List.mem_append.mp member with early | final
      · exact inner c early
      · rw [List.mem_singleton.mp final]
        exact good
    · have feed := Classical.byContradiction fun other => ends ⟨by simpa using good, other⟩
      obtain ⟨rfl, -, started⟩ := feed
      exact ⟨front, started, inner, .inr rfl⟩

/-- A namespace and a path that pass every rule. -/
structure Accepted (ns path : String) : Prop where
  nsWord : Word isNamespaceChar ns.toList
  pathWord : Word isPathChar path.toList
  noDoubleDot : hasDoubleDot path.toList = false

theorem checkNamespace_of_word {ns : String} (word : Word isNamespaceChar ns.toList) :
    checkNamespace ns = .ok () := by
  rw [checkNamespace, if_pos ((isWordOver_iff_word (by decide) _).mpr word)]

theorem checkNamespace_of_not_word {ns : String} (other : ¬Word isNamespaceChar ns.toList) :
    checkNamespace ns = .error (.invalidNamespace ns) := by
  rw [checkNamespace, if_neg fun passes => other ((isWordOver_iff_word (by decide) _).mp passes)]

theorem checkPath_of_empty : checkPath "" = .error .emptyName := rfl

theorem checkPath_of_filled {path : String} (filled : path.toList ≠ []) :
    checkPath path =
      if !isWordOver isPathChar path.toList then .error (.invalidPath path)
      else if hasDoubleDot path.toList then .error (.doubleDot path)
      else .ok () := by
  have some : path.isEmpty = false := by simpa [String.isEmpty_iff] using filled
  simp [checkPath, some]

theorem checkPath_of_not_word {path : String} (filled : path.toList ≠ [])
    (other : ¬Word isPathChar path.toList) : checkPath path = .error (.invalidPath path) := by
  rw [← isWordOver_iff_word (by decide)] at other
  simp [checkPath_of_filled filled, other]

theorem checkPath_of_word {path : String} (word : Word isPathChar path.toList) :
    checkPath path = if hasDoubleDot path.toList then .error (.doubleDot path) else .ok () := by
  have passes := (isWordOver_iff_word (by decide) _).mpr word
  simp [checkPath_of_filled (word_ne_nil word), passes]

theorem accepted_of_checks {ns path : String} (first : checkNamespace ns = .ok ())
    (second : checkPath path = .ok ()) : Accepted ns path := by
  have nsWord : Word isNamespaceChar ns.toList := Classical.byContradiction fun other => by
    simp [checkNamespace_of_not_word other] at first
  have filled : path.toList ≠ [] := by
    intro blank
    obtain rfl : path = "" := String.toList_eq_nil_iff.mp blank
    simp [checkPath_of_empty] at second
  have pathWord : Word isPathChar path.toList := Classical.byContradiction fun other => by
    simp [checkPath_of_not_word filled other] at second
  rw [checkPath_of_word pathWord] at second
  exact ⟨nsWord, pathWord, by simpa using second⟩

def judged {α : Type} (ns path : String) (answer : α) : Except Fault α := do
  checkNamespace ns
  checkPath path
  return answer

theorem judged_eq_ok_iff {α : Type} {ns path : String} {answer other : α} :
    judged ns path answer = .ok other ↔ Accepted ns path ∧ answer = other := by
  constructor
  · intro passed
    obtain ⟨⟨⟩, first, rest⟩ := bind_eq_ok_iff.mp passed
    obtain ⟨⟨⟩, second, last⟩ := bind_eq_ok_iff.mp rest
    exact ⟨accepted_of_checks first second, by simpa using last⟩
  · rintro ⟨accepted, rfl⟩
    simp [judged, checkNamespace_of_word accepted.nsWord, checkPath_of_word accepted.pathWord,
      accepted.noDoubleDot]

theorem judged_bind {α β : Type} (ns path : String) (answer : α) (next : α → β) :
    (do return next (← judged ns path answer)) = judged ns path (next answer) := by
  unfold judged
  cases checkNamespace ns with
  | error fault => rfl
  | ok =>
    cases checkPath path with
    | error fault => rfl
    | ok => rfl

theorem validate_of_texts {nsValue pathValue : Value} {ns path : String}
    (nsText : nsValue.asText? = some ns) (pathText : pathValue.asText? = some path) :
    validate nsValue pathValue = judged ns path (ns, path) := by
  unfold validate judged
  simp only [Value.asTextOrFault, nsText, pathText, ok_bind]
  cases checkNamespace ns with
  | error fault => rfl
  | ok =>
    by_cases present : pathValue.isTruthy = true
    · simp [present]
    · -- A text that counts as false is empty, and an empty path fails its check the same way.
      have blank : path = "" := by
        cases pathValue <;> simp_all [Value.isTruthy, Value.asText?]
      simp [present, blank, checkPath]

theorem identifier_of_texts {nsValue pathValue : Value} {ns path : String}
    (nsText : nsValue.asText? = some ns) (pathText : pathValue.asText? = some path)
    (explicit : Bool) :
    (validate nsValue pathValue >>= fun parts =>
      .ok ({ ns := parts.1, path := parts.2, explicit } : Identifier)) =
      judged ns path ⟨ns, path, explicit⟩ := by
  rw [validate_of_texts nsText pathText]
  exact judged_bind ns path (ns, path) fun parts : String × String =>
    ({ ns := parts.1, path := parts.2, explicit } : Identifier)

theorem texts_of_validate {nsValue pathValue : Value} {ns path : String}
    (passed : validate nsValue pathValue = .ok (ns, path)) :
    nsValue.asText? = some ns ∧ pathValue.asText? = some path ∧ Accepted ns path := by
  cases nsText : nsValue.asText? with
  | none => simp [validate, Value.asTextOrFault, nsText] at passed
  | some n =>
    cases pathText : pathValue.asText? with
    | none =>
      simp only [validate, Value.asTextOrFault, nsText, pathText, ok_bind] at passed
      obtain ⟨⟨⟩, -, rest⟩ := bind_eq_ok_iff.mp passed
      by_cases present : pathValue.isTruthy = true <;> simp [present] at rest
    | some p =>
      rw [validate_of_texts nsText pathText] at passed
      obtain ⟨accepted, same⟩ := judged_eq_ok_iff.mp passed
      obtain ⟨rfl, rfl⟩ : n = ns ∧ p = path := by simpa using same
      exact ⟨rfl, rfl, accepted⟩

end DatapackAuthoring
