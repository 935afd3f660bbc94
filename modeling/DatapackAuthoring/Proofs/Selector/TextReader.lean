import DatapackAuthoring.Selector.Argument
/-!
A reader for lists of named values, one character after the other. It knows the braces: the lists
that are still open around the place it has reached are kept in a stack.
-/
namespace DatapackAuthoring

inductive Tree where
  | word (text : String)
  | group (parts : List (String × Tree))

namespace Tree

mutual

def text : Tree → String
  | word text => text
  | group parts => braced (partTexts parts)

def partTexts : List (String × Tree) → List String
  | [] => []
  | (name, tree) :: rest => assignment name (text tree) :: partTexts rest

end

mutual

def leaves : Tree → List String
  | word text => [text]
  | group parts => partLeaves parts

def partLeaves : List (String × Tree) → List String
  | [] => []
  | (name, tree) :: rest => name :: (leaves tree ++ partLeaves rest)

end

theorem partTexts_eq_map (parts : List (String × Tree)) :
    partTexts parts = parts.map fun (name, tree) => assignment name tree.text := by
  induction parts with
  | nil => rfl
  | cons part rest ih => simp [partTexts, ih]

theorem partLeaves_eq_flatMap (parts : List (String × Tree)) :
    partLeaves parts = parts.flatMap fun (name, tree) => name :: tree.leaves := by
  induction parts with
  | nil => rfl
  | cons part rest ih => simp [partLeaves, ih]

end Tree

inductive Phase where
  /-- After a comma: a blank is due. -/
  | gap
  | name (read : List Char)
  | word (name : String) (read : List Char)
  | closed (name : String) (parts : List (String × Tree))

structure Reader where
  /-- The open lists, the innermost first, each with the name its own part will have in it. -/
  above : List (List (String × Tree) × String)
  parts : List (String × Tree)
  phase : Phase

namespace Reader

def start : Reader := ⟨[], [], .name []⟩

def settled? (reader : Reader) : Option (List (String × Tree)) :=
  match reader.phase with
  | .word name read => some (reader.parts ++ [(name, .word (String.ofList read))])
  | .closed name parts => some (reader.parts ++ [(name, .group parts)])
  | .name [] => if reader.parts.isEmpty then some [] else none
  | _ => none

def separate (reader : Reader) : Option Reader :=
  reader.settled?.map fun parts => ⟨reader.above, parts, .gap⟩

def enter (reader : Reader) : Option Reader :=
  match reader.phase with
  | .word name [] => some ⟨(reader.parts, name) :: reader.above, [], .name []⟩
  | _ => none

def leave (reader : Reader) : Option Reader :=
  match reader.settled?, reader.above with
  | some parts, (before, name) :: above => some ⟨above, before, .closed name parts⟩
  | _, _ => none

def assign (reader : Reader) : Option Reader :=
  match reader.phase with
  | .name read => some ⟨reader.above, reader.parts, .word (String.ofList read) []⟩
  | _ => none

def take (reader : Reader) (c : Char) : Option Reader :=
  match reader.phase with
  | .gap => if c = ' ' then some ⟨reader.above, reader.parts, .name []⟩ else none
  | .name read => some ⟨reader.above, reader.parts, .name (read ++ [c])⟩
  | .word name read => some ⟨reader.above, reader.parts, .word name (read ++ [c])⟩
  | .closed .. => none

def step (reader : Reader) (c : Char) : Option Reader :=
  if c = ',' then reader.separate
  else if c = '{' then reader.enter
  else if c = '}' then reader.leave
  else if c = '=' then reader.assign
  else reader.take c

def run (reader : Reader) (chars : List Char) : Option Reader := chars.foldlM step reader

end Reader

def readParts (chars : List Char) : Option (List (String × Tree)) := do
  let reader ← Reader.start.run chars
  if reader.above.isEmpty then reader.settled? else none

def marks : List Char := [',', '{', '}', '=']

def Unmarked (text : String) : Prop := ∀ c ∈ text.toList, c ∉ marks

instance (text : String) : Decidable (Unmarked text) :=
  List.decidableBAll (· ∉ marks) text.toList

theorem toList_assignment (name value : String) :
    (assignment name value).toList = name.toList ++ '=' :: value.toList := by
  simp [assignment]

def continued (texts : List String) : List Char :=
  texts.flatMap fun text => ',' :: ' ' :: text.toList

theorem toList_commaSeparated (first : String) (rest : List String) :
    (commaSeparated (first :: rest)).toList = first.toList ++ continued rest := by
  simp only [commaSeparated, String.toList_intercalate, List.map_cons]
  induction rest generalizing first with
  | nil => simp [continued]
  | cons second rest ih =>
    rw [List.map_cons, List.intercalate_cons_cons, ih]
    simp [continued]

namespace Reader

theorem run_append (reader : Reader) (first second : List Char) :
    reader.run (first ++ second) = (reader.run first).bind fun reader => reader.run second :=
  List.foldlM_append

@[simp] theorem run_nil (reader : Reader) : reader.run [] = some reader := rfl

theorem run_cons (reader : Reader) (c : Char) (rest : List Char) :
    reader.run (c :: rest) = (reader.step c).bind fun reader => reader.run rest :=
  List.foldlM_cons

theorem step_unmarked {c : Char} (unmarked : c ∉ marks) (reader : Reader) :
    reader.step c = reader.take c := by
  simp only [marks, List.mem_cons, List.not_mem_nil, or_false, not_or] at unmarked
  obtain ⟨comma, opening, closing, equals⟩ := unmarked
  simp [step, comma, opening, closing, equals]

variable {above : List (List (String × Tree) × String)} {parts : List (String × Tree)}

theorem run_collected {phase : List Char → Phase}
    (collects : ∀ read c, take ⟨above, parts, phase read⟩ c =
      some ⟨above, parts, phase (read ++ [c])⟩)
    {chars : List Char} (unmarked : ∀ c ∈ chars, c ∉ marks) (read : List Char) :
    run ⟨above, parts, phase read⟩ chars = some ⟨above, parts, phase (read ++ chars)⟩ := by
  induction chars generalizing read with
  | nil => simp
  | cons c rest ih =>
    have later : ∀ c ∈ rest, c ∉ marks := fun c member => unmarked c (List.mem_cons_of_mem _ member)
    rw [run_cons, step_unmarked (unmarked c List.mem_cons_self), collects, Option.bind_some,
      ih later, List.append_assoc]
    rfl

theorem run_name {name : String} (unmarked : Unmarked name) :
    run ⟨above, parts, .name []⟩ name.toList = some ⟨above, parts, .name name.toList⟩ :=
  run_collected (fun _ _ => rfl) unmarked []

theorem run_word {word : String} (unmarked : Unmarked word) (name : String) :
    run ⟨above, parts, .word name []⟩ word.toList = some ⟨above, parts, .word name word.toList⟩ :=
  run_collected (fun _ _ => rfl) unmarked []

/-- Reading `chars` completes the innermost list to `parts`; the lists around it stay the same. -/
def Settles (reader : Reader) (chars : List Char) (parts : List (String × Tree)) : Prop :=
  ∃ after, reader.run chars = some after ∧ after.above = reader.above ∧
    after.settled? = some parts

theorem Settles.append {reader : Reader} {first second : List Char}
    {before after : List (String × Tree)} (early : reader.Settles first before)
    (late : ∀ next : Reader, next.settled? = some before → next.Settles second after) :
    reader.Settles (first ++ second) after := by
  obtain ⟨middle, ran, kept, settled⟩ := early
  obtain ⟨final, runs, keeps, settles⟩ := late middle settled
  exact ⟨final, by simp [run_append, ran, runs], keeps.trans kept, settles⟩

theorem settles_part {name value : String} {tree : Tree} (unmarked : Unmarked name)
    (reads : Settles ⟨above, parts, .word name []⟩ value.toList (parts ++ [(name, tree)])) :
    Settles ⟨above, parts, .name []⟩ (assignment name value).toList (parts ++ [(name, tree)]) := by
  obtain ⟨after, ran, kept, settled⟩ := reads
  refine ⟨after, ?_, kept, settled⟩
  rw [toList_assignment, run_append, run_name unmarked, Option.bind_some, run_cons]
  simpa [step, assign] using ran

theorem settles_separated {reader : Reader} {chars : List Char} {after : List (String × Tree)}
    (settled : reader.settled? = some parts)
    (reads : Settles ⟨reader.above, parts, .name []⟩ chars after) :
    reader.Settles (',' :: ' ' :: chars) after := by
  obtain ⟨final, ran, kept, complete⟩ := reads
  have comma : reader.step ',' = some ⟨reader.above, parts, .gap⟩ := by
    simp [step, separate, settled]
  refine ⟨final, ?_, kept, complete⟩
  rw [run_cons, comma, Option.bind_some, run_cons]
  simpa [step, take] using ran

theorem settles_braced {name : String} {texts : List String} {group : List (String × Tree)}
    (reads : Settles ⟨(parts, name) :: above, [], .name []⟩ (commaSeparated texts).toList group) :
    Settles ⟨above, parts, .word name []⟩ (braced texts).toList
      (parts ++ [(name, .group group)]) := by
  obtain ⟨after, ran, kept, settled⟩ := reads
  have whole : (braced texts).toList = '{' :: ((commaSeparated texts).toList ++ ['}']) := by
    simp [braced]
  refine ⟨⟨above, parts, .closed name group⟩, ?_, rfl, rfl⟩
  rw [whole, run_cons, step, enter]
  simp only [Char.reduceEq, if_false, if_true, Option.bind_some]
  rw [run_append, ran, Option.bind_some, run_cons, step, leave, settled, kept]
  rfl

/- A tree is read with its name as the last part of a list; the parts of a list are read one after
the other, each of them such a tree. -/
mutual

theorem settles_tree (tree : Tree) (unmarked : ∀ text ∈ tree.leaves, Unmarked text)
    (above : List (List (String × Tree) × String)) (parts : List (String × Tree)) (name : String) :
    Settles ⟨above, parts, .word name []⟩ tree.text.toList (parts ++ [(name, tree)]) := by
  cases tree with
  | word text =>
    have plain : Unmarked text := unmarked text (by simp [Tree.leaves])
    exact ⟨_, run_word plain name, rfl, by simp [settled?]⟩
  | group inner => exact settles_braced (settles_parts inner unmarked ((parts, name) :: above))

theorem settles_parts (parts : List (String × Tree))
    (unmarked : ∀ text ∈ Tree.partLeaves parts, Unmarked text)
    (above : List (List (String × Tree) × String)) :
    Settles ⟨above, [], .name []⟩ (commaSeparated (Tree.partTexts parts)).toList parts := by
  match parts with
  | [] => exact ⟨_, run_nil _, rfl, rfl⟩
  | (name, tree) :: rest =>
    simp only [Tree.partLeaves, List.mem_cons, List.mem_append] at unmarked
    rw [Tree.partTexts, toList_commaSeparated]
    have first := settles_part (unmarked name (.inl rfl))
      (settles_tree tree (fun text member => unmarked text (.inr (.inl member))) above [] name)
    exact first.append fun next settled =>
      settles_continued rest (fun text member => unmarked text (.inr (.inr member))) settled

theorem settles_continued (rest : List (String × Tree))
    (unmarked : ∀ text ∈ Tree.partLeaves rest, Unmarked text) {reader : Reader}
    {parts : List (String × Tree)} (settled : reader.settled? = some parts) :
    reader.Settles (continued (Tree.partTexts rest)) (parts ++ rest) := by
  match rest with
  | [] => exact ⟨reader, run_nil reader, rfl, by simpa using settled⟩
  | (name, tree) :: rest =>
    simp only [Tree.partLeaves, List.mem_cons, List.mem_append] at unmarked
    have next := settles_separated settled (settles_part (unmarked name (.inl rfl))
      (settles_tree tree (fun text member => unmarked text (.inr (.inl member))) reader.above parts
        name))
    have all := next.append fun later settled =>
      settles_continued rest (fun text member => unmarked text (.inr (.inr member))) settled
    rwa [List.append_assoc] at all

end

end Reader

theorem readParts_commaSeparated (parts : List (String × Tree))
    (unmarked : ∀ text ∈ Tree.partLeaves parts, Unmarked text) :
    readParts (commaSeparated (Tree.partTexts parts)).toList = some parts := by
  obtain ⟨after, ran, kept, settled⟩ := Reader.settles_parts parts unmarked []
  simp [readParts, Reader.start, ran, kept, settled]

end DatapackAuthoring
