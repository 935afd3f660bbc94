import DatapackAuthoring.Proofs.Naming.JoinedSegments
import DatapackAuthoring.Proofs.Selector.TextReader

namespace DatapackAuthoring

namespace Progress

mutual

def names : Progress → List String
  | done _ => []
  | group parts => partNames parts

def partNames : List (String × Progress) → List String
  | [] => []
  | (name, part) :: rest => name :: (names part ++ partNames rest)

end

end Progress

theorem unmarked_yesNo (flag : Bool) : Unmarked (yesNo flag) := by
  cases flag <;> decide

namespace Tree

mutual

def ofProgress : Progress → Tree
  | .done flag => word (yesNo flag)
  | .group parts => group (ofParts parts)

def ofParts : List (String × Progress) → List (String × Tree)
  | [] => []
  | (name, part) :: rest => (name, ofProgress part) :: ofParts rest

end

mutual

def progress? : Tree → Option Progress
  | word text =>
    if text = "true" then some (.done true) else if text = "false" then some (.done false) else none
  | group parts => (parts? parts).map .group

def parts? : List (String × Tree) → Option (List (String × Progress))
  | [] => some []
  | (name, tree) :: rest => do
    let part ← progress? tree
    let others ← parts? rest
    return (name, part) :: others

end

mutual

theorem progress?_ofProgress (part : Progress) : progress? (ofProgress part) = some part := by
  cases part with
  | done flag => cases flag <;> rfl
  | group parts => rw [ofProgress, progress?, parts?_ofParts parts]; rfl

theorem parts?_ofParts (parts : List (String × Progress)) :
    parts? (ofParts parts) = some parts := by
  match parts with
  | [] => rfl
  | (name, part) :: rest =>
    rw [ofParts, parts?, progress?_ofProgress part, parts?_ofParts rest]
    rfl

end

mutual

theorem text_ofProgress (part : Progress) : (ofProgress part).text = part.text := by
  cases part with
  | done flag => rfl
  | group parts => rw [ofProgress, text, Progress.text, partTexts_ofParts parts]

theorem partTexts_ofParts (parts : List (String × Progress)) :
    partTexts (ofParts parts) = Progress.partTexts parts := by
  match parts with
  | [] => rfl
  | (name, part) :: rest =>
    rw [ofParts, partTexts, Progress.partTexts, text_ofProgress part, partTexts_ofParts rest]

end

mutual

theorem unmarked_ofProgress (part : Progress) (names : ∀ name ∈ part.names, Unmarked name) :
    ∀ text ∈ (ofProgress part).leaves, Unmarked text := by
  cases part with
  | done flag =>
    intro text member
    obtain rfl : text = yesNo flag := List.mem_singleton.mp member
    exact unmarked_yesNo flag
  | group parts => exact unmarked_ofParts parts names

theorem unmarked_ofParts (parts : List (String × Progress))
    (names : ∀ name ∈ Progress.partNames parts, Unmarked name) :
    ∀ text ∈ partLeaves (ofParts parts), Unmarked text := by
  match parts with
  | [] => simp [ofParts, partLeaves]
  | (name, part) :: rest =>
    simp only [Progress.partNames, List.mem_cons, List.mem_append] at names
    intro text member
    simp only [ofParts, partLeaves, List.mem_cons, List.mem_append] at member
    rcases member with rfl | inside | later
    · exact names text (.inl rfl)
    · exact unmarked_ofProgress part (fun name inner => names name (.inr (.inl inner))) text inside
    · exact unmarked_ofParts rest (fun name other => names name (.inr (.inr other))) text later

end

def ofPair (pair : String × String) : String × Tree := (pair.1, word pair.2)

def pair? : String × Tree → Option (String × String)
  | (name, word text) => some (name, text)
  | (_, group _) => none

def pairs? : List (String × Tree) → Option (List (String × String))
  | [] => some []
  | part :: rest => do
    let pair ← pair? part
    let others ← pairs? rest
    return pair :: others

theorem pairs?_map_ofPair (pairs : List (String × String)) :
    pairs? (pairs.map ofPair) = some pairs := by
  induction pairs with
  | nil => rfl
  | cons pair rest ih => rw [List.map_cons, pairs?, ih]; rfl

theorem partTexts_map_ofPair (pairs : List (String × String)) :
    partTexts (pairs.map ofPair) = pairs.map fun (name, value) => assignment name value := by
  rw [partTexts_eq_map, List.map_map]
  rfl

theorem unmarked_map_ofPair {pairs : List (String × String)}
    (unmarked : ∀ pair ∈ pairs, Unmarked pair.1 ∧ Unmarked pair.2) :
    ∀ text ∈ partLeaves (pairs.map ofPair), Unmarked text := by
  intro text member
  rw [partLeaves_eq_flatMap, List.flatMap_map] at member
  obtain ⟨pair, inside, leaf⟩ := List.mem_flatMap.mp member
  obtain ⟨name, word⟩ := unmarked pair inside
  simp only [ofPair, leaves, List.mem_cons, List.not_mem_nil, or_false] at leaf
  rcases leaf with rfl | rfl
  · exact name
  · exact word

def grouped (key : String) (parts : List (String × Tree)) : List (String × Tree) :=
  if parts.isEmpty then [] else [(key, group parts)]

theorem partTexts_append (parts others : List (String × Tree)) :
    partTexts (parts ++ others) = partTexts parts ++ partTexts others := by
  simp only [partTexts_eq_map, List.map_append]

theorem partLeaves_append (parts others : List (String × Tree)) :
    partLeaves (parts ++ others) = partLeaves parts ++ partLeaves others := by
  simp only [partLeaves_eq_flatMap, List.flatMap_append]

theorem unmarked_grouped {key : String} (named : Unmarked key) {parts : List (String × Tree)}
    (unmarked : ∀ text ∈ partLeaves parts, Unmarked text) :
    ∀ text ∈ partLeaves (grouped key parts), Unmarked text := by
  intro text member
  cases parts with
  | nil => cases member
  | cons part rest =>
    simp only [grouped, List.isEmpty_cons, Bool.false_eq_true, if_false, partLeaves, leaves,
      List.append_nil] at member
    rcases List.mem_cons.mp member with rfl | inside
    · exact named
    · exact unmarked text inside

def takeGroup (key : String) : List (String × Tree) → List (String × Tree) × List (String × Tree)
  | (name, group parts) :: rest =>
    if name = key then (parts, rest) else ([], (name, group parts) :: rest)
  | parts => ([], parts)

theorem takeGroup_grouped (key : String) (parts rest : List (String × Tree))
    (other : takeGroup key rest = ([], rest)) :
    takeGroup key (grouped key parts ++ rest) = (parts, rest) := by
  cases parts with
  | nil => exact other
  | cons part others => simp [grouped, takeGroup]

theorem takeGroup_map_ofPair (key : String) (pairs : List (String × String)) :
    takeGroup key (pairs.map ofPair) = ([], pairs.map ofPair) := by
  cases pairs <;> rfl

theorem takeGroup_other {key name : String} (different : name ≠ key)
    (parts rest : List (String × Tree)) (other : takeGroup key rest = ([], rest)) :
    takeGroup key (grouped name parts ++ rest) = ([], grouped name parts ++ rest) := by
  cases parts with
  | nil => exact other
  | cons part others => simp [grouped, takeGroup, different]

end Tree

structure Reading where
  target : String
  scores : List (String × String)
  progress : List (String × Progress)
  words : List (String × String)

namespace Reading

open DatapackAuthoring.Tree

def parts (reading : Reading) : List (String × Tree) :=
  grouped "score" (reading.scores.map ofPair) ++
    (grouped "advancements" (ofParts reading.progress) ++ reading.words.map ofPair)

def ofParts? (target : String) (parts : List (String × Tree)) : Option Reading := do
  let (scores, rest) := takeGroup "score" parts
  let (progress, words) := takeGroup "advancements" rest
  return { target, scores := ← pairs? scores, progress := ← parts? progress,
           words := ← pairs? words }

theorem ofParts?_parts (reading : Reading) :
    ofParts? reading.target reading.parts = some reading := by
  -- A group under one key is not taken for a group under the other, and no word for a group.
  have words (key : String) := takeGroup_map_ofPair key reading.words
  have scores : takeGroup "score" reading.parts = (reading.scores.map ofPair, _) :=
    takeGroup_grouped "score" (reading.scores.map ofPair) _
      (takeGroup_other (by decide) (ofParts reading.progress) _ (words "score"))
  have progress := takeGroup_grouped "advancements" (ofParts reading.progress) _
    (words "advancements")
  simp only [ofParts?, scores, progress, pairs?_map_ofPair, parts?_ofParts]
  rfl

def ofText? (text : String) : Option Reading :=
  match Text.cutFirst '[' text.toList with
  | none => ofParts? text []
  | some (target, list) =>
    if list.getLast? = some ']' then
      (readParts list.dropLast).bind (ofParts? (String.ofList target))
    else none

def groupPairs (key : String) (texts : List String) : List (String × String) :=
  (groupForm texts).map (key, ·)

def scoreTexts (scores : List (String × String)) : List String :=
  scores.map fun (objective, range) => assignment objective range

def pairs (reading : Reading) : List (String × String) :=
  groupPairs "score" (scoreTexts reading.scores) ++
    (groupPairs "advancements" (Progress.partTexts reading.progress) ++ reading.words)

def text (reading : Reading) : String :=
  (selectorWording (.free reading.target) reading.pairs).text

theorem partTexts_grouped (key : String) (parts : List (String × Tree)) :
    partTexts (grouped key parts) =
      (groupPairs key (partTexts parts)).map fun (key, text) => assignment key text := by
  cases parts <;> rfl

theorem partTexts_parts (reading : Reading) :
    partTexts reading.parts = reading.pairs.map fun (key, text) => assignment key text := by
  simp only [parts, pairs, scoreTexts, partTexts_append, partTexts_grouped, partTexts_map_ofPair,
    partTexts_ofParts, List.map_append]

/-- No bracket opens in the target, and nothing in the list is taken for the end of a part. -/
structure Legible (reading : Reading) : Prop where
  target : '[' ∉ reading.target.toList
  leaves : ∀ text ∈ partLeaves reading.parts, Unmarked text

theorem ofText?_text (reading : Reading) (legible : reading.Legible) :
    ofText? reading.text = some reading := by
  have texts := reading.partTexts_parts
  have back := ofParts?_parts reading
  cases pairs : reading.pairs with
  | nil =>
    have bare : reading.text = reading.target := by
      simp [text, pairs, selectorWording, Wording.text]
    have empty : reading.parts = [] := by
      rw [pairs, partTexts_eq_map] at texts
      exact List.map_eq_nil_iff.mp texts
    rw [empty] at back
    rw [bare, ofText?, (Text.cutFirst_eq_none_iff '[' _).mpr legible.target]
    exact back
  | cons pair rest =>
    have listed : reading.text.toList = reading.target.toList ++
        '[' :: ((commaSeparated (partTexts reading.parts)).toList ++ [']']) := by
      simp [text, pairs, texts, selectorWording, Wording.text, bracketed]
    simp [ofText?, listed, cutFirst_append legible.target,
      readParts_commaSeparated reading.parts legible.leaves, back]

example :
    (ofText? "@a[advancements={story={iron=false}}, tag=, tag=boss]").map pairs =
      some [("advancements", "{story={iron=false}}"), ("tag", ""), ("tag", "boss")] := by
  decide +kernel

end Reading

end DatapackAuthoring
