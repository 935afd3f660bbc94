import DatapackAuthoring.Selector.Capability
import DatapackAuthoring.Value.Frozen
import DatapackAuthoring.Value.Plain
/-!
Selectors: a target with arguments, and two flags for what the selector promises to match. The
promises are checked when a selector is built; its text leaves them out.
-/
namespace DatapackAuthoring

structure Spec where
  target : Wording
  arguments : Entries
  singleResultOnly : Value
  playersOnly : Value

/-- A word that a warning is about has a literal form, which the warning shows. -/
inductive Warning where
  | unknownSort (word : Value)
  | unknownGameMode (word : Value)

structure Reported (α : Type) where
  warnings : List Warning
  result : Except Fault α

def sortOrders : List String := ["arbitrary", "furthest", "nearest", "random"]

def gameModes : List String := ["adventure", "creative", "spectator", "survival"]

def Warning.message : Warning → String
  | unknownSort word =>
    "Unknown sort order " ++ word.literalText ++ ", expected one of " ++
      (Value.list (sortOrders.map .text)).literalText
  | unknownGameMode word =>
    "Unknown game mode " ++ word.literalText ++ ", expected one of " ++
      (Value.list (gameModes.map .text)).literalText

def frozenArguments : Value → Except Fault Entries
  | .absent => .ok []
  | .map _ entries =>
    let present := entries.filter fun entry => !entry.2.isAbsent
    .ok (present.map fun (key, value) => (key, value.frozen))
  | other => .error (.notMapping other.typeName)

def withoutNegation (word : String) : String :=
  match word.toList with
  | '!' :: rest => String.ofList rest
  | _ => word

namespace Spec

def toValue (spec : Spec) : Value :=
  .spec spec.target spec.arguments spec.singleResultOnly spec.playersOnly

def pairs (spec : Spec) : Except Fault (List (String × String)) :=
  Argument.pairs (Value.written spec.arguments)

def wording (spec : Spec) : Except Fault Wording := do
  let pairs ← spec.pairs
  return selectorWording spec.target pairs

def encode (spec : Spec) : Written := spec.wording.map Wording.text

def isSingle (spec : Spec) : Bool := limitsToSingle spec.target.text (spec.arguments.get "limit")

def types (spec : Spec) : List Value := (spec.arguments.get "type").asMany

def isPlayer (spec : Spec) : Except Fault Bool :=
  if isPlayerGlyph spec.target.text then .ok true
  else if spec.types.isEmpty then .ok false
  else onlyPlayerTypes spec.types

def checkCapabilities (spec : Spec) : Except Fault Unit := do
  if spec.singleResultOnly.isTruthy && !spec.isSingle then
    let limit ← (spec.arguments.get "limit").literal
    throw (.limitRequired spec.target.text limit)
  if spec.playersOnly.isTruthy then
    match ← foreignTypes spec.types with
    | [] => return
    | type :: _ =>
      let type ← type.literal
      throw (.notPlayerType spec.target.text type)

def sortWarnings (spec : Spec) : Except Fault (List Warning) := do
  let sort := spec.arguments.get "sort"
  if sort.isAbsent then return []
  if ← sort.isAmong sortOrders then return []
  let _ ← sort.literal
  return [.unknownSort sort]

def gameModeWarnings (spec : Spec) : Except Fault (List Warning) := do
  let mode := spec.arguments.get "gamemode"
  if mode.isAbsent then return []
  let word ← mode.plain
  if gameModes.contains (withoutNegation word) then return []
  let _ ← mode.literal
  return [.unknownGameMode mode]

def accept (target arguments singleResultOnly playersOnly : Value) : Except Fault Spec := do
  let target ← target.wording
  let arguments ← frozenArguments arguments
  let spec : Spec := { target, arguments, singleResultOnly, playersOnly }
  spec.checkCapabilities
  return spec

def checkWords (spec : Spec) : Reported Spec :=
  match spec.sortWarnings with
  | .error fault => ⟨[], .error fault⟩
  | .ok sort =>
    match spec.gameModeWarnings with
    | .error fault => ⟨sort, .error fault⟩
    | .ok mode => ⟨sort ++ mode, .ok spec⟩

def build (target arguments singleResultOnly playersOnly : Value) : Reported Spec :=
  match accept target arguments singleResultOnly playersOnly with
  | .error fault => ⟨[], .error fault⟩
  | .ok spec => spec.checkWords

end Spec

/- Constructors that set the flags. The target is theirs, so no argument may have its name. -/

def namedArguments (constructor : String) (arguments : Entries) : Except Fault Value :=
  if (arguments.get? "target").isSome then .error (.repeatedTarget constructor)
  else .ok (.map false arguments)

def flaggedSelector (constructor : String) (single players : Bool) (target : Value)
    (arguments : Entries) : Reported Spec :=
  match namedArguments constructor arguments with
  | .error fault => ⟨[], .error fault⟩
  | .ok named => Spec.build target named (.bool single) (.bool players)

def singleSelector : Value → Entries → Reported Spec :=
  flaggedSelector "single_selector" true false

def playerSelector : Value → Entries → Reported Spec :=
  flaggedSelector "player_selector" false true

def singlePlayerSelector : Value → Entries → Reported Spec :=
  flaggedSelector "single_player_selector" true true

def selector (target : Value) (arguments : Entries) : Reported Spec :=
  match namedArguments "selector" arguments, target.plain with
  | .error fault, _ => ⟨[], .error fault⟩
  | .ok _, .error fault => ⟨[], .error fault⟩
  | .ok named, .ok glyph =>
    let matchesMany := (Target.ofGlyph? glyph).any fun target => !target.isSingle
    Spec.build (.text glyph) named
      (.bool (matchesMany && isSingleLimit (arguments.get "limit")))
      (.bool (isPlayerGlyph glyph))

def existsCondition (spec : Spec) : Value := .condition (.text "entity") spec.toValue

def conditionParts (kind subject : Value) : Except Fault Value := do
  let wording ← subject.wording
  return .list [kind, .ofWording wording]

def selectorArgument (value single : Value) : Except Fault Value :=
  match value with
  | .spec target arguments singleResultOnly playersOnly => do
    let spec : Spec := ⟨target, arguments, singleResultOnly, playersOnly⟩
    let wording ← spec.wording
    if single.isTruthy && !spec.isSingle then throw (.singleExpected wording.text)
    return .ofWording wording
  | .text _ | .target _ => .ok value
  | other => .error (.notSelector other.typeName)

end DatapackAuthoring
