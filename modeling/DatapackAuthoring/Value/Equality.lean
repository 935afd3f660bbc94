import DatapackAuthoring.Value.Basic
/-!
Equality of values. Numbers are equal by size, whichever way they are held; a target equals its
glyph; maps are equal whatever the order of their entries; objects are equal field by field. A
value that is not a number equals nothing, itself included. As a part or as a key, however, it
coincides with itself, so whatever holds it is found again.
-/
namespace DatapackAuthoring

open Number

def Value.exactUnits? : Value → Option Int
  | bool flag => some (if flag then unitsPerOne else 0)
  | int n => some (n * unitsPerOne)
  | float (.finite negative size) => some (signedUnits negative size)
  | _ => none

def Value.atomsCoincide (a b : Value) : Bool :=
  match a, b with
  | absent, absent => true
  | kind k, kind l => k == l
  | tagType t, tagType u => t == u
  | float (.infinite m), float (.infinite n) => m == n
  | float (.nan m), float (.nan n) => m == n
  | _, _ =>
    match a.asText?, b.asText? with
    | some s, some t => s == t
    | _, _ =>
      match a.exactUnits?, b.exactUnits? with
      | some m, some n => m == n
      | _, _ => false

mutual

/-- Two values coincide if they are equal, or one and the same. -/
def Value.coincides : Value → Value → Bool
  | list xs => fun
    | list ys => itemsCoincide xs ys
    | _ => false
  | tuple xs => fun
    | tuple ys => itemsCoincide xs ys
    | _ => false
  | map _ xs => fun
    | map _ ys => xs.length == ys.length && entriesCoincide xs ys
    | _ => false
  | identifier n p e => fun
    | identifier n' p' e' => coincides n n' && coincides p p' && coincides e e'
    | _ => false
  | context n directory d => fun
    | context n' directory' d' => coincides n n' && directory == directory' && coincides d d'
    | _ => false
  | spec subject xs s p => fun
    | spec subject' ys s' p' =>
      subject.text == subject'.text && xs.length == ys.length && entriesCoincide xs ys &&
        coincides s s' && coincides p p'
    | _ => false
  | condition word subject => fun
    | condition word' subject' => coincides word word' && coincides subject subject'
    | _ => false
  | tagEntry id required => fun
    | tagEntry id' required' => coincides id id' && coincides required required'
    | _ => false
  | resource family name payload type => fun
    | resource family' name' payload' type' =>
      coincides family family' && coincides name name' && coincides payload payload' &&
        coincides type type'
    | _ => false
  | atom => atomsCoincide atom

def Value.itemsCoincide : List Value → List Value → Bool
  | [], [] => true
  | x :: xs, y :: ys => coincides x y && itemsCoincide xs ys
  | _, _ => false

def Value.entriesCoincide : List (Value × Value) → List (Value × Value) → Bool
  | [], _ => true
  | (key, value) :: rest, others =>
    (match others.find? fun other => coincides key other.1 with
      | some other => coincides value other.2
      | none => false) && entriesCoincide rest others

end

def Value.isNan : Value → Bool
  | float (.nan _) => true
  | _ => false

def Value.same (a b : Value) : Bool := !a.isNan && a.coincides b

mutual

/-- The type of the first part that cannot be a key: a list, a map, or anything that holds one. -/
def Value.unhashable? : Value → Option String
  | list _ => some "list"
  | map frozen entries => some (typeName (map frozen entries))
  | tuple items => firstUnhashable? items
  | identifier ns path explicit =>
    ((unhashable? ns).or (unhashable? path)).or (unhashable? explicit)
  | context ns _ defaultNs => (unhashable? ns).or (unhashable? defaultNs)
  | spec .. => some "mappingproxy"
  | condition word subject => (unhashable? word).or (unhashable? subject)
  | tagEntry id required => (unhashable? id).or (unhashable? required)
  | resource family name payload type =>
    (((unhashable? family).or (unhashable? name)).or (unhashable? payload)).or (unhashable? type)
  | _ => none

def Value.firstUnhashable? : List Value → Option String
  | [] => none
  | item :: rest => (unhashable? item).or (firstUnhashable? rest)

end

/-- A later value under a key that coincides takes the place of the earlier one; the key stays. -/
def Entries.insert (key value : Value) : Entries → Entries
  | [] => [(key, value)]
  | (other, old) :: rest =>
    if other.coincides key then (other, value) :: rest else (other, old) :: insert key value rest

end DatapackAuthoring
