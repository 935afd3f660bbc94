import DatapackAuthoring.Proofs.Resource.Addresses

namespace DatapackAuthoring

inductive Command where
  | register (entry : Addressed)
  | get (kind identifier tagType : Value)
  | ofKind (kind : Value)
  | contains (value : Value)
  | listing
  | size

inductive Reply where
  | registered (resource : Resource)
  | found (resource : Option Resource)
  | resources (resources : List Resource)
  | flag (flag : Bool)
  | number (n : Nat)

structure Response where
  log : List LogLine
  result : Except Fault Reply

def runCommands {State : Type} (perform : State → Command → State × Response) (state : State) :
    List Command → State × List Response
  | [] => (state, [])
  | first :: rest =>
    let (next, response) := perform state first
    let (last, responses) := runCommands perform next rest
    (last, response :: responses)

abbrev Ledger := List Addressed

namespace Ledger

def resources (ledger : Ledger) : List Resource := ledger.map Addressed.resource

def addresses (ledger : Ledger) : List Address := ledger.map Addressed.address

def at? (ledger : Ledger) (address : Address) : Option Resource :=
  (ledger.find? fun entry => entry.address == address).map Addressed.resource

def getIdentified (ledger : Ledger) (kind identifier tagType : Value) :
    Except Fault (Option Resource) := do
  let full ← identifier.fullName
  kind.hashed
  tagType.hashed
  return (Value.askedAddress? kind tagType full).bind ledger.at?

def get (ledger : Ledger) (defaultNs kind identifier tagType : Value) :
    Except Fault (Option Resource) :=
  if identifier.asText?.isSome then do
    let parsed ← Identifier.parse identifier defaultNs
    ledger.getIdentified kind parsed.toValue tagType
  else ledger.getIdentified kind identifier tagType

def contains (ledger : Ledger) (defaultNs : Value) : Value → Except Fault Bool
  | .resource kind identifier _ tagType =>
    (ledger.get defaultNs kind identifier tagType).map Option.isSome
  | _ => .ok false

def ofKind (ledger : Ledger) (kind : Value) : List Resource :=
  resources (ledger.filter fun entry => kind.asKind? == some entry.address.kind)

def register (ledger : Ledger) (entry : Addressed) : Ledger × Response :=
  if entry.address ∈ ledger.addresses then
    (ledger, ⟨[], .error (.duplicateResource entry.address.kindWord entry.address.full)⟩)
  else
    (ledger ++ [entry], ⟨[.registered entry.address.kindWord entry.address.full],
      .ok (.registered entry.resource)⟩)

def perform (defaultNs : Value) (ledger : Ledger) : Command → Ledger × Response
  | .register entry => ledger.register entry
  | .get kind identifier tagType =>
    (ledger, ⟨[], (ledger.get defaultNs kind identifier tagType).map .found⟩)
  | .ofKind kind => (ledger, ⟨[], .ok (.resources (ledger.ofKind kind))⟩)
  | .contains value => (ledger, ⟨[], (ledger.contains defaultNs value).map .flag⟩)
  | .listing => (ledger, ⟨[], .ok (.resources ledger.resources)⟩)
  | .size => (ledger, ⟨[], .ok (.number ledger.length)⟩)

end Ledger

end DatapackAuthoring
