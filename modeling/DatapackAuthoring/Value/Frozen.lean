import DatapackAuthoring.Value.Basic

namespace DatapackAuthoring

namespace Value

mutual

def frozen : Value → Value
  | list items => tuple (frozenItems items)
  | tuple items => tuple (frozenItems items)
  | map _ entries => map true (frozenEntries entries)
  | other => other

def frozenItems : List Value → List Value
  | [] => []
  | item :: rest => frozen item :: frozenItems rest

def frozenEntries : List (Value × Value) → List (Value × Value)
  | [] => []
  | (key, value) :: rest => (key, frozen value) :: frozenEntries rest

end

theorem frozenItems_eq_map (items : List Value) : frozenItems items = items.map frozen := by
  induction items with
  | nil => rfl
  | cons item rest ih => simp [frozenItems, ih]

theorem frozenEntries_eq_map (entries : Entries) :
    frozenEntries entries = entries.map fun (key, value) => (key, frozen value) := by
  induction entries with
  | nil => rfl
  | cons entry rest ih => simp [frozenEntries, ih]

end Value

end DatapackAuthoring
