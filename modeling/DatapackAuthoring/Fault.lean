namespace DatapackAuthoring

inductive Fault where
  /- Names. -/
  | invalidNamespace (ns : String)
  | emptyName
  | invalidPath (path : String)
  | doubleDot (path : String)
  | namespaceUnderBasePath (name ns : String)
  /- Selectors. -/
  | limitRequired (target limit : String)
  | singleExpected (selector : String)
  | notPlayerType (target type : String)
  /- Resources and settings. -/
  | duplicateResource (kind full : String)
  | unknownTagType (type : String)
  | settingsNotText (fields : List String)
  /- Values of a type that the operation does not take. -/
  | nameNotText (type : String)
  | notText (type : String)
  | notMapping (type : String)
  | notSelector (type : String)
  | notRange (value : String)
  | notIterable (type : String)
  | notSearchable (type : String)
  | unhashable (type : String)
  | tooManyDigits
  | noTextForm (type : String)
  | repeatedTarget (constructor : String)
  | noAttribute (type name : String)
  /- References to a base path or resource that was never made. -/
  | noSuchIndex
deriving DecidableEq

namespace Fault

def message : Fault → String
  | invalidNamespace ns =>
    "A namespace should only contain numbers, lowercase letters, underscores and hyphen/minus, " ++
      "and be at least 1 character long: got \"" ++ ns ++ "\""
  | emptyName => "Empty name is not allowed."
  | invalidPath path =>
    "Resource names can only contain numbers, lowercase letters, underscores, forward slash, " ++
      "period, and hyphens: got \"" ++ path ++ "\""
  | doubleDot path => "Resource names cannot include two consecutive dots: got \"" ++ path ++ "\""
  | namespaceUnderBasePath name ns =>
    "Cannot define namespace under a base path: got \"" ++ name ++
      "\" in namespace \"" ++ ns ++ "\""
  | limitRequired target limit =>
    "Selector " ++ target ++ " must match a single entity: limit must be 0 or 1, got " ++ limit
  | singleExpected selector =>
    "Argument expects a single entity, but " ++ selector ++
      " can match several: use @s, @p, @r or limit=0/1"
  | notPlayerType target type =>
    "Selector " ++ target ++ " only matches players: got type " ++ type
  | duplicateResource kind full => kind ++ " " ++ full ++ " is already registered"
  | unknownTagType type => type ++ " is not a valid TagType"
  | settingsNotText fields =>
    "; ".intercalate (fields.map (· ++ ": string_type: Input should be a valid string"))
  | nameNotText type => "Resource name must be a string, got " ++ type
  | notText type => "expected string or bytes-like object, got '" ++ type ++ "'"
  | notMapping type => "Selector arguments must be a mapping, got " ++ type
  | notSelector type => "Expected a selector or a string, got " ++ type
  | notRange value => "Range must be a number or a (min, max) pair, got " ++ value
  | notIterable type => "'" ++ type ++ "' object is not iterable"
  | notSearchable type => "argument of type '" ++ type ++ "' is not iterable"
  | unhashable type => "unhashable type: '" ++ type ++ "'"
  | tooManyDigits =>
    "Exceeds the limit (4300 digits) for integer string conversion; " ++
      "use sys.set_int_max_str_digits() to increase the limit"
  | noTextForm type => "__str__ returned non-string (type " ++ type ++ ")"
  | repeatedTarget constructor =>
    constructor ++ "() got multiple values for argument 'target'"
  | noAttribute type name => "'" ++ type ++ "' object has no attribute '" ++ name ++ "'"
  | noSuchIndex => "list index out of range"

end Fault

end DatapackAuthoring
