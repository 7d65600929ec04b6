import SqlStyle.Text.Case

/-! # Naming conventions

The conventions look at ASCII letters and underscores only, so a name in another script fits all of
those that do not ask for a first letter. -/

namespace SqlStyle.Name

/-- Starts with a capital and has no underscore. -/
def isUpperCamelCase (name : String) : Bool :=
  name.toList.head?.all Text.isUpperAscii && !name.contains '_'

/-- Starts with a small letter and has no underscore. -/
def isLowerCamelCase (name : String) : Bool :=
  name.toList.head?.all Text.isLowerAscii && !name.contains '_'

/-- Has no small letter. -/
def isAllCaps (name : String) : Bool := !name.toList.any Text.isLowerAscii

/-- Has no capital. -/
def isLowerSnakeCase (name : String) : Bool := !name.toList.any Text.isUpperAscii

/-! ## Statement headers that cannot be wrapped -/

/-- The words that open a statement header. -/
def isHeaderStart (word : String) : Bool := ["CREATE", "IMPORT"].contains word

/-- The words after which a header holds at most one more word. -/
def isHeaderTail (word : String) : Bool :=
  ["FUNCTION", "EXISTS", "TABLE", "TYPE", "VIEW", "=", "PROTO", "MODULE"].contains word

/-- At most one word may follow a tail word, and none an equals sign. -/
def endsHeader : List String → Bool
  | [] => true
  | word :: rest =>
    if isHeaderTail word then rest.length ≤ (if word == "=" then 0 else 1) else endsHeader rest

/-- The line is a statement header that cannot be wrapped and so may be of any length. -/
def isHeaderLine (line : String) : Bool :=
  match (Text.words (· == ' ') line.toList).map fun w => Text.upper (String.ofList w) with
  | [] => false
  | first :: rest => isHeaderStart first && endsHeader rest

end SqlStyle.Name
