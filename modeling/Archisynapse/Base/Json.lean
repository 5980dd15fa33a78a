import Mathlib.Data.List.Sort

/-!
# JSON values and their texts

JSON values, and the text that Python's `json.dumps(value, sort_keys=True)` makes of one: the members of an object come in the
order of their names, and a text is escaped, as far as ASCII goes or beyond it. A number is given by its text.
-/

namespace Archisynapse

/-- A JSON value. -/
inductive Json where
  | null
  | bool (b : Bool)
  | number (text : String)
  | str (text : String)
  | arr (items : List Json)
  | obj (members : List (String × Json))

namespace Json

/-! ## Texts -/

/-- How values are written: whether what is not ASCII is escaped, and what stands between items and after names. -/
structure Style where
  ascii : Bool
  itemSeparator : List Char
  keySeparator : List Char

/-- The default of `json.dumps`. -/
def Style.spaced : Style := ⟨true, [',', ' '], [':', ' ']⟩

/-- `separators=(",", ":"), ensure_ascii=False` -/
def Style.compact : Style := ⟨false, [','], [':']⟩

/-- A hexadecimal digit. -/
def hexDigit (n : Nat) : Char := if n < 10 then Char.ofNat (48 + n) else Char.ofNat (87 + n)

/-- `\uXXXX` -/
def escapeUnit (n : Nat) : List Char :=
  ['\\', 'u', hexDigit (n / 4096 % 16), hexDigit (n / 256 % 16), hexDigit (n / 16 % 16), hexDigit (n % 16)]

/-- A character inside a text. -/
def escapeChar (ascii : Bool) (c : Char) : List Char :=
  if c = '"' then ['\\', '"']
  else if c = '\\' then ['\\', '\\']
  else if c = '\n' then ['\\', 'n']
  else if c = '\r' then ['\\', 'r']
  else if c = '\t' then ['\\', 't']
  else if c.toNat = 12 then ['\\', 'f']
  else if c.toNat = 8 then ['\\', 'b']
  else if c.toNat < 32 then escapeUnit c.toNat
  else if ascii = false ∨ c.toNat < 127 then [c]
  else if c.toNat < 0x10000 then escapeUnit c.toNat
  else escapeUnit (0xd800 + (c.toNat - 0x10000) / 0x400) ++ escapeUnit (0xdc00 + (c.toNat - 0x10000) % 0x400)

/-- A text in quotes. -/
def quote (ascii : Bool) (text : String) : List Char := '"' :: (text.toList.flatMap (escapeChar ascii) ++ ['"'])

/-! ## Order -/

/-- Members in the order of their names. -/
def sortMembers (members : List (String × Json)) : List (String × Json) := members.insertionSort (fun a b => a.1 ≤ b.1)

mutual

/-- A value whose members come in the order of their names, at every depth. -/
def sortKeys : Json → Json
  | .arr items => .arr (sortItems items)
  | .obj members => .obj (sortMembers (sortValues members))
  | value => value

/-- The items of an array, put in order inside. -/
def sortItems : List Json → List Json
  | [] => []
  | item :: items => item.sortKeys :: sortItems items

/-- The values of members, put in order inside. -/
def sortValues : List (String × Json) → List (String × Json)
  | [] => []
  | (name, value) :: members => (name, value.sortKeys) :: sortValues members

end

/-! ## Writing -/

mutual

/-- The text of a value, its members as they come. -/
def render (style : Style) : Json → List Char
  | .null => ['n', 'u', 'l', 'l']
  | .bool true => ['t', 'r', 'u', 'e']
  | .bool false => ['f', 'a', 'l', 's', 'e']
  | .number text => text.toList
  | .str text => quote style.ascii text
  | .arr [] => ['[', ']']
  | .arr (item :: items) => '[' :: (item.render style ++ renderItems style items)
  | .obj [] => ['\x7b', '\x7d']
  | .obj ((name, value) :: members) =>
    '\x7b' :: (quote style.ascii name ++ style.keySeparator ++ value.render style ++ renderMembers style members)

/-- The rest of an array, after an item. -/
def renderItems (style : Style) : List Json → List Char
  | [] => [']']
  | item :: items => style.itemSeparator ++ item.render style ++ renderItems style items

/-- The rest of an object, after a member. -/
def renderMembers (style : Style) : List (String × Json) → List Char
  | [] => ['\x7d']
  | (name, value) :: members =>
    style.itemSeparator ++ quote style.ascii name ++ style.keySeparator ++ value.render style ++ renderMembers style members

end

/-- `json.dumps(value, sort_keys=True)` -/
def dumps (style : Style) (value : Json) : String := String.ofList (value.sortKeys.render style)

/-- Two values are equal when their members, put in order, are. -/
def Same (a b : Json) : Prop := a.sortKeys = b.sortKeys

/-! ## Members -/

/-- `dict.get(name)`, of members of distinct names -/
def member (name : String) (members : List (String × Json)) : Option Json :=
  (members.find? (fun m => decide (m.1 = name))).map (·.2)

/-- The members without those of a name. -/
def without (name : String) (members : List (String × Json)) : List (String × Json) :=
  members.filter (fun m => !decide (m.1 = name))

example : (Json.obj [("b", .arr [.null, .number "1.5"]), ("a", .str "x\"y")]).dumps .spaced =
    "\x7b\"a\": \"x\\\"y\", \"b\": [null, 1.5]\x7d" := by
  decide +kernel

end Json

end Archisynapse
