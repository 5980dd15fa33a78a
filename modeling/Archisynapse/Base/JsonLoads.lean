import Archisynapse.Base.Json

/-!
# Reading JSON

`json.loads` on a text: the value at its front, blanks around it, and nothing else. The scanner is that of Python: beyond the
grammar it knows `NaN`, `Infinity` and `-Infinity`, of two members of one name the later one counts, and a pair of escaped
surrogates is one character. A number becomes the number that `printed` writes for it. A surrogate that is in no pair, which
Python keeps, is read as U+FFFD.

Every nested call reads at least one character, so the length of the text bounds their depth. `Readable` says which values
`json.loads` can give: their numbers are read as they are printed, and no object has two members of one name.
-/

namespace Archisynapse

namespace Json

/-! ## Blanks and digits -/

/-- Blanks between tokens. -/
def isBlank (c : Char) : Bool := c == ' ' || c == '\n' || c == '\r' || c == '\t'

/-- The text from its first character that is no blank. -/
def skipBlanks (t : List Char) : List Char := t.dropWhile isBlank

/-- The number of a hexadecimal digit. -/
def hexDigitValue (c : Char) : Option Nat :=
  if c.isDigit then some (c.toNat - 48)
  else if 'a' ≤ c ∧ c ≤ 'f' then some (c.toNat - 87)
  else if 'A' ≤ c ∧ c ≤ 'F' then some (c.toNat - 55)
  else none

/-! ## Numbers -/

/-- The digits at the front of a text, and the rest; none when there are none. -/
def readDigits (t : List Char) : Option (List Char × List Char) :=
  if t.takeWhile Char.isDigit = [] then none else some (t.takeWhile Char.isDigit, t.dropWhile Char.isDigit)

/-- A whole number without a sign: no digit follows a zero. -/
def readNat : List Char → Option (List Char × List Char)
  | '0' :: t => some (['0'], t)
  | t => readDigits t

/-- What may follow a whole number: nothing is read when `first` does not accept the next character or no digits come. -/
def readPart (first : List Char → Option (List Char × List Char)) (t : List Char) : List Char × List Char :=
  match first t with
  | none => ([], t)
  | some (mark, rest) =>
    match readDigits rest with
    | none => ([], t)
    | some (digits, rest) => (mark ++ digits, rest)

/-- The point of a fraction. -/
def readPoint : List Char → Option (List Char × List Char)
  | '.' :: t => some (['.'], t)
  | _ => none

/-- A sign, if there is one. -/
def readSign : List Char → List Char × List Char
  | '+' :: t => (['+'], t)
  | '-' :: t => (['-'], t)
  | t => ([], t)

/-- The mark of an exponent, with its sign. -/
def readMark : List Char → Option (List Char × List Char)
  | 'e' :: t => some ('e' :: (readSign t).1, (readSign t).2)
  | 'E' :: t => some ('E' :: (readSign t).1, (readSign t).2)
  | _ => none

/-- A number without a sign. -/
def readUnsigned (t : List Char) : Option (List Char × List Char) :=
  match readNat t with
  | none => none
  | some (whole, rest) =>
    let (fraction, rest) := readPart readPoint rest
    let (exponent, rest) := readPart readMark rest
    some (whole ++ fraction ++ exponent, rest)

/-- The number at the front of a text. -/
def readNumber : List Char → Option (List Char × List Char)
  | 'N' :: 'a' :: 'N' :: rest => some (['N', 'a', 'N'], rest)
  | 'I' :: 'n' :: 'f' :: 'i' :: 'n' :: 'i' :: 't' :: 'y' :: rest => some (['I', 'n', 'f', 'i', 'n', 'i', 't', 'y'], rest)
  | '-' :: 'I' :: 'n' :: 'f' :: 'i' :: 'n' :: 'i' :: 't' :: 'y' :: rest =>
    some (['-', 'I', 'n', 'f', 'i', 'n', 'i', 't', 'y'], rest)
  | '-' :: t => (readUnsigned t).map (fun r => ('-' :: r.1, r.2))
  | t => readUnsigned t

/-! ## Strings -/

/-- Four hexadecimal digits. -/
def readUnit : List Char → Option (Nat × List Char)
  | a :: b :: c :: d :: rest =>
    match hexDigitValue a, hexDigitValue b, hexDigitValue c, hexDigitValue d with
    | some a, some b, some c, some d => some (4096 * a + 256 * b + 16 * c + d, rest)
    | _, _, _, _ => none
  | _ => none

/-- The character of a unit that is in no pair. -/
def charOfUnit (n : Nat) : Char := if 0xd800 ≤ n ∧ n < 0xe000 then '\ufffd' else Char.ofNat n

/-- What follows `\u`: a unit, or a pair of them. -/
def readEscapedUnit (t : List Char) : Option (Char × List Char) :=
  match readUnit t with
  | none => none
  | some (high, rest) =>
    if 0xd800 ≤ high ∧ high < 0xdc00 then
      match rest with
      | '\\' :: 'u' :: rest' =>
        match readUnit rest' with
        | none => none
        | some (low, rest') =>
          if 0xdc00 ≤ low ∧ low < 0xe000 then some (Char.ofNat (0x10000 + (high - 0xd800) * 0x400 + (low - 0xdc00)), rest')
          else some (charOfUnit high, rest)
      | _ => some (charOfUnit high, rest)
    else some (charOfUnit high, rest)

/-- One character inside a string: control characters must be escaped. -/
def readChar : List Char → Option (Char × List Char)
  | '\\' :: '"' :: rest => some ('"', rest)
  | '\\' :: '\\' :: rest => some ('\\', rest)
  | '\\' :: '/' :: rest => some ('/', rest)
  | '\\' :: 'b' :: rest => some (Char.ofNat 8, rest)
  | '\\' :: 'f' :: rest => some (Char.ofNat 12, rest)
  | '\\' :: 'n' :: rest => some ('\n', rest)
  | '\\' :: 'r' :: rest => some ('\r', rest)
  | '\\' :: 't' :: rest => some ('\t', rest)
  | '\\' :: 'u' :: rest => readEscapedUnit rest
  | '\\' :: _ => none
  | c :: rest => if c.toNat < 32 then none else some (c, rest)
  | [] => none

/-- The characters of a string up to its closing quote; the number bounds how many are read. -/
def readString : Nat → List Char → Option (List Char × List Char)
  | _, '"' :: rest => some ([], rest)
  | 0, _ => none
  | n + 1, t =>
    match readChar t with
    | none => none
    | some (c, rest) => (readString n rest).map (fun r => (c :: r.1, r.2))

/-! ## Values -/

/-- `dict[name] = value`, which keeps the place of a name that is there. -/
def setMember (members : List (String × Json)) (name : String) (value : Json) : List (String × Json) :=
  if members.any (fun m => decide (m.1 = name)) then members.map (fun m => if m.1 = name then (name, value) else m)
  else members ++ [(name, value)]

/-- The dictionary of members as they come. -/
def dictOf (members : List (String × Json)) : List (String × Json) :=
  members.foldl (fun d m => setMember d m.1 m.2) []

/-- The name of a member, with the colon and the blanks after it. -/
def readName (n : Nat) : List Char → Option (String × List Char)
  | '"' :: t =>
    match readString n t with
    | none => none
    | some (name, rest) =>
      match skipBlanks rest with
      | ':' :: rest => some (String.ofList name, skipBlanks rest)
      | _ => none
  | _ => none

/-- The value at the front of a text that does not begin with a blank, by its first character; `items` and `members` read what is
inside an array and an object, and `n` bounds the length of a string. -/
def readToken (printed : String → String) (n : Nat) (items : List Char → Option (List Json × List Char))
    (members : List Char → Option (List (String × Json) × List Char)) : List Char → Option (Json × List Char)
  | '"' :: t => (readString n t).map (fun r => (.str (String.ofList r.1), r.2))
  | '\x7b' :: t =>
    match skipBlanks t with
    | '\x7d' :: rest => some (.obj [], rest)
    | t => (members t).map (fun r => (.obj (dictOf r.1), r.2))
  | '[' :: t =>
    match skipBlanks t with
    | ']' :: rest => some (.arr [], rest)
    | t => (items t).map (fun r => (.arr r.1, r.2))
  | 'n' :: 'u' :: 'l' :: 'l' :: rest => some (.null, rest)
  | 't' :: 'r' :: 'u' :: 'e' :: rest => some (.bool true, rest)
  | 'f' :: 'a' :: 'l' :: 's' :: 'e' :: rest => some (.bool false, rest)
  | t => (readNumber t).map (fun r => (.number (printed (String.ofList r.1)), r.2))

mutual

/-- The value at the front of a text; the number bounds the depth of the calls. -/
def readValue (printed : String → String) : Nat → List Char → Option (Json × List Char)
  | 0, _ => none
  | n + 1, t => readToken printed n (readItems printed n) (readMembers printed n) t

/-- The items of an array, up to its end. -/
def readItems (printed : String → String) : Nat → List Char → Option (List Json × List Char)
  | 0, _ => none
  | n + 1, t =>
    match readValue printed n t with
    | none => none
    | some (item, rest) =>
      match skipBlanks rest with
      | ',' :: rest => (readItems printed n (skipBlanks rest)).map (fun r => (item :: r.1, r.2))
      | ']' :: rest => some ([item], rest)
      | _ => none

/-- The members of an object, up to its end. -/
def readMembers (printed : String → String) : Nat → List Char → Option (List (String × Json) × List Char)
  | 0, _ => none
  | n + 1, t =>
    match readName n t with
    | none => none
    | some (name, rest) =>
      match readValue printed n rest with
      | none => none
      | some (value, rest) =>
        match skipBlanks rest with
        | ',' :: rest => (readMembers printed n (skipBlanks rest)).map (fun r => ((name, value) :: r.1, r.2))
        | '\x7d' :: rest => some ([(name, value)], rest)
        | _ => none

end

/-- `json.loads(text)`; none for `JSONDecodeError`. -/
def loads (printed : String → String) (text : String) : Option Json :=
  match text.toList with
  | '\ufeff' :: _ => none
  | t =>
    match readValue printed (t.length + 1) (skipBlanks t) with
    | none => none
    | some (value, rest) => if skipBlanks rest = [] then some value else none

/-! ## Values that are read back -/

/-- A text that is one number. -/
def Literal (text : String) : Prop := readNumber text.toList = some (text.toList, [])

instance (text : String) : Decidable (Literal text) := inferInstanceAs (Decidable (_ = _))

mutual

/-- Every number in a value is read as itself, and the members of every object have distinct names. -/
def Readable (printed : String → String) : Json → Prop
  | .number text => Literal text ∧ printed text = text
  | .arr items => ReadableItems printed items
  | .obj members => (members.map (·.1)).Nodup ∧ ReadableMembers printed members
  | _ => True

def ReadableItems (printed : String → String) : List Json → Prop
  | [] => True
  | item :: items => item.Readable printed ∧ ReadableItems printed items

def ReadableMembers (printed : String → String) : List (String × Json) → Prop
  | [] => True
  | (_, value) :: members => value.Readable printed ∧ ReadableMembers printed members

end

end Json

end Archisynapse
