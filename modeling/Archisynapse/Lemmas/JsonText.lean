import Archisynapse.Base.Json

/-!
# The text of a JSON value determines it

A character's escape can be read back from the front of a text (`unescape_escapeChar`), so a quoted text can (`quote_inj`), a
number ends where no more of its characters follow, and the first character of a value says which kind it is. So a text followed
by anything that does not go on with a number is the text of one value only (`render_inj`), and two values with one text have the
same members (`dumps_inj`). What is not a number here is NaN or infinite.
-/

namespace Archisynapse

namespace Json

/-! ## Characters -/

/-- The number of a hexadecimal digit. -/
def hexValue (c : Char) : Nat := if c.toNat < 97 then c.toNat - 48 else c.toNat - 87

theorem hexValue_hexDigit : ∀ n < 16, hexValue (hexDigit n) = n := by decide

/-- The number of four hexadecimal digits. -/
def unitValue (a b c d : Char) : Nat := 4096 * hexValue a + 256 * hexValue b + 16 * hexValue c + hexValue d

/-- Read one character of a text. -/
def unescape : List Char → Option (Char × List Char)
  | '\\' :: '"' :: rest => some ('"', rest)
  | '\\' :: '\\' :: rest => some ('\\', rest)
  | '\\' :: 'n' :: rest => some ('\n', rest)
  | '\\' :: 'r' :: rest => some ('\r', rest)
  | '\\' :: 't' :: rest => some ('\t', rest)
  | '\\' :: 'f' :: rest => some (Char.ofNat 12, rest)
  | '\\' :: 'b' :: rest => some (Char.ofNat 8, rest)
  | '\\' :: 'u' :: a :: b :: c :: d :: rest =>
    if 0xd800 ≤ unitValue a b c d ∧ unitValue a b c d < 0xdc00 then
      match rest with
      | '\\' :: 'u' :: a' :: b' :: c' :: d' :: rest =>
        some (Char.ofNat (0x10000 + (unitValue a b c d - 0xd800) * 0x400 + (unitValue a' b' c' d' - 0xdc00)), rest)
      | _ => none
    else some (Char.ofNat (unitValue a b c d), rest)
  | c :: rest => some (c, rest)
  | [] => none

/-- The four digits of a unit say the unit. -/
theorem unitValue_escape {n : Nat} (hn : n < 65536) :
    unitValue (hexDigit (n / 4096 % 16)) (hexDigit (n / 256 % 16)) (hexDigit (n / 16 % 16)) (hexDigit (n % 16)) = n := by
  unfold unitValue
  rw [hexValue_hexDigit _ (by omega), hexValue_hexDigit _ (by omega), hexValue_hexDigit _ (by omega),
    hexValue_hexDigit _ (by omega)]
  omega

/-- A unit that begins no pair is read as its character. -/
theorem unescape_unit {n : Nat} (hn : n < 65536) (hpair : ¬ (0xd800 ≤ n ∧ n < 0xdc00)) (rest : List Char) :
    unescape (escapeUnit n ++ rest) = some (Char.ofNat n, rest) := by
  simp only [escapeUnit, List.cons_append, List.nil_append, unescape, unitValue_escape hn, if_neg hpair]

/-- A pair of units is read as its character. -/
theorem unescape_pair {n : Nat} (hlow : 0x10000 ≤ n) (hhigh : n < 0x110000) (rest : List Char) :
    unescape (escapeUnit (0xd800 + (n - 0x10000) / 0x400) ++ escapeUnit (0xdc00 + (n - 0x10000) % 0x400) ++ rest) =
      some (Char.ofNat n, rest) := by
  have h₁ : 0xd800 + (n - 0x10000) / 0x400 < 65536 := by omega
  have h₂ : 0xdc00 + (n - 0x10000) % 0x400 < 65536 := by omega
  have hpair : 0xd800 ≤ 0xd800 + (n - 0x10000) / 0x400 ∧ 0xd800 + (n - 0x10000) / 0x400 < 0xdc00 := by omega
  have hn : 0x10000 + (0xd800 + (n - 0x10000) / 0x400 - 0xd800) * 0x400 + (0xdc00 + (n - 0x10000) % 0x400 - 0xdc00) = n := by
    omega
  simp only [escapeUnit, List.cons_append, List.nil_append, unescape, unitValue_escape h₁, unitValue_escape h₂, if_pos hpair, hn]

/-- A character is no surrogate. -/
theorem not_surrogate (c : Char) : ¬ (0xd800 ≤ c.toNat ∧ c.toNat < 0xdc00) := by
  have hvalid := c.valid
  unfold UInt32.isValidChar Nat.isValidChar at hvalid
  have hnat : c.val.toNat = c.toNat := rfl
  omega

theorem toNat_lt (c : Char) : c.toNat < 0x110000 := by
  have hvalid := c.valid
  unfold UInt32.isValidChar Nat.isValidChar at hvalid
  have hnat : c.val.toNat = c.toNat := rfl
  omega

/-- What is written for a character is read back as it. -/
theorem unescape_escapeChar (ascii : Bool) (c : Char) (rest : List Char) :
    unescape (escapeChar ascii c ++ rest) = some (c, rest) := by
  have hc : Char.ofNat c.toNat = c := Char.ofNat_toNat c
  unfold escapeChar
  by_cases h₁ : c = '"'
  · subst h₁
    rfl
  by_cases h₂ : c = '\\'
  · subst h₂
    rfl
  by_cases h₃ : c = '\n'
  · subst h₃
    rfl
  by_cases h₄ : c = '\r'
  · subst h₄
    rfl
  by_cases h₅ : c = '\t'
  · subst h₅
    rfl
  rw [if_neg h₁, if_neg h₂, if_neg h₃, if_neg h₄, if_neg h₅]
  by_cases h₆ : c.toNat = 12
  · rw [if_pos h₆, ← hc, h₆]
    rfl
  by_cases h₇ : c.toNat = 8
  · rw [if_neg h₆, if_pos h₇, ← hc, h₇]
    rfl
  rw [if_neg h₆, if_neg h₇]
  split
  · rename_i hlow
    rw [unescape_unit (by omega) (by omega), hc]
  · split
    · rw [List.cons_append, List.nil_append]
      unfold unescape
      split <;> first | rfl | simp_all
    · split
      · rename_i hbmp
        rw [unescape_unit hbmp (not_surrogate c), hc]
      · rename_i hbmp
        rw [unescape_pair (by omega) (toNat_lt c), hc]

/-- What is written for a character does not begin with a quote. -/
theorem escapeChar_head (ascii : Bool) (c : Char) : ∃ h rest, escapeChar ascii c = h :: rest ∧ h ≠ '"' := by
  unfold escapeChar
  by_cases h₁ : c = '"'
  · rw [if_pos h₁]
    exact ⟨_, _, rfl, by decide⟩
  · rw [if_neg h₁]
    split
    · exact ⟨_, _, rfl, by decide⟩
    split
    · exact ⟨_, _, rfl, by decide⟩
    split
    · exact ⟨_, _, rfl, by decide⟩
    split
    · exact ⟨_, _, rfl, by decide⟩
    split
    · exact ⟨_, _, rfl, by decide⟩
    split
    · exact ⟨_, _, rfl, by decide⟩
    split
    · exact ⟨_, _, rfl, by decide⟩
    split
    · exact ⟨_, _, rfl, h₁⟩
    split
    · exact ⟨_, _, rfl, by decide⟩
    · exact ⟨_, _, rfl, by decide⟩

/-- Escaped characters up to a quote determine the characters. -/
theorem escaped_inj (ascii : Bool) : ∀ (cs ds x y : List Char),
    cs.flatMap (escapeChar ascii) ++ '"' :: x = ds.flatMap (escapeChar ascii) ++ '"' :: y → cs = ds ∧ x = y
  | [], [], x, y, h => ⟨rfl, (List.cons.inj h).2⟩
  | [], d :: ds, x, y, h => by
    obtain ⟨head, rest, hd, hne⟩ := escapeChar_head ascii d
    rw [List.flatMap_cons, hd] at h
    exact absurd (List.cons.inj h).1.symm hne
  | c :: cs, [], x, y, h => by
    obtain ⟨head, rest, hc, hne⟩ := escapeChar_head ascii c
    rw [List.flatMap_cons, hc] at h
    exact absurd (List.cons.inj h).1 hne
  | c :: cs, d :: ds, x, y, h => by
    rw [List.flatMap_cons, List.flatMap_cons, List.append_assoc, List.append_assoc] at h
    have hread := congrArg unescape h
    rw [unescape_escapeChar, unescape_escapeChar] at hread
    obtain ⟨rfl, hrest⟩ := Prod.mk.inj (Option.some.inj hread)
    obtain ⟨rfl, hx⟩ := escaped_inj ascii cs ds x y hrest
    exact ⟨rfl, hx⟩

/-- A quoted text determines the text and what follows it. -/
theorem quote_inj {ascii : Bool} {s t : String} {x y : List Char} (h : quote ascii s ++ x = quote ascii t ++ y) :
    s = t ∧ x = y := by
  unfold quote at h
  rw [List.cons_append, List.cons_append, List.append_assoc, List.append_assoc, List.singleton_append,
    List.singleton_append] at h
  obtain ⟨htexts, hrest⟩ := escaped_inj ascii _ _ x y (List.cons.inj h).2
  exact ⟨String.toList_injective htexts, hrest⟩

/-! ## Numbers -/

/-- The characters of numbers. -/
def numeric (c : Char) : Bool := c.isDigit || c == '-' || c == '+' || c == '.' || c == 'e' || c == 'E'

/-- The text of a number: characters of numbers, the first of which is a digit or a minus sign. -/
def Number (text : String) : Prop :=
  (∀ c ∈ text.toList, numeric c = true) ∧ ∃ c rest, text.toList = c :: rest ∧ (c.isDigit = true ∨ c = '-')

/-- The text of an integer is one of a number. -/
theorem number_int (n : Int) : Number (toString n) := by
  have hnat : ∀ m : Nat, (∀ c ∈ (toString m).toList, c.isDigit = true) ∧ (toString m).toList ≠ [] := by
    intro m
    have htext : (toString m).toList = Nat.toDigits 10 m := by
      rw [Nat.toString_eq_repr, Nat.toList_repr]
    rw [htext]
    exact ⟨fun c hc => Nat.isDigit_of_mem_toDigits (by decide) (by decide) hc, Nat.toDigits_ne_nil⟩
  cases n with
  | ofNat m =>
    obtain ⟨hdigits, hne⟩ := hnat m
    obtain ⟨c, rest, hcons⟩ := List.exists_cons_of_ne_nil hne
    refine ⟨fun c hc => ?_, c, rest, hcons, Or.inl (hdigits c (by rw [hcons]; exact List.mem_cons_self))⟩
    unfold numeric
    rw [hdigits c hc]
    rfl
  | negSucc m =>
    obtain ⟨hdigits, -⟩ := hnat (m + 1)
    have htext : (toString (Int.negSucc m)).toList = '-' :: (toString (m + 1)).toList := by
      have : toString (Int.negSucc m) = "-" ++ toString (m + 1) := rfl
      rw [this, String.toList_append]
      rfl
    refine ⟨fun c hc => ?_, '-', _, htext, Or.inr rfl⟩
    rw [htext] at hc
    rcases List.mem_cons.1 hc with rfl | hc
    · rfl
    · unfold numeric
      rw [hdigits c hc]
      rfl

/-- What follows a value does not go on with a number. -/
def Stops (x : List Char) : Prop := ∀ c rest, x = c :: rest → numeric c = false

/-- Characters of numbers before a stop determine themselves and what follows. -/
theorem numeric_inj : ∀ (cs ds x y : List Char), (∀ c ∈ cs, numeric c = true) → (∀ d ∈ ds, numeric d = true) → Stops x → Stops y →
    cs ++ x = ds ++ y → cs = ds ∧ x = y
  | [], [], x, y, _, _, _, _, h => ⟨rfl, h⟩
  | [], d :: ds, x, y, _, hds, hx, _, h => by
    have hstop := hx d (ds ++ y) h
    rw [hds d List.mem_cons_self] at hstop
    cases hstop
  | c :: cs, [], x, y, hcs, _, _, hy, h => by
    have hstop := hy c (cs ++ x) h.symm
    rw [hcs c List.mem_cons_self] at hstop
    cases hstop
  | c :: cs, d :: ds, x, y, hcs, hds, hx, hy, h => by
    obtain ⟨rfl, hrest⟩ := List.cons.inj h
    obtain ⟨rfl, hxy⟩ := numeric_inj cs ds x y (fun e he => hcs e (List.mem_cons_of_mem _ he))
      (fun e he => hds e (List.mem_cons_of_mem _ he)) hx hy hrest
    exact ⟨rfl, hxy⟩

/-! ## Values -/

mutual

/-- Every number in a value has the text of one. -/
def Numbers : Json → Prop
  | .number text => Number text
  | .arr items => NumbersItems items
  | .obj members => NumbersMembers members
  | _ => True

def NumbersItems : List Json → Prop
  | [] => True
  | item :: items => item.Numbers ∧ NumbersItems items

def NumbersMembers : List (String × Json) → Prop
  | [] => True
  | (_, value) :: members => value.Numbers ∧ NumbersMembers members

end

/-- The kind of a value. -/
def kind : Json → Nat
  | .null => 0
  | .bool true => 1
  | .bool false => 2
  | .number _ => 3
  | .str _ => 4
  | .arr _ => 5
  | .obj _ => 6

/-- The kind that a first character says. -/
def headKind (c : Char) : Nat :=
  if c = 'n' then 0 else if c = 't' then 1 else if c = 'f' then 2 else if c = '"' then 4 else if c = '[' then 5
  else if c = '\x7b' then 6 else if c = ']' then 7 else 3

/-- The first character of a number says that it is one. -/
theorem headKind_digit {c : Char} (hc : c.isDigit = true ∨ c = '-') : headKind c = 3 := by
  have hne : ∀ d : Char, d.isDigit = false → d ≠ '-' → c ≠ d := by
    rintro d hd hminus rfl
    rcases hc with hc | hc
    · rw [hd] at hc
      cases hc
    · exact hminus hc
  unfold headKind
  rw [if_neg (hne _ (by decide) (by decide)), if_neg (hne _ (by decide) (by decide)), if_neg (hne _ (by decide) (by decide)),
    if_neg (hne _ (by decide) (by decide)), if_neg (hne _ (by decide) (by decide)), if_neg (hne _ (by decide) (by decide)),
    if_neg (hne _ (by decide) (by decide))]

theorem kind_le (v : Json) : v.kind ≤ 6 := by
  cases v with
  | bool b => cases b <;> simp [kind]
  | _ => simp [kind]

/-- The first character of a value's text says its kind. -/
theorem render_head (style : Style) {v : Json} (hv : v.Numbers) : ∃ c rest, v.render style = c :: rest ∧ headKind c = v.kind := by
  cases v with
  | null => exact ⟨_, _, rfl, by decide⟩
  | bool b => cases b <;> exact ⟨_, _, rfl, by decide⟩
  | number text =>
    obtain ⟨-, c, rest, hcons, hc⟩ := hv
    exact ⟨c, rest, hcons, headKind_digit hc⟩
  | str text => exact ⟨_, _, rfl, rfl⟩
  | arr items => cases items <;> exact ⟨_, _, rfl, rfl⟩
  | obj members => cases members <;> exact ⟨_, _, rfl, rfl⟩

/-- A style whose items are separated by something that begins with a comma. -/
def Style.Commas (style : Style) : Prop := ∃ rest, style.itemSeparator = ',' :: rest

theorem stops_of_head {c : Char} {x : List Char} (hc : numeric c = false) : Stops (c :: x) := by
  intro d rest h
  rw [← (List.cons.inj h).1]
  exact hc

/-- What stands after an item stops a number. -/
theorem stops_items {style : Style} (hs : style.Commas) (items : List Json) (x : List Char) :
    Stops (renderItems style items ++ x) := by
  cases items with
  | nil => exact stops_of_head (by decide)
  | cons item items =>
    obtain ⟨rest, hsep⟩ := hs
    simp only [renderItems, hsep, List.cons_append, List.append_assoc]
    exact stops_of_head (by decide)

/-- What stands after a member stops a number. -/
theorem stops_members {style : Style} (hs : style.Commas) (members : List (String × Json)) (x : List Char) :
    Stops (renderMembers style members ++ x) := by
  cases members with
  | nil => exact stops_of_head (by decide)
  | cons m members =>
    obtain ⟨rest, hsep⟩ := hs
    simp only [renderMembers, hsep, List.cons_append, List.append_assoc]
    exact stops_of_head (by decide)

/-- The end of an array is no separator. -/
theorem items_end_ne {style : Style} (hs : style.Commas) {x y : List Char} : ']' :: x ≠ style.itemSeparator ++ y := by
  obtain ⟨rest, hsep⟩ := hs
  rw [hsep]
  intro h
  exact absurd (List.cons.inj h).1 (by decide)

/-- The end of an object is no separator. -/
theorem members_end_ne {style : Style} (hs : style.Commas) {x y : List Char} : '\x7d' :: x ≠ style.itemSeparator ++ y := by
  obtain ⟨rest, hsep⟩ := hs
  rw [hsep]
  intro h
  exact absurd (List.cons.inj h).1 (by decide)

mutual

/-- A value's text, followed by what stops it, determines the value and what follows. -/
theorem render_inj {style : Style} (hs : style.Commas) : ∀ (a b : Json) (x y : List Char), a.Numbers → b.Numbers → Stops x → Stops y →
    a.render style ++ x = b.render style ++ y → a = b ∧ x = y := by
  intro a b x y ha hb hx hy h
  have hkind : a.kind = b.kind := by
    obtain ⟨c, rest, hc, hca⟩ := render_head style ha
    obtain ⟨d, rest', hd, hdb⟩ := render_head style hb
    rw [hc, hd] at h
    rw [← hca, ← hdb, (List.cons.inj h).1]
  match a, b with
  | .null, .null => exact ⟨rfl, List.append_cancel_left h⟩
  | .bool true, .bool true => exact ⟨rfl, List.append_cancel_left h⟩
  | .bool false, .bool false => exact ⟨rfl, List.append_cancel_left h⟩
  | .number s, .number t =>
    obtain ⟨htexts, hxy⟩ := numeric_inj _ _ x y ha.1 hb.1 hx hy h
    exact ⟨by rw [String.toList_injective htexts], hxy⟩
  | .str s, .str t =>
    obtain ⟨rfl, hxy⟩ := quote_inj h
    exact ⟨rfl, hxy⟩
  | .arr [], .arr [] => exact ⟨rfl, List.append_cancel_left h⟩
  | .arr [], .arr (b :: bs) =>
    obtain ⟨c, rest, hc, hcb⟩ := render_head style hb.1
    simp only [render, hc, List.cons_append, List.nil_append] at h
    obtain ⟨-, hcons⟩ := List.cons.inj h
    rw [← (List.cons.inj hcons).1] at hcb
    have hle := kind_le b
    rw [← hcb] at hle
    exact absurd hle (by decide)
  | .arr (a :: as), .arr [] =>
    obtain ⟨c, rest, hc, hca⟩ := render_head style ha.1
    simp only [render, hc, List.cons_append, List.nil_append] at h
    obtain ⟨-, hcons⟩ := List.cons.inj h
    rw [(List.cons.inj hcons).1] at hca
    have hle := kind_le a
    rw [← hca] at hle
    exact absurd hle (by decide)
  | .arr (a :: as), .arr (b :: bs) =>
    simp only [render, List.cons_append, List.append_assoc] at h
    obtain ⟨rfl, hrest⟩ := render_inj hs a b _ _ ha.1 hb.1 (stops_items hs as x) (stops_items hs bs y) (List.cons.inj h).2
    obtain ⟨rfl, hxy⟩ := renderItems_inj hs as bs x y ha.2 hb.2 hrest
    exact ⟨rfl, hxy⟩
  | .obj [], .obj [] => exact ⟨rfl, List.append_cancel_left h⟩
  | .obj [], .obj ((name, value) :: members) =>
    simp only [render, quote, List.cons_append, List.nil_append] at h
    exact absurd (List.cons.inj (List.cons.inj h).2).1 (by decide)
  | .obj ((name, value) :: members), .obj [] =>
    simp only [render, quote, List.cons_append, List.nil_append] at h
    exact absurd (List.cons.inj (List.cons.inj h).2).1 (by decide)
  | .obj ((name, value) :: members), .obj ((name', value') :: members') =>
    simp only [render, List.cons_append, List.append_assoc] at h
    obtain ⟨rfl, hvalue⟩ := quote_inj (List.cons.inj h).2
    obtain ⟨rfl, hmembers⟩ := render_inj hs value value' _ _ ha.1 hb.1 (stops_members hs members x) (stops_members hs members' y)
      (List.append_cancel_left hvalue)
    obtain ⟨rfl, hxy⟩ := renderMembers_inj hs members members' x y ha.2 hb.2 hmembers
    exact ⟨rfl, hxy⟩

theorem renderItems_inj {style : Style} (hs : style.Commas) : ∀ (as bs : List Json) (x y : List Char), NumbersItems as →
    NumbersItems bs → renderItems style as ++ x = renderItems style bs ++ y → as = bs ∧ x = y := by
  intro as bs x y ha hb h
  match as, bs with
  | [], [] => exact ⟨rfl, List.append_cancel_left h⟩
  | [], b :: bs =>
    simp only [renderItems, List.append_assoc] at h
    exact absurd h (items_end_ne hs)
  | a :: as, [] =>
    simp only [renderItems, List.append_assoc] at h
    exact absurd h.symm (items_end_ne hs)
  | a :: as, b :: bs =>
    simp only [renderItems, List.append_assoc] at h
    obtain ⟨rfl, hrest⟩ := render_inj hs a b _ _ ha.1 hb.1 (stops_items hs as x) (stops_items hs bs y)
      (List.append_cancel_left h)
    obtain ⟨rfl, hxy⟩ := renderItems_inj hs as bs x y ha.2 hb.2 hrest
    exact ⟨rfl, hxy⟩

theorem renderMembers_inj {style : Style} (hs : style.Commas) : ∀ (as bs : List (String × Json)) (x y : List Char),
    NumbersMembers as → NumbersMembers bs → renderMembers style as ++ x = renderMembers style bs ++ y → as = bs ∧ x = y := by
  intro as bs x y ha hb h
  match as, bs with
  | [], [] => exact ⟨rfl, List.append_cancel_left h⟩
  | [], (name, value) :: bs =>
    simp only [renderMembers, List.append_assoc] at h
    exact absurd h (members_end_ne hs)
  | (name, value) :: as, [] =>
    simp only [renderMembers, List.append_assoc] at h
    exact absurd h.symm (members_end_ne hs)
  | (name, value) :: as, (name', value') :: bs =>
    simp only [renderMembers, List.append_assoc] at h
    obtain ⟨rfl, hvalue⟩ := quote_inj (List.append_cancel_left h)
    obtain ⟨rfl, hmembers⟩ := render_inj hs value value' _ _ ha.1 hb.1 (stops_members hs as x) (stops_members hs bs y)
      (List.append_cancel_left hvalue)
    obtain ⟨rfl, hxy⟩ := renderMembers_inj hs as bs x y ha.2 hb.2 hmembers
    exact ⟨rfl, hxy⟩

end

/-! ## Members in order -/

theorem numbersMembers_iff (members : List (String × Json)) : NumbersMembers members ↔ ∀ m ∈ members, m.2.Numbers := by
  induction members with
  | nil => simp [NumbersMembers]
  | cons m members ih => simp [NumbersMembers, ih]

mutual

/-- Putting members in order keeps the numbers. -/
theorem numbers_sortKeys : ∀ v : Json, v.Numbers → v.sortKeys.Numbers
  | .null, h => h
  | .bool _, h => h
  | .number _, h => h
  | .str _, h => h
  | .arr items, h => numbers_sortItems items h
  | .obj members, h => by
    have hvalues := (numbersMembers_iff _).1 (numbers_sortValues members h)
    refine (numbersMembers_iff _).2 (fun m hm => hvalues m ?_)
    exact (List.perm_insertionSort _ _).mem_iff.1 hm

theorem numbers_sortItems : ∀ items : List Json, NumbersItems items → NumbersItems (sortItems items)
  | [], h => h
  | item :: items, h => ⟨numbers_sortKeys item h.1, numbers_sortItems items h.2⟩

theorem numbers_sortValues : ∀ members : List (String × Json), NumbersMembers members → NumbersMembers (sortValues members)
  | [], h => h
  | (_, value) :: members, h => ⟨numbers_sortKeys value h.1, numbers_sortValues members h.2⟩

end

/-- Two values have one text when they have the same members, and only then. -/
theorem dumps_inj {style : Style} (hs : style.Commas) {a b : Json} (ha : a.Numbers) (hb : b.Numbers) :
    a.dumps style = b.dumps style ↔ a.Same b := by
  constructor
  · intro h
    unfold dumps at h
    have hchars := congrArg String.toList h
    rw [String.toList_ofList, String.toList_ofList] at hchars
    have hnil : Stops [] := fun c rest h => by cases h
    refine (render_inj hs _ _ [] [] (numbers_sortKeys a ha) (numbers_sortKeys b hb) hnil hnil ?_).1
    rw [hchars]
  · intro h
    unfold dumps
    rw [show a.sortKeys = b.sortKeys from h]

theorem commas_compact : Style.compact.Commas := ⟨[], rfl⟩

theorem commas_spaced : Style.spaced.Commas := ⟨[' '], rfl⟩

end Json

end Archisynapse
