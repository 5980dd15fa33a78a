import Archisynapse.Base.JsonLoads
import Archisynapse.Lemmas.JsonText

/-!
# What is written is read back

A value whose numbers are read as themselves (`Readable`) is read back from its text, whatever follows that does not go on with a
number (`readValue_render`), so `json.loads` inverts `json.dumps` up to the order of the members (`loads_dumps`).
-/

namespace Archisynapse

namespace Json

/-! ## Numbers -/

theorem Stops.isDigit {x : List Char} (h : Stops x) {c : Char} {rest : List Char} (hx : x = c :: rest) : c.isDigit = false := by
  have hc := h c rest hx
  unfold numeric at hc
  cases hd : c.isDigit with
  | false => rfl
  | true =>
    rw [hd] at hc
    cases hc

/-- A stop has no digit at its front. -/
theorem Stops.takeWhile {x : List Char} (h : Stops x) : x.takeWhile Char.isDigit = [] ∧ x.dropWhile Char.isDigit = x := by
  cases x with
  | nil => exact ⟨rfl, rfl⟩
  | cons c rest =>
    have hc := h.isDigit rfl
    exact ⟨List.takeWhile_cons_of_neg (by simp [hc]), List.dropWhile_cons_of_neg (by simp [hc])⟩

/-- A reader that does not look beyond a stop. -/
def Local (read : List Char → Option (List Char × List Char)) : Prop :=
  ∀ t x, Stops x → read (t ++ x) = (read t).map (fun r => (r.1, r.2 ++ x))

theorem readDigits_local : Local readDigits := by
  intro t x hx
  obtain ⟨htake, hdrop⟩ := hx.takeWhile
  unfold readDigits
  rw [List.takeWhile_append, List.dropWhile_append, htake, hdrop, List.append_nil]
  by_cases hall : (t.takeWhile Char.isDigit).length = t.length
  · have ht : t.takeWhile Char.isDigit = t := List.IsPrefix.eq_of_length (List.takeWhile_prefix _) hall
    have hnil : t.dropWhile Char.isDigit = [] := by
      have happ := List.takeWhile_append_dropWhile (p := Char.isDigit) (l := t)
      rw [ht] at happ
      exact List.append_cancel_left (happ.trans (List.append_nil t).symm)
    rw [if_pos hall, ht, hnil]
    by_cases hempty : t = []
    · simp [hempty]
    · simp [hempty]
  · have hne : (t.dropWhile Char.isDigit).isEmpty = false := by
      cases hd : t.dropWhile Char.isDigit with
      | nil =>
        have happ := List.takeWhile_append_dropWhile (p := Char.isDigit) (l := t)
        rw [hd, List.append_nil] at happ
        exact absurd (congrArg List.length happ) hall
      | cons c rest => rfl
    rw [if_neg hall]
    by_cases hempty : t.takeWhile Char.isDigit = []
    · rw [if_pos hempty, if_pos hempty]
      rfl
    · rw [if_neg hempty, if_neg hempty, hne]
      rfl

/-- The head of a stop is no character of a number. -/
theorem Stops.ne_of_numeric {c : Char} {x : List Char} (h : Stops (c :: x)) {d : Char} (hd : numeric d = true) : c ≠ d := by
  rintro rfl
  exact absurd ((h c x rfl).symm.trans hd) (by decide)

theorem readPoint_local : Local readPoint := by
  intro t x hx
  cases t with
  | cons c t =>
    by_cases hc : c = '.'
    · subst hc
      rfl
    · simp [readPoint, hc]
  | nil =>
    cases x with
    | nil => rfl
    | cons c x => simp [readPoint, hx.ne_of_numeric (d := '.') rfl]

theorem readSign_local {t x : List Char} (hx : Stops x) : readSign (t ++ x) = ((readSign t).1, (readSign t).2 ++ x) := by
  cases t with
  | cons c t =>
    by_cases hplus : c = '+'
    · subst hplus
      rfl
    · by_cases hminus : c = '-'
      · subst hminus
        rfl
      · simp [readSign, hplus, hminus]
  | nil =>
    cases x with
    | nil => rfl
    | cons c x => simp [readSign, hx.ne_of_numeric (d := '+') rfl, hx.ne_of_numeric (d := '-') rfl]

theorem readMark_local : Local readMark := by
  intro t x hx
  cases t with
  | cons c t =>
    by_cases he : c = 'e'
    · subst he
      simp [readMark, readSign_local hx]
    · by_cases hE : c = 'E'
      · subst hE
        simp [readMark, readSign_local hx]
      · simp [readMark, he, hE]
  | nil =>
    cases x with
    | nil => rfl
    | cons c x => simp [readMark, hx.ne_of_numeric (d := 'e') rfl, hx.ne_of_numeric (d := 'E') rfl]

theorem readNat_local : Local readNat := by
  intro t x hx
  cases t with
  | cons c t =>
    by_cases hc : c = '0'
    · subst hc
      rfl
    · have hzero : ∀ u, readNat (c :: u) = readDigits (c :: u) := fun u => by simp [readNat, hc]
      rw [List.cons_append, hzero, hzero]
      exact readDigits_local (c :: t) x hx
  | nil =>
    cases x with
    | nil => rfl
    | cons c x =>
      have hzero : readNat (c :: x) = readDigits (c :: x) := by simp [readNat, hx.ne_of_numeric (d := '0') rfl]
      rw [List.nil_append, hzero]
      exact readDigits_local [] (c :: x) hx

theorem readPart_local {first : List Char → Option (List Char × List Char)} (hf : Local first) {t x : List Char} (hx : Stops x) :
    readPart first (t ++ x) = ((readPart first t).1, (readPart first t).2 ++ x) := by
  unfold readPart
  rw [hf t x hx]
  cases first t with
  | none => rfl
  | some r =>
    simp only [Option.map_some]
    rw [readDigits_local r.2 x hx]
    cases readDigits r.2 with
    | none => rfl
    | some d => rfl

theorem readUnsigned_local : Local readUnsigned := by
  intro t x hx
  unfold readUnsigned
  rw [readNat_local t x hx]
  cases readNat t with
  | none => rfl
  | some r =>
    simp only [Option.map_some]
    rw [readPart_local readPoint_local hx, readPart_local readMark_local hx]

/-- A number without a sign begins with a digit. -/
theorem readUnsigned_head {t : List Char} {r : List Char × List Char} (h : readUnsigned t = some r) :
    ∃ c u, t = c :: u ∧ c.isDigit = true := by
  cases t with
  | nil => cases h
  | cons c u =>
    refine ⟨c, u, rfl, ?_⟩
    by_contra hc
    have hne : c ≠ '0' := by
      rintro rfl
      exact hc rfl
    have hnone : readNat (c :: u) = none := by
      simp [readNat, hne, readDigits, List.takeWhile_cons_of_neg hc]
    unfold readUnsigned at h
    rw [hnone] at h
    cases h

theorem ne_of_isDigit {c d : Char} (hc : c.isDigit = true) (hd : d.isDigit = false) : c ≠ d := by
  rintro rfl
  exact absurd (hc.symm.trans hd) (by decide)

/-- A number is read whole before a stop, and it begins with a digit, a minus sign or the name of what is no finite number. -/
theorem readNumber_literal {text : String} (h : Literal text) {x : List Char} (hx : Stops x) :
    readNumber (text.toList ++ x) = some (text.toList, x) ∧
    ∃ c t, text.toList = c :: t ∧ (c.isDigit = true ∨ c = '-' ∨ c = 'N' ∨ c = 'I') := by
  unfold Literal at h
  generalize text.toList = t at h
  unfold readNumber at h
  split at h
  · obtain rfl : [] = _ := ((Prod.mk.inj (Option.some.inj h)).2).symm
    exact ⟨rfl, _, _, rfl, by simp⟩
  · obtain rfl : [] = _ := ((Prod.mk.inj (Option.some.inj h)).2).symm
    exact ⟨rfl, _, _, rfl, by simp⟩
  · obtain rfl : [] = _ := ((Prod.mk.inj (Option.some.inj h)).2).symm
    exact ⟨rfl, _, _, rfl, by simp⟩
  · rename_i u hne
    obtain ⟨r, hr, heq⟩ := Option.map_eq_some_iff.1 h
    obtain ⟨htext, hrest⟩ := Prod.mk.inj heq
    obtain ⟨c, w, rfl, hc⟩ := readUnsigned_head hr
    have hI : c ≠ 'I' := ne_of_isDigit hc rfl
    have hread : readUnsigned (c :: w ++ x) = some (c :: w, x) := by
      rw [readUnsigned_local _ x hx, hr, Option.map_some, hrest, List.nil_append, (List.cons.inj htext).2]
    refine ⟨?_, _, _, rfl, Or.inr (Or.inl rfl)⟩
    rw [List.cons_append] at hread
    simp [readNumber, hI, hread]
  · obtain ⟨c, w, rfl, hc⟩ := readUnsigned_head h
    have hN : c ≠ 'N' := ne_of_isDigit hc rfl
    have hI : c ≠ 'I' := ne_of_isDigit hc rfl
    have hminus : c ≠ '-' := ne_of_isDigit hc rfl
    have hread : readUnsigned (c :: w ++ x) = some (c :: w, x) := by
      rw [readUnsigned_local _ x hx, h, Option.map_some, List.nil_append]
    refine ⟨?_, c, w, rfl, Or.inl hc⟩
    rw [List.cons_append] at hread
    simp [readNumber, hN, hI, hminus, hread]

/-! ## Strings -/

theorem hexDigitValue_hexDigit : ∀ n < 16, hexDigitValue (hexDigit n) = some n := by decide

/-- The digits of a unit are read as the unit. -/
theorem readUnit_digits {n : Nat} (hn : n < 65536) (rest : List Char) :
    readUnit (hexDigit (n / 4096 % 16) :: hexDigit (n / 256 % 16) :: hexDigit (n / 16 % 16) :: hexDigit (n % 16) :: rest) =
      some (n, rest) := by
  have h₁ := hexDigitValue_hexDigit (n / 4096 % 16) (by omega)
  have h₂ := hexDigitValue_hexDigit (n / 256 % 16) (by omega)
  have h₃ := hexDigitValue_hexDigit (n / 16 % 16) (by omega)
  have h₄ := hexDigitValue_hexDigit (n % 16) (by omega)
  have hn : 4096 * (n / 4096 % 16) + 256 * (n / 256 % 16) + 16 * (n / 16 % 16) + n % 16 = n := by omega
  simp only [readUnit, h₁, h₂, h₃, h₄, hn]

/-- A unit that is no surrogate is read as its character. -/
theorem readChar_unit {n : Nat} (hn : n < 65536) (hsurrogate : ¬ (0xd800 ≤ n ∧ n < 0xe000)) (rest : List Char) :
    readChar (escapeUnit n ++ rest) = some (Char.ofNat n, rest) := by
  have hread := readUnit_digits hn rest
  have hhigh : ¬ (0xd800 ≤ n ∧ n < 0xdc00) := by omega
  simp only [escapeUnit, List.cons_append, List.nil_append, readChar, readEscapedUnit, hread, if_neg hhigh, charOfUnit,
    if_neg hsurrogate]

/-- A pair of units is read as its character. -/
theorem readChar_pair {high low : Nat} (hhigh : 0xd800 ≤ high ∧ high < 0xdc00) (hlow : 0xdc00 ≤ low ∧ low < 0xe000) (rest : List Char) :
    readChar (escapeUnit high ++ escapeUnit low ++ rest) =
      some (Char.ofNat (0x10000 + (high - 0xd800) * 0x400 + (low - 0xdc00)), rest) := by
  have h₁ := readUnit_digits (n := high) (by omega) ('\\' :: 'u' :: hexDigit (low / 4096 % 16) :: hexDigit (low / 256 % 16) ::
    hexDigit (low / 16 % 16) :: hexDigit (low % 16) :: rest)
  have h₂ := readUnit_digits (n := low) (by omega) rest
  simp only [escapeUnit, List.cons_append, List.nil_append, readChar, readEscapedUnit, h₁, h₂, if_pos hhigh, if_pos hlow]

/-- What is written for a character is read back as it. -/
theorem readChar_escapeChar (ascii : Bool) (c : Char) (rest : List Char) :
    readChar (escapeChar ascii c ++ rest) = some (c, rest) := by
  have hc : Char.ofNat c.toNat = c := Char.ofNat_toNat c
  have hsurrogate : ¬ (0xd800 ≤ c.toNat ∧ c.toNat < 0xe000) := by
    have hvalid := c.valid
    unfold UInt32.isValidChar Nat.isValidChar at hvalid
    have hnat : c.val.toNat = c.toNat := rfl
    omega
  unfold escapeChar
  by_cases h₁ : c = '"'
  · subst h₁
    rfl
  by_cases h₂ : c = '\\'
  · subst h₂
    rfl
  by_cases h₃ : c = '\n'
  · subst h₃
    rfl
  by_cases h₄ : c = '\r'
  · subst h₄
    rfl
  by_cases h₅ : c = '\t'
  · subst h₅
    rfl
  rw [if_neg h₁, if_neg h₂, if_neg h₃, if_neg h₄, if_neg h₅]
  by_cases h₆ : c.toNat = 12
  · rw [if_pos h₆, ← hc, h₆]
    rfl
  by_cases h₇ : c.toNat = 8
  · rw [if_neg h₆, if_pos h₇, ← hc, h₇]
    rfl
  rw [if_neg h₆, if_neg h₇]
  split
  · rename_i hlow
    rw [readChar_unit (by omega) hsurrogate, hc]
  · rename_i hlow
    split
    · have hplain : readChar (c :: rest) = if c.toNat < 32 then none else some (c, rest) := by simp [readChar, h₂]
      rw [List.cons_append, List.nil_append, hplain, if_neg hlow]
    · split
      · rename_i hbmp
        rw [readChar_unit hbmp hsurrogate, hc]
      · rename_i hbmp
        have hlt := toNat_lt c
        have hpair : 0x10000 + (0xd800 + (c.toNat - 0x10000) / 0x400 - 0xd800) * 0x400 +
            (0xdc00 + (c.toNat - 0x10000) % 0x400 - 0xdc00) = c.toNat := by
          omega
        rw [readChar_pair (by omega) (by omega), hpair, hc]

/-- Escaped characters are read back up to their quote. -/
theorem readString_escaped (ascii : Bool) (rest : List Char) : ∀ (cs : List Char) (n : Nat), cs.length ≤ n →
    readString n (cs.flatMap (escapeChar ascii) ++ '"' :: rest) = some (cs, rest)
  | [], n, _ => by
    cases n <;> rfl
  | c :: cs, n + 1, hn => by
    obtain ⟨head, tail, hhead, hne⟩ := escapeChar_head ascii c
    have hread := readChar_escapeChar ascii c (cs.flatMap (escapeChar ascii) ++ '"' :: rest)
    rw [hhead] at hread
    rw [List.flatMap_cons, List.append_assoc, hhead]
    rw [List.cons_append] at hread ⊢
    have hstep : readString (n + 1) (head :: (tail ++ (cs.flatMap (escapeChar ascii) ++ '"' :: rest))) =
        (readString n (cs.flatMap (escapeChar ascii) ++ '"' :: rest)).map (fun r => (c :: r.1, r.2)) := by
      simp [readString, hne, hread]
    rw [hstep, readString_escaped ascii rest cs n (Nat.le_of_succ_le_succ hn)]
    rfl

/-! ## Values -/

section

variable {printed : String → String} {style : Style}

/-- A separator is its character and blanks. -/
def Separates (c : Char) (separator : List Char) : Prop :=
  ∃ blanks, separator = c :: blanks ∧ ∀ b ∈ blanks, isBlank b = true

/-- Only blanks are added to a comma and a colon. -/
structure Style.Plain (style : Style) : Prop where
  item : Separates ',' style.itemSeparator
  key : Separates ':' style.keySeparator

theorem skipBlanks_cons {c : Char} (h : isBlank c = false) (t : List Char) : skipBlanks (c :: t) = c :: t :=
  List.dropWhile_cons_of_neg (by simp [h])

theorem skipBlanks_append {blanks : List Char} (h : ∀ b ∈ blanks, isBlank b = true) (t : List Char) :
    skipBlanks (blanks ++ t) = skipBlanks t := by
  induction blanks with
  | nil => rfl
  | cons b blanks ih =>
    have hb := h b List.mem_cons_self
    rw [List.cons_append]
    unfold skipBlanks
    rw [List.dropWhile_cons_of_pos hb]
    exact ih (fun x hx => h x (List.mem_cons_of_mem _ hx))

/-- Members of distinct names are a dictionary as they come. -/
theorem dictOf_nodup {members : List (String × Json)} (h : (members.map (·.1)).Nodup) : dictOf members = members := by
  have hgeneral : ∀ (ms d : List (String × Json)), ((d ++ ms).map (·.1)).Nodup →
      ms.foldl (fun d m => setMember d m.1 m.2) d = d ++ ms := by
    intro ms
    induction ms with
    | nil => simp
    | cons m ms ih =>
      intro d hd
      have hfresh : d.any (fun x => decide (x.1 = m.1)) = false := by
        rw [List.any_eq_false]
        intro x hx heq
        rw [List.map_append, List.map_cons] at hd
        exact (List.nodup_append.1 hd).2.2 x.1 (List.mem_map_of_mem hx) m.1 List.mem_cons_self (of_decide_eq_true heq)
      have hset : setMember d m.1 m.2 = d ++ [m] := by
        unfold setMember
        rw [if_neg (by simp [hfresh])]
      rw [List.foldl_cons, hset, ih (d ++ [m]) (by simpa using hd), List.append_assoc, List.singleton_append]
  exact (hgeneral members [] h).trans (List.nil_append members)

/-- A value begins with no blank, no closing bracket and no byte order mark. -/
theorem render_first (style : Style) {v : Json} (h : v.Readable printed) :
    ∃ c t, v.render style = c :: t ∧ isBlank c = false ∧ c ≠ ']' ∧ c ≠ '\ufeff' := by
  cases v with
  | null => exact ⟨_, _, rfl, by decide, by decide, by decide⟩
  | bool b => cases b <;> exact ⟨_, _, rfl, by decide, by decide, by decide⟩
  | number text =>
    obtain ⟨-, c, t, htext, hc⟩ := readNumber_literal h.1 (x := []) (fun _ _ h => by cases h)
    refine ⟨c, t, htext, ?_⟩
    rcases hc with hc | rfl | rfl | rfl
    · refine ⟨?_, ne_of_isDigit hc (by decide), ne_of_isDigit hc (by decide)⟩
      simp [isBlank, ne_of_isDigit (d := ' ') hc rfl, ne_of_isDigit (d := '\n') hc rfl, ne_of_isDigit (d := '\r') hc rfl,
        ne_of_isDigit (d := '\t') hc rfl]
    · exact ⟨by decide, by decide, by decide⟩
    · exact ⟨by decide, by decide, by decide⟩
    · exact ⟨by decide, by decide, by decide⟩
  | str text => exact ⟨_, _, rfl, by decide, by decide, by decide⟩
  | arr items => cases items <;> exact ⟨_, _, rfl, by decide, by decide, by decide⟩
  | obj members => cases members <;> exact ⟨_, _, rfl, by decide, by decide, by decide⟩

/-- A value that begins as a number is read as one. -/
theorem readValue_number {text : String} (h : Literal text) {x : List Char} (hx : Stops x) (n : Nat) :
    readValue printed (n + 1) (text.toList ++ x) = some (.number (printed text), x) := by
  obtain ⟨hread, c, t, htext, hc⟩ := readNumber_literal h hx
  have hne : c ≠ '"' ∧ c ≠ '\x7b' ∧ c ≠ '[' ∧ c ≠ 'n' ∧ c ≠ 't' ∧ c ≠ 'f' := by
    rcases hc with hc | rfl | rfl | rfl
    · exact ⟨ne_of_isDigit hc (by decide), ne_of_isDigit hc (by decide), ne_of_isDigit hc (by decide), ne_of_isDigit hc (by decide),
        ne_of_isDigit hc (by decide), ne_of_isDigit hc (by decide)⟩
    · decide
    · decide
    · decide
  have hstep : readValue printed (n + 1) (c :: (t ++ x)) =
      (readNumber (c :: (t ++ x))).map (fun r => (.number (printed (String.ofList r.1)), r.2)) := by
    simp [readValue, readToken, hne]
  have hlist : text.toList ++ x = c :: (t ++ x) := by rw [htext, List.cons_append]
  rw [hlist, hstep, ← hlist, hread]
  simp

theorem Style.Plain.commas (hs : style.Plain) : style.Commas := by
  obtain ⟨blanks, hsep, -⟩ := hs.item
  exact ⟨blanks, hsep⟩

/-- A quoted text is longer than the text. -/
theorem length_lt_quote (ascii : Bool) (text : String) : text.toList.length < (quote ascii text).length := by
  have hescaped : ∀ cs : List Char, cs.length ≤ (cs.flatMap (escapeChar ascii)).length := by
    intro cs
    induction cs with
    | nil => exact Nat.le_refl _
    | cons d cs ih =>
      obtain ⟨head, rest, hhead, -⟩ := escapeChar_head ascii d
      rw [List.flatMap_cons, List.length_append, List.length_cons, hhead, List.length_cons]
      omega
  have h := hescaped text.toList
  rw [quote, List.length_cons, List.length_append]
  omega

/-- A name is read with the colon and the blanks after it. -/
theorem readName_quote (hs : style.Plain) (name : String) {n : Nat} (hn : name.toList.length ≤ n) {value : Json}
    (hv : value.Readable printed) (x : List Char) :
    readName n (quote style.ascii name ++ style.keySeparator ++ value.render style ++ x) = some (name, value.render style ++ x) := by
  obtain ⟨blanks, hsep, hblanks⟩ := hs.key
  obtain ⟨c, t, hrender, hc, -⟩ := render_first style hv
  have htext : quote style.ascii name ++ style.keySeparator ++ value.render style ++ x =
      '"' :: (name.toList.flatMap (escapeChar style.ascii) ++ '"' :: (':' :: (blanks ++ (c :: (t ++ x))))) := by
    simp [quote, hsep, hrender]
  have hread := readString_escaped style.ascii (':' :: (blanks ++ (c :: (t ++ x)))) name.toList n hn
  rw [htext]
  simp only [readName, hread, skipBlanks_cons (c := ':') rfl, skipBlanks_append hblanks, skipBlanks_cons hc, hrender,
    String.ofList_toList, List.cons_append]

/-- How an array that is not empty is read. -/
theorem readToken_arr {n : Nat} {items : List Char → Option (List Json × List Char)}
    {members : List Char → Option (List (String × Json) × List Char)} {c : Char} {t : List Char} (hc : isBlank c = false)
    (hne : c ≠ ']') : readToken printed n items members ('[' :: c :: t) = (items (c :: t)).map (fun r => (.arr r.1, r.2)) := by
  simp [readToken, skipBlanks_cons hc, hne]

/-- How an object that is not empty is read. -/
theorem readToken_obj {n : Nat} {items : List Char → Option (List Json × List Char)}
    {members : List Char → Option (List (String × Json) × List Char)} {t : List Char} :
    readToken printed n items members ('\x7b' :: '"' :: t) = (members ('"' :: t)).map (fun r => (.obj (dictOf r.1), r.2)) := by
  simp [readToken, skipBlanks_cons (c := '"') rfl]

mutual

/-- A value is read back from its text and what follows it. -/
theorem readValue_render (hs : style.Plain) : ∀ (v : Json) (n : Nat) (x : List Char), v.Readable printed → Stops x →
    (v.render style).length < n → readValue printed n (v.render style ++ x) = some (v, x)
  | v, 0, _, _, _, hn => absurd hn (Nat.not_lt_zero _)
  | .null, _ + 1, _, _, _, _ => rfl
  | .bool true, _ + 1, _, _, _, _ => rfl
  | .bool false, _ + 1, _, _, _, _ => rfl
  | .number text, n + 1, x, hv, hx, _ => by
    rw [render, readValue_number hv.1 hx, hv.2]
  | .str text, n + 1, x, _, _, hn => by
    have hlength := length_lt_quote style.ascii text
    rw [render] at hn
    have hread := readString_escaped style.ascii x text.toList n (by omega)
    simp [render, quote, readValue, readToken, hread]
  | .arr [], _ + 1, _, _, _, _ => rfl
  | .arr (item :: items), n + 1, x, hv, _, hn => by
    rw [render, List.length_cons] at hn
    have hread := readItems_render hs (item :: items) item items n x rfl hv.1 hv.2 (by omega)
    obtain ⟨c, t, hrender, hc, hne, -⟩ := render_first style hv.1
    rw [hrender] at hread
    rw [render, readValue, hrender]
    simp only [List.cons_append] at hread ⊢
    rw [readToken_arr hc hne, hread]
    rfl
  | .obj [], _ + 1, _, _, _, _ => rfl
  | .obj ((name, value) :: members), n + 1, x, hv, _, hn => by
    rw [render, List.length_cons] at hn
    have hread := readMembers_render hs ((name, value) :: members) name value members n x rfl hv.2.1 hv.2.2 (by omega)
    rw [render, readValue]
    simp only [quote, List.cons_append] at hread ⊢
    rw [readToken_obj, hread]
    simp only [Option.map_some, dictOf_nodup hv.1]

/-- Items are read back up to the end of their array. -/
theorem readItems_render (hs : style.Plain) : ∀ (l : List Json) (item : Json) (items : List Json) (n : Nat) (x : List Char),
    l = item :: items → item.Readable printed → ReadableItems printed items →
    (item.render style ++ renderItems style items).length < n →
    readItems printed n (item.render style ++ renderItems style items ++ x) = some (item :: items, x)
  | [], _, _, _, _, h, _, _, _ => by cases h
  | _ :: _, _, _, 0, _, _, _, _, hn => absurd hn (Nat.not_lt_zero _)
  | i :: is, item, items, n + 1, x, h, hi, his, hn => by
    obtain ⟨rfl, rfl⟩ := List.cons.inj h
    have hstops := stops_items hs.commas is x
    rw [List.length_append] at hn
    cases his' : is with
    | nil =>
      subst his'
      have hread := readValue_render hs i n (renderItems style [] ++ x) hi hstops (by simp [renderItems] at hn; omega)
      rw [readItems, List.append_assoc, hread]
      rfl
    | cons i' is' =>
      obtain ⟨blanks, hsep, hblanks⟩ := hs.item
      rw [his'] at hstops hn his
      obtain ⟨c, t, hrender, hc, -⟩ := render_first style his.1
      have hlength : (renderItems style (i' :: is')).length = 1 + blanks.length + (i'.render style ++ renderItems style is').length := by
        simp only [renderItems, hsep, List.length_append, List.length_cons]
        omega
      have hread := readValue_render hs i n (renderItems style (i' :: is') ++ x) hi hstops (by omega)
      have hrest := readItems_render hs is i' is' n x his' his.1 his.2 (by omega)
      rw [readItems, List.append_assoc, hread]
      simp only [renderItems, hsep, List.cons_append, List.append_assoc, skipBlanks_cons (c := ',') rfl, skipBlanks_append hblanks]
      rw [List.append_assoc] at hrest
      rw [hrender] at hrest ⊢
      simp only [List.cons_append] at hrest ⊢
      rw [skipBlanks_cons hc, hrest]
      rfl

/-- Members are read back up to the end of their object. -/
theorem readMembers_render (hs : style.Plain) : ∀ (l : List (String × Json)) (name : String) (value : Json)
    (members : List (String × Json)) (n : Nat) (x : List Char), l = (name, value) :: members → value.Readable printed →
    ReadableMembers printed members →
    (quote style.ascii name ++ style.keySeparator ++ value.render style ++ renderMembers style members).length < n →
    readMembers printed n (quote style.ascii name ++ style.keySeparator ++ value.render style ++ renderMembers style members ++ x) =
      some ((name, value) :: members, x)
  | [], _, _, _, _, _, h, _, _, _ => by cases h
  | _ :: _, _, _, _, 0, _, _, _, _, hn => absurd hn (Nat.not_lt_zero _)
  | (k, v) :: ms, name, value, members, n + 1, x, h, hv, hms, hn => by
    obtain ⟨hm, rfl⟩ := List.cons.inj h
    obtain ⟨rfl, rfl⟩ := Prod.mk.inj hm
    have hstops := stops_members hs.commas ms x
    have hquote := length_lt_quote style.ascii k
    simp only [List.length_append] at hn
    have hname := readName_quote hs k (n := n) (by omega) hv (renderMembers style ms ++ x)
    cases hms' : ms with
    | nil =>
      subst hms'
      have hread := readValue_render hs v n (renderMembers style [] ++ x) hv hstops (by omega)
      rw [readMembers, List.append_assoc, hname]
      simp only [hread]
      rfl
    | cons m' ms' =>
      obtain ⟨name', value'⟩ := m'
      obtain ⟨blanks, hsep, hblanks⟩ := hs.item
      rw [hms'] at hstops hn hms hname
      have hlength : (renderMembers style ((name', value') :: ms')).length =
          1 + blanks.length + (quote style.ascii name' ++ style.keySeparator ++ value'.render style ++ renderMembers style ms').length := by
        simp only [renderMembers, hsep, List.length_append, List.length_cons]
        omega
      have hread := readValue_render hs v n (renderMembers style ((name', value') :: ms') ++ x) hv hstops (by omega)
      have hrest := readMembers_render hs ms name' value' ms' n x hms' hms.1 hms.2 (by omega)
      rw [readMembers, List.append_assoc, hname]
      simp only [hread]
      simp only [renderMembers, hsep, List.cons_append, List.append_assoc, skipBlanks_cons (c := ',') rfl, skipBlanks_append hblanks]
      simp only [quote, List.cons_append, List.append_assoc] at hrest ⊢
      rw [skipBlanks_cons (c := '"') rfl, hrest]
      rfl

end

end

/-! ## Members in order -/

instance : Std.Total (fun a b : String × Json => a.1 ≤ b.1) := ⟨fun a b => String.le_total a.1 b.1⟩

instance : IsTrans (String × Json) (fun a b => a.1 ≤ b.1) := ⟨fun _ _ _ h h' => String.le_trans h h'⟩

/-- Members in order are in order. -/
theorem sortMembers_pairwise (members : List (String × Json)) : (sortMembers members).Pairwise (fun a b => a.1 ≤ b.1) :=
  List.pairwise_insertionSort _ _

theorem sortMembers_perm (members : List (String × Json)) : (sortMembers members).Perm members := List.perm_insertionSort _ _

/-- Members of distinct names have one order. -/
theorem sortMembers_eq_of_perm {a b : List (String × Json)} (h : a.Perm b) (hnd : (a.map (·.1)).Nodup) :
    sortMembers a = sortMembers b := by
  have hperm : (sortMembers a).Perm (sortMembers b) := (sortMembers_perm a).trans (h.trans (sortMembers_perm b).symm)
  refine hperm.eq_of_pairwise (fun x y hx hy hxy hyx => ?_) (sortMembers_pairwise a) (sortMembers_pairwise b)
  have hx' := (sortMembers_perm a).mem_iff.1 hx
  have hy' := h.mem_iff.2 ((sortMembers_perm b).mem_iff.1 hy)
  exact List.inj_on_of_nodup_map hnd hx' hy' (String.le_antisymm hxy hyx)

theorem sortValues_eq_map (members : List (String × Json)) : sortValues members = members.map (fun m => (m.1, m.2.sortKeys)) := by
  induction members with
  | nil => rfl
  | cons m members ih => rw [sortValues, ih, List.map_cons]

mutual

/-- A value in order is in order. -/
theorem sortKeys_sortKeys : ∀ v : Json, v.sortKeys.sortKeys = v.sortKeys
  | .null => rfl
  | .bool _ => rfl
  | .number _ => rfl
  | .str _ => rfl
  | .arr items => by
    rw [sortKeys, sortKeys, sortItems_sortItems items]
  | .obj members => by
    have hvalues := sortValues_sortValues members
    have hfixed : sortValues (sortMembers (sortValues members)) = sortMembers (sortValues members) := by
      rw [sortValues_eq_map] at hvalues ⊢
      have hself := List.map_inj_left.1 (hvalues.trans (List.map_id _).symm)
      exact (List.map_congr_left (fun m hm => hself m ((sortMembers_perm _).mem_iff.1 hm))).trans (List.map_id _)
    rw [sortKeys, sortKeys, hfixed, sortMembers, (sortMembers_pairwise _).insertionSort_eq]

theorem sortItems_sortItems : ∀ items : List Json, sortItems (sortItems items) = sortItems items
  | [] => rfl
  | item :: items => by
    rw [sortItems, sortItems, sortKeys_sortKeys item, sortItems_sortItems items]

theorem sortValues_sortValues : ∀ members : List (String × Json), sortValues (sortValues members) = sortValues members
  | [] => rfl
  | (name, value) :: members => by
    rw [sortValues, sortValues, sortKeys_sortKeys value, sortValues_sortValues members]

end

/-- The text of a value in order is the text of the value. -/
theorem dumps_sortKeys (style : Style) (v : Json) : v.sortKeys.dumps style = v.dumps style := by
  unfold dumps
  rw [sortKeys_sortKeys]

/-- The text of an object does not depend on the order of its members. -/
theorem dumps_perm (style : Style) {a b : List (String × Json)} (h : a.Perm b) (hnd : (a.map (·.1)).Nodup) :
    (Json.obj a).dumps style = (Json.obj b).dumps style := by
  have hnames : ((sortValues a).map (·.1)).Nodup := by
    rw [sortValues_eq_map, List.map_map]
    exact hnd
  have hvalues : (sortValues a).Perm (sortValues b) := by
    rw [sortValues_eq_map, sortValues_eq_map]
    exact h.map _
  unfold dumps
  rw [sortKeys, sortKeys, sortMembers_eq_of_perm hvalues hnames]

/-! ## Round trip -/

section

variable {printed : String → String} {style : Style}

theorem readableMembers_iff (members : List (String × Json)) :
    ReadableMembers printed members ↔ ∀ m ∈ members, m.2.Readable printed := by
  induction members with
  | nil => simp [ReadableMembers]
  | cons m members ih => simp [ReadableMembers, ih]

mutual

/-- A value in order is readable as it was. -/
theorem readable_sortKeys : ∀ v : Json, v.Readable printed → v.sortKeys.Readable printed
  | .null, h => h
  | .bool _, h => h
  | .number _, h => h
  | .str _, h => h
  | .arr items, h => readable_sortItems items h
  | .obj members, h => by
    have hvalues := (readableMembers_iff _).1 (readable_sortValues members h.2)
    refine ⟨?_, (readableMembers_iff _).2 (fun m hm => hvalues m ((sortMembers_perm _).mem_iff.1 hm))⟩
    refine ((sortMembers_perm _).map _).nodup_iff.2 ?_
    rw [sortValues_eq_map, List.map_map]
    exact h.1

theorem readable_sortItems : ∀ items : List Json, ReadableItems printed items → ReadableItems printed (sortItems items)
  | [], h => h
  | item :: items, h => ⟨readable_sortKeys item h.1, readable_sortItems items h.2⟩

theorem readable_sortValues : ∀ members : List (String × Json), ReadableMembers printed members →
    ReadableMembers printed (sortValues members)
  | [], h => h
  | (_, value) :: members, h => ⟨readable_sortKeys value h.1, readable_sortValues members h.2⟩

end

/-- `json.loads` of `json.dumps`: the value, its members in order. -/
theorem loads_dumps (hs : style.Plain) {v : Json} (hv : v.Readable printed) :
    loads printed (v.dumps style) = some v.sortKeys := by
  have hsorted := readable_sortKeys v hv
  obtain ⟨c, t, hrender, hc, -, hmark⟩ := render_first style hsorted
  have hread := readValue_render hs v.sortKeys ((v.sortKeys.render style).length + 1) [] hsorted (fun _ _ h => by cases h)
    (Nat.lt_succ_self _)
  rw [List.append_nil] at hread
  unfold loads dumps
  rw [String.toList_ofList]
  rw [hrender] at hread ⊢
  split
  · rename_i heq
    exact absurd (List.cons.inj heq).1 hmark
  · rw [skipBlanks_cons hc, hread]
    rfl

theorem plain_compact : Style.compact.Plain := ⟨⟨[], rfl, by simp⟩, ⟨[], rfl, by simp⟩⟩

end

end Json

end Archisynapse
