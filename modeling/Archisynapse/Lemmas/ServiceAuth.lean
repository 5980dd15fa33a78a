import Archisynapse.ServiceAuth.Tokens
import Mathlib.Data.List.ReduceOption

/-!
# Service authentication

What a token specification says, apart from how it is read: its entries, each a caller, a scope and a secret that is a token or
the digest of one. A specification that is accepted lists exactly its entries (`parseServiceTokens_iff`), a request carries at
most one token (`bearer_iff`), and the credential that is found is the first entry's that the token opens.
-/

namespace Archisynapse

namespace ServiceAuth

/-! ## Entries -/

/-- The secret of an entry: a token that is long enough and is not marked as a digest, or the digest of a token. -/
inductive Secret where
  | plain (token : List Char) (long : minServiceTokenLength ≤ utf16Length (String.ofList token))
      (unmarked : mark.isPrefixOf token = false)
  | hashed (hex : List Char) (digest : Digest) (reads : Digest.ofHex hex = some digest)

namespace Secret

/-- A secret as it is written. -/
def text : Secret → List Char
  | .plain token _ _ => token
  | .hashed hex _ _ => mark ++ hex

/-- The digest a secret stands for. -/
def digest (sha256 : String → Digest) : Secret → Digest
  | .plain token _ _ => sha256 (String.ofList token)
  | .hashed _ digest _ => digest

/-- A token opens a secret: it is the plaintext, or it has the digest. -/
def Opens (sha256 : String → Digest) (token : List Char) : Secret → Prop
  | .plain plaintext _ _ => token = plaintext
  | .hashed _ digest _ => sha256 (String.ofList token) = digest

end Secret

/-- An entry of a specification. -/
structure Entry where
  caller : List Char
  scope : Scope
  secret : Secret
  named : isCaller caller = true

namespace Entry

/-- An entry as it is written: `caller:scope:token`. -/
def text (e : Entry) : List Char := e.caller ++ ':' :: (e.scope.text ++ ':' :: e.secret.text)

/-- The credential that is kept for an entry. -/
def credential (sha256 : String → Digest) (e : Entry) : ServiceCredential := ⟨e.caller, e.scope, e.secret.digest sha256⟩

end Entry

/-- A raw entry without the blanks around it. -/
def trimmed (raw : List Char) : List Char := (trim (String.ofList raw)).toList

theorem trimmed_eq : trimmed = fun raw => ((raw.dropWhile isBlank).reverse.dropWhile isBlank).reverse := by
  funext raw
  unfold trimmed trim
  rw [String.toList_ofList, String.toList_ofList]

/-- The texts between the separators of a specification that are neither empty nor comments. -/
def entryTexts (raws : List (List Char)) : List (List Char) := (raws.map trimmed).filter (fun entry => !isSkipped entry)

/-- A specification lists entries. -/
def Lists (spec : List Char) (entries : List Entry) : Prop := entryTexts (spec.splitOnP isSeparator) = entries.map Entry.text

/-! ## The texts of entries -/

theorem cut_append {a b : List Char} (ha : ':' ∉ a) : cut (a ++ ':' :: b) = some (a, b) := by
  have hall : ∀ c ∈ a, (c != ':') = true := by
    intro c hc
    rw [bne_iff_ne]
    rintro rfl
    exact ha hc
  unfold cut
  rw [List.dropWhile_append_of_pos hall, List.takeWhile_append_of_pos hall]
  simp

theorem cut_some {text a b : List Char} (h : cut text = some (a, b)) : text = a ++ ':' :: b ∧ ':' ∉ a := by
  unfold cut at h
  split at h
  · cases h
  · rename_i c rest hdrop
    obtain ⟨rfl, rfl⟩ := Prod.mk.inj (Option.some.inj h)
    have hc : (c != ':') = false := by
      have hhead := List.head?_dropWhile_not (fun x => x != ':') text
      rw [hdrop] at hhead
      simpa using hhead
    obtain rfl : c = ':' := by simpa using hc
    refine ⟨?_, fun hmem => ?_⟩
    · rw [← hdrop, List.takeWhile_append_dropWhile]
    · have := List.mem_takeWhile_imp hmem
      simp at this

theorem cut_iff {text a b : List Char} : cut text = some (a, b) ↔ text = a ++ ':' :: b ∧ ':' ∉ a :=
  ⟨cut_some, fun h => h.1 ▸ cut_append h.2⟩

theorem Scope.ofText_iff {text : List Char} {scope : Scope} : Scope.ofText text = some scope ↔ text = scope.text := by
  unfold Scope.ofText
  split
  · rename_i h
    subst h
    cases scope <;> simp [Scope.text]
  · rename_i hread
    split
    · rename_i h
      subst h
      cases scope <;> simp [Scope.text]
    · rename_i hwrite
      cases scope with
      | read => exact ⟨fun h => (nomatch h), fun h => absurd h hread⟩
      | write => exact ⟨fun h => (nomatch h), fun h => absurd h hwrite⟩

theorem Scope.colon_not_mem (scope : Scope) : ':' ∉ scope.text := by cases scope <;> decide

/-- A caller's name has no colon, and begins with a letter. -/
theorem colon_not_mem_caller {caller : List Char} (h : isCaller caller = true) : ':' ∉ caller := by
  cases caller with
  | nil => cases h
  | cons c rest =>
    simp only [isCaller, Bool.and_eq_true, List.all_eq_true] at h
    intro hmem
    rcases List.mem_cons.1 hmem with rfl | hmem
    · exact absurd h.1.1 (by decide)
    · exact absurd (h.2 _ hmem) (by decide)

theorem not_isSkipped_of_caller {caller rest : List Char} (h : isCaller caller = true) : isSkipped (caller ++ rest) = false := by
  cases caller with
  | nil => cases h
  | cons c caller =>
    simp only [isCaller, Bool.and_eq_true] at h
    have hc : c ≠ '#' := by
      rintro rfl
      exact absurd h.1.1 (by decide)
    simp [isSkipped, hc]

namespace Secret

theorem text_iff {s : Secret} {token : List Char} : s.text = token ↔
    (∃ long unmarked, s = .plain token long unmarked) ∨ ∃ hex digest reads, s = .hashed hex digest reads ∧ token = mark ++ hex := by
  cases s with
  | plain plaintext long unmarked =>
    constructor
    · rintro rfl
      exact Or.inl ⟨long, unmarked, rfl⟩
    · rintro (⟨_, _, h⟩ | ⟨_, _, _, h, -⟩)
      · exact (Secret.plain.inj h)
      · cases h
  | hashed hex digest reads =>
    constructor
    · rintro rfl
      exact Or.inr ⟨hex, digest, reads, rfl, rfl⟩
    · rintro (⟨_, _, h⟩ | ⟨hex', _, _, h, rfl⟩)
      · cases h
      · obtain ⟨rfl, -⟩ := Secret.hashed.inj h
        rfl

/-- A secret is read back from its text: the mark tells a digest from a token. -/
theorem text_injective : Function.Injective text := by
  intro s t h
  cases s with
  | plain a _ ha =>
    cases t with
    | plain b _ _ =>
      obtain rfl : a = b := h
      rfl
    | hashed hex _ _ =>
      obtain rfl : a = mark ++ hex := h
      rw [List.isPrefixOf_iff_prefix.2 (List.prefix_append _ _)] at ha
      cases ha
  | hashed hex d hd =>
    cases t with
    | plain b _ hb =>
      obtain rfl : mark ++ hex = b := h
      rw [List.isPrefixOf_iff_prefix.2 (List.prefix_append _ _)] at hb
      cases hb
    | hashed hex' d' hd' =>
      obtain rfl : hex = hex' := List.append_cancel_left h
      obtain rfl : d = d' := Option.some.inj (hd.symm.trans hd')
      rfl

end Secret

namespace Entry

theorem cut_text (e : Entry) : cut e.text = some (e.caller, e.scope.text ++ ':' :: e.secret.text) :=
  cut_append (colon_not_mem_caller e.named)

theorem cut_rest (e : Entry) : cut (e.scope.text ++ ':' :: e.secret.text) = some (e.scope.text, e.secret.text) :=
  cut_append e.scope.colon_not_mem

theorem text_injective : Function.Injective text := by
  rintro ⟨c, s, k, hc⟩ ⟨c', s', k', hc'⟩ h
  have hcut := (cut_text ⟨c, s, k, hc⟩).symm.trans ((congrArg cut h).trans (cut_text ⟨c', s', k', hc'⟩))
  obtain ⟨rfl, hrest⟩ := Prod.mk.inj (Option.some.inj hcut)
  have hcut' := (cut_rest ⟨c, s, k, hc⟩).symm.trans ((congrArg cut hrest).trans (cut_rest ⟨c, s', k', hc'⟩))
  obtain ⟨hscope, hsecret⟩ := Prod.mk.inj (Option.some.inj hcut')
  obtain rfl : s = s' := Option.some.inj ((Scope.ofText_iff.2 rfl).symm.trans (Scope.ofText_iff.2 hscope))
  obtain rfl := Secret.text_injective hsecret
  rfl

theorem not_isSkipped (e : Entry) : isSkipped e.text = false := not_isSkipped_of_caller e.named

end Entry

/-- A specification lists one list of entries. -/
theorem Lists.unique {spec : List Char} {entries entries' : List Entry} (h : Lists spec entries) (h' : Lists spec entries') :
    entries = entries' := (List.map_injective_iff.2 Entry.text_injective) (h.symm.trans h')

/-! ## Digests in digits -/

/-- Bytes in hexadecimal digits. -/
def hexText (bytes : List UInt8) : List Char :=
  bytes.flatMap (fun b => [Json.hexDigit (b.toNat / 16), Json.hexDigit (b.toNat % 16)])

theorem hexValue_hexDigit : ∀ n < 16, hexValue (Json.hexDigit n) = some n := by decide

theorem hexBytes_hexText (bytes : List UInt8) : hexBytes (hexText bytes) = some bytes := by
  induction bytes with
  | nil => rfl
  | cons b bytes ih =>
    have hlt : b.toNat < 256 := b.toNat_lt
    have hbyte : UInt8.ofNat (16 * (b.toNat / 16) + b.toNat % 16) = b := by
      rw [Nat.div_add_mod, UInt8.ofNat_toNat]
    change hexBytes (Json.hexDigit (b.toNat / 16) :: Json.hexDigit (b.toNat % 16) :: hexText bytes) = _
    rw [hexBytes, hexValue_hexDigit _ (by omega), hexValue_hexDigit _ (by omega), ih]
    dsimp only
    rw [hbyte]

/-- A digest is read back from its digits. -/
theorem Digest.ofHex_hexText (digest : Digest) : Digest.ofHex (hexText digest.bytes) = some digest := by
  unfold Digest.ofHex
  rw [hexBytes_hexText]
  exact dif_pos digest.size

/-! ## Reading a specification -/

variable {sha256 : String → Digest}

/-- A raw entry is skipped when it is empty or a comment. -/
theorem parseEntry_none {raw : List Char} : parseEntry sha256 raw = .ok none ↔ isSkipped (trimmed raw) = true := by
  have htrimmed : (trim (String.ofList raw)).toList = trimmed raw := rfl
  unfold parseEntry
  simp only [htrimmed]
  by_cases hskip : isSkipped (trimmed raw) = true
  · rw [if_pos hskip]
    exact ⟨fun _ => hskip, fun _ => rfl⟩
  · rw [if_neg hskip]
    refine ⟨fun h => ?_, fun h => absurd h hskip⟩
    repeat' split at h
    all_goals cases h

/-- A raw entry gives a credential when it is the text of an entry, and then the entry's. -/
theorem parseEntry_some {raw : List Char} {c : ServiceCredential} :
    parseEntry sha256 raw = .ok (some c) ↔ ∃ e : Entry, trimmed raw = e.text ∧ e.credential sha256 = c := by
  have htrimmed : (trim (String.ofList raw)).toList = trimmed raw := rfl
  unfold parseEntry
  simp only [htrimmed]
  constructor
  · intro h
    split at h
    · cases h
    split at h
    · cases h
    rename_i caller rest hcut
    split at h
    · cases h
    rename_i scope token hrest
    split at h
    · cases h
    rename_i hcaller
    rw [Bool.not_eq_true, Bool.not_eq_false'] at hcaller
    split at h
    · cases h
    rename_i scope hscope
    obtain ⟨htext, -⟩ := cut_some hcut
    obtain ⟨rfl, -⟩ := cut_some hrest
    rw [Scope.ofText_iff.1 hscope] at htext
    split at h
    · rename_i hmark
      split at h
      · cases h
      rename_i digest hdigest
      obtain ⟨hex, rfl⟩ := List.isPrefixOf_iff_prefix.1 hmark
      rw [List.drop_left] at hdigest
      exact ⟨⟨caller, scope, .hashed hex digest hdigest, hcaller⟩, htext, Option.some.inj (Except.ok.inj h)⟩
    · rename_i hmark
      split at h
      · cases h
      rename_i hlong
      exact ⟨⟨caller, scope, .plain token (not_lt.1 hlong) (Bool.eq_false_iff.2 hmark), hcaller⟩, htext,
        Option.some.inj (Except.ok.inj h)⟩
  · rintro ⟨⟨caller, scope, secret, named⟩, htext, rfl⟩
    have hskip := Entry.not_isSkipped ⟨caller, scope, secret, named⟩
    have hcut := Entry.cut_text ⟨caller, scope, secret, named⟩
    have hrest := Entry.cut_rest ⟨caller, scope, secret, named⟩
    have hscope := (@Scope.ofText_iff scope.text scope).2 rfl
    dsimp only at hcut hrest
    simp only [htext, hskip, hcut, hrest, named, hscope, Bool.false_eq_true, if_false, Bool.not_true]
    cases secret with
    | plain token long unmarked =>
      simp only [Secret.text, unmarked, Bool.false_eq_true, if_false]
      exact if_neg (not_lt.2 long)
    | hashed hex digest reads =>
      have hmark : mark.isPrefixOf (mark ++ hex) = true := List.isPrefixOf_iff_prefix.2 (List.prefix_append _ _)
      simp only [Secret.text, hmark, if_true, List.drop_left, reads]
      rfl

/-- The credentials of raw entries are those of the entries whose texts they are. -/
theorem mapM_parseEntry (raws : List (List Char)) (credentials : List ServiceCredential) :
    (∃ kept, raws.mapM (parseEntry sha256) = .ok kept ∧ kept.reduceOption = credentials) ↔
      ∃ entries : List Entry, entryTexts raws = entries.map Entry.text ∧ entries.map (Entry.credential sha256) = credentials := by
  induction raws generalizing credentials with
  | nil =>
    constructor
    · rintro ⟨kept, hkept, rfl⟩
      obtain rfl : [] = kept := Except.ok.inj hkept
      exact ⟨[], rfl, rfl⟩
    · rintro ⟨entries, htexts, rfl⟩
      obtain rfl : entries = [] := List.map_eq_nil_iff.1 htexts.symm
      exact ⟨[], rfl, rfl⟩
  | cons raw raws ih =>
    have hcons : ∀ kept, (raw :: raws).mapM (parseEntry sha256) = .ok kept ↔
        ∃ c rest, parseEntry sha256 raw = .ok c ∧ raws.mapM (parseEntry sha256) = .ok rest ∧ c :: rest = kept := by
      intro kept
      rw [List.mapM_cons]
      cases hc : parseEntry sha256 raw with
      | error e => exact ⟨fun h => (nomatch h), by rintro ⟨c, rest, hc', -⟩; cases hc'⟩
      | ok c =>
        cases hrest : raws.mapM (parseEntry sha256) with
        | error e => exact ⟨fun h => (nomatch h), by rintro ⟨c, rest, -, hrest', -⟩; cases hrest'⟩
        | ok rest =>
          constructor
          · intro h
            exact ⟨c, rest, rfl, rfl, Except.ok.inj h⟩
          · rintro ⟨c', rest', hc', hrest', rfl⟩
            cases hc'
            cases hrest'
            rfl
    constructor
    · rintro ⟨kept, hkept, rfl⟩
      obtain ⟨c, rest, hc, hrest, rfl⟩ := (hcons kept).1 hkept
      obtain ⟨entries, htexts, hcredentials⟩ := (ih rest.reduceOption).1 ⟨rest, hrest, rfl⟩
      cases c with
      | none =>
        have hskip := parseEntry_none.1 hc
        refine ⟨entries, ?_, hcredentials⟩
        rw [← htexts, entryTexts, List.map_cons, List.filter_cons, hskip]
        rfl
      | some c =>
        obtain ⟨e, htext, rfl⟩ := parseEntry_some.1 hc
        refine ⟨e :: entries, ?_, ?_⟩
        · rw [entryTexts, List.map_cons, htext, List.filter_cons, e.not_isSkipped, List.map_cons, ← htexts]
          rfl
        · rw [List.map_cons, hcredentials, List.reduceOption_cons_of_some]
    · rintro ⟨entries, htexts, rfl⟩
      rw [entryTexts, List.map_cons, List.filter_cons] at htexts
      cases hskip : isSkipped (trimmed raw) with
      | true =>
        rw [hskip] at htexts
        obtain ⟨rest, hrest, hcredentials⟩ := (ih _).2 ⟨entries, htexts, rfl⟩
        refine ⟨none :: rest, (hcons _).2 ⟨none, rest, parseEntry_none.2 hskip, hrest, rfl⟩, ?_⟩
        rw [List.reduceOption_cons_of_none, hcredentials]
      | false =>
        rw [hskip] at htexts
        cases entries with
        | nil => cases htexts
        | cons e entries =>
          obtain ⟨htext, htexts⟩ := List.cons.inj htexts
          obtain ⟨rest, hrest, hcredentials⟩ := (ih _).2 ⟨entries, htexts, rfl⟩
          refine ⟨some (e.credential sha256) :: rest,
            (hcons _).2 ⟨_, rest, parseEntry_some.2 ⟨e, htext, rfl⟩, hrest, rfl⟩, ?_⟩
          rw [List.reduceOption_cons_of_some, hcredentials, List.map_cons]

/-- An accepted specification gives the credentials of the entries it lists. -/
theorem parseServiceTokens_iff {spec : List Char} {credentials : List ServiceCredential} :
    parseServiceTokens sha256 spec = .ok credentials ↔
      ∃ entries, Lists spec entries ∧ entries.map (Entry.credential sha256) = credentials := by
  unfold Lists
  rw [← mapM_parseEntry]
  unfold parseServiceTokens
  cases (spec.splitOnP isSeparator).mapM (parseEntry sha256) with
  | error e => exact ⟨fun h => (nomatch h), by rintro ⟨kept, hkept, -⟩; cases hkept⟩
  | ok kept =>
    constructor
    · intro h
      exact ⟨kept, rfl, Except.ok.inj h⟩
    · rintro ⟨kept', hkept, rfl⟩
      cases hkept
      rfl

/-! ## Requests -/

/-- A header carries a token: the scheme, blanks, the token, and nothing but blanks after it. -/
def Carries (header token : List Char) : Prop :=
  ∃ scheme blanks after, header = scheme ++ (blanks ++ (token ++ after)) ∧
    scheme.map Char.toLower = ['b', 'e', 'a', 'r', 'e', 'r'] ∧
    blanks ≠ [] ∧ (∀ c ∈ blanks, isBlank c = true) ∧
    token ≠ [] ∧ (∀ c ∈ token, isBlank c = false) ∧ ∀ c ∈ after, isBlank c = true

theorem bearer_iff {header token : List Char} : bearer header = some token ↔ Carries header token := by
  unfold bearer
  dsimp only
  constructor
  · intro h
    split at h
    · rename_i hall
      obtain ⟨hscheme, hblanks, htoken, hafter⟩ := hall
      obtain rfl := Option.some.inj h
      refine ⟨header.take 6, (header.drop 6).takeWhile isBlank,
        ((header.drop 6).dropWhile isBlank).dropWhile (fun c => !isBlank c), ?_, hscheme, hblanks,
        fun c hc => List.mem_takeWhile_imp hc, htoken, fun c hc => ?_, fun c hc => List.all_eq_true.1 hafter c hc⟩
      · rw [List.takeWhile_append_dropWhile, List.takeWhile_append_dropWhile, List.take_append_drop]
      · have := List.mem_takeWhile_imp hc
        simpa using this
    · cases h
  · rintro ⟨scheme, blanks, after, rfl, hscheme, hblanks, hblank, htoken, hsolid, hafter⟩
    have hlen : scheme.length = 6 := by
      have := congrArg List.length hscheme
      simpa using this
    have hsolid' : ∀ c ∈ token, (fun c => !isBlank c) c = true := fun c hc => by simp [hsolid c hc]
    have hhead : (token ++ after).takeWhile isBlank = [] ∧ (token ++ after).dropWhile isBlank = token ++ after := by
      cases token with
      | nil => exact absurd rfl htoken
      | cons c token =>
        have hc : ¬isBlank c = true := by simp [hsolid c (List.mem_cons_self ..)]
        exact ⟨List.takeWhile_cons_of_neg hc, List.dropWhile_cons_of_neg hc⟩
    have hend : after.takeWhile (fun c => !isBlank c) = [] ∧ after.dropWhile (fun c => !isBlank c) = after := by
      cases after with
      | nil => exact ⟨rfl, rfl⟩
      | cons c after =>
        have hc : ¬(!isBlank c) = true := by simp [hafter c (List.mem_cons_self ..)]
        exact ⟨List.takeWhile_cons_of_neg hc, List.dropWhile_cons_of_neg hc⟩
    rw [List.take_left' hlen, List.drop_left' hlen, List.takeWhile_append_of_pos hblank, List.dropWhile_append_of_pos hblank,
      hhead.1, hhead.2, List.takeWhile_append_of_pos hsolid', List.dropWhile_append_of_pos hsolid', hend.1, hend.2,
      List.append_nil, List.append_nil]
    exact if_pos ⟨hscheme, hblanks, htoken, List.all_eq_true.2 hafter⟩

/-- The loop over the credentials finds the first one with the token's digest. -/
theorem matchServiceCredential_eq (credentials : List ServiceCredential) (token : List Char) :
    matchServiceCredential sha256 credentials token =
      credentials.find? (fun c => decide (sha256 (String.ofList token) = c.digest)) := by
  have hfound : ∀ (cs : List ServiceCredential) (c : ServiceCredential),
      cs.foldl (fun found credential =>
        if sha256 (String.ofList token) = credential.digest ∧ found = none then some credential else found) (some c) = some c := by
    intro cs c
    induction cs with
    | nil => rfl
    | cons d cs ih =>
      rw [List.foldl_cons, if_neg (fun h => by cases h.2)]
      exact ih
  unfold matchServiceCredential
  dsimp only
  induction credentials with
  | nil => rfl
  | cons c cs ih =>
    rw [List.foldl_cons, List.find?_cons]
    by_cases hc : sha256 (String.ofList token) = c.digest
    · rw [if_pos ⟨hc, rfl⟩, hfound, decide_eq_true hc]
    · rw [if_neg (fun h => hc h.1), decide_eq_false hc]
      exact ih

end ServiceAuth

end Archisynapse
