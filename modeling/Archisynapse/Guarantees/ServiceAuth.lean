import Archisynapse.Lemmas.ServiceAuth

/-!
# Service authentication

An enforcing middleware lets through the requests for an open path and the requests with a token that opens an entry, when the
first such entry may write or the request only reads (`serviceAuth_exact`). An entry may be configured with its token or with the
token's digest: the middleware does the same.
-/

namespace Archisynapse

namespace ServiceAuth

variable {sha256 : String → Digest}

/-- No other text has the digest of a token that a specification gives in plain. A hash function is taken for injective on the
texts it is used on: there are more texts than digests. -/
def Collisionless (sha256 : String → Digest) (spec : List Char) : Prop :=
  ∀ entries, Lists spec entries → ∀ e ∈ entries, ∀ token long unmarked, e.secret = .plain token long unmarked →
    ∀ text : List Char, sha256 (String.ofList text) = sha256 (String.ofList token) → text = token

/-- The first entry that a token opens. -/
def Opened (sha256 : String → Digest) (entries : List Entry) (token : List Char) (e : Entry) : Prop :=
  ∃ before after, entries = before ++ e :: after ∧ e.secret.Opens sha256 token ∧ ∀ b ∈ before, ¬b.secret.Opens sha256 token

/-- The requests a service is meant to let through: those for an open path, and those with a token whose first entry may write,
or which only read. -/
def Admitted (sha256 : String → Digest) (entries : List Entry) (req : Request) : Prop :=
  req.path ∈ openPaths ∨ ∃ header token e, req.authorization = some header ∧ Carries header token ∧
    Opened sha256 entries token e ∧ (e.scope = .write ∨ req.method ∈ readMethods)

/-- The middleware calls `next`. -/
def Outcome.Next (o : Outcome) : Prop := ∃ serviceCaller, o = .next serviceCaller

/-- An entry in the digest form: the token it gave in plain is given by its digest, in digits of either case. -/
def Hides (sha256 : String → Digest) (e e' : Entry) : Prop :=
  e'.caller = e.caller ∧ e'.scope = e.scope ∧ ∃ token long unmarked hex reads,
    e.secret = .plain token long unmarked ∧ e'.secret = .hashed hex (sha256 (String.ofList token)) reads

/-- A specification with one entry's text, between separators and among blanks, in the place of another's. -/
def Rewrites (spec spec' : List Char) (e e' : Entry) : Prop :=
  ∃ before raw raw' after, spec = before ++ (raw ++ after) ∧ spec' = before ++ (raw' ++ after) ∧
    trimmed raw = e.text ∧ trimmed raw' = e'.text ∧
    (∀ c ∈ raw, isSeparator c = false) ∧ (∀ c ∈ raw', isSeparator c = false) ∧
    (∀ c ∈ before.getLast?, isSeparator c = true) ∧ ∀ c ∈ after.head?, isSeparator c = true

/-! ## The entry that a token opens -/

/-- Where tokens do not collide, a token opens an entry when it has its credential's digest. -/
theorem opens_iff {spec : List Char} {entries : List Entry} (hsha : Collisionless sha256 spec) (hlists : Lists spec entries)
    {e : Entry} (he : e ∈ entries) (token : List Char) :
    sha256 (String.ofList token) = (e.credential sha256).digest ↔ e.secret.Opens sha256 token := by
  have hplain := hsha entries hlists e he
  unfold Entry.credential
  dsimp only
  cases hsecret : e.secret with
  | plain plaintext long unmarked =>
    constructor
    · exact hplain plaintext long unmarked hsecret token
    · exact fun h => congrArg (fun text => sha256 (String.ofList text)) h
  | hashed hex digest reads => exact Iff.rfl

/-- The credential that is found is that of the first entry the token opens. -/
theorem matchServiceCredential_iff {spec : List Char} {entries : List Entry} (hsha : Collisionless sha256 spec)
    (hlists : Lists spec entries) {token : List Char} {c : ServiceCredential} :
    matchServiceCredential sha256 (entries.map (Entry.credential sha256)) token = some c ↔
      ∃ e, Opened sha256 entries token e ∧ e.credential sha256 = c := by
  rw [matchServiceCredential_eq, List.find?_map, Option.map_eq_some_iff]
  refine exists_congr (fun e => and_congr_left (fun _ => ?_))
  rw [List.find?_eq_some_iff_append]
  unfold Opened
  constructor
  · rintro ⟨hopen, before, after, rfl, hbefore⟩
    have hmem : ∀ b ∈ before ++ e :: after, sha256 (String.ofList token) = (b.credential sha256).digest ↔
        b.secret.Opens sha256 token := fun b hb => opens_iff hsha hlists hb token
    refine ⟨before, after, rfl, ?_, fun b hb hopens => ?_⟩
    · exact (hmem e (by simp)).1 (of_decide_eq_true hopen)
    · have hb' := hbefore b hb
      rw [Function.comp_apply, decide_eq_true ((hmem b (List.mem_append_left _ hb)).2 hopens)] at hb'
      cases hb'
  · rintro ⟨before, after, rfl, hopens, hbefore⟩
    have hmem : ∀ b ∈ before ++ e :: after, sha256 (String.ofList token) = (b.credential sha256).digest ↔
        b.secret.Opens sha256 token := fun b hb => opens_iff hsha hlists hb token
    refine ⟨decide_eq_true ((hmem e (by simp)).2 hopens), before, after, rfl, fun b hb => ?_⟩
    rw [Function.comp_apply, decide_eq_false (fun h => hbefore b hb ((hmem b (List.mem_append_left _ hb)).1 h))]
    rfl

/-- An enforcing middleware lets a request through when it is for an open path, or has a token whose credential may do it. -/
theorem middleware_next_iff {credentials : List ServiceCredential} {req : Request} :
    (middleware sha256 ⟨true, credentials⟩ req).Next ↔
      req.path ∈ openPaths ∨ ∃ token c, bearerToken req = some token ∧ matchServiceCredential sha256 credentials token = some c ∧
        (c.scope = .write ∨ req.method ∈ readMethods) := by
  have hnot : ∀ status error, ¬(Outcome.answered status error).Next := fun _ _ h => nomatch h.choose_spec
  unfold middleware
  dsimp only
  by_cases hopen : req.path ∈ openPaths
  · have hcontains : openPaths.contains req.path = true := List.contains_iff_mem.2 hopen
    rw [if_pos (by rw [hcontains]; rfl)]
    exact ⟨fun _ => Or.inl hopen, fun _ => ⟨none, rfl⟩⟩
  · have hcontains : openPaths.contains req.path = false := by
      rw [Bool.eq_false_iff]
      exact fun h => hopen (List.contains_iff_mem.1 h)
    rw [if_neg (by rw [hcontains]; exact Bool.false_ne_true), or_iff_right hopen]
    cases htoken : bearerToken req with
    | none =>
      refine ⟨fun h => absurd h (hnot _ _), ?_⟩
      rintro ⟨token, c, h, -⟩
      cases h
    | some token =>
      rw [Option.bind_some]
      cases hmatch : matchServiceCredential sha256 credentials token with
      | none =>
        refine ⟨fun h => absurd h (hnot _ _), ?_⟩
        rintro ⟨token', c, h, hmatch', -⟩
        obtain rfl := Option.some.inj h
        rw [hmatch] at hmatch'
        cases hmatch'
      | some c =>
        dsimp only
        have hmay : (c.scope = .read ∧ (!readMethods.contains req.method) = true) ↔
            ¬(c.scope = .write ∨ req.method ∈ readMethods) := by
          rw [Bool.not_eq_true', Bool.eq_false_iff, Ne, List.contains_iff_mem, not_or]
          refine and_congr_left (fun _ => ?_)
          cases c.scope <;> decide
        by_cases hallowed : c.scope = .write ∨ req.method ∈ readMethods
        · rw [if_neg (fun h => hmay.1 h hallowed)]
          exact ⟨fun _ => ⟨token, c, rfl, hmatch, hallowed⟩, fun _ => ⟨_, rfl⟩⟩
        · rw [if_pos (hmay.2 hallowed)]
          refine ⟨fun h => absurd h (hnot _ _), ?_⟩
          rintro ⟨token', c', h, hmatch', hallowed'⟩
          obtain rfl := Option.some.inj h
          obtain rfl := Option.some.inj (hmatch.symm.trans hmatch')
          exact absurd hallowed' hallowed

/-! ## The digest form -/

/-- The raw entries before and after one between separators do not depend on it. -/
theorem splitOnP_around {before after : List Char} (hbefore : ∀ c ∈ before.getLast?, isSeparator c = true)
    (hafter : ∀ c ∈ after.head?, isSeparator c = true) :
    ∃ raws raws', ∀ raw : List Char, (∀ c ∈ raw, isSeparator c = false) →
      (before ++ (raw ++ after)).splitOnP isSeparator = raws ++ raw :: raws' := by
  have hright : ∃ raws', ∀ raw : List Char, (∀ c ∈ raw, isSeparator c = false) →
      (raw ++ after).splitOnP isSeparator = raw :: raws' := by
    cases after with
    | nil =>
      refine ⟨[], fun raw hraw => ?_⟩
      rw [List.append_nil, List.splitOnP_eq_singleton hraw]
    | cons c after =>
      exact ⟨after.splitOnP isSeparator, fun raw hraw => List.splitOnP_append_cons_of_forall_mem hraw c (hafter c rfl) after⟩
  obtain ⟨raws', hright⟩ := hright
  rcases List.eq_nil_or_concat' before with rfl | ⟨before, c, rfl⟩
  · exact ⟨[], raws', hright⟩
  · have hc : isSeparator c = true := hbefore c (by rw [List.getLast?_concat]; rfl)
    refine ⟨before.splitOnP isSeparator, raws', fun raw hraw => ?_⟩
    rw [List.append_assoc, List.singleton_append, List.splitOnP_append_cons _ _ hc, hright raw hraw]

/-- An entry and its digest form give the same credential. -/
theorem Hides.credential_eq {e e' : Entry} (h : Hides sha256 e e') : e'.credential sha256 = e.credential sha256 := by
  obtain ⟨hcaller, hscope, token, long, unmarked, hex, reads, hplain, hhashed⟩ := h
  unfold Entry.credential
  rw [hcaller, hscope, hplain, hhashed]
  rfl

/-- Every entry with a token has a digest form. -/
theorem exists_hides {e : Entry} {token : List Char} {long unmarked} (h : e.secret = .plain token long unmarked) :
    ∃ e', Hides sha256 e e' :=
  ⟨⟨e.caller, e.scope, .hashed _ _ (sha256 (String.ofList token)).ofHex_hexText, e.named⟩, rfl, rfl, token, long, unmarked, _, _, h, rfl⟩

/-- A specification is read alike when an entry is replaced by one with the same credential. -/
theorem parseServiceTokens_rewrites {spec spec' : List Char} {e e' : Entry} (h : Rewrites spec spec' e e')
    (hcredential : e'.credential sha256 = e.credential sha256) :
    parseServiceTokens sha256 spec' = parseServiceTokens sha256 spec := by
  obtain ⟨before, raw, raw', after, rfl, rfl, htext, htext', hraw, hraw', hbefore, hafter⟩ := h
  have hparse : parseEntry sha256 raw' = parseEntry sha256 raw :=
    (parseEntry_some.2 ⟨e', htext', hcredential⟩).trans (parseEntry_some.2 ⟨e, htext, rfl⟩).symm
  unfold parseServiceTokens
  obtain ⟨raws, raws', hsplit⟩ := splitOnP_around hbefore hafter
  rw [hsplit raw hraw, hsplit raw' hraw', List.mapM_append, List.mapM_append, List.mapM_cons, List.mapM_cons, hparse]

/-- For an accepted specification, where its tokens do not collide, the middleware lets through exactly the requests it is meant
to; and a specification with an entry's token replaced by its digest is accepted, and what becomes of every request is the same,
its caller included. -/
theorem serviceAuth_exact {spec : List Char} {credentials : List ServiceCredential}
    (hspec : parseServiceTokens sha256 spec = .ok credentials) (hsha : Collisionless sha256 spec) :
    (∃ entries, Lists spec entries ∧
      ∀ req, (middleware sha256 ⟨true, credentials⟩ req).Next ↔ Admitted sha256 entries req) ∧
    ∀ e e' spec', Hides sha256 e e' → Rewrites spec spec' e e' →
      ∃ credentials', parseServiceTokens sha256 spec' = .ok credentials' ∧
        ∀ req, middleware sha256 ⟨true, credentials'⟩ req = middleware sha256 ⟨true, credentials⟩ req := by
  constructor
  · obtain ⟨entries, hlists, rfl⟩ := parseServiceTokens_iff.1 hspec
    refine ⟨entries, hlists, fun req => ?_⟩
    rw [middleware_next_iff]
    refine or_congr_right ?_
    constructor
    · rintro ⟨token, c, htoken, hmatch, hmay⟩
      obtain ⟨header, hheader, hbearer⟩ := Option.bind_eq_some_iff.1 htoken
      obtain ⟨e, hopened, rfl⟩ := (matchServiceCredential_iff hsha hlists).1 hmatch
      exact ⟨header, token, e, hheader, bearer_iff.1 hbearer, hopened, hmay⟩
    · rintro ⟨header, token, e, hheader, hcarries, hopened, hmay⟩
      exact ⟨token, e.credential sha256, Option.bind_eq_some_iff.2 ⟨header, hheader, bearer_iff.2 hcarries⟩,
        (matchServiceCredential_iff hsha hlists).2 ⟨e, hopened, rfl⟩, hmay⟩
  · intro e e' spec' hhides hrewrites
    exact ⟨credentials, (parseServiceTokens_rewrites hrewrites hhides.credential_eq).trans hspec, fun _ => rfl⟩

/-! ## A gateway that writes and a reader -/

def playToken : List Char := "gateway-token-0123456789abcdefghij".toList

def readerToken : List Char := "reader-token-0123456789abcdefghijk".toList

def playHex : List Char := "4e84c54a863ea8ad2d1d350a9e1c2d83f2a155b665b0a33a5813a8e62a1306d8".toList

def readerHex : List Char := "092a5553b6f65309f1907d5fd0758ed1b29a97cca46afe625c7a55ad69ac5a9b".toList

/-- The digest that digits write. -/
def readHex (hex : List Char) : Digest := (Digest.ofHex hex).getD ⟨List.replicate 32 0, rfl⟩

/-- A hash function with the digests of the two tokens. -/
def playSha (text : String) : Digest :=
  if text.toList = playToken then readHex playHex
  else if text.toList = readerToken then readHex readerHex else ⟨List.replicate 32 0, rfl⟩

def playEntry : Entry := ⟨"gateway".toList, .write, .plain playToken (by decide +kernel) (by decide +kernel), by decide +kernel⟩

def readerEntry : Entry := ⟨"reporter".toList, .read, .hashed readerHex (readHex readerHex) (by decide +kernel), by decide +kernel⟩

/-- The two entries after a comment, on a line of their own. -/
def playSpec : List Char := "# callers\n gateway:write:".toList ++ playToken ++ " , reporter:read:sha256:".toList ++ readerHex

theorem play_lists : Lists playSpec [playEntry, readerEntry] := by
  unfold Lists entryTexts
  rw [trimmed_eq]
  decide +kernel

theorem play_accepted :
    parseServiceTokens playSha playSpec = .ok ([playEntry, readerEntry].map (Entry.credential playSha)) :=
  parseServiceTokens_iff.2 ⟨_, play_lists, rfl⟩

theorem play_collisionless : Collisionless playSha playSpec := by
  intro entries hlists e he token long unmarked hplain text hdigest
  obtain rfl := hlists.unique play_lists
  rcases List.mem_cons.1 he with rfl | he
  · obtain rfl : playToken = token := (Secret.plain.inj hplain)
    by_contra hne
    have hplay : playSha (String.ofList playToken) = readHex playHex := if_pos String.toList_ofList
    rw [hplay] at hdigest
    unfold playSha at hdigest
    rw [String.toList_ofList, if_neg hne] at hdigest
    split at hdigest
    · exact absurd hdigest (by decide +kernel)
    · exact absurd hdigest (by decide +kernel)
  · rw [List.mem_singleton.1 he] at hplain
    cases hplain

theorem serviceAuth_exact_play :
    parseServiceTokens playSha playSpec = .ok ([playEntry, readerEntry].map (Entry.credential playSha)) ∧
    Collisionless playSha playSpec ∧
    (∃ entries, Lists playSpec entries ∧ ∀ req,
      (middleware playSha ⟨true, [playEntry, readerEntry].map (Entry.credential playSha)⟩ req).Next ↔ Admitted playSha entries req) ∧
    ∀ e e' spec', Hides playSha e e' → Rewrites playSpec spec' e e' →
      ∃ credentials', parseServiceTokens playSha spec' = .ok credentials' ∧
        ∀ req, middleware playSha ⟨true, credentials'⟩ req =
          middleware playSha ⟨true, [playEntry, readerEntry].map (Entry.credential playSha)⟩ req :=
  ⟨play_accepted, play_collisionless, serviceAuth_exact play_accepted play_collisionless⟩

/-- The gateway's token writes, and the reader's does not. -/
example :
    middleware playSha ⟨true, [playEntry, readerEntry].map (Entry.credential playSha)⟩
      ⟨"/entries", "POST", some ("bearer  ".toList ++ playToken ++ [' '])⟩ = .next (some "gateway".toList) ∧
    middleware playSha ⟨true, [playEntry, readerEntry].map (Entry.credential playSha)⟩
      ⟨"/entries", "POST", some ("Bearer ".toList ++ readerToken)⟩ =
        .answered 403 "Service caller reporter is read-only here" := by
  decide +kernel

end ServiceAuth

end Archisynapse
