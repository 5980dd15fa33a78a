import Archisynapse.Lemmas.JsonText
import Archisynapse.Lemmas.RoyaltyGatewayCalls

/-!
# Signatures of royalty receipts

Every receipt is signed as it is built. It is stored and returned as it was signed, except that a release or a reversal adds the
economic truth of the event's first receipt to its own after it was signed (`Action.Decorates`). In a run without that, every
receipt that is stored or returned verifies (`signatures_sound`); a receipt with a truth added does not, as its text is longer
than the one that was signed (`decorated_payload`).
-/

namespace Archisynapse

namespace RoyaltyGateway

variable {S : TransactionService} {env : Env} {verify : String → Signature → Bool}

/-- A receipt's signature verifies over the text of the receipt without it. -/
def Receipt.Verifies (env : Env) (verify : String → Signature → Bool) (receipt : Receipt) : Prop :=
  verify (receipt.body.payload env) receipt.signature = true

/-- The signer is correct: what it signs verifies. -/
def Env.SignsWith (env : Env) (verify : String → Signature → Bool) : Prop := ∀ payload, verify payload (env.sign payload) = true

/-- The branch in which a release or a reversal stores its receipt again, with the economic truth of the event's first receipt. -/
def Action.Decorates : Action → Prop
  | .saveRoyaltyReceipt receipt => receipt.truth.isSome = true ∧ ∀ hex, receipt.body.receiptId ≠ ingestReceiptId hex
  | _ => False

/-- The runs in which no release and no reversal takes that branch. -/
def undecorated (S : TransactionService) (env : Env) : (machine S env).Cond := ⟨fun _ _ => True, fun _ o _ => ¬ o.Decorates⟩

/-! ## Receipts -/

theorem signed_verifies (hsign : env.SignsWith verify) (body : ReceiptBody) : (body.signed env).Verifies env verify := hsign _

/-- What `_build_receipt` makes. -/
theorem buildReceipt_ok {event : RoyaltyObligationCreated} {obligation : Royalty.RoyaltyObligation} {decision : Decision}
    {hex : Hex} {now : Int} {receipt : Receipt} (h : buildReceipt env event obligation decision hex now = .ok receipt) :
    ∃ body, buildReceiptBody event obligation decision hex now = .ok body ∧ receipt = body.signed env := by
  unfold buildReceipt at h
  cases hbody : buildReceiptBody event obligation decision hex now with
  | error e =>
    rw [hbody] at h
    cases h
  | ok body =>
    rw [hbody] at h
    exact ⟨body, rfl, (Except.ok.inj h).symm⟩

/-- What `_receipt_from_obligation` makes. -/
theorem receiptFromObligation_ok {obligation : Royalty.RoyaltyObligation} {id : String} {now : Int} {receipt : Receipt}
    (h : receiptFromObligation env obligation id now = .ok receipt) :
    ∃ body, bodyFromObligation obligation id now = .ok body ∧ receipt = body.signed env := by
  unfold receiptFromObligation at h
  cases hbody : bodyFromObligation obligation id now with
  | error e =>
    rw [hbody] at h
    cases h
  | ok body =>
    rw [hbody] at h
    exact ⟨body, rfl, (Except.ok.inj h).symm⟩

/-- The id and the truth of a receipt of `_receipt_from_obligation`. -/
theorem bodyFromObligation_ok {obligation : Royalty.RoyaltyObligation} {id : String} {now : Int} {body : ReceiptBody}
    (h : bodyFromObligation obligation id now = .ok body) : body.receiptId = id ∧ body.economicTruth = none := by
  unfold bodyFromObligation at h
  cases hpayouts : receiptPayouts obligation with
  | error e =>
    rw [hpayouts] at h
    cases h
  | ok payouts =>
    rw [hpayouts] at h
    cases hnet : ledgerAmount obligation.amount with
    | error e =>
      rw [hnet] at h
      cases h
    | ok net =>
      rw [hnet] at h
      cases h
      exact ⟨rfl, rfl⟩

/-- The reasons of a receipt of `_receipt_from_obligation`. -/
theorem bodyFromObligation_reasons {obligation : Royalty.RoyaltyObligation} {id : String} {now : Int} {body : ReceiptBody}
    (h : bodyFromObligation obligation id now = .ok body) : body.statusReasons = .arr (obligation.statusReasons.map .str) := by
  obtain ⟨payouts, -, hbody⟩ := ok_of_except_bind h
  obtain ⟨net, -, hok⟩ := ok_of_except_bind hbody
  rw [← Except.ok.inj hok]

/-- The id of a receipt of `_build_receipt`. -/
theorem buildReceiptBody_ok {event : RoyaltyObligationCreated} {obligation : Royalty.RoyaltyObligation} {decision : Decision}
    {hex : Hex} {now : Int} {body : ReceiptBody} (h : buildReceiptBody event obligation decision hex now = .ok body) :
    body.receiptId = ingestReceiptId hex := by
  unfold buildReceiptBody at h
  cases hpayouts : receiptPayouts obligation with
  | error e =>
    rw [hpayouts] at h
    cases h
  | ok payouts =>
    rw [hpayouts] at h
    cases hnet : ledgerAmount event.value with
    | error e =>
      rw [hnet] at h
      cases h
    | ok net =>
      rw [hnet] at h
      cases h
      rfl

/-! ## The outline -/

/-- Every stored receipt verifies. -/
def Tables.Verified (env : Env) (verify : String → Signature → Bool) (d : Tables) : Prop :=
  ∀ r ∈ d.receipts, r.payload.Verifies env verify

/-- The outline of runs whose receipts verify. -/
def signatures (S : TransactionService) (env : Env) (verify : String → Signature → Bool) :
    Machine.Outline (machine S env) where
  inv s := s.tables.Verified env verify
  rely _ _ _ _ := True
  guar _ _ _ _ := True
  compat _ _ _ _ := True
  post _ _ out _ := ∀ reply, out = .ok reply → reply.receipt.Verifies env verify

/-- The calls that store no receipt. -/
def KeepsReceipts : Action → Prop
  | .saveRoyaltyReceipt _ => False
  | _ => True

/-- A call that stores no receipt leaves the receipts. -/
theorem exec_keepsReceipts {o : Action} (ho : KeepsReceipts o) {ch : Choice S} {s s' : State S} {r : Except Failure o.Result}
    (h : exec o ch s = some (r, s')) : s'.tables.receipts = s.tables.receipts := by
  cases o with
  | saveRoyaltyReceipt receipt => exact ho.elim
  | claimIdempotency t k hash =>
    obtain ⟨r', heffect, -⟩ := exec_claim h
    exact heffect.receipts
  | completeIdempotency t k id =>
    rcases exec_complete h with ⟨htables, -⟩ | hw
    · rw [htables]
    · unfold Tables.completeIdempotency at hw
      split at hw
      · cases hw
      · rw [← Except.ok.inj hw]
        rfl
  | failIdempotency t k reason =>
    rcases exec_fail h with htables | htables
    · rw [htables]
    · rw [htables]
      rfl
  | _ => exact congrArg Tables.receipts (exec_reads (by trivial) h)

section

variable {w : Nat} {c : Call} {s : State S}

/-- The calls of a request in a run without the branch. -/
abbrev SignDoes (S : TransactionService) (env : Env) (w : Nat) := (machine S env).Does (undecorated S env) w

/-- The contract of a request. -/
abbrev signContract (S : TransactionService) (env : Env) (verify : String → Signature → Bool) (w : Nat) (c : Call) :=
  (signatures S env verify).contract w c

/-- A program that stores no receipt. -/
theorem keepsReceipts_wp {α : Type} {p : Program α} (hp : p.Calls KeepsReceipts) :
    p.wp (SignDoes S env w) (signContract S env verify w c) (fun _ _ => True) s := by
  refine Prog.Calls.wp_moves (R := fun _ _ => True) (fun _ _ _ _ _ => trivial) ?_ hp (t := s) trivial
  rintro o s₁ r s₂ ho hinv ⟨-, ch, he⟩
  refine ⟨fun x hx => ?_, trivial, fun _ _ => trivial⟩
  rw [exec_keepsReceipts ho he] at hx
  exact hinv x hx

theorem keepsReceipts_of_reads {α : Type} {p : Program α} (hp : p.Calls Reads) : p.Calls KeepsReceipts := by
  refine hp.mono (fun o ho => ?_)
  cases o with
  | saveRoyaltyReceipt receipt => exact ho.elim
  | _ => exact trivial

/-- Storing a receipt that verifies unless it is the branch's. -/
theorem saveVerified_wp {receipt : Receipt}
    (hreceipt : ¬ Action.Decorates (.saveRoyaltyReceipt receipt) → receipt.Verifies env verify) :
    (step (.saveRoyaltyReceipt receipt)).wp (SignDoes S env w) (signContract S env verify w c)
      (fun _ _ => receipt.Verifies env verify) s := by
  refine call_wp (fun s₁ _ hinv hplain ch r s₂ he => ?_)
  have hverifies := hreceipt hplain
  refine ⟨fun x hx => ?_, trivial, hverifies⟩
  rcases exec_save he with ⟨htables, -⟩ | hw
  · rw [htables] at hx
    exact hinv x hx
  · obtain ⟨id, -, -, -, hmem⟩ := Tables.save_ok hw
    rcases hmem x hx with hx | hx
    · rw [hx]
      exact hverifies
    · exact hinv x hx

/-- A receipt that is loaded verifies. -/
theorem loadVerified_wp (id : String) :
    (step (.loadRoyaltyReceipt id)).wp (SignDoes S env w) (signContract S env verify w c)
      (fun r _ => ∀ receipt, r = .ok (some receipt) → receipt.Verifies env verify) s := by
  refine call_wp (fun s₁ _ hinv _ ch r s₂ he => ?_)
  refine ⟨fun x hx => ?_, trivial, fun receipt hr => ?_⟩
  · rw [exec_keepsReceipts (o := .loadRoyaltyReceipt id) trivial he] at hx
    exact hinv x hx
  · subst hr
    obtain ⟨x, hx, -, hpayload⟩ := Tables.loadRoyaltyReceipt_mem (exec_load he).symm
    rw [← hpayload]
    exact hinv x hx

/-! ## The programs -/

/-- What a request is answered with verifies. -/
def SignPost (env : Env) (verify : String → Signature → Bool) (out : Except Failure Reply) (_ : State S) : Prop :=
  ∀ reply, out = .ok reply → reply.receipt.Verifies env verify

theorem signPost_error (e : Failure) (s : State S) : SignPost env verify (.error e) s := fun _ h => by cases h

theorem keeps_failWith {α : Type} (v : VerifiedRequest) (reason : String) (e : Failure) :
    (failWith v reason e : Program α).Calls KeepsReceipts :=
  Prog.calls_bind (Prog.calls_perform trivial) (fun _ => trivial)

theorem keeps_createFailed {α : Type} (v : VerifiedRequest) (e : Failure) :
    (createFailed v e : Program α).Calls KeepsReceipts := by
  cases e with
  | rejection statusCode code message retryable => exact trivial
  | conflict text => exact keeps_failWith _ _ _
  | service statusCode body => exact keeps_failWith _ _ _
  | raised message => exact trivial

theorem failWith_wp (v : VerifiedRequest) (reason : String) (e : Failure) :
    (failWith v reason e : Program Reply).wp (SignDoes S env w) (signContract S env verify w c) (SignPost env verify) s :=
  Prog.wp_seq (keepsReceipts_wp (Prog.calls_perform trivial)) (fun _ s' _ => signPost_error e s')
    (fun e s' _ => signPost_error e s')

theorem workFailed_wp (v : VerifiedRequest) (e : Failure) :
    (workFailed v e : Program Reply).wp (SignDoes S env w) (signContract S env verify w c) (SignPost env verify) s := by
  cases e with
  | rejection statusCode code message retryable => exact signPost_error _ _
  | conflict text => exact failWith_wp _ _ _
  | service statusCode body => exact failWith_wp _ _ _
  | raised message => exact failWith_wp _ _ _

theorem work_wp (hsign : env.SignsWith verify) (v : VerifiedRequest) :
    (work env v).wp (SignDoes S env w) (signContract S env verify w c) (SignPost env verify) s := by
  have herr : ∀ (e : Failure) (s' : State S), True → SignPost env verify (.error e) s' := fun e s' _ => signPost_error e s'
  unfold work
  refine Prog.wp_seq (keepsReceipts_wp (keepsReceipts_of_reads (reads_evaluateDecision _ _ _))) (fun decision s₁ _ => ?_) herr
  refine Prog.wp_seq (keepsReceipts_wp (Prog.calls_tryCatch (keepsReceipts_of_reads (reads_clientCreate _))
    (keeps_createFailed v))) ?_ herr
  rintro ⟨obligation, answer⟩ s₂ -
  refine ofExcept_wp (fun e _ => signPost_error e s₂) (fun receipt hbuild => ?_)
  obtain ⟨body, -, rfl⟩ := buildReceipt_ok hbuild
  have hverifies := signed_verifies hsign body
  refine Prog.wp_seq (saveVerified_wp (fun _ => hverifies)) (fun _ s₃ _ => ?_) (fun e s' _ => signPost_error e s')
  refine Prog.wp_seq (keepsReceipts_wp (Prog.calls_perform trivial)) (fun _ s₄ _ => ?_) herr
  intro reply hreply
  cases hreply
  exact hverifies

theorem processClaimed_wp (hsign : env.SignsWith verify) (v : VerifiedRequest) :
    (processClaimed env v).wp (SignDoes S env w) (signContract S env verify w c) (SignPost env verify) s := by
  unfold processClaimed
  split
  · exact Prog.wp_handle (work_wp hsign v) (fun _ _ h => h) (fun e s' _ => workFailed_wp v e)
  · exact signPost_error _ _
  · exact failWith_wp _ _ _

theorem processObligationCreated_wp (hsign : env.SignsWith verify) (v : VerifiedRequest) :
    (processObligationCreated env v).wp (SignDoes S env w) (signContract S env verify w c) (SignPost env verify) s := by
  unfold processObligationCreated
  refine Prog.wp_seq (keepsReceipts_wp (Prog.calls_perform trivial)) (fun claim s₁ _ => ?_) (fun e s' _ => signPost_error e s')
  cases claim with
  | claimed => exact processClaimed_wp hsign v
  | conflict => exact signPost_error _ _
  | processing => exact signPost_error _ _
  | completed receiptId =>
    cases receiptId with
    | none => exact processClaimed_wp hsign v
    | some receiptId =>
      refine Prog.wp_seq (loadVerified_wp receiptId) (fun found s₂ hfound => ?_) (fun e s' _ => signPost_error e s')
      cases found with
      | none => exact processClaimed_wp hsign v
      | some receipt =>
        intro reply hreply
        cases hreply
        exact hfound receipt rfl

/-- A receipt that is issued and stored, before anything is added to it. -/
theorem issue_wp (hsign : env.SignsWith verify) (obligation : Royalty.RoyaltyObligation) (id : String) (now : Int) :
    (issueFromObligation env obligation id now).wp (SignDoes S env w) (signContract S env verify w c)
      (fun r _ => ∀ receipt, r = .ok receipt → receipt.Verifies env verify ∧ receipt.body.receiptId = id) s := by
  unfold issueFromObligation
  refine ofExcept_wp (fun _ _ _ h => by cases h) (fun receipt hreceipt => ?_)
  obtain ⟨body, hbody, rfl⟩ := receiptFromObligation_ok hreceipt
  have hverifies := signed_verifies hsign body
  refine Prog.wp_seq (saveVerified_wp (fun _ => hverifies)) (fun _ s' _ => ?_) (fun _ _ _ _ h => by cases h)
  intro receipt h
  cases h
  exact ⟨hverifies, (bodyFromObligation_ok hbody).1⟩

/-- What a request to the transaction service and its receipt lead to. -/
def Issues (env : Env) (verify : String → Signature → Bool) (id : String) (out : Except Failure Reply) (_ : State S) : Prop :=
  ∀ reply, out = .ok reply → reply.receipt.Verifies env verify ∧ reply.receipt.body.receiptId = id

theorem releaseObligation_wp (hsign : env.SignsWith verify) (t eventId : String) :
    (releaseObligation env t eventId).wp (SignDoes S env w) (signContract S env verify w c)
      (Issues env verify (releaseReceiptId eventId)) s := by
  unfold releaseObligation
  refine Prog.wp_seq (keepsReceipts_wp (keepsReceipts_of_reads (reads_request _ _))) ?_ (fun _ _ _ _ h => by cases h)
  rintro ⟨obligation, answer⟩ s₁ -
  refine Prog.wp_seq (issue_wp hsign obligation _ answer.now) (fun receipt s₂ hreceipt => ?_) (fun _ _ _ _ h => by cases h)
  intro reply hreply
  cases hreply
  exact hreceipt receipt rfl

theorem reverseObligation_wp (hsign : env.SignsWith verify) (t eventId reversalEventId key reason : String) :
    (reverseObligation env t eventId reversalEventId key reason).wp (SignDoes S env w) (signContract S env verify w c)
      (Issues env verify (reversalReceiptId reversalEventId)) s := by
  unfold reverseObligation
  refine Prog.wp_seq (keepsReceipts_wp (keepsReceipts_of_reads (reads_request _ _))) ?_ (fun _ _ _ _ h => by cases h)
  rintro ⟨obligation, answer⟩ s₁ -
  refine Prog.wp_seq (issue_wp hsign obligation _ answer.now) (fun receipt s₂ hreceipt => ?_) (fun _ _ _ _ h => by cases h)
  intro reply hreply
  cases hreply
  exact hreceipt receipt rfl

/-- After the branch was not taken, the receipt is the one that was signed; the branch is not taken. -/
theorem decorate_wp {id : String} (hid : ∀ hex, id ≠ ingestReceiptId hex) {truth : EconomicTruthRef} {reply : Reply}
    (hreply : reply.receipt.body.receiptId = id) {f : Unit → Program Reply} :
    (step (.saveRoyaltyReceipt (reply.receipt.decorate truth)) >>= f).wp (SignDoes S env w) (signContract S env verify w c)
      (SignPost env verify) s := by
  have hbranch : Action.Decorates (.saveRoyaltyReceipt (reply.receipt.decorate truth)) :=
    ⟨rfl, fun hex => by rw [show (reply.receipt.decorate truth).body.receiptId = id from hreply]; exact hid hex⟩
  have hnever : (step (.saveRoyaltyReceipt (reply.receipt.decorate truth))).wp (SignDoes S env w) (signContract S env verify w c)
      (fun _ _ => False) s := call_wp (fun s₁ _ _ hplain _ _ _ _ => absurd hbranch hplain)
  exact Prog.wp_seq hnever (fun _ _ h => h.elim) (fun _ _ h => h.elim)

theorem release_ne (eventId : String) (hex : Hex) : releaseReceiptId eventId ≠ ingestReceiptId hex := fun h => ingest_ne_release h.symm

theorem reversal_ne (reversalEventId : String) (hex : Hex) : reversalReceiptId reversalEventId ≠ ingestReceiptId hex :=
  fun h => ingest_ne_reversal h.symm

/-- Every request keeps the receipts verified and is answered with one that is. -/
theorem signs_wp (hsign : env.SignsWith verify) :
    (c.program env).wp (SignDoes S env w) (signContract S env verify w c) (SignPost env verify) s := by
  have herr : ∀ (e : Failure) (s' : State S), True → SignPost env verify (.error e) s' := fun e s' _ => signPost_error e s'
  have henabled : ∀ route : Program Reply,
      route.wp (SignDoes S env w) (signContract S env verify w c) (SignPost env verify) s →
      (ifEnabled env route).wp (SignDoes S env w) (signContract S env verify w c) (SignPost env verify) s := by
    intro route h
    unfold ifEnabled
    split
    · exact h
    · exact signPost_error _ _
  cases c with
  | ingest req =>
    refine henabled _ ?_
    refine Prog.wp_seq (keepsReceipts_wp (keepsReceipts_of_reads (reads_of_gates (gates_verifyAndParse env req)))) (fun v s₁ _ => ?_) herr
    refine Prog.wp_seq (processObligationCreated_wp hsign v) (fun reply s₂ hreply => ?_) (fun e s' _ => signPost_error e s')
    refine Prog.wp_seq (keepsReceipts_wp (keepsReceipts_of_reads (reads_recordOutcome _))) (fun _ s₃ _ => ?_) herr
    intro reply' h
    cases h
    exact hreply reply rfl
  | release eventId tenantId =>
    refine henabled _ ?_
    unfold withTenant
    split
    · exact signPost_error _ _
    · rename_i t _
      refine Prog.wp_seq (keepsReceipts_wp (Prog.calls_perform trivial)) (fun original s₁ _ => ?_) herr
      refine Prog.wp_seq (releaseObligation_wp hsign t eventId) (fun reply s₂ hreply => ?_) (fun e s' _ => signPost_error e s')
      cases original.bind Receipt.truth with
      | none =>
        intro reply' h
        cases h
        exact (hreply reply rfl).1
      | some truth => exact decorate_wp (release_ne eventId) (hreply reply rfl).2
  | reverse eventId tenantId reversalEventId key reason =>
    refine henabled _ ?_
    unfold withTenant
    split
    · exact signPost_error _ _
    · rename_i t _
      refine Prog.wp_seq (keepsReceipts_wp (Prog.calls_perform trivial)) (fun original s₁ _ => ?_) herr
      refine Prog.wp_seq (reverseObligation_wp hsign t eventId reversalEventId key reason) (fun reply s₂ hreply => ?_)
        (fun e s' _ => signPost_error e s')
      cases original.bind Receipt.truth with
      | none =>
        intro reply' h
        cases h
        exact (hreply reply rfl).1
      | some truth => exact decorate_wp (reversal_ne reversalEventId) (hreply reply rfl).2
  | receipt id =>
    refine Prog.wp_seq (loadVerified_wp id) (fun found s₁ hfound => ?_) (fun e s' _ => signPost_error e s')
    cases found with
    | none => exact signPost_error _ _
    | some receipt =>
      intro reply h
      cases h
      exact hfound receipt rfl

/-- In runs without the branch, every receipt that is stored or returned verifies. -/
theorem signatures_sound (S : TransactionService) (hsign : env.SignsWith verify) :
    (signatures S env verify).Sound (undecorated S env) where
  refl _ _ _ := trivial
  trans _ _ _ _ _ _ _ := trivial
  symm _ _ _ _ _ := trivial
  guar _ _ _ _ _ _ _ _ _ _ := trivial
  start _ _ _ _ := ⟨fun _ _ => trivial, signs_wp hsign⟩
  crash _ _ hinv := ⟨hinv, fun _ _ _ => trivial⟩

end

/-! ## Receipts with a truth added -/

/-- The receipts that are stored: as they were signed, with an id of ingest or no truth, or with a truth added after that. -/
inductive Issued (env : Env) : Receipt → Prop where
  | ingested (body : ReceiptBody) (hex : Hex) (hid : body.receiptId = ingestReceiptId hex) : Issued env (body.signed env)
  | derived (body : ReceiptBody) (hnone : body.economicTruth = none) : Issued env (body.signed env)
  | decorated (body : ReceiptBody) (reasons : List String) (truth : EconomicTruthRef) (hnone : body.economicTruth = none)
      (hreasons : body.statusReasons = .arr (reasons.map .str)) : Issued env ((body.signed env).decorate truth)

/-- The calls that store a receipt with a property, and those that store none. -/
def Saves (P : Receipt → Prop) : Action → Prop
  | .saveRoyaltyReceipt receipt => P receipt
  | _ => True

/-- The calls that store such a receipt, and those that store none. -/
def SavesIssued (env : Env) : Action → Prop
  | .saveRoyaltyReceipt receipt => Issued env receipt
  | _ => True

/-- Going on with a value, or raising. -/
theorem calls_ofExcept {α β : Type} {P : Action → Prop} {x : Except Failure α} {f : α → Program β}
    (hf : ∀ a, x = .ok a → (f a).Calls P) : (ofExcept x >>= f).Calls P := by
  cases x with
  | error e => exact trivial
  | ok a => exact hf a rfl

section

variable {P : Receipt → Prop}

theorem saves_of_keeps {α : Type} {p : Program α} (hp : p.Calls KeepsReceipts) : p.Calls (Saves P) := by
  refine hp.mono (fun o ho => ?_)
  cases o with
  | saveRoyaltyReceipt receipt => exact ho.elim
  | _ => exact trivial

theorem saves_of_reads {α : Type} {p : Program α} (hp : p.Calls Reads) : p.Calls (Saves P) :=
  saves_of_keeps (keepsReceipts_of_reads hp)

/-- The receipts that ingest signs and stores have ids of ingest. -/
theorem saves_work (hP : ∀ (body : ReceiptBody) (hex : Hex), body.receiptId = ingestReceiptId hex → P (body.signed env))
    (v : VerifiedRequest) : (work env v).Calls (Saves P) := by
  unfold work
  refine Prog.calls_bind (saves_of_reads (reads_evaluateDecision _ _ _)) (fun decision => ?_)
  refine Prog.calls_bind (saves_of_keeps (Prog.calls_tryCatch (keepsReceipts_of_reads (reads_clientCreate _))
    (keeps_createFailed v))) ?_
  rintro ⟨obligation, answer⟩
  refine calls_ofExcept (fun receipt hbuild => ?_)
  obtain ⟨body, hbody, rfl⟩ := buildReceipt_ok hbuild
  exact Prog.calls_bind (Prog.calls_perform (hP body answer.hex (buildReceiptBody_ok hbody)))
    (fun _ => Prog.calls_bind (Prog.calls_perform trivial) (fun _ => trivial))

theorem saves_processClaimed (hP : ∀ (body : ReceiptBody) (hex : Hex), body.receiptId = ingestReceiptId hex → P (body.signed env))
    (v : VerifiedRequest) : (processClaimed env v).Calls (Saves P) := by
  unfold processClaimed
  split
  · refine Prog.calls_tryCatch (saves_work hP v) (fun e => ?_)
    cases e with
    | rejection statusCode code message retryable => exact trivial
    | _ => exact saves_of_keeps (keeps_failWith _ _ _)
  · exact trivial
  · exact saves_of_keeps (keeps_failWith _ _ _)

theorem saves_ingest (hP : ∀ (body : ReceiptBody) (hex : Hex), body.receiptId = ingestReceiptId hex → P (body.signed env))
    (req : IngestRequest) : (ingestRoyaltyEvent env req).Calls (Saves P) := by
  refine Prog.calls_bind (saves_of_reads (reads_of_gates (gates_verifyAndParse env req))) (fun v => ?_)
  refine Prog.calls_bind ?_ (fun reply => Prog.calls_bind (saves_of_reads (reads_recordOutcome _)) (fun _ => trivial))
  refine Prog.calls_bind (Prog.calls_perform trivial) (fun claim => ?_)
  cases claim with
  | claimed => exact saves_processClaimed hP v
  | conflict => exact trivial
  | processing => exact trivial
  | completed receiptId =>
    cases receiptId with
    | none => exact saves_processClaimed hP v
    | some receiptId =>
      refine Prog.calls_bind (Prog.calls_perform (by trivial)) (fun found => ?_)
      cases found with
      | none => exact saves_processClaimed hP v
      | some receipt => exact trivial

end

theorem savesIssued_of_keeps {α : Type} {p : Program α} (hp : p.Calls KeepsReceipts) : p.Calls (SavesIssued env) := by
  refine hp.mono (fun o ho => ?_)
  cases o with
  | saveRoyaltyReceipt receipt => exact ho.elim
  | _ => exact trivial

theorem savesIssued_of_reads {α : Type} {p : Program α} (hp : p.Calls Reads) : p.Calls (SavesIssued env) :=
  savesIssued_of_keeps (keepsReceipts_of_reads hp)

theorem savesIssued_ingest (req : IngestRequest) : (ingestRoyaltyEvent env req).Calls (SavesIssued env) := by
  refine (saves_ingest (fun body hex hid => Issued.ingested body hex hid) req).mono (fun o ho => ?_)
  cases o with
  | saveRoyaltyReceipt receipt => exact ho
  | _ => exact trivial

/-- What a release or a reversal does after its request: it issues a receipt, and may add a truth to it. -/
theorem savesIssued_issue (req : ServiceRequest) (refusal : Failure → Failure) (id : String) (status : ServiceAnswer → Nat)
    {more : Reply → Program Reply}
    (hmore : ∀ (body : ReceiptBody) (reasons : List String) (statusCode : Nat), body.economicTruth = none → body.statusReasons = .arr (reasons.map .str) →
      (more ⟨body.signed env, statusCode⟩).Calls (SavesIssued env)) :
    ((do
      let (obligation, answer) ← Prog.tryCatch (clientRequest req) (fun e => Prog.throw (S := signature) (refusal e))
      let receipt ← issueFromObligation env obligation id answer.now
      pure (⟨receipt, status answer⟩ : Reply)) >>= more).Calls (SavesIssued env) := by
  rw [Prog.bind_assoc_eq]
  refine Prog.calls_bind (savesIssued_of_reads (reads_request _ _)) ?_
  rintro ⟨obligation, answer⟩
  dsimp only
  rw [Prog.bind_assoc_eq]
  unfold issueFromObligation
  rw [Prog.bind_assoc_eq]
  refine calls_ofExcept (fun receipt hreceipt => ?_)
  obtain ⟨body, hbody, rfl⟩ := receiptFromObligation_ok hreceipt
  obtain ⟨-, hnone⟩ := bodyFromObligation_ok hbody
  rw [Prog.bind_assoc_eq]
  refine Prog.calls_bind (Prog.calls_perform (Issued.derived body hnone)) (fun _ => ?_)
  exact hmore body obligation.statusReasons _ hnone (bodyFromObligation_reasons hbody)

/-- Every request stores such receipts only. -/
theorem savesIssued_program (c : Call) : (c.program env).Calls (SavesIssued env) := by
  have henabled : ∀ {route : Program Reply}, route.Calls (SavesIssued env) → (ifEnabled env route).Calls (SavesIssued env) := by
    intro route hroute
    unfold ifEnabled
    split
    · exact hroute
    · exact trivial
  have htenant : ∀ (tenantId : Option String) {route : String → Program Reply}, (∀ t, (route t).Calls (SavesIssued env)) →
      (withTenant tenantId route).Calls (SavesIssued env) := by
    intro tenantId route hroute
    unfold withTenant
    split
    · exact trivial
    · exact hroute _
  cases c with
  | ingest req => exact henabled (savesIssued_ingest req)
  | release eventId tenantId =>
    refine henabled (htenant tenantId (fun t => ?_))
    refine Prog.calls_bind (Prog.calls_perform trivial) (fun original => ?_)
    unfold releaseObligation
    refine savesIssued_issue _ (serviceRefusal "obligation is not HELD") _ (fun _ => 200)
      (fun body reasons statusCode hnone hreasons => ?_)
    split
    · exact trivial
    · rename_i truth _
      exact Prog.calls_bind (Prog.calls_perform (Issued.decorated body reasons truth hnone hreasons))
        (fun _ => Prog.calls_bind (savesIssued_of_reads (reads_recordOutcome _)) (fun _ => trivial))
  | reverse eventId tenantId reversalEventId key reason =>
    refine henabled (htenant tenantId (fun t => ?_))
    refine Prog.calls_bind (Prog.calls_perform trivial) (fun original => ?_)
    unfold reverseObligation
    refine savesIssued_issue _ (serviceRefusal "obligation cannot be reversed in its current state") _
      (fun answer => answer.response.statusCode) (fun body reasons statusCode hnone hreasons => ?_)
    split
    · exact trivial
    · rename_i truth _
      exact Prog.calls_bind (Prog.calls_perform (Issued.decorated body reasons truth hnone hreasons))
        (fun _ => Prog.calls_bind (savesIssued_of_reads (reads_recordRoyaltyTruth _ _ _)) (fun _ => trivial))
  | receipt receiptId =>
    refine Prog.calls_bind (Prog.calls_perform (by trivial)) (fun found => ?_)
    cases found with
    | none => exact trivial
    | some receipt => exact trivial

/-- In every state reached from empty tables, the stored receipts were issued. -/
theorem stored_issued {gate : Gate} {service : S.State} {cfg : (machine S env).Config}
    (hrun : (machine S env).Run (.any _) (.init _ ⟨.empty, gate, service⟩) cfg) :
    ∀ r ∈ cfg.state.tables.receipts, Issued env r.payload := by
  refine Machine.Run.keeps_calls (M := machine S env) (A := SavesIssued env)
    (J := fun s : State S => ∀ r ∈ s.tables.receipts, Issued env r.payload) savesIssued_program ?_ (fun _ _ h => h)
    (fun r hr => by cases hr) hrun
  intro w o ch s r s' hsaves _ hJ he x hx
  cases o with
  | saveRoyaltyReceipt receipt =>
    rcases exec_save he with ⟨htables, -⟩ | hw
    · rw [htables] at hx
      exact hJ x hx
    · obtain ⟨id, -, -, -, hmem⟩ := Tables.save_ok hw
      rcases hmem x hx with hx | hx
      · rw [hx]
        exact hsaves
      · exact hJ x hx
  | _ =>
    rw [exec_keepsReceipts (by trivial) he] at hx
    exact hJ x hx

/-! ## Texts of receipts -/

theorem numbersItems_texts (texts : List String) : Json.NumbersItems (texts.map .str) := by
  induction texts with
  | nil => exact trivial
  | cons text texts ih => exact ⟨trivial, ih⟩

/-- The numbers of a receipt are numbers. -/
theorem numbers_json (hnumber : ∀ q, Json.Number (env.number q)) {body : ReceiptBody} (hreasons : body.statusReasons.Numbers) :
    (body.json env).Numbers := by
  have hnullable : ∀ text : Option String, ((text.map Json.str).getD .null).Numbers := by
    intro text
    cases text with
    | none => exact trivial
    | some text => exact trivial
  have hledger : ((body.ledgerTransactionId.map (fun id => Json.str (toString id))).getD .null).Numbers := by
    cases body.ledgerTransactionId with
    | none => exact trivial
    | some id => exact trivial
  have hpayouts : ∀ payouts : List ReceiptPayout, Json.NumbersItems (payouts.map (fun p =>
      .obj [("owner_id", .str p.ownerId), ("amount", .str (ledgerText p.amount)), ("state", .str p.state)])) := by
    intro payouts
    induction payouts with
    | nil => exact trivial
    | cons p payouts ih => exact ⟨⟨trivial, trivial, trivial, trivial⟩, ih⟩
  refine (Json.numbersMembers_iff _).2 (fun m hm => ?_)
  rcases List.mem_append.1 hm with hm | hm
  · refine (Json.numbersMembers_iff _).1 ?_ m hm
    exact ⟨trivial, trivial, trivial, hreasons, trivial, trivial, trivial, trivial, hledger,
      ⟨trivial, trivial, trivial, trivial, trivial⟩, hpayouts _, ⟨trivial, hnumber _, numbersItems_texts _, trivial⟩, trivial, trivial⟩
  · cases htruth : body.economicTruth with
    | none =>
      rw [htruth] at hm
      cases hm
    | some truth =>
      rw [htruth] at hm
      rw [List.mem_singleton.1 hm]
      cases truth with
      | none => exact trivial
      | some truth => exact ⟨trivial, trivial, trivial, hnullable _, trivial, trivial⟩

/-- How many members a value has. -/
def memberCount : Json → Nat
  | .obj members => members.length
  | _ => 0

/-- Putting members in order keeps their number. -/
theorem memberCount_sortKeys (v : Json) : memberCount v.sortKeys = memberCount v := by
  have hvalues : ∀ members : List (String × Json), (Json.sortValues members).length = members.length := by
    intro members
    induction members with
    | nil => rfl
    | cons m members ih => simp [Json.sortValues, ih]
  cases v with
  | obj members =>
    have hperm : (Json.sortMembers (Json.sortValues members)).Perm (Json.sortValues members) := List.perm_insertionSort _ _
    exact hperm.length_eq.trans (hvalues members)
  | _ => rfl

/-- A receipt to which a truth is added has another text than the one that was signed. -/
theorem decorated_payload (hnumber : ∀ q, Json.Number (env.number q)) {body : ReceiptBody} {reasons : List String}
    (hnone : body.economicTruth = none) (hreasons : body.statusReasons = .arr (reasons.map .str)) (truth : EconomicTruthRef) :
    ({ body with economicTruth := some (some truth) } : ReceiptBody).payload env ≠ body.payload env := by
  have hnumbers : body.statusReasons.Numbers := by
    rw [hreasons]
    exact numbersItems_texts reasons
  have hcount : ∀ b : ReceiptBody, memberCount (b.json env) = 13 + (if b.economicTruth.isSome then 1 else 0) := by
    intro b
    cases htruth : b.economicTruth with
    | none => simp [ReceiptBody.json, memberCount, htruth]
    | some t => simp [ReceiptBody.json, memberCount, htruth]
  generalize hdecorated : ({ body with economicTruth := some (some truth) } : ReceiptBody) = decorated
  have htruth : decorated.economicTruth.isSome = true := by
    rw [← hdecorated]
    rfl
  have hdecoratedNumbers : decorated.statusReasons.Numbers := by
    rw [← hdecorated]
    exact hnumbers
  intro hsame
  have hjson := (Json.dumps_inj Json.commas_spaced (numbers_json hnumber hdecoratedNumbers) (numbers_json hnumber hnumbers)).1 hsame
  have hcounts : memberCount (decorated.json env).sortKeys = memberCount (body.json env).sortKeys := by rw [hjson]
  rw [memberCount_sortKeys, memberCount_sortKeys, hcount, hcount, htruth, hnone] at hcounts
  cases hcounts

end RoyaltyGateway

end Archisynapse
