import Archisynapse.Lemmas.RoyaltyGatewaySignatures

/-!
# Receipts of releases and reversals

A release or a reversal makes its receipt of the obligation it is answered with and of the clock (`Issue`), and stores it over the
receipt with the same id. In a run whose issues for one id agree (`steady`), every receipt that is stored under such an id is the
one of an issue of the run (`Stored`), and stays (`stable_sound`).
-/

namespace Archisynapse

namespace RoyaltyGateway

open Royalty (RoyaltyObligation)

variable {S : TransactionService} {env : Env}

/-! ## Issues -/

/-- What a receipt of a release or a reversal is made of. -/
structure Issue where
  receiptId : String
  obligation : RoyaltyObligation
  issuedAt : Int
  deriving DecidableEq

/-- The receipt of an issue. -/
def Issue.receipt (env : Env) (i : Issue) : Except Failure Receipt := receiptFromObligation env i.obligation i.receiptId i.issuedAt

/-- The id of the receipt that is issued after a request. -/
def ServiceRequest.receiptId : ServiceRequest → Option String
  | .createObligation _ => none
  | .releaseObligation _ eventId _ => some (releaseReceiptId eventId)
  | .reverseObligation _ _ reversalEventId _ _ => some (reversalReceiptId reversalEventId)

/-- The obligation of an answer that the client accepts. -/
def ServiceResponse.obligation (response : ServiceResponse) : Option RoyaltyObligation :=
  if response.statusCode = 200 ∨ response.statusCode = 201 then response.json.toOption else none

/-- What is issued after a request is answered. -/
def issueOf : (machine S env).Record → Option Issue
  | ⟨_, .service req, .ok answer⟩ =>
    match req.receiptId, answer.response.obligation with
    | some id, some obligation => some ⟨id, obligation, answer.now⟩
    | _, _ => none
  | _ => none

/-- The issues of a run. -/
def issues (log : List (machine S env).Record) : List Issue := log.filterMap issueOf

/-- An obligation without what its receipts do not state. -/
def stated (o : RoyaltyObligation) : RoyaltyObligation := { o with organizationId := "", idempotencyKey := "", splits := [] }

/-- Two issues whose receipts are stored under one id state the same, at the same time. -/
def Issue.Agrees (i j : Issue) : Prop := ∀ id, varchar 255 i.receiptId = some id → varchar 255 j.receiptId = some id →
  i.receiptId = j.receiptId ∧ stated i.obligation = stated j.obligation ∧ i.issuedAt = j.issuedAt

/-- The runs whose issues agree, and in which no truth is added to a receipt. -/
def steady (S : TransactionService) (env : Env) : (machine S env).recorded.Cond :=
  ⟨fun _ _ => True, fun _ o s => ¬ o.Decorates ∧ ∀ i ∈ issues s.2, ∀ j ∈ issues s.2, i.Agrees j⟩

/-- Issues that agree make the same receipt. -/
theorem Issue.Agrees.receipt {i j : Issue} (h : i.Agrees j) {id : String} (hi : varchar 255 i.receiptId = some id)
    (hj : varchar 255 j.receiptId = some id) : i.receipt env = j.receipt env := by
  obtain ⟨hid, hobligation, hnow⟩ := h id hi hj
  have hstated : ∀ k : Issue, k.receipt env = receiptFromObligation env (stated k.obligation) k.receiptId k.issuedAt := fun _ => rfl
  rw [hstated i, hstated j, hid, hobligation, hnow]

/-! ## The outline -/

/-- A text that is no id of ingest. -/
def Foreign (id : String) : Prop := ∀ hex, id ≠ ingestReceiptId hex

/-- The state with the calls of a run. -/
abbrev Logged (S : TransactionService) (env : Env) : Type := (machine S env).recorded.State

/-- A receipt is stored for an issue. -/
def Stored (s : Logged S env) (i : Issue) (receipt : Receipt) : Prop :=
  i ∈ issues s.2 ∧ i.receipt env = .ok receipt ∧
    ∃ id, varchar 255 i.receiptId = some id ∧ s.1.tables.loadRoyaltyReceipt id = some receipt

/-- The receipts that are stored under ids of releases and reversals stay. -/
def KeepsForeign (d d' : Tables) : Prop :=
  ∀ id receipt, Foreign id → d.loadRoyaltyReceipt id = some receipt → d'.loadRoyaltyReceipt id = some receipt

theorem KeepsForeign.trans {d d' d'' : Tables} (h : KeepsForeign d d') (h' : KeepsForeign d' d'') : KeepsForeign d d'' :=
  fun id receipt hid hload => h' id receipt hid (h id receipt hid hload)

/-- The id of the receipt of a request to the gateway, if it is a release or a reversal. -/
def Call.receiptId : Call → Option String
  | .release eventId _ => some (releaseReceiptId eventId)
  | .reverse _ _ reversalEventId _ _ => some (reversalReceiptId reversalEventId)
  | _ => none

/-- The outline of runs whose receipts stay. -/
def stable (S : TransactionService) (env : Env) : Machine.Outline (machine S env).recorded where
  inv s := ∀ id receipt, Foreign id → s.1.tables.loadRoyaltyReceipt id = some receipt →
    ∃ i ∈ issues s.2, varchar 255 i.receiptId = some id ∧ i.receipt env = .ok receipt
  rely _ _ s s' := s.2 <+: s'.2
  guar _ _ s s' := s.2 <+: s'.2 ∧ KeepsForeign s.1.tables s'.1.tables
  compat _ _ _ _ := True
  post _ c out s := ∀ reply, out = .ok reply → ∀ id, c.receiptId = some id →
    ∃ i, i.receiptId = id ∧ Stored s i reply.receipt

theorem mem_issues_append {l l' : List (machine S env).Record} (h : l <+: l') {i : Issue} (hi : i ∈ issues l) : i ∈ issues l' := by
  obtain ⟨more, rfl⟩ := h
  unfold issues
  rw [List.filterMap_append]
  exact List.mem_append_left _ hi

section

variable {w : Nat} {c : Call} {s : Logged S env}

/-- The calls of a request in a run whose issues agree. -/
abbrev StableDoes (S : TransactionService) (env : Env) (w : Nat) := (machine S env).recorded.Does (steady S env) w

/-- The contract of a request. -/
abbrev stableContract (S : TransactionService) (env : Env) (w : Nat) (c : Call) := (stable S env).contract w c

/-- One call, which is kept. -/
theorem logged_wp {o : Action} {Q : Except Failure o.Result → Logged S env → Prop}
    (h : ∀ s₁ : Logged S env, s.2 <+: s₁.2 → (stable S env).inv s₁ → (steady S env).step w o s₁ →
      ∀ ch r t, exec o ch s₁.1 = some (r, t) →
        (stable S env).inv (t, s₁.2 ++ [⟨w, o, r⟩]) ∧ KeepsForeign s₁.1.tables t.tables ∧ Q r (t, s₁.2 ++ [⟨w, o, r⟩])) :
    (step o).wp (StableDoes S env w) (stableContract S env w c) Q s := by
  unfold step
  rw [Prog.wp_perform]
  rintro s₁ hrely hinv r s₂ ⟨hstep, ch, he⟩
  obtain ⟨⟨r', t⟩, he', hr⟩ := Option.map_eq_some_iff.1 he
  obtain ⟨rfl, rfl⟩ := Prod.mk.inj hr
  obtain ⟨hinv', hkeeps, hQ⟩ := h s₁ hrely hinv hstep ch r' t he'
  exact ⟨hinv', ⟨List.prefix_append _ _, hkeeps⟩, hQ⟩

/-- The invariant depends on the receipts, and on calls that were made. -/
theorem stable_inv_of {s s' : Logged S env} (hinv : (stable S env).inv s) (hlog : s.2 <+: s'.2)
    (hload : ∀ id, Foreign id → s'.1.tables.loadRoyaltyReceipt id = s.1.tables.loadRoyaltyReceipt id) : (stable S env).inv s' := by
  intro id receipt hid hreceipt
  rw [hload id hid] at hreceipt
  obtain ⟨i, hi, hstored, hmade⟩ := hinv id receipt hid hreceipt
  exact ⟨i, mem_issues_append hlog hi, hstored, hmade⟩

/-- The calls that store no receipt but one with an id of ingest. -/
abbrev SavesIngested : Action → Prop := Saves (fun receipt => ∃ hex, receipt.body.receiptId = ingestReceiptId hex)

/-- Such a call leaves the receipts with other ids. -/
theorem exec_foreign {o : Action} (ho : SavesIngested o) {ch : Choice S} {s s' : State S} {r : Except Failure o.Result}
    (h : exec o ch s = some (r, s')) {id : String} (hid : Foreign id) :
    s'.tables.loadRoyaltyReceipt id = s.tables.loadRoyaltyReceipt id := by
  by_cases hsave : KeepsReceipts o
  · unfold Tables.loadRoyaltyReceipt
    rw [exec_keepsReceipts hsave h]
  · cases o with
    | saveRoyaltyReceipt receipt =>
      obtain ⟨hex, hreceipt⟩ := ho
      rcases exec_save h with ⟨htables, -⟩ | hw
      · rw [htables]
      · obtain ⟨stored, hstored, -, hload, -⟩ := Tables.save_ok hw
        rw [hreceipt, column_ingest] at hstored
        rw [hload, if_neg]
        exact fun h => hid hex (h.trans (Option.some.inj hstored).symm)
    | _ => exact absurd trivial hsave

/-- A program of such calls. -/
theorem foreign_wp {α : Type} {p : Program α} (hp : p.Calls SavesIngested) :
    p.wp (StableDoes S env w) (stableContract S env w c) (fun _ _ => True) s := by
  refine Prog.Calls.wp_moves (R := fun _ _ => True) (fun _ _ _ _ _ => trivial) ?_ hp (t := s) trivial
  rintro o s₁ r s₂ ho hinv ⟨-, ch, he⟩
  obtain ⟨⟨r', t⟩, he', hr⟩ := Option.map_eq_some_iff.1 he
  obtain ⟨rfl, rfl⟩ := Prod.mk.inj hr
  have hload : ∀ id, Foreign id → t.tables.loadRoyaltyReceipt id = s₁.1.tables.loadRoyaltyReceipt id :=
    fun id hid => exec_foreign ho he' hid
  refine ⟨stable_inv_of hinv (List.prefix_append _ _) hload, ⟨List.prefix_append _ _, fun id receipt hid h => ?_⟩, fun _ _ => trivial⟩
  rw [hload id hid]
  exact h

/-! ## The programs -/

/-- A request to the transaction service, whose answer is kept. -/
theorem request_logged {req : ServiceRequest} {id : String} (hid : req.receiptId = some id) :
    (step (.service req)).wp (StableDoes S env w) (stableContract S env w c)
      (fun r s' => ∀ answer, r = .ok answer → ∀ o, answer.response.obligation = some o → (⟨id, o, answer.now⟩ : Issue) ∈ issues s'.2)
      s := by
  refine logged_wp (fun s₁ _ hinv _ ch r t he => ?_)
  have hload : ∀ id, t.tables.loadRoyaltyReceipt id = s₁.1.tables.loadRoyaltyReceipt id := by
    intro id
    unfold Tables.loadRoyaltyReceipt
    rw [exec_keepsReceipts (o := .service req) trivial he]
  refine ⟨stable_inv_of hinv (List.prefix_append _ _) (fun id _ => hload id), fun id receipt _ h => by rw [hload, h], ?_⟩
  rintro answer rfl o ho
  unfold issues
  rw [List.filterMap_append]
  refine List.mem_append_right _ ?_
  simp [issueOf, hid, ho]

/-- A request to the transaction service whose obligation is accepted is an issue. -/
theorem request_wp {req : ServiceRequest} {id : String} (hid : req.receiptId = some id) (refusal : Failure → Failure) :
    ((clientRequest req).tryCatch (fun e => Prog.throw (S := signature) (refusal e))).wp (StableDoes S env w)
      (stableContract S env w c)
      (fun r s' => ∀ a, r = .ok a → (⟨id, a.1, a.2.now⟩ : Issue) ∈ issues s'.2) s := by
  have hrequest : (clientRequest req).wp (StableDoes S env w) (stableContract S env w c)
      (fun r s' => ∀ a, r = .ok a → (⟨id, a.1, a.2.now⟩ : Issue) ∈ issues s'.2) s := by
    unfold clientRequest
    refine Prog.wp_seq (request_logged hid) (fun answer s₁ hanswer => ?_) (fun _ _ _ _ h => by cases h)
    unfold accepted
    split
    · rename_i hcode
      split
      · rename_i o hjson
        intro a ha
        cases ha
        refine hanswer _ rfl o ?_
        unfold ServiceResponse.obligation
        rw [if_pos hcode, hjson]
        rfl
      · exact fun _ h => by cases h
    · exact fun _ h => by cases h
  exact Prog.wp_handle hrequest (fun _ _ h => h) (fun _ _ _ _ h => by cases h)

/-- A receipt that is issued and stored. -/
theorem issue_stable {obligation : RoyaltyObligation} {id : String} {now : Int}
    (hissue : (⟨id, obligation, now⟩ : Issue) ∈ issues s.2) :
    (issueFromObligation env obligation id now).wp (StableDoes S env w) (stableContract S env w c)
      (fun r s' => ∀ receipt, r = .ok receipt → receipt.body.receiptId = id ∧ Stored s' ⟨id, obligation, now⟩ receipt) s := by
  unfold issueFromObligation
  refine ofExcept_wp (fun _ _ _ h => by cases h) (fun receipt hreceipt => ?_)
  have hname : receipt.body.receiptId = id := by
    obtain ⟨body, hbody, rfl⟩ := receiptFromObligation_ok hreceipt
    exact (bodyFromObligation_ok hbody).1
  refine Prog.wp_seq (logged_wp (Q := fun r s' => r = .ok () → Stored s' ⟨id, obligation, now⟩ receipt) ?_)
    (fun _ s' hstored => ?_) (fun _ _ _ _ h => by cases h)
  · intro s₁ hlog hinv hsteady ch r t he
    have hmine := mem_issues_append hlog hissue
    have hgrown : s₁.2 <+: s₁.2 ++ [⟨w, .saveRoyaltyReceipt receipt, r⟩] := List.prefix_append _ _
    rcases exec_save he with ⟨htables, e, rfl⟩ | hw
    · refine ⟨stable_inv_of hinv hgrown (fun _ _ => by rw [htables]), fun _ _ _ h => by rw [htables, h], nofun⟩
    · obtain ⟨stored, hstored, -, hload, -⟩ := Tables.save_ok hw
      rw [hname] at hstored
      -- what is stored under the id already is the receipt of an issue, which agrees with this one
      have hsame : ∀ old, s₁.1.tables.loadRoyaltyReceipt stored = some old → Foreign stored → old = receipt := by
        intro old hold hforeign
        obtain ⟨j, hj, hjid, hjmade⟩ := hinv stored old hforeign hold
        rw [(hsteady.2 j hj _ hmine).receipt hjid hstored] at hjmade
        exact (Except.ok.inj (hjmade.symm.trans hreceipt))
      refine ⟨fun id' receipt' hid' hload' => ?_, fun id' old hid' hold => ?_, fun _ => ?_⟩
      · rw [hload] at hload'
        split at hload'
        · rename_i heq
          obtain rfl := Option.some.inj hload'
          exact ⟨_, mem_issues_append hgrown hmine, hstored.trans (congrArg some heq.symm), hreceipt⟩
        · obtain ⟨j, hj, hjid, hjmade⟩ := hinv id' receipt' hid' hload'
          exact ⟨j, mem_issues_append hgrown hj, hjid, hjmade⟩
      · rw [hload]
        split
        · rename_i heq
          subst heq
          rw [hsame old hold hid']
        · exact hold
      · exact ⟨mem_issues_append hgrown hmine, hreceipt, stored, hstored, by rw [hload, if_pos rfl]⟩
  · intro receipt' h
    cases h
    exact ⟨hname, hstored rfl⟩

/-- What a release or a reversal is answered with is stored for an issue with its id. -/
def StablePost (id : String) (out : Except Failure Reply) (s : Logged S env) : Prop :=
  ∀ reply, out = .ok reply → reply.receipt.body.receiptId = id ∧ ∃ i : Issue, i.receiptId = id ∧ Stored s i reply.receipt

/-- A request to the transaction service, and the receipt of its obligation. -/
theorem issues_wp {req : ServiceRequest} {id : String} (hreq : req.receiptId = some id) (refusal : Failure → Failure)
    (status : ServiceAnswer → Nat) :
    (do
      let (obligation, answer) ← Prog.tryCatch (clientRequest req) (fun e => Prog.throw (S := signature) (refusal e))
      let receipt ← issueFromObligation env obligation id answer.now
      pure (⟨receipt, status answer⟩ : Reply) : Program Reply).wp (StableDoes S env w) (stableContract S env w c) (StablePost id) s := by
  refine Prog.wp_seq (request_wp hreq refusal) ?_ (fun _ _ _ _ h => by cases h)
  rintro ⟨obligation, answer⟩ s₁ hissue
  refine Prog.wp_seq (issue_stable (hissue _ rfl)) (fun receipt s₂ hreceipt => ?_) (fun _ _ _ _ h => by cases h)
  intro reply hreply
  cases hreply
  obtain ⟨hname, hstored⟩ := hreceipt receipt rfl
  exact ⟨hname, _, rfl, hstored⟩

/-- A run in which no truth is added has no call that adds one. -/
theorem decorate_never {id : String} (hid : Foreign id) {truth : EconomicTruthRef} {reply : Reply}
    (hreply : reply.receipt.body.receiptId = id) {f : Unit → Program Reply} {Q : Except Failure Reply → Logged S env → Prop} :
    (step (.saveRoyaltyReceipt (reply.receipt.decorate truth)) >>= f).wp (StableDoes S env w) (stableContract S env w c) Q s := by
  have hbranch : Action.Decorates (.saveRoyaltyReceipt (reply.receipt.decorate truth)) :=
    ⟨rfl, fun hex => by rw [show (reply.receipt.decorate truth).body.receiptId = id from hreply]; exact hid hex⟩
  have hnever : (step (.saveRoyaltyReceipt (reply.receipt.decorate truth))).wp (StableDoes S env w) (stableContract S env w c)
      (fun _ _ => False) s := logged_wp (fun _ _ _ hplain _ _ _ _ => absurd hbranch hplain.1)
  exact Prog.wp_seq hnever (fun _ _ h => h.elim) (fun _ _ h => h.elim)

/-- Every request keeps its contract. -/
theorem program_stable : (c.program env).wp (StableDoes S env w) (stableContract S env w c) ((stable S env).post w c) s := by
  have hsilent : ∀ {p : Program Reply}, p.Calls SavesIngested → c.receiptId = none →
      p.wp (StableDoes S env w) (stableContract S env w c) ((stable S env).post w c) s := by
    intro p hp hnone
    exact Prog.wp_mono (fun _ _ _ _ _ id hid => by rw [hnone] at hid; cases hid) _ (foreign_wp hp)
  have hroute : ∀ (tenantId : Option String) {route : String → Program Reply},
      (∀ t, (route t).wp (StableDoes S env w) (stableContract S env w c) ((stable S env).post w c) s) →
      (ifEnabled env (withTenant tenantId route)).wp (StableDoes S env w) (stableContract S env w c) ((stable S env).post w c) s := by
    intro tenantId route h
    unfold ifEnabled
    split
    · unfold withTenant
      split
      · exact fun _ h => by cases h
      · exact h _
    · exact fun _ h => by cases h
  cases c with
  | ingest req =>
    refine hsilent (p := ifEnabled env (ingestRoyaltyEvent env req)) ?_ rfl
    unfold ifEnabled
    split
    · exact saves_ingest (fun body hex hid => ⟨hex, hid⟩) req
    · exact trivial
  | receipt id =>
    refine hsilent (Prog.calls_bind (Prog.calls_perform (by exact trivial)) (fun found => ?_)) rfl
    cases found with
    | none => exact trivial
    | some receipt => exact trivial
  | release eventId tenantId =>
    refine hroute tenantId (fun t => ?_)
    refine Prog.wp_seq (foreign_wp (Prog.calls_perform (by exact trivial))) (fun original s₁ _ => ?_) (fun _ _ _ _ h => by cases h)
    refine Prog.wp_seq (issues_wp rfl _ (fun _ => 200)) (fun reply s₂ hreply => ?_) (fun _ _ _ _ h => by cases h)
    cases original.bind Receipt.truth with
    | none =>
      intro reply' h id hid
      cases h
      cases hid
      exact (hreply reply rfl).2
    | some truth => exact decorate_never (release_ne eventId) (hreply reply rfl).1
  | reverse eventId tenantId reversalEventId key reason =>
    refine hroute tenantId (fun t => ?_)
    refine Prog.wp_seq (foreign_wp (Prog.calls_perform (by exact trivial))) (fun original s₁ _ => ?_) (fun _ _ _ _ h => by cases h)
    refine Prog.wp_seq (issues_wp rfl _ (fun answer => answer.response.statusCode))
      (fun reply s₂ hreply => ?_) (fun _ _ _ _ h => by cases h)
    cases original.bind Receipt.truth with
    | none =>
      intro reply' h id hid
      cases h
      cases hid
      exact (hreply reply rfl).2
    | some truth => exact decorate_never (reversal_ne reversalEventId) (hreply reply rfl).1

/-- In runs whose issues agree, the receipts of releases and reversals stay, and are what these are answered with. -/
theorem stable_sound (S : TransactionService) (env : Env) : (stable S env).Sound (steady S env) where
  refl _ _ _ := List.prefix_rfl
  trans _ _ _ _ _ h h' := h.trans h'
  symm _ _ _ _ _ := trivial
  guar _ _ _ _ _ _ _ _ _ h := h.1
  start _ _ _ _ := ⟨fun _ _ => trivial, program_stable⟩
  crash _ _ hinv := ⟨hinv, fun _ _ _ => List.prefix_rfl⟩

end

end RoyaltyGateway

end Archisynapse
