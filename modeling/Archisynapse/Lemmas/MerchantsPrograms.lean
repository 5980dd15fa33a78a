import Archisynapse.Base.History
import Archisynapse.Lemmas.MerchantsTransactions

/-!
# The operations keep their contract

What each statement answers to a transaction that holds a merchant's row, and from these, what the five operations have written when
they commit: one step of the merchant's account.
-/

namespace Archisynapse

namespace Merchants

variable {env : Env} {w : Nat}

/-- A call of a worker may answer `r` in `s` and leave `s'`. -/
def Makes (env : Env) (w : Nat) (o : Op) (s : State) (r : Except MerchantError o.Result) (s' : State) : Prop :=
  ∃ ch, exec env w o ch s = some (r, s')

/-- The contract of a worker. -/
def contract (env : Env) (w : Nat) : Contract State := ⟨State.Sound env, Rely w, Guar w⟩

/-- A text the database takes is left as it is. -/
theorem argument_ok {text stored : String} (h : argument text = .ok stored) : stored = text := by
  unfold argument at h
  split at h
  · cases h
  · cases h
    rfl

/-- A statement that was answered found its connection up. -/
theorem statement_ok {α : Type} {ch : Choice} {s s' : State} {out : Outcome α} {a : α}
    (h : statement ch s w out = some (.ok a, s')) : out = some (.ok a, s') := by
  unfold statement at h
  split at h
  · cases h
  · exact h

/-- A call that is no commit, from what it answers in the states the others may leave. -/
theorem quiet_wp {o : Op} (ho : o.Quiet) {P : o.Result → State → Prop} {s : State}
    (h : ∀ s₁, Rely w s s₁ → s₁.Sound env → ∀ ch a s₂, exec env w o ch s₁ = some (.ok a, s₂) → P a s₂) :
    (Prog.perform (S := sig) o).wp (Makes env w) (contract env w) (Prog.Returning P) s := by
  rw [Prog.wp_perform]
  rintro s₁ hrely hsound r s₂ ⟨ch, he⟩
  obtain ⟨-, hkeeps, hguar⟩ := exec_quiet ho he
  refine ⟨hkeeps hsound, hguar, ?_⟩
  cases r with
  | ok a => exact h s₁ hrely hsound ch a s₂ he
  | error e => exact trivial

/-! ## Statements of a transaction -/

/-- A transaction that wrote nothing sees what was committed. -/
theorem view_nothing {s : State} (h : s.writes w = []) : s.view w = s.tables := by
  unfold State.view
  rw [h]
  rfl

/-- The row that a transaction locks first. -/
theorem selectForUpdate_ok {s s' : State} {m : String} {row : MerchantRow} (hnothing : s.writes w = [])
    (h : s.selectForUpdate w m = some (.ok (some row), s')) : Owns w m ⟨some row, (s.tables.account m).keys⟩ [] s' := by
  unfold State.selectForUpdate at h
  split at h
  · cases h
  · rename_i hm
    rw [argument_ok hm, view_nothing hnothing] at h
    split at h
    · cases h
    · rename_i hrow
      split at h
      · cases h
      · cases h
        refine ⟨if_pos rfl, ?_, hnothing⟩
        exact congrArg (fun r => Account.mk r _) hrow

/-- One write more. -/
theorem Owns.write {m : String} {a : Account} {writes : List Write} {s : State} (h : Owns w m a writes s) (x : Write) :
    Owns w m a (writes ++ [x]) (s.write w x) := by
  refine ⟨h.held, h.account, ?_⟩
  rw [writes_write, h.wrote]

/-- A row that is held is held again. -/
theorem Owns.hold {m : String} {a : Account} {writes : List Write} {s : State} (h : Owns w m a writes s) :
    Owns w m a writes (s.hold w m) :=
  ⟨if_pos rfl, h.account, h.wrote⟩

/-- The keys that an update revokes are those it finds in the account as the transaction sees it. -/
theorem updateKeys_ok {m : String} {a : Account} {writes : List Write} {s s' : State} (hown : Owns w m a writes s)
    {which : KeyRow → Bool} {n : Nat} (h : s.updateKeys w m which = some (.ok n, s')) :
    n = ((writes.foldl (fun a x => x.on m a) a).keys.filter which).length ∧
      Owns w m a (writes ++ [.revokeKeys m (((writes.foldl (fun a x => x.on m a) a).keys.filter which).map (·.keyId))]) s' := by
  unfold State.updateKeys at h
  dsimp only at h
  split at h
  · cases h
  · cases h
    have hkeys : (s.view w).keysOf m = (writes.foldl (fun a x => x.on m a) a).keys := congrArg Account.keys hown.view
    rw [hkeys]
    exact ⟨rfl, hown.write _⟩

theorem revokeActiveKeys_ok {m : String} {a : Account} {s s' : State} (hown : Owns w m a [] s) {n : Nat}
    (h : s.revokeActiveKeys w m = some (.ok n, s')) : Owns w m a [.revokeKeys m (a.activeKeys.map (·.keyId))] s' := by
  unfold State.revokeActiveKeys at h
  split at h
  · cases h
  · rename_i hm
    rw [argument_ok hm] at h
    exact (updateKeys_ok hown h).2

theorem revokeKey_ok {m keyId : String} {a : Account} {s s' : State} (hown : Owns w m a [] s) {n : Nat}
    (h : s.revokeKey w m keyId = some (.ok n, s')) :
    n = (a.keys.filter (fun k => decide (k.keyId = keyId) && k.active)).length ∧
      Owns w m a [.revokeKeys m ((a.keys.filter (fun k => decide (k.keyId = keyId) && k.active)).map (·.keyId))] s' := by
  unfold State.revokeKey at h
  split at h
  · cases h
  · cases h
  · rename_i hm hk
    rw [argument_ok hm, argument_ok hk] at h
    exact updateKeys_ok hown h

theorem insertMerchant_ok {m name plan : String} {s s' : State} (hnothing : s.writes w = [])
    (h : s.insertMerchant w m name plan = some (.ok (), s')) :
    (s.tables.account m).merchant = none ∧
      ∃ name plan, Owns w m (s.tables.account m) [.insertMerchant ⟨m, name, plan, .active⟩] s' := by
  unfold State.insertMerchant at h
  split at h
  · cases h
  · cases h
  · cases h
  · rename_i m' name' plan' hm hname hplan
    rw [argument_ok hm, view_nothing hnothing] at h
    split at h
    · cases h
    · rename_i hnew
      split at h
      · cases h
      · cases h
        refine ⟨Option.not_isSome_iff_eq_none.1 hnew, name', plan', if_pos rfl, rfl, ?_⟩
        refine (writes_write _ w _).trans ?_
        exact congrArg (· ++ _) hnothing

theorem insertKey_ok {m keyId keyPrefix apiKeyHash environment apiKey : String} {a : Account} {writes : List Write} {s s' : State}
    (hown : Owns w m a writes s) (h : s.insertKey w keyId m keyPrefix apiKeyHash environment apiKey = some (.ok (), s')) :
    Owns w m a (writes ++ [.insertKey ⟨keyId, m, keyPrefix, apiKeyHash, environment, .active⟩ apiKey]) s' := by
  unfold State.insertKey at h
  split at h
  · cases h
  · rename_i hm
    rw [argument_ok hm] at h
    split at h
    · cases h
    · split at h
      · cases h
      · split at h
        · cases h
        · split at h
          · cases h
          · cases h
            exact hown.write _

theorem setMerchantStatus_ok {m : String} {status : MerchantStatus} {a : Account} {writes : List Write} {s s' : State}
    (hown : Owns w m a writes s) (hthere : (writes.foldl (fun a x => x.on m a) a).merchant ≠ none)
    (h : s.setMerchantStatus w m status = some (.ok (), s')) : Owns w m a (writes ++ [.setStatus m status]) s' := by
  unfold State.setMerchantStatus at h
  split at h
  · cases h
  · rename_i hm
    rw [argument_ok hm] at h
    split at h
    · rename_i hnone
      have hrow : (s.view w).merchantOf m = (writes.foldl (fun a x => x.on m a) a).merchant := congrArg Account.merchant hown.view
      rw [hrow] at hnone
      exact absurd (Option.isNone_iff_eq_none.1 hnone) hthere
    · split at h
      · cases h
      · cases h
        exact hown.hold.write _

theorem insertAudit_ok {m eventType : String} {details : Json} {a : Account} {writes : List Write} {s s' : State}
    (hown : Owns w m a writes s) (h : s.insertAudit w m eventType details = some (.ok (), s')) :
    Owns w m a (writes ++ [.audit ⟨m, eventType, details⟩]) s' := by
  unfold State.insertAudit at h
  split at h
  · cases h
  · rename_i hm
    rw [argument_ok hm] at h
    split at h
    · cases h
    · split at h
      · cases h
      · cases h
        exact hown.write _

/-! ## Transactions -/

/-- A transaction that is ready to commit: what it wrote makes one step of the account it holds. -/
def Ready (env : Env) (w : Nat) (s : State) : Prop := ∃ m a writes, Owns w m a writes s ∧ Fits env m a writes

/-- The commit of a transaction that is ready for it. -/
theorem commit_wp {s : State} (hready : Ready env w s) :
    (Prog.perform (S := sig) .commit).wp (Makes env w) (contract env w) (Prog.Returning fun _ _ => True) s := by
  refine (Prog.wp_perform (S := sig) .commit s).2 ?_
  rintro s₁ hrely hsound r s₂ ⟨ch, he⟩
  obtain ⟨m, a, writes, hown, hfits⟩ := hready
  have hown₁ := hown.rely hrely
  have hcommitted := commit_sound hsound hown₁ hfits
  have hguar := commit_guar hown₁ hfits
  have hok : s₂.Sound env ∧ Guar w s₁ s₂ := by
    unfold exec at he
    dsimp only at he
    cases hf : ch.fault with
    | none =>
      rw [hf] at he
      cases he
      exact ⟨hcommitted, hguar⟩
    | some fault =>
      rw [hf] at he
      cases fault with
      | before =>
        cases he
        exact ⟨hsound.abandon w, guar_abandon s₁ w⟩
      | after =>
        cases he
        exact ⟨hcommitted, hguar⟩
  refine ⟨hok.1, hok.2, ?_⟩
  cases r with
  | ok a => exact trivial
  | error e => exact trivial

/-- A transaction whose body is ready to commit when it returns keeps the contract. -/
theorem inTransaction_wp {α : Type} {body : Prog sig α}
    (hbody : ∀ s, s.writes w = [] → body.wp (Makes env w) (contract env w) (Prog.Returning fun _ => Ready env w) s) (s : State) :
    (inTransaction body).wp (Makes env w) (contract env w) (Prog.Returning fun _ _ => True) s := by
  have hbegin : (Prog.perform (S := sig) .begin).wp (Makes env w) (contract env w)
      (Prog.Returning fun _ s => s.writes w = []) s := by
    refine quiet_wp (o := .begin) trivial (fun s₁ _ _ ch a s₂ he => ?_)
    cases statement_ok he
    exact writes_abandon s₁ w
  refine Prog.wp_then hbegin (fun _ s hnothing => ?_)
  have hrolled : (body.tryCatch (fun e => do
      Prog.perform (S := sig) .rollback
      Prog.throw e)).wp (Makes env w) (contract env w) (Prog.Returning fun _ => Ready env w) s := by
    refine Prog.wp_handle (hbody s hnothing) (fun a s' h => h) (fun e s' _ => ?_)
    have hrollback : (Prog.perform (S := sig) .rollback).wp (Makes env w) (contract env w)
        (Prog.Returning fun _ _ => True) s' := quiet_wp (o := .rollback) trivial (fun _ _ _ _ _ _ _ => trivial)
    exact Prog.wp_then hrollback (fun _ _ _ => trivial)
  exact Prog.wp_then hrolled (fun a s hready => Prog.wp_then (commit_wp hready) (fun _ _ _ => trivial))

/-- The row lock that every operation of the operator takes first. -/
theorem merchantForUpdate_wp {m : String} {s : State} (hnothing : s.writes w = []) :
    (merchantForUpdate m).wp (Makes env w) (contract env w)
      (Prog.Returning fun row s => ∃ keys, Owns w m ⟨some row, keys⟩ [] s) s := by
  have hselect : (Prog.perform (S := sig) (.merchantForUpdate m)).wp (Makes env w) (contract env w)
      (Prog.Returning fun found s => ∀ row, found = some row → ∃ keys, Owns w m ⟨some row, keys⟩ [] s) s := by
    refine quiet_wp (o := .merchantForUpdate m) trivial (fun s₁ hrely _ ch found s₂ he row hfound => ?_)
    subst hfound
    exact ⟨_, selectForUpdate_ok (hrely.writes.trans hnothing) (statement_ok he)⟩
  refine Prog.wp_then hselect (fun found s hfound => ?_)
  cases found with
  | none => exact trivial
  | some row => exact hfound row rfl

/-- Drawing a key changes nothing. -/
theorem generateMerchantApiKey_wp {environment : String} {J : State → Prop} (hJ : ∀ s s', Rely w s s' → J s → J s') {s : State}
    (h : J s) :
    (generateMerchantApiKey environment).wp (Makes env w) (contract env w) (Prog.Returning fun _ => J) s := by
  have hdraw : (Prog.perform (S := sig) .drawKey).wp (Makes env w) (contract env w) (Prog.Returning fun _ => J) s := by
    refine quiet_wp (o := .drawKey) trivial (fun s₁ hrely _ ch a s₂ he => ?_)
    change (if _ then some (_, s₁) else none) = some (_, s₂) at he
    split at he
    · cases he
      exact hJ s s₁ hrely h
    · cases he
  unfold generateMerchantApiKey
  dsimp only
  split
  · exact trivial
  · exact Prog.wp_then hdraw (fun _ _ h => h)

/-- The key that is issued in a transaction is written with its hash. -/
theorem issueKey_wp {m environment : String} {a : Account} {writes : List Write} {s : State} (hown : Owns w m a writes s) :
    (issueKey m environment).wp (Makes env w) (contract env w) (Prog.Returning fun issued s => ∃ keyPrefix salt,
      Owns w m a (writes ++ [.insertKey ⟨issued.1, m, keyPrefix, env.hash salt issued.2, environment, .active⟩ issued.2]) s) s := by
  refine Prog.wp_then (generateMerchantApiKey_wp (fun _ _ hr h => Owns.rely h hr) hown) (fun generated s hown => ?_)
  obtain ⟨keyId, apiKey, keyPrefix⟩ := generated
  have hinsert : (Prog.perform (S := sig) (.insertKey keyId m keyPrefix apiKey environment)).wp (Makes env w) (contract env w)
      (Prog.Returning fun _ s => ∃ salt,
        Owns w m a (writes ++ [.insertKey ⟨keyId, m, keyPrefix, env.hash salt apiKey, environment, .active⟩ apiKey]) s) s := by
    refine quiet_wp (o := .insertKey keyId m keyPrefix apiKey environment) trivial (fun s₁ hrely _ ch _ s₂ he => ?_)
    exact ⟨ch.salt, insertKey_ok (hown.rely hrely) (statement_ok he)⟩
  refine Prog.wp_then hinsert (fun _ s hown => ?_)
  obtain ⟨salt, hown⟩ := hown
  exact ⟨keyPrefix, salt, hown⟩

theorem revokeActiveKeys_wp {m : String} {a : Account} {s : State} (hown : Owns w m a [] s) :
    (Prog.perform (S := sig) (.revokeActiveKeys m)).wp (Makes env w) (contract env w)
      (Prog.Returning fun _ => Owns w m a [.revokeKeys m (a.activeKeys.map (·.keyId))]) s :=
  quiet_wp (o := .revokeActiveKeys m) trivial
    (fun _ hrely _ _ _ _ he => revokeActiveKeys_ok (hown.rely hrely) (statement_ok he))

theorem setStatus_wp {m : String} {status : MerchantStatus} {a : Account} {writes : List Write} {s : State}
    (hown : Owns w m a writes s) (hthere : (writes.foldl (fun a x => x.on m a) a).merchant ≠ none) :
    (Prog.perform (S := sig) (.setStatus m status)).wp (Makes env w) (contract env w)
      (Prog.Returning fun _ => Owns w m a (writes ++ [.setStatus m status])) s :=
  quiet_wp (o := .setStatus m status) trivial
    (fun _ hrely _ _ _ _ he => setMerchantStatus_ok (hown.rely hrely) hthere (statement_ok he))

theorem audit_wp {m eventType : String} {details : Json} {a : Account} {writes : List Write} {s : State}
    (hown : Owns w m a writes s) :
    (Prog.perform (S := sig) (.audit m eventType details)).wp (Makes env w) (contract env w)
      (Prog.Returning fun _ => Owns w m a (writes ++ [.audit ⟨m, eventType, details⟩])) s :=
  quiet_wp (o := .audit m eventType details) trivial
    (fun _ hrely _ _ _ _ he => insertAudit_ok (hown.rely hrely) (statement_ok he))

/-! ## What the operations have written -/

/-- Revoking the ids of all `ACTIVE` keys revokes every key. -/
theorem revoke_all (keys : List KeyRow) :
    keys.map (fun k => if k.keyId ∈ (keys.filter KeyRow.active).map (·.keyId) then k.retire else k) = keys.map KeyRow.retire := by
  refine List.map_congr_left (fun k hk => ?_)
  split
  · rfl
  · rename_i hmem
    have hrevoked : k.status = .revoked := by
      cases hstatus : k.status with
      | active => exact absurd (List.mem_map.2 ⟨k, List.mem_filter.2 ⟨hk, decide_eq_true hstatus⟩, rfl⟩) hmem
      | revoked => rfl
    unfold KeyRow.retire
    rw [← hrevoked]

/-- Revoking the ids of the `ACTIVE` keys with an id, when there is one, revokes the keys with that id. -/
theorem revoke_one {keys : List KeyRow} {keyId : String} (h : keys.filter (fun k => decide (k.keyId = keyId) && k.active) ≠ []) :
    keys.map (fun k => if k.keyId ∈ (keys.filter (fun k => decide (k.keyId = keyId) && k.active)).map (·.keyId) then k.retire else k) =
      keys.map (fun k => if k.keyId = keyId then k.retire else k) := by
  have hids : ∀ id, id ∈ (keys.filter (fun k => decide (k.keyId = keyId) && k.active)).map (·.keyId) ↔ id = keyId := by
    intro id
    constructor
    · intro hid
      obtain ⟨k, hk, rfl⟩ := List.mem_map.1 hid
      have hfound := (List.mem_filter.1 hk).2
      simp only [Bool.and_eq_true, decide_eq_true_eq] at hfound
      exact hfound.1
    · rintro rfl
      obtain ⟨k, hk⟩ := List.exists_mem_of_ne_nil _ h
      have hfound := (List.mem_filter.1 hk).2
      simp only [Bool.and_eq_true, decide_eq_true_eq] at hfound
      exact List.mem_map.2 ⟨k, hk, hfound.1⟩
  refine List.map_congr_left (fun k _ => ?_)
  simp only [hids]

/-- The key a transaction issues is vouched for. -/
theorem vouched_issued (row : KeyRow) (salt apiKey : String) (hhash : row.apiKeyHash = env.hash salt apiKey)
    {issued : List Issued} (h : ⟨row.keyId, row.merchantId, apiKey⟩ ∈ issued) : Vouched env issued row :=
  ⟨salt, apiKey, h, hhash⟩

theorem rotate_fits (m : String) (row : MerchantRow) (keys : List KeyRow) (hactive : row.status = .active) (k : KeyRow)
    (hm : k.merchantId = m) (salt apiKey : String) (hhash : k.apiKeyHash = env.hash salt apiKey) (audit : AuditRow) :
    Fits env m ⟨some row, keys⟩ [.revokeKeys m ((Account.mk (some row) keys).activeKeys.map (·.keyId)), .insertKey k apiKey, .audit audit] := by
  subst hm
  have hafter : [Write.revokeKeys k.merchantId ((Account.mk (some row) keys).activeKeys.map (·.keyId)), .insertKey k apiKey, .audit audit].foldl
      (fun a x => x.on k.merchantId a) ⟨some row, keys⟩ = ⟨some row, keys.map KeyRow.retire ++ [k]⟩ := by
    rw [← revoke_all keys]
    simp [Write.on, Account.activeKeys]
  refine ⟨by simp [Write.about], ?_, Or.inl rfl⟩
  rw [hafter]
  exact .rotate row keys k hactive (vouched_issued k salt apiKey hhash (by simp [Write.issued]))

theorem resume_fits (m : String) (row : MerchantRow) (keys : List KeyRow) (hsuspended : row.status = .suspended) (k : KeyRow)
    (hm : k.merchantId = m) (salt apiKey : String) (hhash : k.apiKeyHash = env.hash salt apiKey) (audit : AuditRow) :
    Fits env m ⟨some row, keys⟩ [.revokeKeys m ((Account.mk (some row) keys).activeKeys.map (·.keyId)), .insertKey k apiKey,
      .setStatus m .active, .audit audit] := by
  subst hm
  have hafter : [Write.revokeKeys k.merchantId ((Account.mk (some row) keys).activeKeys.map (·.keyId)), .insertKey k apiKey,
      .setStatus k.merchantId .active, .audit audit].foldl (fun a x => x.on k.merchantId a) ⟨some row, keys⟩ =
        ⟨some { row with status := .active }, keys.map KeyRow.retire ++ [k]⟩ := by
    rw [← revoke_all keys]
    simp [Write.on, Account.activeKeys]
  refine ⟨by simp [Write.about], ?_, Or.inl rfl⟩
  rw [hafter]
  exact .resume row keys k hsuspended (vouched_issued k salt apiKey hhash (by simp [Write.issued]))

theorem suspend_fits (m : String) (row : MerchantRow) (keys : List KeyRow) (hopen : row.status ≠ .closed) (audit : AuditRow) :
    Fits env m ⟨some row, keys⟩ [.revokeKeys m ((Account.mk (some row) keys).activeKeys.map (·.keyId)), .setStatus m .suspended,
      .audit audit] := by
  have hafter : [Write.revokeKeys m ((Account.mk (some row) keys).activeKeys.map (·.keyId)), .setStatus m .suspended,
      .audit audit].foldl (fun a x => x.on m a) ⟨some row, keys⟩ =
        ⟨some { row with status := .suspended }, keys.map KeyRow.retire⟩ := by
    rw [← revoke_all keys]
    simp [Write.on, Account.activeKeys]
  refine ⟨by simp [Write.about], ?_, Or.inl rfl⟩
  rw [hafter]
  exact .suspend row keys hopen

theorem revoke_fits (m : String) (row : MerchantRow) (keys : List KeyRow) (keyId : String)
    (hfound : keys.filter (fun k => decide (k.keyId = keyId) && k.active) ≠ []) (audit : AuditRow) :
    Fits env m ⟨some row, keys⟩
      [.revokeKeys m ((keys.filter (fun k => decide (k.keyId = keyId) && k.active)).map (·.keyId)), .audit audit] := by
  have hafter : [Write.revokeKeys m ((keys.filter (fun k => decide (k.keyId = keyId) && k.active)).map (·.keyId)),
      .audit audit].foldl (fun a x => x.on m a) ⟨some row, keys⟩ =
        ⟨some row, keys.map (fun k => if k.keyId = keyId then k.retire else k)⟩ := by
    rw [← revoke_one hfound]
    simp [Write.on]
  refine ⟨by simp [Write.about], ?_, Or.inl rfl⟩
  rw [hafter]
  exact .revoke row keys keyId

theorem provision_fits (m : String) (name plan : String) (k : KeyRow) (hm : k.merchantId = m) (salt apiKey : String)
    (hhash : k.apiKeyHash = env.hash salt apiKey) (audit : AuditRow) :
    Fits env m ⟨none, []⟩ [.insertMerchant ⟨m, name, plan, .active⟩, .insertKey k apiKey, .audit audit] := by
  subst hm
  have hafter : [Write.insertMerchant ⟨k.merchantId, name, plan, .active⟩, .insertKey k apiKey, .audit audit].foldl
      (fun a x => x.on k.merchantId a) ⟨none, []⟩ = ⟨some ⟨k.merchantId, name, plan, .active⟩, [k]⟩ := by
    simp [Write.on]
  refine ⟨by simp [Write.about], ?_, Or.inr ⟨rfl, rfl⟩⟩
  rw [hafter]
  exact .provision _ k rfl (vouched_issued k salt apiKey hhash (by simp [Write.issued]))

/-! ## The operations -/

theorem rotateKey_wp (m environment : String) (s : State) :
    (rotateKey m environment).wp (Makes env w) (contract env w) (Prog.Returning fun _ _ => True) s := by
  refine Prog.wp_then (inTransaction_wp (fun s hnothing => ?_) s) (fun _ _ _ => trivial)
  refine Prog.wp_then (merchantForUpdate_wp hnothing) (fun row s hown => ?_)
  obtain ⟨keys, hown⟩ := hown
  dsimp only
  split
  · exact trivial
  · rename_i hactive
    have hactive : row.status = .active := Decidable.not_not.1 hactive
    refine Prog.wp_then (revokeActiveKeys_wp hown) (fun revoked s hown => ?_)
    refine Prog.wp_then (issueKey_wp hown) (fun issued s hown => ?_)
    obtain ⟨keyPrefix, salt, hown⟩ := hown
    refine Prog.wp_then (audit_wp hown) (fun _ s hown => ?_)
    exact ⟨m, _, _, hown, rotate_fits m row keys hactive _ rfl salt _ rfl _⟩

theorem resumeMerchant_wp (m environment : String) (s : State) :
    (resumeMerchant m environment).wp (Makes env w) (contract env w) (Prog.Returning fun _ _ => True) s := by
  refine Prog.wp_then (inTransaction_wp (fun s hnothing => ?_) s) (fun _ _ _ => trivial)
  refine Prog.wp_then (merchantForUpdate_wp hnothing) (fun row s hown => ?_)
  obtain ⟨keys, hown⟩ := hown
  dsimp only
  split
  · exact trivial
  · rename_i hsuspended
    have hsuspended : row.status = .suspended := Decidable.not_not.1 hsuspended
    refine Prog.wp_then (revokeActiveKeys_wp hown) (fun revoked s hown => ?_)
    refine Prog.wp_then (issueKey_wp hown) (fun issued s hown => ?_)
    obtain ⟨keyPrefix, salt, hown⟩ := hown
    refine Prog.wp_then (setStatus_wp hown (by simp [Write.on])) (fun _ s hown => ?_)
    refine Prog.wp_then (audit_wp hown) (fun _ s hown => ?_)
    exact ⟨m, _, _, hown, resume_fits m row keys hsuspended _ rfl salt _ rfl _⟩

theorem suspendMerchant_wp (m : String) (s : State) :
    (suspendMerchant m).wp (Makes env w) (contract env w) (Prog.Returning fun _ _ => True) s := by
  refine Prog.wp_then (inTransaction_wp (fun s hnothing => ?_) s) (fun _ _ _ => trivial)
  refine Prog.wp_then (merchantForUpdate_wp hnothing) (fun row s hown => ?_)
  obtain ⟨keys, hown⟩ := hown
  dsimp only
  split
  · exact trivial
  · rename_i hopen
    refine Prog.wp_then (revokeActiveKeys_wp hown) (fun revoked s hown => ?_)
    refine Prog.wp_then (setStatus_wp hown (by simp [Write.on])) (fun _ s hown => ?_)
    refine Prog.wp_then (audit_wp hown) (fun _ s hown => ?_)
    exact ⟨m, _, _, hown, suspend_fits m row keys hopen _⟩

theorem revokeKey_wp (m keyId : String) (s : State) :
    (revokeKey m keyId).wp (Makes env w) (contract env w) (Prog.Returning fun _ _ => True) s := by
  refine Prog.wp_then (inTransaction_wp (fun s hnothing => ?_) s) (fun _ _ _ => trivial)
  refine Prog.wp_then (merchantForUpdate_wp hnothing) (fun row s hown => ?_)
  obtain ⟨keys, hown⟩ := hown
  have hrevoke : (Prog.perform (S := sig) (.revokeKey m keyId)).wp (Makes env w) (contract env w)
      (Prog.Returning fun (n : Nat) s => n = (keys.filter (fun k => decide (k.keyId = keyId) && k.active)).length ∧
        Owns w m ⟨some row, keys⟩ [.revokeKeys m ((keys.filter (fun k => decide (k.keyId = keyId) && k.active)).map (·.keyId))] s) s :=
    quiet_wp (o := .revokeKey m keyId) trivial (fun _ hrely _ _ _ _ he => revokeKey_ok (hown.rely hrely) (statement_ok he))
  refine Prog.wp_then hrevoke (fun revoked s hown => ?_)
  obtain ⟨hcount, hown⟩ := hown
  dsimp only
  split
  · exact trivial
  · rename_i hsome
    refine Prog.wp_then (audit_wp hown) (fun _ s hown => ?_)
    refine ⟨m, _, _, hown, revoke_fits m row keys keyId (fun hnone => hsome ?_) _⟩
    rw [hcount, hnone]
    rfl

theorem provisionMerchant_wp (m name plan environment : String) (s : State) :
    (provisionMerchant env m name plan environment).wp (Makes env w) (contract env w) (Prog.Returning fun _ _ => True) s := by
  have hbody : ∀ keyId apiKey keyPrefix s, State.writes s w = [] → (do
      Prog.perform (S := sig) (.insertMerchant m (strip name) plan)
      Prog.perform (S := sig) (.insertKey keyId m keyPrefix apiKey environment)
      Prog.perform (S := sig) (.audit m "merchant.provisioned"
        (.obj [("environment", .str environment), ("key_id", .str keyId), ("plan", .str plan)])) : Prog sig Unit).wp
      (Makes env w) (contract env w) (Prog.Returning fun _ => Ready env w) s := by
    intro keyId apiKey keyPrefix s hnothing
    have hinsert : (Prog.perform (S := sig) (.insertMerchant m (strip name) plan)).wp (Makes env w) (contract env w)
        (Prog.Returning fun _ s => ∃ name plan, Owns w m ⟨none, []⟩ [.insertMerchant ⟨m, name, plan, .active⟩] s) s := by
      refine quiet_wp (o := .insertMerchant m (strip name) plan) trivial (fun s₁ hrely hsound ch _ s₂ he => ?_)
      obtain ⟨hnew, name, plan, hown⟩ := insertMerchant_ok (hrely.writes.trans hnothing) (statement_ok he)
      have hnone : s₁.tables.account m = ⟨none, []⟩ := by
        have hkeys := (hsound.accounts m).owned hnew
        exact (congrArg₂ Account.mk hnew hkeys)
      exact ⟨name, plan, hnone ▸ hown⟩
    refine Prog.wp_then hinsert (fun _ s hown => ?_)
    obtain ⟨name, plan, hown⟩ := hown
    have hkey : (Prog.perform (S := sig) (.insertKey keyId m keyPrefix apiKey environment)).wp (Makes env w) (contract env w)
        (Prog.Returning fun _ s => ∃ salt, Owns w m ⟨none, []⟩ [.insertMerchant ⟨m, name, plan, .active⟩,
          .insertKey ⟨keyId, m, keyPrefix, env.hash salt apiKey, environment, .active⟩ apiKey] s) s := by
      refine quiet_wp (o := .insertKey keyId m keyPrefix apiKey environment) trivial (fun s₁ hrely _ ch _ s₂ he => ?_)
      exact ⟨ch.salt, insertKey_ok (hown.rely hrely) (statement_ok he)⟩
    refine Prog.wp_then hkey (fun _ s hown => ?_)
    obtain ⟨salt, hown⟩ := hown
    refine Prog.wp_mono (fun r s hr => ?_) _ (audit_wp hown)
    cases r with
    | ok a => exact ⟨m, _, _, hr, provision_fits m name plan _ rfl salt apiKey rfl _⟩
    | error e => exact trivial
  unfold provisionMerchant
  dsimp only
  split
  · exact trivial
  · split
    · exact trivial
    · refine Prog.wp_then (generateMerchantApiKey_wp (J := fun _ => True) (fun _ _ _ _ => trivial) trivial) (fun generated s _ => ?_)
      obtain ⟨keyId, apiKey, keyPrefix⟩ := generated
      exact Prog.wp_then (inTransaction_wp (hbody keyId apiKey keyPrefix) s) (fun _ _ _ => trivial)

/-! ## Authentication -/

/-- The key `apiKey` is in the database the one issued with an `ACTIVE` key id of an `ACTIVE` merchant, and `principal` is that
merchant. -/
def Grants (s : State) (apiKey : String) (principal : MerchantPrincipal) : Prop :=
  ∃ k ∈ s.tables.keys, ∃ m ∈ s.tables.merchants, k.status = .active ∧ m.status = .active ∧ m.merchantId = k.merchantId ∧
    ⟨k.keyId, k.merchantId, apiKey⟩ ∈ s.issued ∧ principal = ⟨m.merchantId, m.name, m.plan, k.keyId⟩

/-- Among the calls made, one of the worker looked a key up in a database that grants the key. -/
def Granted (env : Env) (w : Nat) (apiKey : String) (principal : MerchantPrincipal) (calls : List (machine env).Entry) : Prop :=
  ∃ e ∈ calls, e.worker = w ∧ (∃ keyId, e.op = .selectKey keyId) ∧ Grants e.before apiKey principal

/-- A row that the join finds is one of each table. -/
theorem join_some {d : Tables} {keyId : String} {k : KeyRow} {m : MerchantRow} (h : d.join keyId = some (k, m)) :
    k ∈ d.keys ∧ m ∈ d.merchants ∧ m.merchantId = k.merchantId := by
  unfold Tables.join at h
  split at h
  · cases h
  · rename_i k' hk
    obtain ⟨m', hm, he⟩ := Option.map_eq_some_iff.1 h
    obtain ⟨rfl, rfl⟩ := Prod.mk.inj he
    have hmerchant := List.find?_some hm
    exact ⟨List.mem_of_find?_eq_some hk, List.mem_of_find?_eq_some hm, of_decide_eq_true hmerchant⟩

/-- A row that is found, is `ACTIVE`, has an `ACTIVE` merchant and verifies grants the key. -/
theorem grants_of_found (hverify : ∀ salt apiKey apiKey', env.verify (env.hash salt apiKey) apiKey' = .ok true → apiKey' = apiKey)
    {s : State} (hs : s.Sound env) {keyId apiKey : String} {k : KeyRow} {m : MerchantRow} (hfound : s.tables.join keyId = some (k, m))
    (hk : k.status = .active) (hm : m.status = .active) (hverified : env.verify k.apiKeyHash apiKey = .ok true) :
    Grants s apiKey ⟨m.merchantId, m.name, m.plan, k.keyId⟩ := by
  obtain ⟨hkey, hmerchant, hjoin⟩ := join_some hfound
  refine ⟨k, hkey, m, hmerchant, hk, hm, hjoin, ?_, rfl⟩
  obtain ⟨salt, issued, hissued, hhash⟩ := (hs.accounts k.merchantId).vouched k (mem_keys.1 hkey)
  rw [hhash] at hverified
  rw [hverify salt issued apiKey hverified]
  exact hissued

/-- What is proved of the programs: the contract, and that `authenticate` returns a merchant only when it was granted. -/
def outline (env : Env) : Machine.Outline (machine env) where
  inv := State.Sound env
  rely w _ := Rely w
  guar w _ := Guar w
  compat _ _ _ _ := True

/-- What holds when a program has ended: `authenticate` returned a merchant only when it was granted. -/
def post (env : Env) (w : Nat) (c : Call) (r : Except MerchantError Reply) (s : (machine env).traced.State) : Prop :=
  ∀ apiKey principal, c = .authenticate apiKey → r = .ok (.principal principal) → Granted env w apiKey principal s.2

theorem granted_mono {apiKey : String} {principal : MerchantPrincipal} {calls calls' : List (machine env).Entry}
    (h : Granted env w apiKey principal calls) (hmore : calls <+: calls') : Granted env w apiKey principal calls' := by
  obtain ⟨e, he, h⟩ := h
  exact ⟨e, hmore.subset he, h⟩

/-- `authenticate` makes no call that commits. -/
theorem authenticate_calls (apiKey : String) : (program env (.authenticate apiKey)).Calls Op.Quiet := by
  refine Prog.calls_bind ?_ (fun _ => trivial)
  unfold authenticate
  split
  · exact trivial
  · refine Prog.calls_bind (Prog.calls_perform (S := sig) (o := .selectKey _) trivial) (fun found => ?_)
    split
    · exact trivial
    · split
      · exact trivial
      · split
        · exact trivial
        · refine Prog.calls_bind ?_ (fun verified => ?_)
          · unfold verifyApiKey
            split
            · exact trivial
            · exact trivial
          · dsimp only
            split
            · exact trivial
            · exact Prog.calls_bind (Prog.calls_perform (S := sig) (o := .touchKey _) trivial) (fun _ => trivial)

/-- Calls that do not commit keep the contract. -/
theorem quiet_keeps {α : Type} {p : Prog sig α} (hp : p.Calls Op.Quiet) (s : State) :
    p.wp (Makes env w) (contract env w) (fun _ _ => True) s := by
  refine @Prog.Calls.wp _ _ _ _ _ _ (fun _ _ => True) (fun _ _ _ _ _ => trivial) (fun _ _ _ _ _ => trivial) ?_ _ hp s s trivial
  rintro o s r s' ho hs ⟨ch, he⟩
  obtain ⟨-, hkeeps, hguar⟩ := exec_quiet ho he
  exact ⟨hkeeps hs, hguar⟩

theorem outline_sound : (outline env).Sound (.any _) where
  refl w _ s := Rely.refl w s
  trans _ _ _ _ _ h h' := h.trans h'
  symm _ _ _ _ _ := trivial
  guar _ _ _ _ _ _ hne _ _ hg := hg.rely hne
  start cfg c _ _ := by
    refine ⟨fun _ _ => trivial, ?_⟩
    have hcalls : (program env c).wp (Makes env cfg.started) (contract env cfg.started) (fun _ _ => True) cfg.state := by
      cases c with
      | provisionMerchant merchantId name plan environment =>
        exact Prog.wp_seq (provisionMerchant_wp merchantId name plan environment _) (fun _ _ _ => trivial) (fun _ _ _ => trivial)
      | rotateKey merchantId environment =>
        exact Prog.wp_seq (rotateKey_wp merchantId environment _) (fun _ _ _ => trivial) (fun _ _ _ => trivial)
      | revokeKey merchantId keyId =>
        exact Prog.wp_seq (revokeKey_wp merchantId keyId _) (fun _ _ _ => trivial) (fun _ _ _ => trivial)
      | suspendMerchant merchantId =>
        exact Prog.wp_seq (suspendMerchant_wp merchantId _) (fun _ _ _ => trivial) (fun _ _ _ => trivial)
      | resumeMerchant merchantId environment =>
        exact Prog.wp_seq (resumeMerchant_wp merchantId environment _) (fun _ _ _ => trivial) (fun _ _ _ => trivial)
      | authenticate apiKey => exact quiet_keeps (authenticate_calls apiKey) _
    exact Prog.wp_calls (fun o s r s' h => h.2) _ hcalls
  crash w s hs := ⟨hs.abandon w, fun w' _ hne => (guar_abandon s w).rely (fun he => hne he.symm)⟩

/-- What a call of the machine that keeps its calls did. -/
theorem traced_does {o : Op} {s s' : (machine env).traced.State} {r : Except MerchantError o.Result}
    (h : (machine env).traced.Does (.any _) w o s r s') :
    (∃ ch, exec env w o ch s.1 = some (r, s'.1)) ∧ s'.2 = s.2 ++ [⟨w, o, r, s.1⟩] := by
  obtain ⟨-, ch, he⟩ := h
  obtain ⟨x, hx, he⟩ := Option.map_eq_some_iff.1 he
  obtain ⟨rfl, rfl⟩ := Prod.mk.inj he
  exact ⟨⟨ch, hx⟩, rfl⟩

/-- A call that does not commit, on the machine that keeps its calls. -/
theorem traced_wp {o : Op} (ho : o.Quiet) {Q : Except MerchantError o.Result → (machine env).traced.State → Prop}
    {c : Call} {s : (machine env).traced.State}
    (h : ∀ s₁ : (machine env).traced.State, s.2 <+: s₁.2 → s₁.1.Sound env → ∀ ch r s₂, exec env w o ch s₁.1 = some (r, s₂) →
      Q r (s₂, s₁.2 ++ [⟨w, o, r, s₁.1⟩])) :
    (Prog.perform (S := sig) o).wp ((machine env).traced.Does (.any _) w) (((outline env).traced (post env)).contract w c) Q s := by
  refine (Prog.wp_perform (S := sig) o s).2 ?_
  rintro s₁ hrely ⟨hsound, hcalls⟩ r s₂ hdoes
  obtain ⟨⟨ch, he⟩, hadded⟩ := traced_does hdoes
  obtain ⟨-, hkeeps, hguar⟩ := exec_quiet ho he
  obtain ⟨state, calls⟩ := s₂
  obtain rfl : calls = s₁.2 ++ [⟨w, o, r, s₁.1⟩] := hadded
  refine ⟨⟨hkeeps hsound, fun e hmem => ?_⟩, ⟨hguar, List.prefix_append _ _⟩, h s₁ hrely.2 hsound ch r state he⟩
  rcases List.mem_append.1 hmem with hmem | hmem
  · exact hcalls e hmem
  · obtain rfl := List.mem_singleton.1 hmem
    exact ⟨hsound, ch, state, he⟩

/-- `authenticate` returns a merchant only when it was granted. -/
theorem authenticate_wp (hverify : ∀ salt apiKey apiKey', env.verify (env.hash salt apiKey) apiKey' = .ok true → apiKey' = apiKey)
    (apiKey : String) (c : Call) (s : (machine env).traced.State) :
    (authenticate env apiKey).wp ((machine env).traced.Does (.any _) w) (((outline env).traced (post env)).contract w c)
      (Prog.Returning fun principal s => Granted env w apiKey principal s.2) s := by
  unfold authenticate
  split
  · exact trivial
  · rename_i keyId _
    have hselect : (Prog.perform (S := sig) (.selectKey keyId)).wp ((machine env).traced.Does (.any _) w)
        (((outline env).traced (post env)).contract w c)
        (Prog.Returning fun found s => ∀ k m, found = some (k, m) → ∃ e ∈ s.2, e.worker = w ∧ (∃ keyId, e.op = .selectKey keyId) ∧
          e.before.Sound env ∧ ∃ keyId, e.before.tables.join keyId = some (k, m)) s := by
      refine traced_wp (o := .selectKey keyId) trivial (fun s₁ _ hsound ch r s₂ he => ?_)
      cases r with
      | error e => exact trivial
      | ok found =>
        rintro k m rfl
        refine ⟨_, List.mem_append_right _ (List.mem_singleton_self _), rfl, ⟨keyId, rfl⟩, hsound, ?_⟩
        have hanswer := statement_ok he
        unfold State.selectKey at hanswer
        split at hanswer
        · cases hanswer
        · rename_i id _
          exact ⟨id, Except.ok.inj (Prod.mk.inj (Option.some.inj hanswer)).1⟩
    refine Prog.wp_then hselect (fun found s hfound => ?_)
    cases found with
    | none => exact trivial
    | some row =>
      obtain ⟨k, m⟩ := row
      obtain ⟨e, he, hworker, hop, hsound, id, hjoin⟩ := hfound k m rfl
      dsimp only
      split
      · exact trivial
      · rename_i hk
        split
        · exact trivial
        · rename_i hm
          have hk : k.status = .active := Decidable.not_not.1 hk
          have hm : m.status = .active := Decidable.not_not.1 hm
          have hgranted : env.verify k.apiKeyHash apiKey = .ok true →
              Granted env w apiKey ⟨m.merchantId, m.name, m.plan, k.keyId⟩ s.2 :=
            fun hverified => ⟨e, he, hworker, hop, grants_of_found hverify hsound hjoin hk hm hverified⟩
          have hverified : (verifyApiKey env k.apiKeyHash apiKey).wp ((machine env).traced.Does (.any _) w)
              (((outline env).traced (post env)).contract w c)
              (Prog.Returning fun verified s => verified = true → Granted env w apiKey ⟨m.merchantId, m.name, m.plan, k.keyId⟩ s.2) s := by
            unfold verifyApiKey
            split
            · rename_i verified hverified
              intro htrue
              exact hgranted (htrue ▸ hverified)
            · exact trivial
          refine Prog.wp_then hverified (fun verified s hgranted => ?_)
          dsimp only
          split
          · exact trivial
          · rename_i htrue
            have htrue : verified = true := by simpa using htrue
            have htouch : (Prog.perform (S := sig) (.touchKey keyId)).wp ((machine env).traced.Does (.any _) w)
                (((outline env).traced (post env)).contract w c)
                (Prog.Returning fun _ s => Granted env w apiKey ⟨m.merchantId, m.name, m.plan, k.keyId⟩ s.2) s := by
              refine traced_wp (o := .touchKey keyId) trivial (fun s₁ hmore _ ch r s₂ _ => ?_)
              cases r with
              | ok a => exact granted_mono (hgranted htrue) (hmore.trans (List.prefix_append _ _))
              | error e => exact trivial
            exact Prog.wp_then htouch (fun _ _ h => h)

/-- Every program keeps the outline on the machine that keeps its calls. -/
theorem traced_sound (hverify : ∀ salt apiKey apiKey', env.verify (env.hash salt apiKey) apiKey' = .ok true → apiKey' = apiKey) :
    ((outline env).traced (post env)).Sound (.any _) := by
  refine outline_sound.traced (fun _ _ _ _ => trivial) (fun w c s hinv => ?_)
  have hplain := @Machine.wp_traced (machine env) (outline env) (post env) _ _ _ _ (program env c) s
    (outline_sound.start ⟨s.1, [], w⟩ c hinv.1 trivial).2
  cases c with
  | authenticate apiKey =>
    refine Prog.wp_seq (authenticate_wp hverify apiKey _ s) (fun principal s hgranted => ?_) (fun e s _ => ?_)
    · rintro _ _ ⟨⟩ hr
      cases hr
      exact hgranted
    · rintro _ _ _ hr
      cases hr
  | provisionMerchant merchantId name plan environment => exact Prog.wp_mono (fun r s _ => by rintro _ _ ⟨⟩) _ hplain
  | rotateKey merchantId environment => exact Prog.wp_mono (fun r s _ => by rintro _ _ ⟨⟩) _ hplain
  | revokeKey merchantId keyId => exact Prog.wp_mono (fun r s _ => by rintro _ _ ⟨⟩) _ hplain
  | suspendMerchant merchantId => exact Prog.wp_mono (fun r s _ => by rintro _ _ ⟨⟩) _ hplain
  | resumeMerchant merchantId environment => exact Prog.wp_mono (fun r s _ => by rintro _ _ ⟨⟩) _ hplain

end Merchants

end Archisynapse
