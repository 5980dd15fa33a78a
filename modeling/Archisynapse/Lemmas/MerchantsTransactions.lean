import Archisynapse.Lemmas.Merchants

/-!
# What workers keep and count on

`State.Sound` is what holds of the database at any time. The steps of others leave alone what a worker's transaction wrote and the
accounts whose rows it holds (`Rely`); its own statements leave the tables alone (`exec_quiet`), and its commit keeps what holds of
the database when its writes make a step of the one account it holds (`commit_sound`).
-/

namespace Archisynapse

namespace Merchants

variable (env : Env)

/-- The key's hash is the hash of an API key that was issued with its id to its merchant. -/
def Vouched (issued : List Issued) (k : KeyRow) : Prop :=
  ∃ salt apiKey, ⟨k.keyId, k.merchantId, apiKey⟩ ∈ issued ∧ k.apiKeyHash = env.hash salt apiKey

/-- What holds of the database: ids are unique, those of the keys that open transactions insert among them, and the accounts are
sound. -/
structure State.Sound (s : State) : Prop where
  merchants : (s.tables.merchants.map (·.merchantId)).Nodup
  keys : (s.tables.keys.map (·.keyId) ++ s.pending.filterMap (fun p => p.2.keyId)).Nodup
  accounts : ∀ merchantId, (s.tables.account merchantId).Sound (Vouched env s.issued)

/-- What a worker counts on: the others leave alone what its transaction wrote and the accounts whose rows it holds. -/
structure Rely (w : Nat) (s s' : State) : Prop where
  writes : s'.writes w = s.writes w
  held : ∀ m, s.locks m = some w → s'.locks m = some w ∧ s'.tables.account m = s.tables.account m

/-- What a worker keeps to: it leaves alone the transactions of others and the accounts whose rows it does not hold, and keeps
revoked keys as they are. -/
structure Guar (w : Nat) (s s' : State) : Prop where
  writes : ∀ w', w' ≠ w → s'.writes w' = s.writes w'
  locks : ∀ w', w' ≠ w → ∀ m, s.locks m = some w' → s'.locks m = some w'
  accounts : ∀ m, s.locks m ≠ some w → s'.tables.account m = s.tables.account m
  retired : ∀ k ∈ s.tables.keys, k.status = .revoked → k ∈ s'.tables.keys

theorem Rely.refl (w : Nat) (s : State) : Rely w s s := ⟨rfl, fun _ h => ⟨h, rfl⟩⟩

theorem Rely.trans {w : Nat} {s s' s'' : State} (h : Rely w s s') (h' : Rely w s' s'') : Rely w s s'' := by
  refine ⟨h'.writes.trans h.writes, fun m hm => ?_⟩
  obtain ⟨h₁, h₂⟩ := h.held m hm
  obtain ⟨h₃, h₄⟩ := h'.held m h₁
  exact ⟨h₃, h₄.trans h₂⟩

/-- What one worker keeps to is what the others count on. -/
theorem Guar.rely {w w' : Nat} {s s' : State} (hne : w ≠ w') (h : Guar w s s') : Rely w' s s' := by
  refine ⟨h.writes w' hne.symm, fun m hm => ⟨h.locks w' hne.symm m hm, h.accounts m (fun he => ?_)⟩⟩
  rw [hm] at he
  exact hne (Option.some.inj he).symm

/-- A step that leaves the tables as they are. -/
theorem Guar.of_tables {w : Nat} {s s' : State} (htables : s'.tables = s.tables) (hwrites : ∀ w', w' ≠ w → s'.writes w' = s.writes w')
    (hlocks : ∀ w', w' ≠ w → ∀ m, s.locks m = some w' → s'.locks m = some w') : Guar w s s' :=
  ⟨hwrites, hlocks, fun m _ => by rw [htables], fun k hk _ => by rwa [htables]⟩

/-! ## Writing, holding and ending -/

/-- What a worker wrote, once it wrote one thing more. -/
theorem writes_write (s : State) (w : Nat) (x : Write) : (s.write w x).writes w = s.writes w ++ [x] := by
  unfold State.writes State.write
  rw [List.filterMap_append]
  simp

/-- What another worker wrote. -/
theorem writes_write_other (s : State) {w w' : Nat} (h : w' ≠ w) (x : Write) : (s.write w x).writes w' = s.writes w' := by
  unfold State.writes State.write
  rw [List.filterMap_append]
  simp [h.symm]

/-- A worker whose transaction ended has written nothing. -/
theorem writes_abandon (s : State) (w : Nat) : (s.abandon w).writes w = [] := by
  unfold State.writes State.abandon
  rw [List.filterMap_eq_nil_iff]
  intro p hp
  exact if_neg (of_decide_eq_true (List.mem_filter.1 hp).2)

/-- What another worker wrote stays when a transaction ends. -/
theorem writes_abandon_other (s : State) {w w' : Nat} (h : w' ≠ w) : (s.abandon w).writes w' = s.writes w' := by
  unfold State.writes State.abandon
  rw [List.filterMap_filter]
  refine List.filterMap_congr (fun p _ => ?_)
  by_cases hp : p.1 = w'
  · simp [hp, h]
  · simp [hp]

theorem locks_abandon_other (s : State) {w w' : Nat} (h : w' ≠ w) {m : String} (hm : s.locks m = some w') :
    (s.abandon w).locks m = some w' := by
  refine (if_neg (fun he => ?_)).trans hm
  rw [hm] at he
  exact h (Option.some.inj he)

/-- Another worker does not hold the row when nobody is found to. -/
theorem not_held {s : State} {w : Nat} {m : String} (h : s.heldByOther w m = false) {w' : Nat} (hne : w' ≠ w) : s.locks m ≠ some w' := by
  intro he
  unfold State.heldByOther at h
  rw [he] at h
  exact of_decide_eq_false h hne

theorem locks_hold_other (s : State) {w w' : Nat} {m : String} (hfree : s.heldByOther w m = false) (hne : w' ≠ w) {m' : String}
    (hm : s.locks m' = some w') : (s.hold w m).locks m' = some w' := by
  refine (if_neg (fun he => ?_)).trans hm
  rw [he] at hm
  exact not_held hfree hne hm

variable {env}

/-- A transaction that ends and leaves nothing behind. -/
theorem State.Sound.abandon {s : State} (h : s.Sound env) (w : Nat) : (s.abandon w).Sound env := by
  refine ⟨h.merchants, h.keys.sublist ?_, h.accounts⟩
  exact (List.Sublist.refl _).append (List.filter_sublist.filterMap _)

theorem guar_abandon (s : State) (w : Nat) : Guar w s (s.abandon w) :=
  Guar.of_tables rfl (fun _ h => writes_abandon_other s h) (fun _ h _ hm => locks_abandon_other s h hm)

/-- A transaction that takes a row nobody else holds. -/
theorem guar_hold {s : State} {w : Nat} {m : String} (hfree : s.heldByOther w m = false) : Guar w s (s.hold w m) :=
  Guar.of_tables rfl (fun _ _ => rfl) (fun _ hne _ hm => locks_hold_other s hfree hne hm)

/-- A write that inserts no key. -/
theorem State.Sound.write {s : State} (h : s.Sound env) (w : Nat) {x : Write} (hx : x.keyId = none) : (s.write w x).Sound env := by
  refine ⟨h.merchants, ?_, h.accounts⟩
  have hids : (s.write w x).pending.filterMap (fun p => p.2.keyId) = s.pending.filterMap (fun p => p.2.keyId) := by
    unfold State.write
    rw [List.filterMap_append]
    simp [hx]
  rw [hids]
  exact h.keys

theorem guar_write (s : State) (w : Nat) (x : Write) : Guar w s (s.write w x) :=
  Guar.of_tables rfl (fun _ h => writes_write_other s h x) (fun _ _ _ hm => hm)

theorem Guar.trans_tables {w : Nat} {s s' s'' : State} (h : Guar w s s') (h' : Guar w s' s'') (htables : s'.tables = s.tables)
    (htables' : s''.tables = s'.tables) : Guar w s s'' :=
  Guar.of_tables (htables'.trans htables) (fun w' hne => (h'.writes w' hne).trans (h.writes w' hne))
    (fun w' hne m hm => h'.locks w' hne m (h.locks w' hne m hm))

/-- A key nobody has and no open transaction inserts. -/
theorem State.Sound.writeKey {s : State} (h : s.Sound env) {w : Nat} {row : KeyRow} {apiKey : String}
    (hview : (s.view w).keyOf row.keyId = none) (hother : s.insertedByOther w row.keyId = false) :
    (s.write w (.insertKey row apiKey)).Sound env := by
  refine ⟨h.merchants, ?_, h.accounts⟩
  have hids : (s.write w (.insertKey row apiKey)).pending.filterMap (fun p => p.2.keyId) =
      s.pending.filterMap (fun p => p.2.keyId) ++ [row.keyId] := by
    unfold State.write
    rw [List.filterMap_append]
    rfl
  rw [hids, ← List.append_assoc]
  refine List.nodup_append.2 ⟨h.keys, List.nodup_singleton _, ?_⟩
  intro id hid id' hid' he
  rw [List.mem_singleton.1 hid'] at he
  subst he
  -- the id is neither one the transaction sees nor one another transaction inserts
  have hseen : row.keyId ∉ s.tables.keys.map (·.keyId) ++ (s.writes w).filterMap Write.keyId := by
    rw [← keyIds_applied (s.writes w) s.tables]
    intro hmem
    obtain ⟨k, hk, hkid⟩ := List.mem_map.1 hmem
    exact List.find?_eq_none.1 hview k hk (decide_eq_true hkid)
  rcases List.mem_append.1 hid with hid | hid
  · exact hseen (List.mem_append_left _ hid)
  · obtain ⟨p, hp, hpid⟩ := List.mem_filterMap.1 hid
    by_cases hw : p.1 = w
    · refine hseen (List.mem_append_right _ (List.mem_filterMap.2 ⟨p.2, List.mem_filterMap.2 ⟨p, hp, if_pos hw⟩, hpid⟩))
    · have hfound := List.any_eq_false.1 hother p hp
      exact hfound (by simp [hw, hpid])

/-! ## Statements -/

/-- A call that does not end a transaction with what it wrote. -/
def Op.Quiet : Op → Prop
  | .commit => False
  | _ => True

/-- What a step that leaves the tables as they are keeps. -/
def Still (env : Env) (w : Nat) (s s' : State) : Prop :=
  s'.tables = s.tables ∧ (s.Sound env → s'.Sound env) ∧ Guar w s s'

theorem Still.refl (w : Nat) (s : State) : Still env w s s :=
  ⟨rfl, id, Guar.of_tables rfl (fun _ _ => rfl) (fun _ _ _ h => h)⟩

theorem still_abandon (s : State) (w : Nat) : Still env w s (s.abandon w) := ⟨rfl, fun h => h.abandon w, guar_abandon s w⟩

theorem still_hold {s : State} {w : Nat} {m : String} (hfree : s.heldByOther w m = false) : Still env w s (s.hold w m) :=
  ⟨rfl, fun h => ⟨h.merchants, h.keys, h.accounts⟩, guar_hold hfree⟩

theorem still_write (s : State) (w : Nat) {x : Write} (hx : x.keyId = none) : Still env w s (s.write w x) :=
  ⟨rfl, fun h => h.write w hx, guar_write s w x⟩

theorem Still.trans {w : Nat} {s s' s'' : State} (h : Still env w s s') (h' : Still env w s' s'') : Still env w s s'' :=
  ⟨h'.1.trans h.1, fun hs => h'.2.1 (h.2.1 hs), h.2.2.trans_tables h'.2.2 h.1 h'.1⟩

/-- A statement leaves the tables as they are when it does so with its connection up. -/
theorem statement_still {α : Type} {ch : Choice} {s s' : State} {w : Nat} {out : Outcome α} {r : Except MerchantError α}
    (h : statement ch s w out = some (r, s')) (hout : ∀ r s', out = some (r, s') → Still env w s s') : Still env w s s' := by
  unfold statement at h
  split at h
  · cases h
    exact still_abandon s w
  · exact hout r s' h

theorem selectForUpdate_still {s s' : State} {w : Nat} {merchantId : String} {r : Except MerchantError (Option MerchantRow)}
    (h : s.selectForUpdate w merchantId = some (r, s')) : Still env w s s' := by
  unfold State.selectForUpdate at h
  split at h
  · cases h
    exact Still.refl w s
  · split at h
    · cases h
      exact Still.refl w s
    · split at h
      · cases h
      · rename_i hfree
        cases h
        exact still_hold (Bool.eq_false_of_not_eq_true hfree)

theorem updateKeys_still {s s' : State} {w : Nat} {merchantId : String} {which : KeyRow → Bool} {r : Except MerchantError Nat}
    (h : s.updateKeys w merchantId which = some (r, s')) : Still env w s s' := by
  unfold State.updateKeys at h
  dsimp only at h
  split at h
  · cases h
  · cases h
    exact still_write s w rfl

theorem revokeActiveKeys_still {s s' : State} {w : Nat} {merchantId : String} {r : Except MerchantError Nat}
    (h : s.revokeActiveKeys w merchantId = some (r, s')) : Still env w s s' := by
  unfold State.revokeActiveKeys at h
  split at h
  · cases h
    exact Still.refl w s
  · exact updateKeys_still h

theorem revokeKey_still {s s' : State} {w : Nat} {merchantId keyId : String} {r : Except MerchantError Nat}
    (h : s.revokeKey w merchantId keyId = some (r, s')) : Still env w s s' := by
  unfold State.revokeKey at h
  split at h
  · cases h
    exact Still.refl w s
  · cases h
    exact Still.refl w s
  · exact updateKeys_still h

theorem insertMerchant_still {s s' : State} {w : Nat} {merchantId name plan : String} {r : Except MerchantError Unit}
    (h : s.insertMerchant w merchantId name plan = some (r, s')) : Still env w s s' := by
  unfold State.insertMerchant at h
  split at h
  · cases h
    exact Still.refl w s
  · cases h
    exact Still.refl w s
  · cases h
    exact Still.refl w s
  · split at h
    · cases h
      exact Still.refl w s
    · split at h
      · cases h
      · rename_i hfree
        cases h
        exact (still_hold (Bool.eq_false_of_not_eq_true hfree)).trans (still_write _ w rfl)

theorem insertKey_still {s s' : State} {w : Nat} {keyId merchantId keyPrefix apiKeyHash environment apiKey : String}
    {r : Except MerchantError Unit}
    (h : s.insertKey w keyId merchantId keyPrefix apiKeyHash environment apiKey = some (r, s')) : Still env w s s' := by
  unfold State.insertKey at h
  split at h
  · cases h
    exact Still.refl w s
  · split at h
    · cases h
      exact Still.refl w s
    · rename_i hview
      split at h
      · cases h
      · rename_i hother
        split at h
        · cases h
          exact Still.refl w s
        · split at h
          · cases h
          · cases h
            have hview := Option.not_isSome_iff_eq_none.1 hview
            exact ⟨rfl, fun hs => hs.writeKey hview (Bool.eq_false_of_not_eq_true hother), guar_write s w _⟩

theorem setMerchantStatus_still {s s' : State} {w : Nat} {merchantId : String} {status : MerchantStatus}
    {r : Except MerchantError Unit} (h : s.setMerchantStatus w merchantId status = some (r, s')) : Still env w s s' := by
  unfold State.setMerchantStatus at h
  split at h
  · cases h
    exact Still.refl w s
  · split at h
    · cases h
      exact Still.refl w s
    · split at h
      · cases h
      · rename_i hfree
        cases h
        exact (still_hold (Bool.eq_false_of_not_eq_true hfree)).trans (still_write _ w rfl)

theorem insertAudit_still {s s' : State} {w : Nat} {merchantId eventType : String} {details : Json} {r : Except MerchantError Unit}
    (h : s.insertAudit w merchantId eventType details = some (r, s')) : Still env w s s' := by
  unfold State.insertAudit at h
  split at h
  · cases h
    exact Still.refl w s
  · split at h
    · cases h
      exact Still.refl w s
    · split at h
      · cases h
      · cases h
        exact still_write s w rfl

/-- Every call but a commit leaves the tables as they are. -/
theorem exec_quiet {w : Nat} {o : Op} (ho : o.Quiet) {ch : Choice} {s s' : State} {r : Except MerchantError o.Result}
    (h : exec env w o ch s = some (r, s')) : Still env w s s' := by
  cases o with
  | drawKey =>
    change (if _ then some (_, s) else none) = some (r, s') at h
    split at h
    · cases h
      exact Still.refl w s
    · cases h
  | begin =>
    refine statement_still h (fun r s' h => ?_)
    cases h
    exact still_abandon s w
  | merchantForUpdate merchantId => exact statement_still h (fun _ _ h => selectForUpdate_still h)
  | revokeActiveKeys merchantId => exact statement_still h (fun _ _ h => revokeActiveKeys_still h)
  | revokeKey merchantId keyId => exact statement_still h (fun _ _ h => revokeKey_still h)
  | insertMerchant merchantId name plan => exact statement_still h (fun _ _ h => insertMerchant_still h)
  | insertKey keyId merchantId keyPrefix apiKey environment => exact statement_still h (fun _ _ h => insertKey_still h)
  | setStatus merchantId status => exact statement_still h (fun _ _ h => setMerchantStatus_still h)
  | audit merchantId eventType details => exact statement_still h (fun _ _ h => insertAudit_still h)
  | selectKey keyId =>
    refine statement_still h (fun r s' h => ?_)
    unfold State.selectKey at h
    split at h
    · cases h
      exact Still.refl w s
    · cases h
      exact Still.refl w s
  | touchKey keyId =>
    refine statement_still h (fun r s' h => ?_)
    cases h
    exact Still.refl w s
  | commit => exact ho.elim
  | rollback =>
    refine statement_still h (fun r s' h => ?_)
    cases h
    exact still_abandon s w

/-! ## Committing -/

/-- A worker's transaction holds a merchant's row, found the account `a` there, and wrote `writes`. -/
structure Owns (w : Nat) (merchantId : String) (a : Account) (writes : List Write) (s : State) : Prop where
  held : s.locks merchantId = some w
  account : s.tables.account merchantId = a
  wrote : s.writes w = writes

/-- The steps of others leave what a transaction knows as it is. -/
theorem Owns.rely {w : Nat} {m : String} {a : Account} {writes : List Write} {s s' : State} (h : Owns w m a writes s)
    (hr : Rely w s s') : Owns w m a writes s' :=
  ⟨(hr.held m h.held).1, (hr.held m h.held).2.trans h.account, hr.writes.trans h.wrote⟩

/-- The account as the transaction sees it. -/
theorem Owns.view {w : Nat} {m : String} {a : Account} {writes : List Write} {s : State} (h : Owns w m a writes s) :
    (s.view w).account m = writes.foldl (fun a x => x.on m a) a := by
  rw [account_view, h.account, h.wrote]

/-- The writes are all on one merchant's account and make one step of it, and a merchant that is inserted was not there. -/
structure Fits (env : Env) (merchantId : String) (a : Account) (writes : List Write) : Prop where
  about : ∀ x ∈ writes, x.about = some merchantId ∨ x.about = none
  step : Account.Step (Vouched env (writes.filterMap Write.issued)) a (writes.foldl (fun a x => x.on merchantId a) a)
  inserted : writes.filterMap Write.merchantId = [] ∨ (a.merchant = none ∧ writes.filterMap Write.merchantId = [merchantId])

/-- A key stays vouched for when more keys are issued. -/
theorem Vouched.mono {issued issued' : List Issued} (h : ∀ i ∈ issued, i ∈ issued') {k : KeyRow} (hk : Vouched env issued k) :
    Vouched env issued' k := by
  obtain ⟨salt, apiKey, hissued, hhash⟩ := hk
  exact ⟨salt, apiKey, h _ hissued, hhash⟩

/-- The account of another merchant after a commit. -/
theorem account_commit_other {w : Nat} {m : String} {a : Account} {writes : List Write} {s : State} (h : Owns w m a writes s)
    (hfits : Fits env m a writes) {m' : String} (hne : m' ≠ m) : (s.commit w).tables.account m' = s.tables.account m' := by
  refine (account_view s w m').trans (applied_other (fun x hx he => ?_) _)
  rw [h.wrote] at hx
  rcases hfits.about x hx with habout | habout
  · exact hne (Option.some.inj (he.symm.trans habout))
  · rw [habout] at he
    cases he

/-- A merchant without a row has an id that no row has. -/
theorem not_mem_ids {d : Tables} {m : String} (h : d.merchantOf m = none) : m ∉ d.merchants.map (·.merchantId) := by
  intro hmem
  obtain ⟨row, hrow, rfl⟩ := List.mem_map.1 hmem
  exact List.find?_eq_none.1 h row hrow (decide_eq_true rfl)

/-- A commit whose writes make a step of the account it holds keeps what holds of the database. -/
theorem commit_sound {w : Nat} {m : String} {a : Account} {writes : List Write} {s : State} (hs : s.Sound env)
    (h : Owns w m a writes s) (hfits : Fits env m a writes) : (s.commit w).Sound env := by
  have hissued : ∀ k, Vouched env s.issued k → Vouched env (s.commit w).issued k :=
    fun k => Vouched.mono (fun i hi => List.mem_append_left _ hi)
  refine ⟨?_, ?_, ?_⟩
  · change (((s.writes w).foldl (fun d x => x.apply d) s.tables).merchants.map (·.merchantId)).Nodup
    rw [merchantIds_applied, h.wrote]
    rcases hfits.inserted with hnone | ⟨hnew, hone⟩
    · rw [hnone, List.append_nil]
      exact hs.merchants
    · rw [hone]
      have hfresh : m ∉ s.tables.merchants.map (·.merchantId) := by
        rw [← h.account] at hnew
        exact not_mem_ids hnew
      refine List.nodup_append.2 ⟨hs.merchants, List.nodup_singleton _, ?_⟩
      intro id hid id' hid' he
      rw [List.mem_singleton.1 hid'] at he
      exact hfresh (he ▸ hid)
  · change (((s.writes w).foldl (fun d x => x.apply d) s.tables).keys.map (·.keyId) ++
      (s.pending.filter (fun p => decide (p.1 ≠ w))).filterMap (fun p => p.2.keyId)).Nodup
    rw [keyIds_applied, List.append_assoc]
    -- what the transaction inserted moves from the open writes to the tables
    have hown : (s.writes w).filterMap Write.keyId =
        (s.pending.filter (fun p => decide (p.1 = w))).filterMap (fun p => p.2.keyId) := by
      unfold State.writes
      rw [List.filterMap_filterMap, List.filterMap_filter]
      refine List.filterMap_congr (fun p _ => ?_)
      by_cases hp : p.1 = w
      · simp [hp]
      · simp [hp]
    rw [hown, ← List.filterMap_append]
    refine (List.Perm.nodup_iff (List.Perm.append_left _ (List.Perm.filterMap _ ?_))).1 hs.keys
    have hsplit := (List.filter_append_perm (fun p : Nat × Write => decide (p.1 = w)) s.pending).symm
    simpa only [decide_not] using hsplit
  · intro m'
    by_cases hm : m' = m
    · subst hm
      have hstep := hfits.step
      have haccount : (s.commit w).tables.account m' = writes.foldl (fun a x => x.on m' a) a := h.view
      rw [haccount]
      have hretire : ∀ k, Vouched env (s.commit w).issued k → Vouched env (s.commit w).issued k.retire := fun _ hk => hk
      have hnew : ∀ i ∈ writes.filterMap Write.issued, i ∈ (s.commit w).issued := by
        intro i hi
        refine List.mem_append_right _ ?_
        rw [h.wrote]
        exact hi
      have hstep' : Account.Step (Vouched env (s.commit w).issued) a (writes.foldl (fun a x => x.on m' a) a) :=
        hstep.mono (fun k => Vouched.mono hnew)
      refine hstep'.sound hretire ?_
      rw [← h.account]
      exact (hs.accounts m').mono hissued
    · rw [account_commit_other h hfits hm]
      exact (hs.accounts m').mono hissued

/-- A commit whose writes make a step of the account it holds leaves the others alone and keeps revoked keys. -/
theorem commit_guar {w : Nat} {m : String} {a : Account} {writes : List Write} {s : State} (h : Owns w m a writes s)
    (hfits : Fits env m a writes) : Guar w s (s.commit w) := by
  have hother : ∀ m', m' ≠ m → (s.commit w).tables.account m' = s.tables.account m' := fun _ => account_commit_other h hfits
  refine ⟨fun w' hne => writes_abandon_other s hne, fun w' hne m' hm' => locks_abandon_other s hne hm', fun m' hm' => ?_, ?_⟩
  · refine hother m' (fun he => hm' ?_)
    rw [he]
    exact h.held
  · intro k hk hrevoked
    rw [mem_keys] at hk ⊢
    by_cases hm : k.merchantId = m
    · rw [hm] at hk ⊢
      rw [h.account] at hk
      have haccount : (s.commit w).tables.account m = writes.foldl (fun a x => x.on m a) a := h.view
      rw [haccount]
      exact hfits.step.retired hk hrevoked
    · rw [hother _ hm]
      exact hk

end Merchants

end Archisynapse
