import Archisynapse.Base.Sums
import Archisynapse.Lemmas.MerchantsPrograms

/-!
# The key lifecycle

However provisioning, rotation, revocation, suspension, resumption and authentication are interleaved, interrupted or cut off from
the database, a merchant has at most one `ACTIVE` key and none while it is `SUSPENDED`, a revoked key stays revoked, and
`authenticate` returns a merchant only for the whole key that was issued with its `ACTIVE` key id (`key_lifecycle`).
-/

namespace Archisynapse

namespace Merchants

/-- Nothing is stored. -/
def State.empty : State := ⟨⟨[], [], []⟩, fun _ => none, [], []⟩

theorem empty_sound (env : Env) : State.empty.Sound env :=
  ⟨List.nodup_nil, List.nodup_nil, fun _ => ⟨fun _ => rfl, Nat.zero_le 1, nofun, nofun⟩⟩

variable {env : Env}

/-- The account of a stored merchant is its row's. -/
theorem State.Sound.account {s : State} (hs : s.Sound env) {m : MerchantRow} (hm : m ∈ s.tables.merchants) :
    (s.tables.account m.merchantId).merchant = some m :=
  find?_key hs.merchants hm

/-- A stored key with the id of a stored key is that key. -/
theorem State.Sound.key_eq {s : State} (hs : s.Sound env) {k k' : KeyRow} (hk : k ∈ s.tables.keys) (hk' : k' ∈ s.tables.keys)
    (hid : k'.keyId = k.keyId) : k' = k :=
  List.inj_on_of_nodup_map (List.nodup_append.1 hs.keys).1 hk' hk hid

/-- The traced outline holds where the database is sound and no call was made. -/
theorem traced_init {s : State} (hs : s.Sound env) : ((outline env).traced (post env)).inv (s, []) := ⟨hs, nofun⟩

/-- From any database that is sound (an empty one is), along any run of the operations on any merchants, each worker stalled,
crashed or cut off anywhere: every merchant has at most one `ACTIVE` key; a `SUSPENDED` merchant has none; a revoked key is revoked
in every state reached later; and a merchant that `authenticate` returns is one that was `ACTIVE` when the key was looked up, with
an `ACTIVE` key id that the whole key was issued with. Argon2 is assumed to verify only the key that was hashed. -/
theorem key_lifecycle (hverify : ∀ salt apiKey apiKey', env.verify (env.hash salt apiKey) apiKey' = .ok true → apiKey' = apiKey)
    {s : State} (hs : s.Sound env) {cfg : (machine env).traced.Config}
    (hrun : (machine env).traced.Run (.any _) (.init _ (s, [])) cfg) :
    (∀ merchantId, (cfg.state.1.tables.activeKeysOf merchantId).length ≤ 1) ∧
    (∀ m ∈ cfg.state.1.tables.merchants, m.status = .suspended → cfg.state.1.tables.activeKeysOf m.merchantId = []) ∧
    (∀ cfg', (machine env).traced.Run (.any _) cfg cfg' → ∀ k ∈ cfg.state.1.tables.keys, k.status = .revoked →
      ∀ k' ∈ cfg'.state.1.tables.keys, k'.keyId = k.keyId → k'.status = .revoked) ∧
    ∀ (w : (machine env).traced.Worker) (apiKey : String) (principal : MerchantPrincipal) (s' : (machine env).traced.State),
      w.call = .authenticate apiKey → cfg.Ends (.any _) w (.ok (.principal principal)) s' →
      Granted env w.id apiKey principal s'.2 := by
  have hsound := traced_sound hverify
  have hinit := traced_init hs
  have hnow : cfg.state.1.Sound env := (Machine.Outline.run_inv hsound hinit hrun).1
  refine ⟨fun merchantId => (hnow.accounts merchantId).single, fun m hm hsuspended => ?_, fun cfg' hrun' k hk hrevoked k' hk' hid => ?_,
    fun w apiKey principal s' hcall hends => ?_⟩
  · refine (hnow.accounts m.merchantId).barred m (hnow.account hm) ?_
    rw [hsuspended]
    exact nofun
  · have hlater : cfg'.state.1.Sound env := (Machine.Outline.run_inv hsound hinit (hrun.trans hrun')).1
    have hkept : ∀ k ∈ cfg.state.1.tables.keys, k.status = .revoked → k ∈ cfg'.state.1.tables.keys :=
      hsound.run_moves (R := fun s s' => ∀ k ∈ s.1.tables.keys, k.status = .revoked → k ∈ s'.1.tables.keys)
        (fun _ _ hk _ => hk) (fun _ _ _ h h' k hk hr => h' k (h k hk hr) hr) (fun _ _ _ _ _ hg => hg.1.retired)
        (fun _ _ _ _ hk _ => hk) hinit hrun hrun'
    rw [hlater.key_eq (hkept k hk hrevoked) hk' hid]
    exact hrevoked
  · exact (Machine.Outline.ends hsound hinit hrun hends).2 apiKey principal hcall rfl

/-! ## A run -/

/-- A gateway with a master key, and a hash that keeps the key as it is. -/
def playEnv : Env := ⟨true, fun _ apiKey => apiKey, fun apiKeyHash apiKey => .ok (decide (apiKeyHash = apiKey))⟩

theorem playEnv_verifies (salt apiKey apiKey' : String) (h : playEnv.verify (playEnv.hash salt apiKey) apiKey' = .ok true) :
    apiKey' = apiKey := by
  have h : decide (apiKey = apiKey') = true := Except.ok.inj h
  exact (of_decide_eq_true h).symm

/-- A call that goes well and draws a key with this id. -/
def draws (keyId : String) : Choice := ⟨none, keyId, "AAAAAAAAAAAAAAAAAAAAAAAAAAAAAAAAAAAAAAAAAAA", ""⟩

/-- A merchant is provisioned, two workers that both began rotate its key one after the other, and a fourth looks the last key up. -/
def playEvents : List (machine playEnv).traced.Event :=
  [.start (.provisionMerchant "mer_1" "Shop" "growth" "test")] ++ List.replicate 6 (.call 0 (draws "0000000000000001")) ++
  [.start (.rotateKey "mer_1" "test"), .start (.rotateKey "mer_1" "live"), .call 2 (draws ""), .call 1 (draws "")] ++
  List.replicate 6 (.call 1 (draws "0000000000000002")) ++
  List.replicate 6 (.call 2 (draws "0000000000000003")) ++
  [.start (.authenticate "arch_live_0000000000000003_AAAAAAAAAAAAAAAAAAAAAAAAAAAAAAAAAAAAAAAAAAA"), .call 3 (draws "")]

/-- The last of the keys is `ACTIVE`, and the fourth worker is about to return its merchant. -/
def playCheck (cfg : (machine playEnv).traced.Config) : Bool :=
  decide (cfg.state.1.tables.keys.map (·.status) = [.revoked, .revoked, .active]) &&
    match cfg.ended 3 (draws "") with
    | some (x, .ok (.principal p), _) =>
      decide (x.id = 3) && decide (p = ⟨"mer_1", "Shop", "growth", "0000000000000003"⟩) &&
        decide (x.call = .authenticate "arch_live_0000000000000003_AAAAAAAAAAAAAAAAAAAAAAAAAAAAAAAAAAAAAAAAAAA")
    | _ => false

/-- Two rotations of a merchant's key at once leave one `ACTIVE` key, and the worker that authenticates with it was granted. -/
theorem key_lifecycle_play : ∃ cfg, (machine playEnv).traced.Run (.any _) (.init _ (State.empty, [])) cfg ∧
    cfg.state.1.tables.keys.map (·.status) = [.revoked, .revoked, .active] ∧
    (cfg.state.1.tables.activeKeysOf "mer_1").length ≤ 1 ∧ ∃ s' : (machine playEnv).traced.State,
      Granted playEnv 3 "arch_live_0000000000000003_AAAAAAAAAAAAAAAAAAAAAAAAAAAAAAAAAAAAAAAAAAA"
        ⟨"mer_1", "Shop", "growth", "0000000000000003"⟩ s'.2 := by
  obtain ⟨cfg, hrun, hcheck⟩ := Machine.Config.replay_any (C := .any (machine playEnv).traced)
    (fun cfg e (_ : (fun _ _ => true) cfg e = true) => Machine.Cond.allows_any cfg e) playEvents (.init _ (State.empty, [])) playCheck (by decide +kernel)
  obtain ⟨hone, -, -, hgranted⟩ := key_lifecycle playEnv_verifies (empty_sound playEnv) hrun
  unfold playCheck at hcheck
  rw [Bool.and_eq_true] at hcheck
  obtain ⟨hkeys, hreturns⟩ := hcheck
  refine ⟨cfg, hrun, of_decide_eq_true hkeys, hone _, ?_⟩
  split at hreturns
  · rename_i x p s' hended
    simp only [Bool.and_eq_true, decide_eq_true_eq] at hreturns
    obtain ⟨⟨hid, rfl⟩, hcall⟩ := hreturns
    have hends := Machine.Config.ends_of_ended (C := .any _) (Machine.Cond.allows_any cfg _) hended
    exact ⟨s', hid ▸ hgranted x _ _ s' hcall hends⟩
  · cases hreturns

end Merchants

end Archisynapse
