import Archisynapse.Audit.Operations

/-!
# What the audit table holds

The order of the numbers is the order of the rows and of the chain (`Sound`), an append of an event that was hashed after the last
row keeps that (`Sound.insert`), and no connection but the one that has begun to write changes what it works on (`Rely`): so the
statements of a body keep the table sound (`body_keeps`), and so does every transaction (`outline_sound`).
-/

namespace Archisynapse

namespace Audit

variable {sha256 : Sha256}

/-! ## The order of the rows -/

theorem AuditTable.ordered_perm (t : AuditTable) : t.ordered.Perm t.rows := List.perm_insertionSort _ _

theorem AuditTable.ordered_sorted (t : AuditTable) : t.ordered.Pairwise (fun a b => a.sequence ≤ b.sequence) :=
  have : Std.Total (fun a b : AuditEvent => a.sequence ≤ b.sequence) := ⟨fun a b => Nat.le_total a.sequence b.sequence⟩
  have : IsTrans AuditEvent (fun a b => a.sequence ≤ b.sequence) := ⟨fun _ _ _ => Nat.le_trans⟩
  List.pairwise_insertionSort _ _

/-- The last hash is the one the chain ends with. -/
theorem AuditTable.lastHash_eq (sha256 : Sha256) (t : AuditTable) : t.lastHash = (chain sha256).head none t.ordered := by
  have : Std.Total (fun a b : AuditEvent => b.sequence ≤ a.sequence) := ⟨fun a b => Nat.le_total b.sequence a.sequence⟩
  have : IsTrans AuditEvent (fun a b => b.sequence ≤ a.sequence) := ⟨fun _ _ _ h h' => Nat.le_trans h' h⟩
  have hperm := (List.perm_insertionSort (fun a b : AuditEvent => b.sequence ≤ a.sequence) t.rows).trans
    (t.ordered_perm.symm.trans (List.reverse_perm _).symm)
  have hrev : t.rows.insertionSort (fun a b => b.sequence ≤ a.sequence) = t.ordered.reverse := by
    refine hperm.eq_of_pairwise (fun a b ha hb hab hba => ?_) (List.pairwise_insertionSort _ _)
      (List.pairwise_reverse.2 t.ordered_sorted)
    have ha' := (List.perm_insertionSort _ _).mem_iff.1 ha
    have hb' := t.ordered_perm.mem_iff.1 (List.mem_reverse.1 hb)
    exact List.inj_on_of_nodup_map t.sequences ha' hb' (Nat.le_antisymm hba hab)
  unfold lastHash HashChain.head
  rw [hrev, List.head?_reverse, Option.or_none]
  rfl

theorem AuditTable.ordered_eq {t : AuditTable} (h : (t.rows.map (·.sequence)).Pairwise (· < ·)) : t.ordered = t.rows :=
  ((List.pairwise_map.1 h).imp Nat.le_of_lt).insertionSort_eq

/-! ## What the hashes say -/

/-- The contents of the rows, in the order of the chain. -/
def AuditTable.contents (t : AuditTable) : List (List String) := t.ordered.map AuditEvent.content

/-- No field of a row holds a bar. -/
def AuditEvent.Barless (e : AuditEvent) : Prop := ∀ f ∈ e.content, '|' ∉ f.toList

instance (e : AuditEvent) : Decidable e.Barless := inferInstanceAs (Decidable (∀ f ∈ e.content, '|' ∉ f.toList))

section

variable (hinj : Function.Injective sha256) (hhex : ∀ text, sha256 text ≠ "" ∧ '|' ∉ (sha256 text).toList)

include hhex in
/-- A hash that was made has no bar. -/
theorem made_barless {p : Option String} (hp : (chain sha256).Made p) : '|' ∉ (p.getD "").toList := by
  rcases hp with rfl | ⟨q, c, rfl⟩
  · exact List.not_mem_nil
  · exact (hhex _).2

include hhex in
/-- Hashes that were made are told apart by what stands for them in the hashed text. -/
theorem made_inj {p q : Option String} (hp : (chain sha256).Made p) (hq : (chain sha256).Made q) (h : p.getD "" = q.getD "") :
    p = q := by
  rcases hp with rfl | ⟨p', c, rfl⟩
  · rcases hq with rfl | ⟨q', d, rfl⟩
    · rfl
    · exact absurd h.symm (hhex _).1
  · rcases hq with rfl | ⟨q', d, rfl⟩
    · exact absurd h (hhex _).1
    · exact congrArg some h

include hinj hhex in
/-- The hash of an event without a bar says what it follows and what its content is. -/
theorem digest_unique {e e' : AuditEvent} (he : e.Barless) {p q : Option String} (hp : (chain sha256).Made p)
    (hq : (chain sha256).Made q) (h : (chain sha256).digest p e = (chain sha256).digest q e') :
    p = q ∧ e.content = e'.content := by
  have hfields : p.getD "" :: e.content = q.getD "" :: e'.content := by
    refine joinWith_inj (fun f hf => ?_) rfl (hinj h)
    rcases List.mem_cons.1 hf with rfl | hf
    · exact made_barless hhex hp
    · exact he f hf
  obtain ⟨hprev, hcontent⟩ := List.cons.inj hfields
  exact ⟨made_inj hhex hp hq hprev, hcontent⟩

include hinj hhex in
/-- A table that is checked and ends with the same hash as one without bars has the same contents. -/
theorem contents_unique {t t' : AuditTable} (ht : t.verifyAuditChain sha256 = true) (ht' : t'.verifyAuditChain sha256 = true)
    (hbar : ∀ e ∈ t.rows, e.Barless) (hlast : t'.lastHash = t.lastHash) : t'.contents = t.contents := by
  rw [t.lastHash_eq sha256, t'.lastHash_eq sha256] at hlast
  refine ((chain sha256).unique AuditEvent.content ht ht' (fun e he e' p q => ?_) hlast.symm).symm
  exact digest_unique hinj hhex (hbar e (t.ordered_perm.mem_iff.1 he))

end

/-- An event with a bar that another content hashes like. -/
theorem exists_same_material {e : AuditEvent} (hid : '|' ∉ e.eventId.toList) (hat : '|' ∉ e.createdAt.toList)
    (h : ¬ e.Barless) : ∃ e' : AuditEvent, e'.sequence = e.sequence ∧ e'.eventId = e.eventId ∧
      e'.previousHash = e.previousHash ∧ e'.eventHash = e.eventHash ∧ (∀ p, material p e' = material p e) ∧
      e'.content ≠ e.content := by
  have hsplit : ∀ {f : String}, '|' ∈ f.toList → ∃ x y, f.toList = x ++ '|' :: y ∧ String.ofList x ≠ f := by
    intro f hf
    obtain ⟨x, y, hxy⟩ := List.append_of_mem hf
    refine ⟨x, y, hxy, fun heq => ?_⟩
    have hlen := congrArg (fun s : String => s.toList.length) heq
    simp only [String.toList_ofList, hxy, List.length_append, List.length_cons] at hlen
    omega
  obtain ⟨f, hf, hbar⟩ : ∃ f ∈ e.content, '|' ∈ f.toList := by
    by_contra hno
    exact h fun f hf hbar => hno ⟨f, hf, hbar⟩
  simp only [AuditEvent.content, List.mem_cons, List.not_mem_nil, or_false] at hf
  rcases hf with rfl | rfl | rfl | rfl | rfl | rfl
  · exact absurd hbar hid
  · obtain ⟨x, y, hxy, hne⟩ := hsplit hbar
    refine ⟨{ e with aggregateType := String.ofList x, aggregateId := String.ofList (y ++ '|' :: e.aggregateId.toList) },
      rfl, rfl, rfl, rfl, fun p => ?_, fun heq => hne ?_⟩
    · exact joinWith_move hxy [p.getD "", e.eventId] [e.eventType, e.payloadJson, e.createdAt]
    · exact (List.cons.inj (List.cons.inj heq).2).1
  · obtain ⟨x, y, hxy, hne⟩ := hsplit hbar
    refine ⟨{ e with aggregateId := String.ofList x, eventType := String.ofList (y ++ '|' :: e.eventType.toList) },
      rfl, rfl, rfl, rfl, fun p => ?_, fun heq => hne ?_⟩
    · exact joinWith_move hxy [p.getD "", e.eventId, e.aggregateType] [e.payloadJson, e.createdAt]
    · exact (List.cons.inj (List.cons.inj (List.cons.inj heq).2).2).1
  · obtain ⟨x, y, hxy, hne⟩ := hsplit hbar
    refine ⟨{ e with eventType := String.ofList x, payloadJson := String.ofList (y ++ '|' :: e.payloadJson.toList) },
      rfl, rfl, rfl, rfl, fun p => ?_, fun heq => hne ?_⟩
    · exact joinWith_move hxy [p.getD "", e.eventId, e.aggregateType, e.aggregateId] [e.createdAt]
    · exact (List.cons.inj (List.cons.inj (List.cons.inj (List.cons.inj heq).2).2).2).1
  · obtain ⟨x, y, hxy, hne⟩ := hsplit hbar
    refine ⟨{ e with payloadJson := String.ofList x, createdAt := String.ofList (y ++ '|' :: e.createdAt.toList) },
      rfl, rfl, rfl, rfl, fun p => ?_, fun heq => hne ?_⟩
    · exact joinWith_move hxy [p.getD "", e.eventId, e.aggregateType, e.aggregateId, e.eventType] []
    · exact (List.cons.inj (List.cons.inj (List.cons.inj (List.cons.inj (List.cons.inj heq).2).2).2).2).1
  · exact absurd hbar hat

/-! ## Appending -/

/-- What an insert leaves. -/
theorem AuditTable.insert_ok {t t' : AuditTable} {e : AuditEvent} (h : t.insert e = .ok t') :
    t'.rows = t.rows ++ [{ e with sequence := t.lastSequence + 1 }] := by
  unfold insert at h
  split at h
  · cases h
  split at h
  · cases h
  · cases h
    rfl

/-- A table that is a chain in the order of its numbers, with ids and times without a bar. -/
structure Sound (sha256 : Sha256) (t : AuditTable) : Prop where
  verified : (chain sha256).verify none t.rows = true
  numbered : (t.rows.map (·.sequence)).Pairwise (· < ·)
  clean : ∀ e ∈ t.rows, '|' ∉ e.eventId.toList ∧ '|' ∉ e.createdAt.toList

theorem sound_empty : Sound sha256 .empty := ⟨rfl, List.Pairwise.nil, by simp [AuditTable.empty]⟩

theorem Sound.verify {t : AuditTable} (h : Sound sha256 t) : t.verifyAuditChain sha256 = true := by
  unfold AuditTable.verifyAuditChain
  rw [AuditTable.ordered_eq h.numbered]
  exact h.verified

/-- A sound table with a bar in a field: another table is checked and ends with the same hash. -/
theorem Sound.exists_other {t : AuditTable} (h : Sound sha256 t) (hbar : ¬ ∀ e ∈ t.rows, e.Barless) :
    ∃ t' : AuditTable, t'.verifyAuditChain sha256 = true ∧ t'.lastHash = t.lastHash ∧ t'.contents ≠ t.contents := by
  obtain ⟨e, he, hbar⟩ : ∃ e ∈ t.rows, ¬ e.Barless := by
    by_contra hno
    exact hbar fun e he => by_contra fun hb => hno ⟨e, he, hb⟩
  obtain ⟨hid, hat⟩ := h.clean e he
  obtain ⟨e', hseq, hid', hprev, hhash, hmat, hcontent⟩ := exists_same_material hid hat hbar
  obtain ⟨l, l', hrows⟩ := List.append_of_mem he
  have hmap : ∀ {β : Type} {f : AuditEvent → β}, f e' = f e → (l ++ e' :: l').map f = t.rows.map f := by
    intro β f hf
    rw [hrows, List.map_append, List.map_append, List.map_cons, List.map_cons, hf]
  let t' : AuditTable :=
    { rows := l ++ e' :: l'
      lastSequence := t.lastSequence
      sequences := (hmap hseq).symm ▸ t.sequences
      counted := by
        intro r hr
        have hmem := List.mem_map_of_mem (f := AuditEvent.sequence) hr
        rw [hmap hseq] at hmem
        obtain ⟨r', hr', heq⟩ := List.mem_map.1 hmem
        exact heq ▸ t.counted r' hr'
      eventIds := (hmap hid').symm ▸ t.eventIds
      eventHashes := (hmap hhash).symm ▸ t.eventHashes }
  have hordered : t.ordered = l ++ e :: l' := (AuditTable.ordered_eq h.numbered).trans hrows
  have hordered' : t'.ordered = l ++ e' :: l' := AuditTable.ordered_eq ((hmap hseq).symm ▸ h.numbered)
  have hverify := h.verified
  rw [hrows] at hverify
  refine ⟨t', ?_, ?_, fun heq => hcontent ?_⟩
  · unfold AuditTable.verifyAuditChain
    rw [hordered']
    exact HashChain.verify_replace hprev hhash (congrArg sha256 (hmat _)) hverify
  · have hlast := congrArg List.getLast? (hmap (f := AuditEvent.eventHash) hhash)
    rw [hrows, List.getLast?_map, List.getLast?_map] at hlast
    rw [t.lastHash_eq sha256, t'.lastHash_eq sha256, hordered, hordered']
    unfold HashChain.head
    exact congrArg (fun o => Option.or o none) hlast
  · unfold AuditTable.contents at heq
    rw [hordered, hordered', List.map_append, List.map_append] at heq
    exact (List.cons.inj (List.append_cancel_left heq)).1

/-- An event hashed after the last row. -/
structure Follows (sha256 : Sha256) (t : AuditTable) (e : AuditEvent) : Prop where
  previous : e.previousHash = t.lastHash
  hash : e.eventHash = sha256 (material t.lastHash e)
  clean : '|' ∉ e.eventId.toList ∧ '|' ∉ e.createdAt.toList

theorem Sound.insert {t t' : AuditTable} {e : AuditEvent} (h : Sound sha256 t) (he : Follows sha256 t e)
    (hok : t.insert e = .ok t') : Sound sha256 t' ∧ t.rows <+: t'.rows := by
  have hrows := AuditTable.insert_ok hok
  have hlast := t.lastHash_eq sha256
  rw [AuditTable.ordered_eq h.numbered] at hlast
  refine ⟨⟨?_, ?_, ?_⟩, hrows ▸ List.prefix_append _ _⟩
  · rw [hrows, HashChain.verify_concat, ← hlast]
    exact ⟨h.verified, he.previous, he.hash⟩
  · rw [hrows, List.map_append, List.pairwise_append]
    refine ⟨h.numbered, List.pairwise_singleton _ _, fun n hn m hm => ?_⟩
    obtain ⟨r, hr, rfl⟩ := List.mem_map.1 hn
    rw [List.mem_singleton.1 hm]
    exact Nat.lt_succ_of_le (t.counted r hr)
  · intro r hr
    rw [hrows] at hr
    rcases List.mem_append.1 hr with hr | hr
    · exact h.clean r hr
    · rw [List.mem_singleton.1 hr]
      exact he.clean

/-! ## One statement -/

/-- The committed table is sound, and so is the one that is written, which extends it. -/
structure Inv (sha256 : Sha256) (s : State) : Prop where
  db : Sound sha256 s.db
  writer : ∀ w t, s.writer = some (w, t) → Sound sha256 t ∧ s.db.rows <+: t.rows

theorem inv_empty : Inv sha256 .empty := ⟨sound_empty, fun _ _ h => by cases h⟩

/-- While a worker writes, no one else changes what it works on. -/
def Rely (w : Nat) (s s' : State) : Prop := ∀ t, s.writer = some (w, t) → s'.writer = some (w, t)

/-- A step of a worker: the others may rely on it, and committed rows stay. -/
def Guar (w : Nat) (s s' : State) : Prop := (∀ w', w' ≠ w → Rely w' s s') ∧ s.db.rows <+: s'.db.rows

theorem guar_refl (w : Nat) (s : State) : Guar w s s := ⟨fun _ _ _ h => h, List.prefix_refl _⟩

/-- A transaction that is undone. -/
theorem State.drop_keeps {s : State} (w : Nat) (hs : Inv sha256 s) : Inv sha256 (s.drop w) ∧ Guar w s (s.drop w) := by
  refine ⟨⟨hs.db, fun w' t h => hs.writer w' t ?_⟩, fun w' hne t h => ?_, List.prefix_refl _⟩
  · exact (Option.filter_eq_some_iff.1 h).1
  · exact Option.filter_eq_some_iff.2 ⟨h, by simp [hne]⟩

/-- The statement is not an insert of an event. -/
def Statement.Plain : Statement → Prop
  | .insertEvent _ => False
  | _ => True

/-- A statement that is not an insert of an event. -/
theorem exec_plain {w : Nat} {o : Statement} {ch : Choice} {s s' : State} {r : Except Fault o.Result} (ho : o.Plain)
    (hs : Inv sha256 s) (h : exec w o ch s = some (r, s')) : Inv sha256 s' ∧ Guar w s s' := by
  unfold exec at h
  cases hf : ch.fails with
  | some f =>
    obtain ⟨e, ends⟩ := f
    rw [hf] at h
    cases h
    split
    · exact s.drop_keeps w hs
    · exact ⟨hs, guar_refl w s⟩
  | none =>
    rw [hf] at h
    cases o with
    | insertEvent e => exact ho.elim
    | begin =>
      dsimp only at h
      split at h
      · rename_i hnone
        cases h
        refine ⟨⟨hs.db, fun w' t heq => ?_⟩, fun w' _ t heq => ?_, List.prefix_refl _⟩
        · cases heq
          exact ⟨hs.db, List.prefix_refl _⟩
        · rw [hnone] at heq
          cases heq
      · split at h
        · cases h
          exact ⟨hs, guar_refl w s⟩
        · cases h
    | commit =>
      dsimp only at h
      split at h
      · rename_i w' t hw
        cases h
        split
        · rename_i heq
          obtain ⟨ht, hpre⟩ := hs.writer w' t hw
          refine ⟨⟨ht, fun _ _ h => by cases h⟩, fun w'' hne t' h => ?_, hpre⟩
          rw [hw] at h
          cases h
          exact absurd heq hne
        · exact ⟨hs, guar_refl w s⟩
      · cases h
        exact ⟨hs, guar_refl w s⟩
    | rollback =>
      cases h
      exact s.drop_keeps w hs
    | close =>
      cases h
      exact s.drop_keeps w hs
    | fetchone table =>
      cases h
      exact ⟨hs, guar_refl w s⟩
    | execute table =>
      cases h
      exact ⟨hs, guar_refl w s⟩
    | compute =>
      cases h
      exact ⟨hs, guar_refl w s⟩
    | uuid =>
      cases h
      exact ⟨hs, guar_refl w s⟩
    | isoNow =>
      cases h
      exact ⟨hs, guar_refl w s⟩
    | selectHead =>
      cases h
      exact ⟨hs, guar_refl w s⟩

/-- An insert by the worker that writes, of an event hashed after the last row. -/
theorem exec_insert {w : Nat} {t : AuditTable} {e : AuditEvent} {ch : Choice} {s s' : State} {r : Except Fault Unit}
    (hs : Inv sha256 s) (hw : s.writer = some (w, t)) (he : Follows sha256 t e)
    (h : exec w (.insertEvent e) ch s = some (r, s')) :
    Inv sha256 s' ∧ Guar w s s' ∧ (r.isOk = true → ∃ t', s'.writer = some (w, t')) := by
  unfold exec at h
  cases hf : ch.fails with
  | some f =>
    obtain ⟨f, ends⟩ := f
    rw [hf] at h
    cases h
    refine and_assoc.1 ⟨?_, fun hr => by cases hr⟩
    split
    · exact s.drop_keeps w hs
    · exact ⟨hs, guar_refl w s⟩
  | none =>
    rw [hf, hw] at h
    dsimp only at h
    rw [if_pos rfl] at h
    obtain ⟨ht, hpre⟩ := hs.writer w t hw
    cases hins : t.insert e with
    | error f =>
      rw [hins] at h
      cases h
      exact ⟨hs, guar_refl w s, fun hr => by cases hr⟩
    | ok t' =>
      rw [hins] at h
      cases h
      obtain ⟨ht', hpre'⟩ := ht.insert he hins
      refine ⟨⟨hs.db, fun w' u hu => ?_⟩, ⟨fun w' hne u hu => ?_, List.prefix_refl _⟩, fun _ => ⟨t', rfl⟩⟩
      · cases hu
        exact ⟨ht', hpre.trans hpre'⟩
      · rw [hw] at hu
        cases hu
        exact absurd rfl hne

/-- A statement that leaves the transaction as it is, when it is answered. -/
def Statement.Reads : Statement → Prop
  | .fetchone _ => True
  | .execute _ => True
  | .compute => True
  | .uuid => True
  | .isoNow => True
  | .selectHead => True
  | _ => False

theorem Statement.Reads.plain {o : Statement} (h : o.Reads) : o.Plain := by
  cases o <;> first | exact trivial | exact h.elim

theorem exec_reads {w : Nat} {o : Statement} {ch : Choice} {s s' : State} {a : o.Result} (ho : o.Reads)
    (h : exec w o ch s = some (.ok a, s')) : s' = s := by
  unfold exec at h
  cases hf : ch.fails with
  | some f =>
    rw [hf] at h
    cases h
  | none =>
    rw [hf] at h
    cases o <;> first | (cases h; rfl) | exact ho.elim

/-- The answer of the read of the last hash. -/
theorem exec_selectHead {w : Nat} {ch : Choice} {s s' : State} {previousHash : Option String}
    (h : exec w .selectHead ch s = some (.ok previousHash, s')) : previousHash = (s.view w).lastHash := by
  unfold exec at h
  cases hf : ch.fails with
  | some f =>
    rw [hf] at h
    cases h
  | none =>
    rw [hf] at h
    cases h
    rfl

/-- After `BEGIN IMMEDIATE` the worker writes. -/
theorem exec_begin {w : Nat} {ch : Choice} {s s' : State} {a : Unit} (h : exec w .begin ch s = some (.ok a, s')) :
    s'.writer = some (w, s.db) := by
  unfold exec at h
  cases hf : ch.fails with
  | some f =>
    rw [hf] at h
    cases h
  | none =>
    rw [hf] at h
    dsimp only at h
    split at h
    · cases h
      rfl
    split at h
    · cases h
    · cases h

/-! ## Bodies and transactions -/

/-- The outline of the operations. -/
def outline (sha256 : Sha256) : Machine.Outline (machine sha256) where
  inv := Inv sha256
  rely w _ := Rely w
  guar w _ := Guar w
  compat _ _ _ _ := True

/-- The contract of a worker. -/
def contract (sha256 : Sha256) (w : Nat) : Contract State := ⟨Inv sha256, Rely w, Guar w⟩

/-- What a worker's statement may do. -/
abbrev Does (sha256 : Sha256) (w : Nat) := Machine.Does (machine sha256) (.any _) w

/-- The worker writes a table that satisfies `P`. -/
def Writes (w : Nat) (P : AuditTable → Prop) (s : State) : Prop := ∃ t, s.writer = some (w, t) ∧ P t

theorem Writes.rely {w : Nat} {P : AuditTable → Prop} {s s' : State} (h : Writes w P s) (hr : Rely w s s') : Writes w P s' := by
  obtain ⟨t, hw, ht⟩ := h
  exact ⟨t, hr t hw, ht⟩

section

variable {w : Nat} {s : State}

/-- A statement that is not an insert of an event keeps the contract. -/
theorem statement_keeps {o : Statement} (ho : o.Plain) {Q : Except Fault o.Result → State → Prop} (hQ : ∀ r s, Q r s) :
    (statement o).wp (Does sha256 w) (contract sha256 w) Q s := by
  refine (Prog.wp_perform (S := signature) o s).2 ?_
  intro s₁ _ hinv r s₂ hdoes
  obtain ⟨-, ch, he⟩ := hdoes
  obtain ⟨hinv₂, hguar⟩ := exec_plain ho hinv he
  exact ⟨hinv₂, hguar, hQ r s₂⟩

/-- A statement of a transaction leaves what is written as it is. -/
theorem statement_reads {o : Statement} (ho : o.Reads) {P : AuditTable → Prop} (hs : Writes w P s) :
    (statement o).wp (Does sha256 w) (contract sha256 w) (Prog.Returning (fun _ => Writes w P)) s := by
  refine (Prog.wp_perform (S := signature) o s).2 ?_
  intro s₁ hrely hinv r s₂ hdoes
  obtain ⟨-, ch, he⟩ := hdoes
  obtain ⟨hinv₂, hguar⟩ := exec_plain ho.plain hinv he
  refine ⟨hinv₂, hguar, ?_⟩
  cases r with
  | error e => exact trivial
  | ok a =>
    obtain rfl := exec_reads ho he
    exact hs.rely hrely

/-- The read of the last hash. -/
theorem selectHead_reads {t : AuditTable} (hs : s.writer = some (w, t)) :
    (statement .selectHead).wp (Does sha256 w) (contract sha256 w)
      (Prog.Returning (fun previousHash s => s.writer = some (w, t) ∧ previousHash = t.lastHash)) s := by
  refine (Prog.wp_perform (S := signature) .selectHead s).2 ?_
  intro s₁ hrely hinv r s₂ hdoes
  obtain ⟨-, ch, he⟩ := hdoes
  obtain ⟨hinv₂, hguar⟩ := exec_plain (o := .selectHead) trivial hinv he
  refine ⟨hinv₂, hguar, ?_⟩
  cases r with
  | error e => exact trivial
  | ok a =>
    have hw := hrely t hs
    obtain rfl := exec_reads (o := .selectHead) trivial he
    refine ⟨hw, (exec_selectHead he).trans ?_⟩
    unfold State.view
    rw [hw]
    exact congrArg AuditTable.lastHash (if_pos rfl)

/-- An append by a worker that writes. -/
theorem appendAuditEvent_keeps (eventId : Token) (aggregateType aggregateId eventType : String) (payload : Json)
    (hs : Writes w (fun _ => True) s) :
    (appendAuditEvent sha256 eventId aggregateType aggregateId eventType payload).wp (Does sha256 w) (contract sha256 w)
      (Prog.Returning (fun _ => Writes w (fun _ => True))) s := by
  obtain ⟨t, hw, -⟩ := hs
  unfold appendAuditEvent
  refine Prog.wp_then (selectHead_reads hw) ?_
  rintro previousHash s₁ ⟨hw₁, rfl⟩
  refine Prog.wp_then (statement_reads (o := .isoNow) (P := fun u => u = t) trivial ⟨t, hw₁, rfl⟩) ?_
  rintro createdAt s₂ ⟨_, hw₂, rfl⟩
  refine (Prog.wp_perform (S := signature) (.insertEvent _) s₂).2 ?_
  intro s₃ hrely hinv r s₄ hdoes
  obtain ⟨-, ch, he⟩ := hdoes
  obtain ⟨hinv₄, hguar, hok⟩ := exec_insert hinv (hrely _ hw₂) ⟨rfl, rfl, eventId.2, createdAt.2⟩ he
  refine ⟨hinv₄, hguar, ?_⟩
  cases r with
  | error e => exact trivial
  | ok a =>
    obtain ⟨t', ht'⟩ := hok rfl
    exact ⟨t', ht', trivial⟩

/-- What a body asks keeps the contract. -/
theorem query_keeps (q : Query) (hs : Writes w (fun _ => True) s) :
    (q.statements sha256).wp (Does sha256 w) (contract sha256 w) (Prog.Returning (fun _ => Writes w (fun _ => True))) s := by
  cases q with
  | fetchone table => exact statement_reads (o := .fetchone table) trivial hs
  | execute table => exact statement_reads (o := .execute table) trivial hs
  | compute => exact statement_reads (o := .compute) trivial hs
  | uuid => exact statement_reads (o := .uuid) trivial hs
  | append eventId aggregateType aggregateId eventType payload =>
    exact appendAuditEvent_keeps eventId aggregateType aggregateId eventType payload hs

/-- The body of a transaction keeps the contract. -/
theorem body_keeps {α : Type} (body : Body α) (hs : Writes w (fun _ => True) s) :
    (body.statements sha256).wp (Does sha256 w) (contract sha256 w) (Prog.Returning (fun _ => Writes w (fun _ => True))) s := by
  induction body generalizing s with
  | pure a => exact hs
  | raise e => exact trivial
  | ask q k ih => exact Prog.wp_then (query_keeps q hs) (fun a s' hs' => ih a hs')

/-- The begin of a transaction. -/
theorem begin_writes :
    (statement .begin).wp (Does sha256 w) (contract sha256 w) (Prog.Returning (fun _ => Writes w (fun _ => True))) s := by
  refine (Prog.wp_perform (S := signature) .begin s).2 ?_
  intro s₁ _ hinv r s₂ hdoes
  obtain ⟨-, ch, he⟩ := hdoes
  obtain ⟨hinv₂, hguar⟩ := exec_plain (o := .begin) trivial hinv he
  refine ⟨hinv₂, hguar, ?_⟩
  cases r with
  | error e => exact trivial
  | ok a => exact ⟨_, exec_begin he, trivial⟩

/-- A transaction keeps the contract, however it ends. -/
theorem transaction_keeps {α : Type} (body : Body α) :
    (transaction sha256 body).wp (Does sha256 w) (contract sha256 w) (fun _ _ => True) s := by
  unfold transaction
  refine (Prog.wp_ensure _ _ _).2 ?_
  refine Prog.wp_mono (fun r s' _ => statement_keeps (o := .close) trivial (fun r' s => by cases r' <;> exact trivial)) _
    (Q := fun _ _ => True) ?_
  refine (Prog.wp_tryCatch _ _ _).2 ?_
  refine Prog.wp_mono (Q := fun _ _ => True) (fun r s' _ => ?_) _ ?_
  · cases r with
    | ok a => exact trivial
    | error e =>
      refine (Prog.wp_bind _ _ _).2 (statement_keeps (o := .rollback) trivial (fun r' s => ?_))
      cases r' <;> exact trivial
  · refine Prog.wp_seq begin_writes (fun _ s₁ hs₁ => ?_) (fun _ _ _ => trivial)
    refine Prog.wp_seq (body_keeps body hs₁) (fun a s₂ _ => ?_) (fun _ _ _ => trivial)
    refine (Prog.wp_bind _ _ _).2 (statement_keeps (o := .commit) trivial (fun r' s => ?_))
    cases r' <;> exact trivial

end

/-- The operations keep the table sound. -/
theorem outline_sound (sha256 : Sha256) : (outline sha256).Sound (.any _) where
  refl _ _ _ := fun _ h => h
  trans _ _ _ _ _ h h' := fun t ht => h' t (h t ht)
  symm _ _ _ _ _ := trivial
  guar _ _ w' _ _ _ hne _ _ h := h.1 w' hne.symm
  start _ op _ _ := ⟨fun _ _ => trivial, transaction_keeps op.body⟩
  crash w s hs := ⟨(s.drop_keeps w hs).1, fun w' _ hne => (s.drop_keeps w hs).2.1 w' hne⟩

/-- The table is sound in every configuration reached. -/
theorem run_sound {cfg : (machine sha256).Config}
    (hrun : (machine sha256).Run (.any _) (.init (machine sha256) .empty) cfg) : Sound sha256 cfg.state.db :=
  (Machine.Outline.run_inv (outline_sound sha256) inv_empty hrun).db

/-- Committed events stay. -/
theorem run_prefix {cfg cfg' : (machine sha256).Config}
    (hrun : (machine sha256).Run (.any _) (.init (machine sha256) .empty) cfg) (hrun' : (machine sha256).Run (.any _) cfg cfg') :
    cfg.state.db.rows <+: cfg'.state.db.rows :=
  (outline_sound sha256).run_moves (R := fun s s' => s.db.rows <+: s'.db.rows) (fun _ => List.prefix_refl _)
    (fun _ _ _ h h' => h.trans h') (fun _ _ _ _ _ h => h.2) (fun _ _ _ => List.prefix_refl _) inv_empty hrun hrun'

end Audit

end Archisynapse
