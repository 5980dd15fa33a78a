import Archisynapse.Base.Sums
import Archisynapse.Fraud.SpineReceiver
import Archisynapse.Lemmas.JsonLoads

/-!
# Events, read back, and certificates

An event that is read back has its members in order, which neither its signature nor its seal depends on
(`verifySignature_inOrder`, `mintSeal_inOrder`). A request stores nothing, an event, or an event and its certificate
(`receiveEvent_cases`), so `Certified` holds after any requests.
-/

namespace Archisynapse

namespace Spine

open Exec (throw gets modify transaction)

/-! ## An event read back -/

/-- The members of an event that was read back. -/
def inOrder (members : List (String × Json)) : List (String × Json) := Json.sortMembers (Json.sortValues members)

theorem inOrder_perm (members : List (String × Json)) : (inOrder members).Perm (Json.sortValues members) :=
  Json.sortMembers_perm _

theorem names_sortValues (members : List (String × Json)) : (Json.sortValues members).map (·.1) = members.map (·.1) := by
  rw [Json.sortValues_eq_map, List.map_map]
  rfl

/-- The value under a name does not depend on the order of the members. -/
theorem member_perm {a b : List (String × Json)} (h : a.Perm b) (hnd : (a.map (·.1)).Nodup) (name : String) :
    Json.member name a = Json.member name b := by
  have hnd' : (b.map (·.1)).Nodup := (h.map _).nodup_iff.1 hnd
  unfold Json.member
  congr 1
  cases ha : a.find? (fun m => decide (m.1 = name)) with
  | none =>
    symm
    exact List.find?_eq_none.2 (fun m hm => List.find?_eq_none.1 ha m (h.mem_iff.2 hm))
  | some m =>
    have hm : m.1 = name := by simpa using List.find?_some ha
    have hmem := h.mem_iff.1 (List.mem_of_find?_eq_some ha)
    rw [← hm]
    exact (find?_key hnd' hmem).symm

theorem member_sortValues (name : String) (members : List (String × Json)) :
    Json.member name (Json.sortValues members) = (Json.member name members).map Json.sortKeys := by
  unfold Json.member
  rw [Json.sortValues_eq_map, List.find?_map, Option.map_map, Option.map_map]
  rfl

theorem member_inOrder {members : List (String × Json)} (hnd : (members.map (·.1)).Nodup) (name : String) :
    Json.member name (inOrder members) = (Json.member name members).map Json.sortKeys := by
  have hnames : ((inOrder members).map (·.1)).Nodup := by
    refine ((inOrder_perm members).map _).nodup_iff.2 ?_
    rw [names_sortValues]
    exact hnd
  rw [member_perm (inOrder_perm members) hnames, member_sortValues]

theorem without_sortValues (name : String) (members : List (String × Json)) :
    Json.without name (Json.sortValues members) = Json.sortValues (Json.without name members) := by
  unfold Json.without
  rw [Json.sortValues_eq_map, Json.sortValues_eq_map, List.filter_map]
  rfl

theorem canonicalJson_sortValues (members : List (String × Json)) :
    canonicalJson (Json.sortValues members) = canonicalJson members := by
  unfold canonicalJson Json.dumps
  rw [Json.sortKeys, Json.sortKeys, Json.sortValues_sortValues]

theorem names_without {name : String} {members : List (String × Json)} (hnd : (members.map (·.1)).Nodup) :
    ((Json.without name members).map (·.1)).Nodup :=
  hnd.sublist (List.filter_sublist.map _)

/-- The signed body of an event that was read back has the text of the body. -/
theorem canonicalJson_body {members : List (String × Json)} (hnd : (members.map (·.1)).Nodup) :
    canonicalJson (Json.without "signature" (Json.without "signing_key_id" (inOrder members))) =
      canonicalJson (Json.without "signature" (Json.without "signing_key_id" members)) := by
  have hperm : (Json.without "signature" (Json.without "signing_key_id" (inOrder members))).Perm
      (Json.without "signature" (Json.without "signing_key_id" (Json.sortValues members))) :=
    ((inOrder_perm members).filter _).filter _
  have hnames : ((Json.without "signature" (Json.without "signing_key_id" (inOrder members))).map (·.1)).Nodup := by
    refine (hperm.map _).nodup_iff.2 (names_without (names_without ?_))
    rw [names_sortValues]
    exact hnd
  rw [without_sortValues, without_sortValues] at hperm
  exact (Json.dumps_perm .compact hperm hnames).trans (canonicalJson_sortValues _)

/-- The signature of an event that was read back is checked as that of the event. -/
theorem verifySignature_inOrder {env : Env} {members : List (String × Json)} (hnd : (members.map (·.1)).Nodup) :
    verifySignature env (inOrder members) = verifySignature env members := by
  unfold verifySignature
  dsimp only
  rw [member_inOrder hnd, canonicalJson_body hnd]
  cases Json.member "signature" members with
  | none => rfl
  | some value => cases value <;> rfl

/-- The seal of an event that was read back is that of the event. -/
theorem mintSeal_inOrder (env : Env) (members : List (String × Json)) : mintSeal env (inOrder members) = mintSeal env members := by
  have hcanonical : canonicalJson (inOrder members) = canonicalJson members := Json.dumps_sortKeys .compact (.obj members)
  unfold mintSeal
  rw [hcanonical]

theorem payloadStyle_plain : payloadStyle.Plain := ⟨⟨[], rfl, by simp⟩, ⟨[], rfl, by simp⟩⟩

/-- The stored payload is read back as the event, its members in order. -/
theorem loads_payload {env : Env} (event : Event env) :
    Json.loads env.printed ((Json.obj event.members).dumps payloadStyle) = some (.obj (inOrder event.members)) :=
  Json.loads_dumps payloadStyle_plain event.readable

/-! ## What a request does -/

/-- The row of an event. -/
def recordOf (event : List (String × Json)) (eventId : String) : SpineEventRecord :=
  { eventId
    eventType := (Json.member "event_type" event).getD (.str "unknown")
    dnaTag := textMember "dna_tag" event
    payload := (Json.obj event).dumps payloadStyle
    signatureValid := true }

/-- A change of the tables by a request for an event. -/
inductive Change (env : Env) (event : List (String × Json)) (s : State) : State → Prop where
  | nothing : Change env event s s
  | stored (eventId : String) (fresh : ∀ r ∈ s.events, r.eventId ≠ eventId) :
      Change env event s { s with events := s.events ++ [recordOf event eventId] }
  | minted (eventId : String) (cert : BirthCertificate) (fresh : ∀ r ∈ s.events, r.eventId ≠ eventId)
      (signature : verifySignature env event = .ok true) (tag : ∀ c ∈ s.certificates, c.dnaTag ≠ cert.dnaTag)
      (source : cert.eventId = eventId) (minted : cert.certificateSeal = mintSeal env event) :
      Change env event s
        { s with events := s.events ++ [recordOf event eventId], certificates := s.certificates ++ [cert] }

section

variable {env : Env} {event : List (String × Json)} {s s' : State}

theorem step_bind_ok {α : Type} {raises : Raises} {st : Step} {f : Unit → Operation α} {a : α}
    (h : (raises.step st >>= f) s = (.ok a, s')) : f () s = (.ok a, s') := by
  obtain ⟨_, s₁, h₁, h₂⟩ := Exec.bind_eq_ok.1 h
  unfold Raises.step at h₁
  cases hst : raises st with
  | some e =>
    rw [hst] at h₁
    exact absurd h₁ (by simp)
  | none =>
    rw [hst] at h₁
    obtain ⟨-, rfl⟩ := Exec.pure_eq_ok.1 h₁
    exact h₂

theorem insertEvent_ok {eventId : String} {u : Unit} (h : insertEvent event eventId s = (.ok u, s')) :
    (∀ r ∈ s.events, r.eventId ≠ eventId) ∧ s' = { s with events := s.events ++ [recordOf event eventId] } := by
  unfold insertEvent at h
  rw [Exec.gets_bind] at h
  rcases Exec.ite_eq_ok.1 h with ⟨-, h₁⟩ | ⟨hknown, h₁⟩
  · exact absurd h₁ (by simp)
  rcases Exec.ite_eq_ok.1 h₁ with ⟨-, h₂⟩ | ⟨-, h₂⟩
  · exact absurd h₂ (by simp)
  rcases Exec.ite_eq_ok.1 h₂ with ⟨-, h₃⟩ | ⟨-, h₃⟩
  · exact absurd h₃ (by simp)
  · refine ⟨fun r hr heq => hknown ?_, (Exec.modify_eq_ok.1 h₃).symm⟩
    exact List.any_eq_true.2 ⟨r, hr, decide_eq_true heq⟩

theorem insertCertificate_ok {eventId dnaTag certificateSeal : String} {u : Unit}
    (h : insertCertificate event eventId dnaTag certificateSeal s = (.ok u, s')) :
    ∃ cert : BirthCertificate, cert.dnaTag = dnaTag ∧ cert.eventId = eventId ∧ cert.certificateSeal = certificateSeal ∧
      (∀ c ∈ s.certificates, c.dnaTag ≠ dnaTag) ∧ s' = { s with certificates := s.certificates ++ [cert] } := by
  unfold insertCertificate at h
  rw [Exec.gets_bind] at h
  rcases Exec.ite_eq_ok.1 h with ⟨-, h₁⟩ | ⟨hknown, h₁⟩
  · exact absurd h₁ (by simp)
  rcases Exec.ite_eq_ok.1 h₁ with ⟨-, h₂⟩ | ⟨-, h₂⟩
  · exact absurd h₂ (by simp)
  · refine ⟨_, rfl, rfl, rfl, fun c hc heq => hknown ?_, (Exec.modify_eq_ok.1 h₂).symm⟩
    exact List.any_eq_true.2 ⟨c, hc, decide_eq_true heq⟩

/-- The answer of a track: the certificate of its tag, which is there already or is minted. -/
theorem mintCertificate_ok {raises : Raises} {eventId : String} {a : EventAccepted}
    (h : mintCertificate env raises event eventId s = (.ok a, s')) :
    ∃ dnaTag, textMember "dna_tag" event = some dnaTag ∧
      ((∃ dupCert, s.certificates.find? (fun c => decide (c.dnaTag = dnaTag)) = some dupCert ∧
        a = ⟨eventId, some dnaTag, some dupCert.certificateSeal, true⟩ ∧ s' = s) ∨
      ∃ cert : BirthCertificate, s.certificates.find? (fun c => decide (c.dnaTag = dnaTag)) = none ∧ cert.dnaTag = dnaTag ∧
        cert.eventId = eventId ∧ cert.certificateSeal = mintSeal env event ∧
        a = ⟨eventId, some dnaTag, some cert.certificateSeal, false⟩ ∧
        s' = { s with certificates := s.certificates ++ [cert] }) := by
  unfold mintCertificate at h
  cases htag : textMember "dna_tag" event with
  | none =>
    rw [htag] at h
    exact absurd h (by simp)
  | some dnaTag =>
    rw [htag] at h
    rcases Exec.ite_eq_ok.1 h with ⟨-, h₁⟩ | ⟨-, h₁⟩
    · exact absurd h₁ (by simp)
    have h₂ := step_bind_ok h₁
    rw [Exec.gets_bind] at h₂
    refine ⟨dnaTag, rfl, ?_⟩
    cases hdup : s.certificates.find? (fun c => decide (c.dnaTag = dnaTag)) with
    | some dupCert =>
      rw [hdup] at h₂
      have hpure := step_bind_ok h₂
      obtain ⟨rfl, rfl⟩ := Exec.pure_eq_ok.1 hpure
      exact Or.inl ⟨dupCert, rfl, rfl, rfl⟩
    | none =>
      rw [hdup] at h₂
      obtain ⟨_, s₁, hinsert, hrest⟩ := Exec.bind_eq_ok.1 (step_bind_ok (step_bind_ok h₂))
      obtain ⟨cert, htag', hid, hseal, -, rfl⟩ := insertCertificate_ok hinsert
      have hpure := step_bind_ok hrest
      obtain ⟨rfl, rfl⟩ := Exec.pure_eq_ok.1 hpure
      exact Or.inr ⟨cert, rfl, htag', hid, hseal, by rw [hseal], rfl⟩

/-- How a request came to its answer: its event was known, or is stored; a track's tag had a certificate, or one is minted. -/
inductive Answer (env : Env) (event : List (String × Json)) (s : State) : EventAccepted → State → Prop where
  | known (eventId : String) (existing : SpineEventRecord) (id : textMember "event_id" event = some eventId)
      (found : s.events.find? (fun r => decide (r.eventId = eventId)) = some existing) :
      Answer env event s ⟨eventId, existing.dnaTag,
        (s.certificates.find? (fun c => decide (c.eventId = eventId))).map (·.certificateSeal), true⟩ s
  | stored (eventId : String) (id : textMember "event_id" event = some eventId) (fresh : ∀ r ∈ s.events, r.eventId ≠ eventId)
      (track : isTrack event = false) :
      Answer env event s ⟨eventId, textMember "dna_tag" event, none, false⟩
        { s with events := s.events ++ [recordOf event eventId] }
  | tagged (eventId dnaTag : String) (dupCert : BirthCertificate) (id : textMember "event_id" event = some eventId)
      (fresh : ∀ r ∈ s.events, r.eventId ≠ eventId) (track : isTrack event = true)
      (tag : textMember "dna_tag" event = some dnaTag)
      (found : s.certificates.find? (fun c => decide (c.dnaTag = dnaTag)) = some dupCert) :
      Answer env event s ⟨eventId, some dnaTag, some dupCert.certificateSeal, true⟩
        { s with events := s.events ++ [recordOf event eventId] }
  | minted (eventId dnaTag : String) (cert : BirthCertificate) (id : textMember "event_id" event = some eventId)
      (fresh : ∀ r ∈ s.events, r.eventId ≠ eventId) (signature : verifySignature env event = .ok true)
      (tag : textMember "dna_tag" event = some dnaTag)
      (absent : s.certificates.find? (fun c => decide (c.dnaTag = dnaTag)) = none)
      (tagOf : cert.dnaTag = dnaTag) (source : cert.eventId = eventId) (minted : cert.certificateSeal = mintSeal env event) :
      Answer env event s ⟨eventId, some dnaTag, some cert.certificateSeal, false⟩
        { s with events := s.events ++ [recordOf event eventId], certificates := s.certificates ++ [cert] }

theorem receiveEvent_answer {raises : Raises} {a : EventAccepted} (h : receiveEvent env raises event s = (.ok a, s')) :
    Answer env event s a s' := by
  unfold receiveEvent at h
  cases hid : textMember "event_id" event with
  | none =>
    rw [hid] at h
    exact absurd h (by simp)
  | some eventId =>
    rw [hid] at h
    rcases Exec.ite_eq_ok.1 h with ⟨-, h₀⟩ | ⟨-, h₀⟩
    · exact absurd h₀ (by simp)
    have h₁ := step_bind_ok (Exec.transaction_eq_ok.1 h₀)
    rw [Exec.gets_bind] at h₁
    cases hex : s.events.find? (fun r => decide (r.eventId = eventId)) with
    | some existing =>
      rw [hex] at h₁
      obtain ⟨rfl, rfl⟩ := Exec.pure_eq_ok.1 h₁
      exact .known eventId existing hid hex
    | none =>
      rw [hex] at h₁
      obtain ⟨valid, s₁, hcheck, hrest⟩ := Exec.bind_eq_ok.1 (step_bind_ok h₁)
      cases hsig : verifySignature env event with
      | error e =>
        rw [hsig] at hcheck
        exact absurd hcheck (by simp [check])
      | ok b =>
        rw [hsig] at hcheck
        obtain ⟨rfl, rfl⟩ := Exec.pure_eq_ok.1 hcheck
        rcases Exec.ite_eq_ok.1 hrest with ⟨-, h₂⟩ | ⟨hvalid, h₂⟩
        · exact absurd h₂ (by simp)
        have hsig' : verifySignature env event = .ok true := by
          rw [hsig, Bool.eq_true_of_not_eq_false hvalid]
        obtain ⟨_, s₁, hinsert, hmint⟩ := Exec.bind_eq_ok.1 (step_bind_ok h₂)
        obtain ⟨hfresh, rfl⟩ := insertEvent_ok hinsert
        rcases Exec.ite_eq_ok.1 hmint with ⟨htrack, h₃⟩ | ⟨htrack, h₃⟩
        · obtain ⟨dnaTag, htag, hdup | hnew⟩ := mintCertificate_ok h₃
          · obtain ⟨dupCert, hfound, rfl, rfl⟩ := hdup
            exact .tagged eventId dnaTag dupCert hid hfresh htrack htag hfound
          · obtain ⟨cert, habsent, htagOf, hsource, hseal, rfl, rfl⟩ := hnew
            exact .minted eventId dnaTag cert hid hfresh hsig' htag habsent htagOf hsource hseal
        · have hpure := step_bind_ok h₃
          obtain ⟨rfl, rfl⟩ := Exec.pure_eq_ok.1 hpure
          exact .stored eventId hid hfresh (Bool.eq_false_of_not_eq_true htrack)

/-- A request that raises leaves the tables as they are. -/
theorem receiveEvent_raises {raises : Raises} {e : Failure} (h : receiveEvent env raises event s = (.error e, s')) : s' = s := by
  unfold receiveEvent at h
  cases hid : textMember "event_id" event with
  | none =>
    rw [hid] at h
    exact (Prod.mk.inj h).2.symm
  | some eventId =>
    rw [hid] at h
    dsimp only at h
    by_cases hempty : eventId = ""
    · rw [if_pos hempty] at h
      exact (Prod.mk.inj h).2.symm
    · rw [if_neg hempty] at h
      exact Exec.transaction_eq_error h

/-- A request makes one change. -/
theorem receiveEvent_change (raises : Raises) : Change env event s (receiveEvent env raises event s).2 := by
  cases hr : receiveEvent env raises event s with
  | mk r s' =>
    cases r with
    | error e =>
      obtain rfl := receiveEvent_raises hr
      exact .nothing
    | ok a =>
      cases receiveEvent_answer hr with
      | known eventId existing id found => exact .nothing
      | stored eventId id fresh track => exact .stored eventId fresh
      | tagged eventId dnaTag dupCert id fresh track tag found => exact .stored eventId fresh
      | minted eventId dnaTag cert id fresh signature tag absent tagOf source minted =>
        refine .minted eventId cert fresh signature (fun c hc heq => ?_) source minted
        exact List.find?_eq_none.1 absent c hc (decide_eq_true (heq.trans tagOf))

end

/-! ## Certified -/

/-- One event an id, one certificate a tag, and every certificate is that of a stored event whose signature is valid. -/
structure Certified (env : Env) (s : State) : Prop where
  eventIds : (s.events.map (·.eventId)).Nodup
  dnaTags : (s.certificates.map (·.dnaTag)).Nodup
  sources : (s.certificates.map (·.eventId)).Nodup
  stored : ∀ c ∈ s.certificates, ∃ event : Event env, recordOf event.members c.eventId ∈ s.events ∧
    verifySignature env event.members = .ok true ∧ c.certificateSeal = mintSeal env event.members

theorem certified_empty (env : Env) : Certified env .empty :=
  ⟨List.nodup_nil, List.nodup_nil, List.nodup_nil, fun _ hc => absurd hc (List.not_mem_nil)⟩

/-- A change by a request keeps the tables certified. -/
theorem Certified.change {env : Env} {event : Event env} {s s' : State} (h : Certified env s)
    (hc : Change env event.members s s') : Certified env s' := by
  cases hc with
  | nothing => exact h
  | stored eventId fresh =>
    refine ⟨nodup_map_concat h.eventIds fresh, h.dnaTags, h.sources, fun c hc => ?_⟩
    obtain ⟨event', hstored, hsig, hseal⟩ := h.stored c hc
    exact ⟨event', List.mem_append_left _ hstored, hsig, hseal⟩
  | minted eventId cert fresh signature tag source minted =>
    have hsource : ∀ c ∈ s.certificates, c.eventId ≠ cert.eventId := by
      intro c hc heq
      obtain ⟨event', hstored, -, -⟩ := h.stored c hc
      exact fresh _ hstored (heq.trans source)
    refine ⟨nodup_map_concat h.eventIds fresh, nodup_map_concat h.dnaTags tag, nodup_map_concat h.sources hsource, fun c hc => ?_⟩
    rcases List.mem_append.1 hc with hc | hc
    · obtain ⟨event', hstored, hsig, hseal⟩ := h.stored c hc
      exact ⟨event', List.mem_append_left _ hstored, hsig, hseal⟩
    · obtain rfl := List.mem_singleton.1 hc
      refine ⟨event, List.mem_append_right _ ?_, signature, minted⟩
      rw [source]
      exact List.mem_singleton_self _

theorem Certified.after {env : Env} {s : State} (h : Certified env s) (requests : List (Raises × Event env)) :
    Certified env (s.after env requests) := by
  induction requests generalizing s with
  | nil => exact h
  | cons request requests ih => exact ih (h.change (receiveEvent_change request.1))

/-! ## What an event id is answered again -/

/-- The stored event of an id. -/
def State.eventOf (s : State) (eventId : String) : Option SpineEventRecord :=
  s.events.find? (fun r => decide (r.eventId = eventId))

/-- The certificate that was minted for an event. -/
def State.certificateOf (s : State) (eventId : String) : Option BirthCertificate :=
  s.certificates.find? (fun c => decide (c.eventId = eventId))

/-- An event id that is not stored. -/
theorem eventOf_none {s : State} {eventId : String} (h : ∀ r ∈ s.events, r.eventId ≠ eventId) : s.eventOf eventId = none :=
  List.find?_eq_none.2 fun r hr => by simpa using h r hr

/-- The event and the certificate of a stored id stay what they are: an id is stored once, and a certificate is minted only for an
id that is just being stored. -/
theorem Change.keeps {env : Env} {event : List (String × Json)} {s s' : State} (h : Change env event s s') {eventId : String}
    {r : SpineEventRecord} (hr : s.eventOf eventId = some r) :
    s'.eventOf eventId = some r ∧ s'.certificateOf eventId = s.certificateOf eventId := by
  have hkept : ∀ new : SpineEventRecord, (s.events ++ [new]).find? (fun r => decide (r.eventId = eventId)) = some r := by
    intro new
    rw [List.find?_append, show s.events.find? (fun r => decide (r.eventId = eventId)) = some r from hr]
    rfl
  cases h with
  | nothing => exact ⟨hr, rfl⟩
  | stored eventId' fresh => exact ⟨hkept _, rfl⟩
  | minted eventId' cert fresh signature tag source minted =>
    refine ⟨hkept _, ?_⟩
    have hother : cert.eventId ≠ eventId := by
      rintro rfl
      rw [source, eventOf_none fresh] at hr
      cases hr
    unfold State.certificateOf
    rw [List.find?_append, List.find?_cons_of_neg (by simpa using hother), List.find?_nil, Option.or_none]

theorem after_keeps {env : Env} {eventId : String} {r : SpineEventRecord} (requests : List (Raises × Event env)) {s : State}
    (hr : s.eventOf eventId = some r) :
    (s.after env requests).eventOf eventId = some r ∧
      (s.after env requests).certificateOf eventId = s.certificateOf eventId := by
  induction requests generalizing s with
  | nil => exact ⟨hr, rfl⟩
  | cons request requests ih =>
    have hchange : Change env request.2.members s (s.step env request) := receiveEvent_change request.1
    obtain ⟨hevent, hcert⟩ := hchange.keeps hr
    obtain ⟨hevent', hcert'⟩ := ih hevent
    exact ⟨hevent', hcert'.trans hcert⟩

/-- Certified tables have no certificate of an event that is not stored. -/
theorem Certified.certificateOf_none {env : Env} {s : State} (h : Certified env s) {eventId : String}
    (hfresh : ∀ r ∈ s.events, r.eventId ≠ eventId) : s.certificateOf eventId = none := by
  refine List.find?_eq_none.2 fun c hc heq => ?_
  obtain ⟨event, hstored, -, -⟩ := h.stored c hc
  exact hfresh _ hstored (of_decide_eq_true heq)

/-- A request is answered under its id. -/
theorem Answer.id {env : Env} {event : List (String × Json)} {s s' : State} {a : EventAccepted} (h : Answer env event s a s') :
    textMember "event_id" event = some a.eventId := by
  cases h <;> assumption

/-- A stored id is answered with what is stored under it. -/
theorem Answer.replays {env : Env} {event : List (String × Json)} {s s' : State} {a : EventAccepted} {r : SpineEventRecord}
    (h : Answer env event s a s') (hr : s.eventOf a.eventId = some r) :
    a.dnaTag = r.dnaTag ∧ a.certificateSeal = (s.certificateOf a.eventId).map (·.certificateSeal) := by
  cases h with
  | known eventId existing id found =>
    obtain rfl := Option.some.inj (found.symm.trans hr)
    exact ⟨rfl, rfl⟩
  | stored eventId id fresh track =>
    rw [eventOf_none fresh] at hr
    cases hr
  | tagged eventId dnaTag dupCert id fresh track tag found =>
    rw [eventOf_none fresh] at hr
    cases hr
  | minted eventId dnaTag cert id fresh signature tag absent tagOf source minted =>
    rw [eventOf_none fresh] at hr
    cases hr

/-- The event brings a track under a tag that has a certificate, and its id is not stored. -/
def Retagged (s : State) (event : List (String × Json)) : Prop :=
  isTrack event = true ∧ (∀ eventId, textMember "event_id" event = some eventId → ∀ r ∈ s.events, r.eventId ≠ eventId) ∧
    ∃ dnaTag, textMember "dna_tag" event = some dnaTag ∧ ∃ c ∈ s.certificates, c.dnaTag = dnaTag

/-- What a request leaves under its id: its tag, and its seal unless it was retagged. -/
theorem Answer.leaves {env : Env} {event : List (String × Json)} {s s' : State} {a : EventAccepted}
    (h : Answer env event s a s') (hs : Certified env s) :
    ∃ r, s'.eventOf a.eventId = some r ∧ r.dnaTag = a.dnaTag ∧
      ((s'.certificateOf a.eventId).map (·.certificateSeal) = a.certificateSeal ↔ ¬ Retagged s event) := by
  have hlast : ∀ {eventId : String}, (∀ r ∈ s.events, r.eventId ≠ eventId) →
      (s.events ++ [recordOf event eventId]).find? (fun r => decide (r.eventId = eventId)) = some (recordOf event eventId) := by
    intro eventId hfresh
    rw [List.find?_append, show s.events.find? (fun r => decide (r.eventId = eventId)) = none from eventOf_none hfresh,
      Option.none_or, List.find?_cons_of_pos (by simp [recordOf])]
  cases h with
  | known eventId existing id found =>
    refine ⟨existing, found, rfl, iff_of_true rfl ?_⟩
    rintro ⟨-, hfresh, -⟩
    have hsame : existing.eventId = eventId := by simpa using List.find?_some found
    exact hfresh eventId id existing (List.mem_of_find?_eq_some found) hsame
  | stored eventId id fresh track =>
    refine ⟨recordOf event eventId, hlast fresh, rfl, iff_of_true ?_ ?_⟩
    · rw [State.certificateOf, show s.certificates.find? (fun c => decide (c.eventId = eventId)) = none from
        hs.certificateOf_none fresh]
      rfl
    · rintro ⟨htrack, -, -⟩
      rw [track] at htrack
      cases htrack
  | tagged eventId dnaTag dupCert id fresh track tag found =>
    refine ⟨recordOf event eventId, hlast fresh, tag, iff_of_false ?_ (not_not.2 ⟨track, ?_, dnaTag, tag, dupCert, ?_, ?_⟩)⟩
    · rw [State.certificateOf, show s.certificates.find? (fun c => decide (c.eventId = eventId)) = none from
        hs.certificateOf_none fresh]
      exact fun h => by cases h
    · intro eventId' id'
      rw [id] at id'
      cases id'
      exact fresh
    · exact List.mem_of_find?_eq_some found
    · simpa using List.find?_some found
  | minted eventId dnaTag cert id fresh signature tag absent tagOf source minted =>
    refine ⟨recordOf event eventId, hlast fresh, tag, iff_of_true ?_ ?_⟩
    · have hnone : s.certificates.find? (fun c => decide (c.eventId = eventId)) = none := hs.certificateOf_none fresh
      rw [State.certificateOf, List.find?_append, hnone, Option.none_or, List.find?_cons_of_pos (by simpa using source)]
      rfl
    · rintro ⟨-, -, dnaTag', tag', c, hc, hcTag⟩
      rw [tag] at tag'
      cases tag'
      exact List.find?_eq_none.1 absent c hc (decide_eq_true hcTag)

end Spine

end Archisynapse
