import Archisynapse.Lemmas.SpineReceiver

/-!
# Birth certificates stay verifiable and unique, and what an event id is answered again

After any requests there is one certificate a DNA tag and an event, its event is stored, and it verifies: the payload is read back
as an event with the same canonical text (`certificates_verifiable`). An event id is answered again as it was first, unless it first
brought a track under a tag that had a certificate: that answer has the tag's seal, and the later ones have none
(`replay_same_answer`).
-/

namespace Archisynapse

namespace Spine

/-- One certificate a tag and an event, its source event is stored, and it verifies. -/
structure Verifiable (env : Env) (s : State) : Prop where
  dnaTags : (s.certificates.map (·.dnaTag)).Nodup
  eventIds : (s.certificates.map (·.eventId)).Nodup
  stored : ∀ c ∈ s.certificates, ∃ r ∈ s.events, r.eventId = c.eventId
  valid : ∀ c ∈ s.certificates,
    verifyCertificate env c.dnaTag s = .ok (.checked ⟨c.dnaTag, true, true, true, c.certificateSeal⟩)

/-- A certificate of certified tables verifies. -/
theorem Certified.valid {env : Env} {s : State} (h : Certified env s) {c : BirthCertificate} (hc : c ∈ s.certificates) :
    verifyCertificate env c.dnaTag s = .ok (.checked ⟨c.dnaTag, true, true, true, c.certificateSeal⟩) := by
  obtain ⟨event, hstored, hsig, hseal⟩ := h.stored c hc
  have hcert : s.certificates.find? (fun c' => decide (c'.dnaTag = c.dnaTag)) = some c := find?_key h.dnaTags hc
  have hrecord : s.events.find? (fun r => decide (r.eventId = c.eventId)) = some (recordOf event.members c.eventId) :=
    find?_key h.eventIds hstored
  have hload : Json.loads env.printed (recordOf event.members c.eventId).payload = some (.obj (inOrder event.members)) :=
    loads_payload event
  have hvalid : verifySignature env (inOrder event.members) = .ok true :=
    (verifySignature_inOrder event.readable.1).trans hsig
  unfold verifyCertificate
  rw [hcert]
  dsimp only
  rw [hrecord]
  dsimp only
  rw [hload]
  dsimp only
  rw [hvalid, mintSeal_inOrder, ← hseal]
  simp

/-- After any requests the certificates are unique, have their events and verify. -/
theorem certificates_verifiable (env : Env) (requests : List (Raises × Event env)) :
    Verifiable env (State.empty.after env requests) := by
  have h := (certified_empty env).after requests
  refine ⟨h.dnaTags, h.sources, fun c hc => ?_, fun c hc => h.valid hc⟩
  obtain ⟨event, hstored, -, -⟩ := h.stored c hc
  exact ⟨_, hstored, rfl⟩

/-- Digests that depend on the text. -/
def demoEnv : Env := ⟨"key", fun key text => toString (key.length + text.length), fun text => toString text.length, id⟩

/-- A track with a nested value, a text that is not ASCII and a number. -/
def demoEvent : Event demoEnv where
  members := [("event_id", .str "evt-1"), ("event_type", .str "track.generated"), ("dna_tag", .str "DNA-1"),
    ("content_hash", .str "c0"), ("signature", .str "hmac-sha256:132"),
    ("stakeholders", .obj [("z", .number "0.5"), ("a", .arr [.str "é", .null])])]
  readable := by
    have hnumber : Json.Literal "0.5" := by decide +kernel
    have hnested : Json.Readable id (.obj [("z", .number "0.5"), ("a", .arr [.str "é", .null])]) :=
      ⟨by decide +kernel, ⟨hnumber, rfl⟩, ⟨trivial, trivial, trivial⟩, trivial⟩
    exact ⟨by decide +kernel, trivial, trivial, trivial, trivial, trivial, hnested, trivial⟩
  eventId := by
    intro value h
    exact Or.inr ⟨"evt-1", (Option.some.inj h).symm⟩
  dnaTag := by
    intro value h
    exact Or.inr ⟨"DNA-1", (Option.some.inj h).symm⟩

theorem demoEvent_signed : verifySignature demoEnv demoEvent.members = .ok true := by
  have hlength : (canonicalJson (Json.without "signature" (Json.without "signing_key_id" demoEvent.members))).length = 129 := by
    rw [canonicalJson, Json.dumps, String.length_ofList]
    decide +kernel
  have hhmac (text : String) : demoEnv.hmac demoEnv.signingKey text = toString ("key".length + text.length) := rfl
  have hsignature : (Json.member "signature" demoEvent.members).getD (.str "") = .str "hmac-sha256:132" := by rfl
  rw [verifySignature, if_neg (by decide +kernel), hsignature]
  dsimp only
  rw [hhmac, hlength, if_pos (by decide +kernel)]
  rfl

theorem demoEvent_sealed : mintSeal demoEnv demoEvent.members = "sha256:159" := by
  have hlength : (canonicalJson demoEvent.members).length = 159 := by
    rw [canonicalJson, Json.dumps, String.length_ofList]
    decide +kernel
  rw [mintSeal]
  change "sha256:" ++ toString (canonicalJson demoEvent.members).length = _
  rw [hlength]
  decide +kernel

/-- The track's certificate after its event came twice. -/
theorem certificates_verifiable_play :
    verifyCertificate demoEnv "DNA-1" (State.empty.after demoEnv [(fun _ => none, demoEvent), (fun _ => none, demoEvent)]) =
      .ok (.checked ⟨"DNA-1", true, true, true, "sha256:159"⟩) := by
  have hmem : ("DNA-1", "sha256:159") ∈ (State.empty.after demoEnv
      [(fun _ => none, demoEvent), (fun _ => none, demoEvent)]).certificates.map (fun c => (c.dnaTag, c.certificateSeal)) := by
    rw [State.after, List.foldl_cons, List.foldl_cons, List.foldl_nil, State.step, State.step]
    dsimp only
    rw [receiveEvent, demoEvent_signed]
    unfold mintCertificate
    rw [demoEvent_sealed]
    decide +kernel
  obtain ⟨c, hc, heq⟩ := List.mem_map.1 hmem
  obtain ⟨htag, hseal⟩ := Prod.mk.inj heq
  have hvalid := (certificates_verifiable demoEnv [(fun _ => none, demoEvent), (fun _ => none, demoEvent)]).valid c hc
  rw [htag, hseal] at hvalid
  exact hvalid

/-! ## Answers again -/

/-- In every sequence of requests, an id that was accepted is answered again with the same tag and seal if and only if its earlier
request did not store a track under a tag that already had a certificate. -/
theorem replay_same_answer (env : Env) (before between : List (Raises × Event env)) (first again : Raises × Event env)
    (a b : EventAccepted) (hfirst : (receiveEvent env first.1 first.2.members (State.empty.after env before)).1 = .ok a)
    (hagain : (receiveEvent env again.1 again.2.members (State.empty.after env (before ++ first :: between))).1 = .ok b)
    (hid : textMember "event_id" again.2.members = textMember "event_id" first.2.members) :
    (b.dnaTag = a.dnaTag ∧ b.certificateSeal = a.certificateSeal) ↔ ¬ Retagged (State.empty.after env before) first.2.members := by
  have hcertified := (certified_empty env).after before
  have hanswer : Answer env first.2.members (State.empty.after env before) a
      ((State.empty.after env before).step env first) := receiveEvent_answer (Prod.ext hfirst rfl)
  obtain ⟨r, hevent, htag, hseal⟩ := hanswer.leaves hcertified
  -- the requests in between leave the event and its certificate
  obtain ⟨hevent', hcert'⟩ := after_keeps between hevent
  have hafter : State.empty.after env (before ++ first :: between) =
      ((State.empty.after env before).step env first).after env between := by
    unfold State.after
    rw [List.foldl_append, List.foldl_cons]
  rw [hafter] at hagain
  have hreplay : Answer env again.2.members (((State.empty.after env before).step env first).after env between) b
      (receiveEvent env again.1 again.2.members (((State.empty.after env before).step env first).after env between)).2 :=
    receiveEvent_answer (Prod.ext hagain rfl)
  have hsame : b.eventId = a.eventId := Option.some.inj ((hreplay.id.symm.trans hid).trans hanswer.id)
  obtain ⟨htag', hseal'⟩ := hreplay.replays (hsame ▸ hevent')
  rw [htag', hseal', hsame, hcert', ← hseal]
  exact ⟨fun h => h.2, fun h => ⟨htag, h⟩⟩

/-- Digests of one text. -/
def plainEnv : Env := ⟨"key", fun _ _ => "5f", fun _ => "d0", id⟩

/-- A track of the tag DNA-1. -/
def plainTrack (eventId : String) : Event plainEnv where
  members := [("event_id", .str eventId), ("event_type", .str "track.generated"), ("dna_tag", .str "DNA-1"),
    ("content_hash", .str "c0"), ("signature", .str "hmac-sha256:5f")]
  readable := ⟨by simp, trivial, trivial, trivial, trivial, trivial, trivial⟩
  eventId := fun value h => Or.inr ⟨eventId, (Option.some.inj h).symm⟩
  dnaTag := fun value h => Or.inr ⟨"DNA-1", (Option.some.inj h).symm⟩

/-- Requests for tracks of the tag, none of whose steps raises. -/
def plainRequest (eventId : String) : Raises × Event plainEnv := (fun _ => none, plainTrack eventId)

/-- The theorem at a sequence: a minted track is sent again after a track that was not minted. -/
theorem replay_same_answer_play :
    (receiveEvent plainEnv (fun _ => none) (plainTrack "evt-1").members
      (State.empty.after plainEnv ([] ++ plainRequest "evt-1" :: [plainRequest "evt-2"]))).1 =
        .ok ⟨"evt-1", some "DNA-1", some "sha256:d0", true⟩ ∧
    ¬ Retagged (State.empty.after plainEnv []) (plainTrack "evt-1").members := by
  have hagain : (receiveEvent plainEnv (fun _ => none) (plainTrack "evt-1").members
      (State.empty.after plainEnv ([] ++ plainRequest "evt-1" :: [plainRequest "evt-2"]))).1 =
        .ok ⟨"evt-1", some "DNA-1", some "sha256:d0", true⟩ := by decide +kernel
  have hfirst : (receiveEvent plainEnv (fun _ => none) (plainTrack "evt-1").members (State.empty.after plainEnv [])).1 =
      .ok ⟨"evt-1", some "DNA-1", some "sha256:d0", false⟩ := by decide +kernel
  exact ⟨hagain, (replay_same_answer plainEnv [] [plainRequest "evt-2"] (plainRequest "evt-1") (plainRequest "evt-1") _ _
    hfirst hagain rfl).1 ⟨rfl, rfl⟩⟩

/-- A track of a tag that has a certificate is answered with that certificate's seal, and then with none. -/
theorem replay_drops_seal : ¬ ∀ (env : Env) (before between : List (Raises × Event env)) (first again : Raises × Event env)
    (a b : EventAccepted), (receiveEvent env first.1 first.2.members (State.empty.after env before)).1 = .ok a →
    (receiveEvent env again.1 again.2.members (State.empty.after env (before ++ first :: between))).1 = .ok b →
    textMember "event_id" again.2.members = textMember "event_id" first.2.members →
    b.dnaTag = a.dnaTag ∧ b.certificateSeal = a.certificateSeal := by
  intro h
  have hfirst : (receiveEvent plainEnv (fun _ => none) (plainTrack "evt-2").members
      (State.empty.after plainEnv [plainRequest "evt-1"])).1 = .ok ⟨"evt-2", some "DNA-1", some "sha256:d0", true⟩ := by
    decide +kernel
  have hagain : (receiveEvent plainEnv (fun _ => none) (plainTrack "evt-2").members
      (State.empty.after plainEnv ([plainRequest "evt-1"] ++ plainRequest "evt-2" :: []))).1 =
        .ok ⟨"evt-2", some "DNA-1", none, true⟩ := by
    decide +kernel
  have hsame := h plainEnv [plainRequest "evt-1"] [] (plainRequest "evt-2") (plainRequest "evt-2") _ _ hfirst hagain rfl
  exact absurd hsame.2 (by decide)

end Spine

end Archisynapse
