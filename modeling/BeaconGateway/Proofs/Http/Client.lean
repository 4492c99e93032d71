import BeaconGateway.Http.Client
import BeaconGateway.Proofs.Http.Signing
import BeaconGateway.Proofs.Log
import BeaconGateway.Proofs.Outside

/-!
# Keys, endpoints and answers of the backend client

The key of the client is the only part of it that changes. Keys are offered to it in two ways: they
are set, or an answer of the backend hands one out. It takes those of one to 64 bytes, and signs
each document with the latest that it took. So its key can be told from what it was asked to do and
what it was answered.

What is asked of the client decides where a document goes. Batches and the word that the gateway is
online go to the records endpoint, status reports to the statistics endpoint.

## Main definitions

* `Http.Client.Call` — what the client is asked to do, with `Http.Client.perform`;
* `Http.Client.run` — calls in order, each with what was posted in it and what became of it;
* `Http.Client.lastKey` — the latest key that was taken;
* `Http.Client.Follows` — what a call amounts to after others.

## Main results

* `Http.Client.perform_over` — a record of posts changes nothing;
* `Http.Client.exists_key_perform` — after a call the key is still the latest that was taken;
* `Http.Client.run_follows` — every call follows from those before it.
-/

namespace BeaconGateway.Http.Client

variable {ω : Type}

/-! ### Calls -/

/-- What the client is asked to do. -/
inductive Call where
  /-- Post a batch under a number, at the clock's time. -/
  | batch (unixTime : Option UInt32) (records : List Report) (nonce : UInt32)
  /-- Say that the gateway is online. -/
  | online
  /-- Post a status report. -/
  | statistics (report : String)
  /-- Take over a key. -/
  | setKey (key : String)

/-- One call. -/
def perform (poster : Poster ω) (c : Client) (outside : ω) : Call → Bool × Client × ω
  | .batch unixTime records nonce => c.sendBatch poster unixTime records nonce outside
  | .online => c.sendOnline poster outside
  | .statistics report => c.sendStatistics poster report outside
  | .setKey key =>
    let (taken, c) := c.setKey key
    (taken, c, outside)

/-- A call, with what was posted in it and what became of it. -/
structure Entry where
  /-- The call. -/
  call : Call
  /-- The requests, each with its answer. -/
  posts : List (Request × Except CommsError Response)
  /-- Whether it succeeded. -/
  result : Bool

/-- What is noted of a call. -/
def entry (poster : Poster ω) (c : Client) (outside : ω) (call : Call) : Entry :=
  let (result, _, _, posts) := c.perform poster.recorded (outside, []) call
  { call, posts, result }

/-- **Calls in order.** -/
def run (poster : Poster ω) (c : Client) (outside : ω) : List Call → List Entry
  | [] => []
  | call :: rest =>
    let after := c.perform poster outside call
    c.entry poster outside call :: after.2.1.run poster after.2.2 rest

/-- Every call is noted, in order. -/
theorem map_call_run (poster : Poster ω) (c : Client) (outside : ω) (calls : List Call) :
    (c.run poster outside calls).map Entry.call = calls := by
  induction calls generalizing c outside with
  | nil => rfl
  | cons call rest ih => exact congrArg (call :: ·) (ih _ _)

/-! ### Keys -/

/-- Whether a text can be a key: one to 64 bytes. -/
def isKey (text : String) : Bool :=
  1 ≤ text.utf8ByteSize && text.utf8ByteSize ≤ 64

/-- The keys that are offered to the client in a call. -/
def Entry.offers (e : Entry) : List String :=
  match e.call with
  | .setKey key => [key]
  | _ => e.posts.filterMap fun (_, answer) ↦ answer.toOption.bind Response.signingKey

/-- **The latest key that was taken** in some calls. -/
def lastKey (log : List Entry) : Option String :=
  ((log.flatMap Entry.offers).filter isKey).getLast?

/-- The key after one more call is the last that was taken in it, or else the one before. -/
theorem lastKey_concat (log : List Entry) (e : Entry) :
    lastKey (log ++ [e]) = ((e.offers.filter isKey).getLast?).or (lastKey log) := by
  simp [lastKey, List.getLast?_append]

/-- What can be a key fits the place that the client has for it. -/
theorem isKey_iff {text : String} :
    isKey text = true ↔ text ≠ "" ∧ text.utf8ByteSize ≤ maxSigningKey := by
  have hnonempty : 1 ≤ text.utf8ByteSize ↔ text ≠ "" := by
    rw [Nat.one_le_iff_ne_zero, ne_eq, String.utf8ByteSize_eq_zero_iff]
  simp only [isKey, Bool.and_eq_true, decide_eq_true_iff, hnonempty]
  rfl

/-- The client takes a text as its key exactly if it can be one. -/
theorem map_text_ofString? (text : String) :
    (SigningKey.ofString? text).map SigningKey.text = ([text].filter isKey).getLast? := by
  rw [SigningKey.ofString?]
  split_ifs with hfits
  · simp [isKey_iff.2 hfits]
  · rw [← isKey_iff] at hfits
    simp [hfits]

/-- The client of a configured gateway, with a key. -/
def keyed (config : Config) (gateway : Address) (key : Option SigningKey) : Client :=
  { Client.new config gateway with key }

section Keyed

variable {config : Config} {gateway : Address} {key : Option SigningKey}

/-- A key is taken if it can be one; any other leaves the client as it is. -/
theorem setKey_keyed (text : String) :
    (keyed config gateway key).setKey text =
      (isKey text, keyed config gateway ((SigningKey.ofString? text).or key)) := by
  have htaken : isKey text = (SigningKey.ofString? text).isSome := by
    rw [← Option.isSome_map, map_text_ofString?]
    cases htaken : isKey text <;> simp [htaken]
  rw [setKey, htaken]
  cases SigningKey.ofString? text <;> rfl

/-- An answer is treated as its key is, if it hands one out. -/
theorem settle_keyed (config : Config) (gateway : Address) (key : Option SigningKey)
    (answer : Except CommsError Response) :
    ∃ key', ((keyed config gateway key).settle answer).2 = keyed config gateway key' ∧
      key'.map SigningKey.text =
        (((answer.toOption.bind Response.signingKey).toList.filter isKey).getLast?).or
          (key.map SigningKey.text) := by
  cases answer with
  | error => exact ⟨key, rfl, rfl⟩
  | ok r =>
    obtain ⟨status, signingKey⟩ := r
    cases signingKey with
    | none => exact ⟨key, rfl, rfl⟩
    | some text =>
      refine ⟨(SigningKey.ofString? text).or key, congrArg Prod.snd (setKey_keyed text), ?_⟩
      rw [Option.map_or, map_text_ofString?]
      rfl

/-! ### Where documents go -/

/-- The endpoint and the document of a call, if it posts one. -/
def Call.document? (c : Config) (gateway : Address) : Call → Option (Config.Endpoint × String)
  | .batch unixTime records nonce =>
    let header : RecordsHeader := {
      coordinates := c.coordinates.text
      gateway := gateway.text
      timestamp := unixTime
      nonce := some nonce
      useTimestamps := c.time.useTimestamps }
    some (c.http, (recordsDocument header records).render)
  | .online => some (c.http, (onlineDocument gateway).render)
  | .statistics report => some (c.statistics, report)
  | .setKey _ => none

/-- **What a call amounts to** after others. -/
structure Follows (c : Config) (gateway : Address) (before : List Entry) (e : Entry) : Prop where
  /-- To set a key posts nothing, and succeeds with a text that can be one. -/
  key : ∀ text, e.call = .setKey text → e.posts = [] ∧ e.result = isKey text
  /-- Nothing is posted to an endpoint that is not in use. -/
  unused : ∀ endpoint body, e.call.document? c gateway = some (endpoint, body) →
    endpoint.enabled = false → e.posts = [] ∧ e.result = false
  /-- One document is posted to an endpoint that is in use, once. Its header shows the endpoint's
  user and password, and it carries a signature if a key was taken before. The call succeeds if the
  answer's status is in the 200s. -/
  posted : ∀ endpoint body, e.call.document? c gateway = some (endpoint, body) →
    endpoint.enabled = true →
    ∃ (header : Option String) (answer : Except CommsError Response),
      e.posts = [({
          url := endpoint.url.text
          authorization := header
          signature := (lastKey before).map fun key ↦
            Hex.lower (Hmac.sign (utf8Bytes key) (utf8Bytes body))
          body := body }, answer)] ∧
      ShowsCredentials endpoint.user.text endpoint.password.text header ∧
      (e.result = true ↔ ∃ r, answer = .ok r ∧ 200 ≤ r.status.toNat ∧ r.status.toNat ≤ 299)

/-! ### One call -/

variable {poster : Poster ω} {outside : ω} {call : Call} {endpoint : Config.Endpoint}
  {body : String} {before : List Entry}

/-- A call that has a document posts it, and does nothing else. -/
theorem perform_of_document (hdocument : call.document? config gateway = some (endpoint, body)) :
    (keyed config gateway key).perform poster outside call =
      post poster endpoint body (keyed config gateway key) outside := by
  cases call with
  | setKey => cases hdocument
  | batch | online | statistics =>
    obtain ⟨rfl, rfl⟩ := Prod.mk.inj (Option.some.inj hdocument)
    rfl

/-- The only call without a document is to set a key. -/
theorem exists_eq_setKey (hnone : call.document? config gateway = none) :
    ∃ text, call = .setKey text := by
  cases call with
  | setKey text => exact ⟨text, rfl⟩
  | batch | online | statistics => cases hnone

/-- Nothing is posted to set a key. -/
theorem entry_setKey (text : String) :
    (keyed config gateway key).entry poster outside (.setKey text) =
      ⟨.setKey text, [], isKey text⟩ := by
  rw [entry, perform, setKey_keyed]

/-- Nothing is posted to an endpoint that is out of use. -/
theorem entry_of_unused (hdocument : call.document? config gateway = some (endpoint, body))
    (hunused : endpoint.enabled = false) :
    (keyed config gateway key).entry poster outside call = ⟨call, [], false⟩ := by
  rw [entry, perform_of_document hdocument, post, hunused]
  rfl

/-- To an endpoint in use the document is posted once, and the answer is settled. -/
theorem entry_of_used (hdocument : call.document? config gateway = some (endpoint, body))
    (hused : endpoint.enabled = true) :
    (keyed config gateway key).entry poster outside call =
      let request := (keyed config gateway key).request endpoint body
      let answer := (poster request outside).1
      ⟨call, [(request, answer)], ((keyed config gateway key).settle answer).1⟩ := by
  rw [entry, perform_of_document hdocument, post, if_pos hused]
  rfl

/-- A call that posts takes the keys that the answers hand out, and no others. -/
theorem offers_of_document {e : Entry}
    (hdocument : e.call.document? config gateway = some (endpoint, body)) :
    e.offers =
      e.posts.filterMap fun (_, answer) ↦ answer.toOption.bind Response.signingKey := by
  obtain ⟨call, posts, result⟩ := e
  cases call with
  | setKey => cases hdocument
  | batch | online | statistics => rfl

/-- The call succeeds on an answer with a status in the 200s alone. -/
theorem settle_fst_iff (answer : Except CommsError Response) (c : Client) :
    (c.settle answer).1 = true ↔
      ∃ r, answer = .ok r ∧ 200 ≤ r.status.toNat ∧ r.status.toNat ≤ 299 := by
  cases answer with
  | error => simp [settle]
  | ok r =>
    simp only [settle, Response.isSuccess, Bool.and_eq_true, decide_eq_true_iff,
      UInt16.le_iff_toNat_le, UInt16.lt_iff_toNat_lt, Except.ok.injEq, exists_eq_left']
    exact and_congr_right fun _ ↦ Nat.lt_succ_iff

/-- **A call follows from those before it**, if the key is the latest that was taken in them. -/
theorem entry_follows (hlatest : key.map SigningKey.text = lastKey before) :
    Follows config gateway before ((keyed config gateway key).entry poster outside call) := by
  constructor
  · intro text hsame
    obtain rfl : call = .setKey text := hsame
    rw [entry_setKey]
    exact ⟨rfl, rfl⟩
  · intro endpoint body hdocument hunused
    have hdocument : call.document? config gateway = some (endpoint, body) := hdocument
    rw [entry_of_unused hdocument hunused]
    exact ⟨rfl, rfl⟩
  · intro endpoint body hdocument hused
    have hdocument : call.document? config gateway = some (endpoint, body) := hdocument
    rw [entry_of_used hdocument hused]
    refine ⟨_, _, ?_, basicCredentials_shows _ _, settle_fst_iff _ _⟩
    rw [← hlatest, Option.map_map]
    rfl

/-- **After a call** the key is still the latest that was taken. -/
theorem exists_key_perform (hlatest : key.map SigningKey.text = lastKey before)
    (poster : Poster ω) (outside : ω) (call : Call) :
    ∃ key', ((keyed config gateway key).perform poster outside call).2.1 =
        keyed config gateway key' ∧
      key'.map SigningKey.text =
        lastKey (before ++ [(keyed config gateway key).entry poster outside call]) := by
  rw [lastKey_concat, ← hlatest]
  -- a call without a document offers the key that it sets, any other the keys in its answers
  cases hdocument : call.document? config gateway with
  | none =>
    obtain ⟨text, rfl⟩ := exists_eq_setKey hdocument
    refine ⟨(SigningKey.ofString? text).or key, ?_, ?_⟩
    · rw [perform, setKey_keyed]
    · rw [entry_setKey, Option.map_or, map_text_ofString?]
      rfl
  | some post =>
    obtain ⟨endpoint, body⟩ := post
    rw [perform_of_document hdocument, post]
    cases hused : endpoint.enabled with
    | false =>
      rw [entry_of_unused hdocument hused, offers_of_document hdocument]
      exact ⟨key, rfl, rfl⟩
    | true =>
      rw [entry_of_used hdocument hused, offers_of_document hdocument]
      exact settle_keyed config gateway key _

/-! ### Calls one after another -/

/-- **Each call follows from those before it**, whichever key the client begins with. -/
theorem each_append_run (hlatest : key.map SigningKey.text = lastKey before)
    (heach : Log.Each (Follows config gateway) before) (calls : List Call) :
    Log.Each (Follows config gateway)
      (before ++ (keyed config gateway key).run poster outside calls) := by
  -- along the calls that come: those before them grow by one at each step
  induction calls generalizing key outside before with
  | nil => rwa [run, List.append_nil]
  | cons call rest ih =>
    obtain ⟨key', hsame, hlatest'⟩ :=
      exists_key_perform hlatest poster outside call
    rw [run, hsame, List.append_cons]
    exact ih hlatest' (Log.each_concat.2 ⟨heach, entry_follows hlatest⟩)

end Keyed

/-- **A call is the same** over an outside that carries more. -/
theorem perform_over {ω' : Type} {poster : Poster ω} {poster' : Poster ω'} {f : ω' → ω}
    (hlies : poster'.LiesOver poster f) (c : Client) (outside : ω') (call : Call) :
    let after := c.perform poster' outside call
    (after.1, after.2.1, f after.2.2) = c.perform poster (f outside) call := by
  have hsame (e : Config.Endpoint) (body : String) :
      let after := post poster' e body c outside
      (after.1, after.2.1, f after.2.2) = post poster e body c (f outside) := by
    simp only [post]
    split_ifs
    · simp only [← hlies (c.request e body) outside]
    · rfl
  cases call with
  | setKey => rfl
  | batch | online | statistics => exact hsame _ _

/-- **Every call of a client follows from those before it**, whatever it is asked to do and whatever
it is answered: where it posts, under which credentials, how it signs, and what becomes of it. -/
theorem run_follows (config : Config) (gateway : Address) (poster : Poster ω) (outside : ω)
    (calls : List Call) :
    let log := (Client.new config gateway).run poster outside calls
    log.map Entry.call = calls ∧ Log.Each (Follows config gateway) log := by
  have hkeyless : (none : Option SigningKey).map SigningKey.text = lastKey [] := rfl
  exact ⟨map_call_run _ _ _ calls, each_append_run hkeyless Log.each_nil calls⟩

end BeaconGateway.Http.Client
