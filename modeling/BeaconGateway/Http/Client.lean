import BeaconGateway.Config.Basic
import BeaconGateway.Document.Status
import BeaconGateway.Error
import BeaconGateway.Http.Signing
import BeaconGateway.Outside

/-!
# The backend client

Posts batches and the word that the gateway is online to the records endpoint, and status reports
to the statistics endpoint, each with its own credentials. Any answer of the backend may hand out a
new signing key, whatever its status; a key that is empty or too long is not taken, and a request
that does not get through leaves the key as it is. A document counts as delivered if the answer's
status is in the 200s.

## Main definitions

* `Http.Request`, `Http.Response` — a request and its answer;
* `Http.Client` — the endpoints, the header of documents, and the signing key;
* `Http.Client.sendBatch`, `Http.Client.sendOnline`, `Http.Client.sendStatistics` — what it posts.
-/

namespace BeaconGateway.Http

/-- A request to the backend. -/
structure Request where
  /-- Where it goes. -/
  url : String
  /-- The credentials. -/
  authorization : Option String
  /-- The signature of the body. -/
  signature : Option String
  /-- The document. -/
  body : String
  deriving DecidableEq

/-- An answer of the backend. -/
structure Response where
  /-- The status. -/
  status : UInt16
  /-- The new signing key that it hands out, if any. -/
  signingKey : Option String
  deriving DecidableEq

/-- Whether the status says that the document was taken. -/
def Response.isSuccess (r : Response) : Bool :=
  200 ≤ r.status && r.status < 300

/-- How requests are answered. -/
abbrev Poster (ω : Type) :=
  Ask Request (Except CommsError Response) ω

/-- Answers every request with success and tells nobody. -/
def silentPoster {ω : Type} : Poster ω :=
  fun _ outside ↦ (.ok ⟨200, none⟩, outside)

/-- The client of the backend. -/
structure Client where
  /-- Where batches go. -/
  records : Config.Endpoint
  /-- Where status reports go. -/
  statistics : Config.Endpoint
  /-- The gateway's address. -/
  gateway : Address
  /-- Where the gateway stands. -/
  coordinates : ShortText
  /-- Whether the stamps of records are times. -/
  useTimestamps : Bool
  /-- The key that requests are signed with. -/
  key : Option SigningKey

namespace Client

variable {ω : Type}

/-- The client of a configured gateway, without a key. -/
def new (c : Config) (gateway : Address) : Client where
  records := c.http
  statistics := c.statistics
  gateway := gateway
  coordinates := c.coordinates
  useTimestamps := c.time.useTimestamps
  key := none

/-- Take over a key. The answer is `false`, and the old key stays, if it is empty or too long. -/
def setKey (c : Client) (key : String) : Bool × Client :=
  match SigningKey.ofString? key with
  | some k => (true, { c with key := some k })
  | none => (false, c)

/-- Take over the key in an answer, if there is one. -/
def takeKey (c : Client) (r : Response) : Client :=
  match r.signingKey with
  | some key => (c.setKey key).2
  | none => c

/-- The request with a document for an endpoint. -/
def request (c : Client) (e : Config.Endpoint) (body : String) : Request where
  url := e.url.text
  authorization := basicCredentials e.user.text e.password.text
  signature := c.key.map fun k ↦ k.signature body
  body := body

/-- What follows from an answer: the client with its key, and whether the document was taken. -/
def settle (c : Client) : Except CommsError Response → Bool × Client
  | .ok r => (r.isSuccess, c.takeKey r)
  | .error _ => (false, c)

/-- Post a document to an endpoint; nothing is posted to one that is not in use. -/
def post (poster : Poster ω) (e : Config.Endpoint) (body : String) (c : Client) (outside : ω) :
    Bool × Client × ω :=
  if e.enabled then
    let (answer, outside) := poster (c.request e body) outside
    let (delivered, c) := c.settle answer
    (delivered, c, outside)
  else (false, c, outside)

/-- Post a batch under a number, at the clock's time. -/
def sendBatch (poster : Poster ω) (unixTime : Option UInt32) (records : List Report)
    (nonce : UInt32) (c : Client) (outside : ω) : Bool × Client × ω :=
  let header : RecordsHeader := {
    coordinates := c.coordinates.text
    gateway := c.gateway.text
    timestamp := unixTime
    nonce := some nonce
    useTimestamps := c.useTimestamps }
  post poster c.records (recordsDocument header records).render c outside

/-- Say that the gateway is online. -/
def sendOnline (poster : Poster ω) (c : Client) (outside : ω) : Bool × Client × ω :=
  post poster c.records (onlineDocument c.gateway).render c outside

/-- Post a status report. -/
def sendStatistics (poster : Poster ω) (report : String) (c : Client) (outside : ω) :
    Bool × Client × ω :=
  post poster c.statistics report c outside

end Client

end BeaconGateway.Http
