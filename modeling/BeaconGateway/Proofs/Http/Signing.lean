import BeaconGateway.Http.Signing
import BeaconGateway.Proofs.Hash
import BeaconGateway.Proofs.Text.Base64

/-!
# What credentials and signatures show

Who receives a request reads the user and the password back from its credentials, and the keyed
digest of the body back from its signature. Both are said here of the header as it is sent, so that
a client that sends something else, or nothing, is told from this one.

## Main definitions

* `ShowsCredentials` — a header shows a user and a password.

## Main results

* `basicCredentials_shows` — the credentials of a request show its user and password;
* `decode?_bodySignature`, `length_bodySignature`, `mem_digits_of_mem_bodySignature` — a signature
  is the keyed digest of the body, in sixty-four digits of lower case.
-/

namespace BeaconGateway

/-! ### Credentials -/

/-- **A header shows a user and a password**: there is none exactly if there is no user. Otherwise
it holds the word `Basic` and the digits of the user, a colon and the password, which can be read
back from them. -/
structure ShowsCredentials (user password : String) (header : Option String) : Prop where
  /-- Without a user there is no header, and only then. -/
  absent_iff : header = none ↔ user = ""
  /-- What stands in the header. -/
  shown : ∀ text, header = some text →
    text = "Basic " ++ Base64.text (utf8Bytes (user ++ ":" ++ password))
  /-- The digits in the header stand for the user, a colon and the password. -/
  readBack : ∀ text, header = some text → ∃ digits, text.toList = "Basic ".toList ++ digits ∧
    Base64.decode? digits = some (utf8Bytes (user ++ ":" ++ password))

theorem basicCredentials_eq_none_iff {user password : String} :
    basicCredentials user password = none ↔ user = "" := by
  simp [basicCredentials]

/-- **The credentials of a request show its user and password.** -/
theorem basicCredentials_shows (user password : String) :
    ShowsCredentials user password (basicCredentials user password) := by
  have hshown (text : String) (htext : basicCredentials user password = some text) :
      text = "Basic " ++ Base64.text (utf8Bytes (user ++ ":" ++ password)) := by
    rw [basicCredentials] at htext
    split at htext
    case isTrue => cases htext
    case isFalse => exact (Option.some.inj htext).symm
  refine ⟨basicCredentials_eq_none_iff, hshown, fun text htext ↦ ⟨_, ?_, Base64.decode?_text _⟩⟩
  rw [hshown text htext, String.toList_append]

/-- The credentials of a user with a password. -/
example : basicCredentials "user" "pass" = some "Basic dXNlcjpwYXNz" := by
  decide +kernel

/-! ### Signatures -/

/-- **A signature is the keyed digest of the body**: it reads back as that. -/
theorem decode?_bodySignature (key : List UInt8) (body : String) :
    Hex.decode? (bodySignature key body).toList = some (Hmac.sign key (utf8Bytes body)) := by
  rw [bodySignature, Hex.lower, String.toList_ofList, Hex.decode?_encode]

/-- A signature has two digits for each of the thirty-two bytes of the digest. -/
theorem length_bodySignature (key : List UInt8) (body : String) :
    (bodySignature key body).length = 64 := by
  rw [bodySignature, Hex.lower, String.length_ofList, Hex.length_encode, Hmac.length_sign]

/-- Bytes are written with the digits of one case. -/
theorem Hex.mem_digits_of_mem_encode {letters : Hex.Letters} {bytes : List UInt8} {c : Char}
    (hmem : c ∈ Hex.encode letters bytes) : c ∈ letters.digits := by
  have hdigit : ∀ d < 16, Hex.digit letters d ∈ letters.digits := by
    cases letters <;> decide
  obtain ⟨b, -, hc⟩ := List.mem_flatMap.1 hmem
  have hb : b.toNat < 256 := b.toNat_lt
  obtain rfl | rfl :
      c = Hex.digit letters (b.toNat / 16) ∨ c = Hex.digit letters (b.toNat % 16) := by
    simpa [Hex.encodeByte] using hc
  · exact hdigit _ (by omega)
  · exact hdigit _ (by omega)

/-- A signature is written in lower case. -/
theorem mem_digits_of_mem_bodySignature {key : List UInt8} {body : String} {c : Char}
    (hmem : c ∈ (bodySignature key body).toList) : c ∈ Hex.Letters.lower.digits := by
  rw [bodySignature, Hex.lower, String.toList_ofList] at hmem
  exact Hex.mem_digits_of_mem_encode hmem

end BeaconGateway
