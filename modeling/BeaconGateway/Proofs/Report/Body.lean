import BeaconGateway.Report.CheckedBody
import Mathlib.Data.List.Basic

/-!
# What is read from a body

A body is read as the one report that stands in it, or as the first of five faults. The faults are
listed in the order in which they count (`firstFault?`), each as a condition on the bytes alone, so
that a body with several of them has one answer: a declared length over the limit counts before the
bytes that it declares are missed.

Read by position the body gives the same answer. Each access comes behind the test that makes room
for it, and the samples fit into their word, since a structure that counts takes four bytes of the
advertisement with its length byte (`four_mul_countP_structures_le`).

## Main results

* `CheckedBody.report?_eq` — no access misses the body, and the report is the same;
* `CheckedBody.reads_or_first_fault` — what is read from any bytes.
-/

namespace BeaconGateway

/-! ### Samples -/

/-- A structure that counts as a sample has three bytes at least. -/
theorem three_le_length_of_isSampleOf {company : UInt16} {part : List UInt8}
    (hcounts : isSampleOf company part = true) : 3 ≤ part.length := by
  rcases part with - | ⟨type, - | ⟨low, - | ⟨high, rest⟩⟩⟩
  · cases hcounts
  · cases hcounts
  · cases hcounts
  · simp

/-- **Each sample takes four bytes** of an advertisement, the length byte included. -/
theorem four_mul_countP_structures_le (company : UInt16) (advertisement : List UInt8) :
    4 * (structures advertisement).countP (isSampleOf company) ≤ advertisement.length := by
  induction advertisement using structures.induct with
  | case1 => simp [structures]
  | case2 size rest hends => simp [structures, hends]
  | case3 size rest hgoes ih =>
    have hwhole : (rest.take size.toNat).length = size.toNat := by
      rw [List.length_take]
      omega
    rw [structures, if_neg hgoes, List.countP_cons, List.length_cons]
    rw [List.length_drop] at ih
    split_ifs with hcounts
    · have := three_le_length_of_isSampleOf hcounts
      omega
    · omega

namespace CheckedBody

variable {bytes : List UInt8}

theorem slice?_eq {first last : Nat} (hforward : first ≤ last) (hroom : last ≤ bytes.length) :
    slice? bytes first last = some ((bytes.take last).drop first) :=
  if_pos ⟨hforward, hroom⟩

/-- A word that does not come round. -/
theorem toNat_add_ofNat (count : UInt16) (more : Nat) (hroom : count.toNat + more < UInt16.size) :
    (count + UInt16.ofNat more).toNat = count.toNat + more := by
  rw [UInt16.toNat_add, UInt16.toNat_ofNat', Nat.add_mod_mod]
  exact Nat.mod_eq_of_lt hroom

/-- A structure is counted if the word is not full. -/
theorem count?_eq {company count : UInt16} {part : List UInt8}
    (hroom : count.toNat + [part].countP (isSampleOf company) < UInt16.size) :
    count? company count part =
      some (count + UInt16.ofNat ([part].countP (isSampleOf company))) := by
  have hnext := toNat_add_ofNat count _ hroom
  rw [count?]
  cases hcounts : isSampleOf company part with
  | false => simp [hcounts]
  | true =>
    have hone : [part].countP (isSampleOf company) = 1 := by simp [hcounts]
    rw [hone] at hnext ⊢
    have hmore : count + 1 ≠ 0 := by
      intro hfull
      have hzero : (count + 1).toNat = 0 := congrArg UInt16.toNat hfull
      exact absurd (hzero.symm.trans hnext) (by omega)
    simp [hmore]

/-- **Counting structure by structure** comes to the number of samples, if the word holds it. -/
theorem countSamples?_eq {company count : UInt16}
    (hroom : count.toNat + (structures bytes).countP (isSampleOf company) < UInt16.size) :
    countSamples? company count bytes =
      some (count + UInt16.ofNat ((structures bytes).countP (isSampleOf company))) := by
  induction bytes using structures.induct generalizing count with
  | case1 => simp [countSamples?, structures]
  | case2 size rest hends => simp [countSamples?, structures, hends]
  | case3 size rest hgoes ih =>
    let part := rest.take size.toNat
    have hsplit : (structures (size :: rest)).countP (isSampleOf company) =
        [part].countP (isSampleOf company) +
          (structures (rest.drop size.toNat)).countP (isSampleOf company) := by
      rw [structures, if_neg hgoes, ← List.countP_append]
      rfl
    rw [hsplit] at hroom ⊢
    have hreaches : slice? rest 0 size.toNat = some part := slice?_eq (Nat.zero_le _) (by omega)
    have hcounted : count? company count part = _ := count?_eq (by omega)
    have hnext := toNat_add_ofNat count ([part].countP (isSampleOf company)) (by omega)
    have hothers := @ih (count + UInt16.ofNat ([part].countP (isSampleOf company)))
      (by rw [hnext]; omega)
    rw [countSamples?, if_neg hgoes, hreaches]
    show ((count? company count part).bind fun count ↦ countSamples? company count _) = _
    rw [hcounted, Option.bind_some, hothers, UInt16.ofNat_add, UInt16.add_assoc]

/-- The samples of an advertisement that fits into a record are counted. -/
theorem countSamples?_zero (company : UInt16) (hfits : bytes.length ≤ maxPayload) :
    countSamples? company 0 bytes = some (countSamples company bytes) := by
  have hbound := four_mul_countP_structures_le company bytes
  rw [maxPayload] at hfits
  have hroom : (structures bytes).countP (isSampleOf company) < UInt16.size := by
    show _ < 65536
    omega
  rw [countSamples?_eq (by simpa using hroom), UInt16.zero_add, countSamples]

end CheckedBody

/-! ### The shape of a body -/

section Shape

variable {command signal size : UInt8} {address : Address} {rest data : List UInt8}

/-- A body with a whole head, field by field. -/
theorem exists_eq_head (body : List UInt8) (hwhole : bodyHead ≤ body.length) :
    ∃ command, ∃ address : Address, ∃ signal size data,
      body = command :: (address.toList ++ signal :: size :: data) := by
  match body, hwhole with
  | command :: b0 :: b1 :: b2 :: b3 :: b4 :: b5 :: signal :: size :: data, _ =>
    exact ⟨command, ⟨b0, b1, b2, b3, b4, b5⟩, signal, size, data, rfl⟩

/-- What is read from a body whose head is cut short. -/
theorem Report.ofBody_of_short (hshort : rest.length < 8) (timestamp : UInt32) (company : UInt16) :
    ofBody (command :: rest) timestamp company =
      if command ≠ Command.advReport.byte then .error (.wrongCommand command)
      else .error (.truncated (rest.length + 1) bodyHead) := by
  unfold ofBody
  dsimp only
  split
  · rfl
  · split
    · simp only [List.length_cons] at hshort
      omega
    · rfl

/-- What is read from a body with a whole head. -/
theorem Report.ofBody_of_head (timestamp : UInt32) (company : UInt16) :
    ofBody (command :: (address.toList ++ signal :: size :: data)) timestamp company =
      if command ≠ Command.advReport.byte then .error (.wrongCommand command)
      else if h : size.toNat ≤ maxPayload then
        if data.length < size.toNat then
          .error (.truncated (data.length + bodyHead) (bodyHead + size.toNat))
        else
          .ok {
            address
            timestamp
            samples := countSamples company (data.take size.toNat)
            rssi := signal.toInt8
            payload := ⟨data.take size.toNat, Nat.le_trans (List.length_take_le ..) h⟩ }
      else .error (.payloadTooLong size.toNat maxPayload) :=
  rfl

namespace CheckedBody

theorem ofBytes?_of_short (hshort : rest.length < 8) (timestamp : UInt32) (company : UInt16) :
    ofBytes? (command :: rest) timestamp company =
      some (Report.ofBody (command :: rest) timestamp company) := by
  have hcut : (command :: rest).length < bodyHead := by
    rw [List.length_cons, bodyHead]
    omega
  rw [Report.ofBody_of_short hshort]
  show (if _ then _ else if (command :: rest).length < bodyHead then _ else _) = _
  rw [if_pos hcut]
  split_ifs <;> rfl

/-- The fields of a body stand where they are looked up. -/
theorem record?_eq (hfits : data.length ≤ maxPayload) (timestamp : UInt32) (company : UInt16)
    (rest : List UInt8) :
    record? (command :: (address.toList ++ signal :: size :: rest)) data timestamp company =
      some (.ok {
        address
        timestamp
        samples := countSamples company data
        rssi := signal.toInt8
        payload := ⟨data, hfits⟩ }) := by
  have hnamed : slice? (command :: (address.toList ++ signal :: size :: rest)) 1 7 =
      some address.toList := by
    refine slice?_eq (by omega) ?_
    simp only [Address.toList, List.length_cons, List.length_append]
    omega
  have hheld : Payload.ofBytes? data = some ⟨data, hfits⟩ := dif_pos hfits
  rw [record?, hnamed, Option.bind_some, Address.ofBytes?_toList, hheld, countSamples?_zero _ hfits]
  rfl

theorem ofBytes?_of_head (timestamp : UInt32) (company : UInt16) :
    ofBytes? (command :: (address.toList ++ signal :: size :: data)) timestamp company =
      some (Report.ofBody (command :: (address.toList ++ signal :: size :: data)) timestamp
        company) := by
  let body := command :: (address.toList ++ signal :: size :: data)
  have hlength : body.length = data.length + bodyHead := rfl
  have hwhole : ¬ body.length < bodyHead := by omega
  rw [Report.ofBody_of_head]
  show (if _ then _ else if body.length < bodyHead then _ else if maxPayload < size.toNat then _
    else _) = _
  rw [if_neg hwhole]
  -- the checks in the order of the parser: the command, the announced size, the bytes that are
  -- there
  by_cases hother : command ≠ Command.advReport.byte
  · rw [if_pos hother, if_pos hother]
    rfl
  rw [if_neg hother, if_neg hother]
  by_cases hlong : maxPayload < size.toNat
  · rw [if_pos hlong, dif_neg (Nat.not_le_of_lt hlong)]
    rfl
  rw [if_neg hlong, dif_pos (Nat.le_of_not_lt hlong)]
  by_cases hcut : data.length < size.toNat
  · have hmissed : slice? body bodyHead (bodyHead + size.toNat) = none := by
      refine if_neg fun hreaches ↦ ?_
      omega
    rw [if_pos hcut, hmissed]
    rfl
  · have hfound : slice? body bodyHead (bodyHead + size.toNat) = some (data.take size.toNat) := by
      rw [slice?_eq (Nat.le_add_right _ _) (by omega), List.drop_take, Nat.add_sub_cancel_left]
      rfl
    rw [if_neg hcut, hfound]
    exact record?_eq _ timestamp company data

/-- **No access misses the body**, no count the word, and the report is the same. -/
theorem report?_eq (frame : Option (List UInt8)) (timestamp : UInt32) (company : UInt16) :
    report? frame timestamp company =
      some (Report.ofBody (frame.getD []) timestamp company) := by
  rcases frame with - | ⟨- | ⟨command, rest⟩⟩
  · rfl
  · rfl
  · show ofBytes? (command :: rest) timestamp company = _
    rcases Nat.lt_or_ge rest.length 8 with hshort | hwhole
    · exact ofBytes?_of_short hshort timestamp company
    · obtain ⟨command', address, signal, size, data, hsplit⟩ :=
        exists_eq_head (command :: rest) (Nat.succ_le_succ hwhole)
      rw [hsplit]
      exact ofBytes?_of_head timestamp company

end CheckedBody

end Shape

/-! ### Faults -/

/-- The faults of a body, in the order in which they count, and whether the body has them. -/
def faults (body : List UInt8) : List (Bool × FrameError) :=
  let command := body.getD 0 0
  let size := (body.getD 8 0).toNat
  [(body.isEmpty, .missing),
    (command ≠ 0x10, .wrongCommand command),
    (body.length < 9, .truncated body.length 9),
    (62 < size, .payloadTooLong size 62),
    (body.length < 9 + size, .truncated body.length (9 + size))]

/-- The first fault that a body has. -/
def firstFault? (body : List UInt8) : Option FrameError :=
  ((faults body).find? Prod.fst).map Prod.snd

theorem firstFault?_eq (body : List UInt8) :
    firstFault? body =
      if body = [] then some .missing
      else if body.getD 0 0 ≠ 0x10 then some (.wrongCommand (body.getD 0 0))
      else if body.length < 9 then some (.truncated body.length 9)
      else if 62 < (body.getD 8 0).toNat then some (.payloadTooLong (body.getD 8 0).toNat 62)
      else if body.length < 9 + (body.getD 8 0).toNat then
        some (.truncated body.length (9 + (body.getD 8 0).toNat))
      else none := by
  have hstep (p : Bool) (cause : FrameError) (others : List (Bool × FrameError)) :
      (((p, cause) :: others).find? Prod.fst).map Prod.snd =
        if p then some cause else (others.find? Prod.fst).map Prod.snd := by
    cases p <;> rfl
  simp only [firstFault?, faults, hstep, List.isEmpty_iff, decide_eq_true_eq]
  rfl

/-- The faults of a body with a whole head. -/
theorem firstFault?_of_head (command signal size : UInt8) (address : Address) (data : List UInt8) :
    firstFault? (command :: (address.toList ++ signal :: size :: data)) =
      if command ≠ 0x10 then some (.wrongCommand command)
      else if 62 < size.toNat then some (.payloadTooLong size.toNat 62)
      else if data.length < size.toNat then
        some (.truncated (data.length + 9) (9 + size.toNat))
      else none := by
  have hcut : data.length + 9 < 9 + size.toNat ↔ data.length < size.toNat := by omega
  rw [firstFault?_eq, if_neg (List.cons_ne_nil _ _)]
  show (if command ≠ 0x10 then _ else if data.length + 9 < 9 then _
    else if 62 < size.toNat then _ else if data.length + 9 < 9 + size.toNat then _ else _) = _
  rw [if_neg (show ¬ data.length + 9 < 9 by omega)]
  simp only [hcut]
  rfl

/-- **A body without faults** has a whole head with the right command, and the advertisement that it
declares. -/
theorem firstFault?_eq_none_iff {body : List UInt8} :
    firstFault? body = none ↔ 9 ≤ body.length ∧ body[0]? = some 0x10 ∧
      (body.getD 8 0).toNat ≤ 62 ∧ 9 + (body.getD 8 0).toNat ≤ body.length := by
  rw [firstFault?_eq]
  rcases body with - | ⟨command, rest⟩
  · simp
  · have hfirst : (command :: rest)[0]? = some 0x10 ↔ ¬ command ≠ 0x10 := by simp
    rw [if_neg (List.cons_ne_nil _ _), hfirst]
    show (if command ≠ 0x10 then _ else _) = none ↔ _
    generalize (command :: rest).length = length
    generalize ((command :: rest).getD 8 0).toNat = size
    split_ifs with hother hshort hlong hcut
    · exact iff_of_false not_false fun h ↦ h.2.1 hother
    · exact iff_of_false not_false fun h ↦ absurd h.1 (Nat.not_le_of_lt hshort)
    · exact iff_of_false not_false fun h ↦ absurd h.2.2.1 (Nat.not_le_of_lt hlong)
    · exact iff_of_false not_false fun h ↦ absurd h.2.2.2 (Nat.not_le_of_lt hcut)
    · exact iff_of_true rfl ⟨Nat.le_of_not_lt hshort, hother, Nat.le_of_not_lt hlong,
        Nat.le_of_not_lt hcut⟩

namespace Report

/-- **What is read from a body**: its first fault, or the report in it. -/
theorem ofBody_cases (body : List UInt8) (timestamp : UInt32) (company : UInt16) :
    (∃ cause, firstFault? body = some cause ∧ ofBody body timestamp company = .error cause) ∨
    ∃ address : Address, ∃ signal size data, ∃ payload : Payload,
      body = 0x10 :: (address.toList ++ signal :: size :: data) ∧
      payload.bytes = data.take size.toNat ∧ firstFault? body = none ∧
      ofBody body timestamp company = .ok {
        address
        timestamp
        samples := countSamples company payload.bytes
        rssi := signal.toInt8
        payload } := by
  rcases body with - | ⟨command, rest⟩
  · exact .inl ⟨_, rfl, rfl⟩
  -- a body without a whole head is faulty by its command or by its length
  rcases Nat.lt_or_ge rest.length 8 with hshort | hwhole
  · left
    rw [ofBody_of_short hshort, firstFault?_eq, if_neg (List.cons_ne_nil _ _)]
    by_cases hother : command ≠ 0x10
    · exact ⟨_, if_pos hother, if_pos hother⟩
    · exact ⟨_, (if_neg hother).trans (if_pos (Nat.succ_lt_succ hshort)), if_neg hother⟩
  · obtain ⟨command', address, signal, size, data, hsplit⟩ :=
      exists_eq_head (command :: rest) (Nat.succ_le_succ hwhole)
    rw [hsplit, ofBody_of_head, firstFault?_of_head]
    by_cases hother : command' ≠ 0x10
    · exact .inl ⟨_, if_pos hother, if_pos hother⟩
    rw [if_neg hother, if_neg (show ¬ command' ≠ Command.advReport.byte from hother)]
    by_cases hlong : 62 < size.toNat
    · exact .inl ⟨_, if_pos hlong, dif_neg (Nat.not_le_of_lt hlong)⟩
    rw [if_neg hlong, dif_pos (show size.toNat ≤ maxPayload from Nat.le_of_not_lt hlong)]
    by_cases hcut : data.length < size.toNat
    · refine .inl ⟨_, if_pos hcut, (if_pos hcut).trans ?_⟩
      rfl
    · refine .inr ⟨address, signal, size, data, ⟨data.take size.toNat, ?_⟩, ?_, rfl, if_neg hcut,
        if_neg hcut⟩
      · exact Nat.le_trans (List.length_take_le ..) (Nat.le_of_not_lt hlong)
      · rw [not_not.mp hother]

/-- A declared length over the limit counts before the bytes that it declares are missed. -/
example (timestamp : UInt32) (company : UInt16) :
    ofBody [0x10, 1, 2, 3, 4, 5, 6, 0xC5, 63] timestamp company =
      .error (.payloadTooLong 63 62) :=
  rfl

end Report

/-- **What is read from any bytes**, or from none. The body is looked at by position and no access
misses it. There is a report if the head is whole and has the right command, and the advertisement
that it declares fits and is there: then each field is the one at its place, and bytes that follow
do not matter. Otherwise the answer is the first fault. -/
theorem CheckedBody.reads_or_first_fault (frame : Option (List UInt8)) (timestamp : UInt32)
    (company : UInt16) :
    let body := frame.getD []
    let size := (body.getD 8 0).toNat
    ∃ answer, report? frame timestamp company = some answer ∧
      Report.ofBody body timestamp company = answer ∧
      ((∃ r, answer = .ok r) ↔
        9 ≤ body.length ∧ body[0]? = some 0x10 ∧ size ≤ 62 ∧ 9 + size ≤ body.length) ∧
      (∀ r, answer = .ok r →
        r.address.toList = (body.drop 1).take 6 ∧ body[7]? = some r.rssi.toUInt8 ∧
        r.payload.bytes = (body.drop 9).take size ∧ r.timestamp = timestamp ∧
        r.samples = countSamples company ((body.drop 9).take size)) ∧
      ∀ cause, answer = .error cause ↔ firstFault? body = some cause := by
  intro body size
  refine ⟨_, report?_eq frame timestamp company, rfl, ?_⟩
  rw [← firstFault?_eq_none_iff]
  rcases Report.ofBody_cases body timestamp company with
    ⟨cause, hfault, hanswer⟩ |
    ⟨address, signal, length, data, payload, hsplit, hbytes, hsound, hanswer⟩
  · rw [hanswer, hfault]
    simp
  · rw [hanswer, hsound]
    have hdeclared : size = length.toNat := by
      show (body.getD 8 0).toNat = _
      rw [hsplit]
      rfl
    have hadvertised : (body.drop 9).take size = payload.bytes := by
      rw [hbytes, hdeclared, hsplit]
      rfl
    refine ⟨by simp, ?_, by simp⟩
    rintro r ⟨⟩
    rw [hadvertised]
    refine ⟨?_, ?_, rfl, rfl, rfl⟩ <;> rw [hsplit] <;> rfl

end BeaconGateway
