import BeaconGateway.Proofs.Report.Body
import BeaconGateway.Proofs.Wire.Stream

/-!
# Advertisements on the wire

Three limits stand between an advertisement of any length and the report of it. A report holds 62
bytes. The length byte of the body keeps the low eight bits of the length only, so a body by itself
may be read as a shorter advertisement than it announces (`Report.ofBody_reportBody`). A frame
carries a body of 255 bytes, nine of which are its head.

The last limit covers for the second: a length that does not fit into its byte does not fit into a
frame either. What comes out of a frame is therefore the sighting that went in, or an error that
names its length.

## Main results

* `Report.ofBody_reportBody` — what is read from the body of a sighting, whatever its length;
* `Report.transmit?_eq` — what arrives of a sighting, if anything does;
* `Report.arrives_whole` — a sighting arrives whole or not at all.
-/

namespace BeaconGateway.Report

variable {address : Address} {rssi : Int8} {advertisement buffer : List UInt8} {d : Decoder}
  {timestamp : UInt32} {company : UInt16}

/-- **What is read from the body of a sighting** goes by the length byte. -/
theorem ofBody_reportBody (address : Address) (rssi : Int8) (advertisement : List UInt8)
    (timestamp : UInt32) (company : UInt16) :
    ofBody (reportBody address rssi advertisement) timestamp company =
      if h : advertisement.length % 256 ≤ maxPayload then
        .ok {
          address
          timestamp
          samples := countSamples company (advertisement.take (advertisement.length % 256))
          rssi
          payload := ⟨advertisement.take (advertisement.length % 256),
            Nat.le_trans (List.length_take_le ..) h⟩ }
      else .error (.payloadTooLong (advertisement.length % 256) maxPayload) := by
  have hsize : (UInt8.ofNat advertisement.length).toNat = advertisement.length % 256 :=
    UInt8.toNat_ofNat'
  have hwhole : ¬ advertisement.length < advertisement.length % 256 :=
    Nat.not_lt_of_le (Nat.mod_le _ _)
  rw [reportBody, ofBody_of_head, if_neg (not_not_intro rfl)]
  simp only [hsize, Int8.toInt8_toUInt8, if_neg hwhole]

/-- A body by itself may be read as a shorter advertisement than it announces. -/
example :
    (ofBody (reportBody .zero 0 (List.replicate 258 7)) 0 0).toOption.map (·.payload.bytes) =
      some [7, 7] := by
  decide +kernel

/-- A length that fits into its byte is read as it is. -/
theorem ofBody_reportBody_of_lt (hfits : advertisement.length < 256) :
    ofBody (reportBody address rssi advertisement) timestamp company =
      if h : advertisement.length ≤ 62 then
        .ok {
          address
          timestamp
          samples := countSamples company advertisement
          rssi
          payload := ⟨advertisement, h⟩ }
      else .error (.payloadTooLong advertisement.length 62) := by
  rw [ofBody_reportBody]
  simp only [Nat.mod_eq_of_lt hfits, List.take_length]
  rfl

/-- Send a sighting through a buffer to a decoder, and read what the decoder delivers; `none` if no
frame is written. -/
def transmit? (d : Decoder) (buffer : List UInt8) (address : Address) (rssi : Int8)
    (advertisement : List UInt8) (timestamp : UInt32) (company : UInt16) :
    Option (List (Except FrameError Report)) := do
  let body := reportBody address rssi advertisement
  let (count, written) ← Frame.write? (body.headD 0) body.tail buffer
  let (_, bodies) := d.feed (written.take count)
  return bodies.map (ofBody · timestamp company)

/-- A frame is written exactly if it can carry the body and the buffer has room for it. -/
theorem transmit?_eq_none_iff :
    transmit? d buffer address rssi advertisement timestamp company = none ↔
      246 < advertisement.length ∨ buffer.length < advertisement.length + 14 := by
  let body := reportBody address rssi advertisement
  have hlength : body.tail.length = advertisement.length + 8 := rfl
  have hfits : (Frame.write? (body.headD 0) body.tail buffer).isSome ↔
      body.tail.length ≤ 254 ∧ body.tail.length + 6 ≤ buffer.length := Frame.write?_isSome_iff
  rcases hwritten : Frame.write? (body.headD 0) body.tail buffer with - | ⟨count, bytes⟩
  · rw [hwritten] at hfits
    have hrefused : ¬ (_ ∧ _) := fun hroom ↦ absurd (hfits.mpr hroom) Bool.false_ne_true
    refine iff_of_true ?_ (by omega)
    exact congrArg (Option.bind · _) hwritten
  · rw [hwritten] at hfits
    have hroom := hfits.mp rfl
    refine iff_of_false ?_ (by omega)
    show ¬ Option.bind _ _ = none
    rw [hwritten]
    exact Option.some_ne_none _

/-- **What arrives of a sighting** that a frame can carry is what is read from its body. -/
theorem transmit?_eq (hhunts : d.state = .hunting) (hshort : advertisement.length ≤ 246)
    (hroom : advertisement.length + 14 ≤ buffer.length) :
    transmit? d buffer address rssi advertisement timestamp company =
      some [ofBody (reportBody address rssi advertisement) timestamp company] := by
  let body := reportBody address rssi advertisement
  have hlength : body.length = advertisement.length + 9 := rfl
  have hfits : (Frame.write? (body.headD 0) body.tail buffer).isSome :=
    Frame.write?_isSome_iff.mpr ⟨Nat.add_le_add_right hshort 8, hroom⟩
  obtain ⟨⟨count, written⟩, hwrites⟩ := Option.isSome_iff_exists.mp hfits
  obtain ⟨-, hsent, -, -⟩ := Frame.write?_eq_some hwrites
  have hdelivers : (d.feed (written.take count)).2 = [body] := by
    obtain ⟨state, stats⟩ := d
    obtain rfl : state = .hunting := hhunts
    have hframed : Frame.bytes (body.headD 0) body.tail = Frame.ofBody body := rfl
    have hnonempty : body ≠ [] := List.cons_ne_nil _ _
    have hwhole : body.length ≤ Frame.maxBody :=
      Nat.le_trans (Nat.le_of_eq hlength) (Nat.add_le_add_right hshort 9)
    rw [hsent, hframed, Decoder.feed_frame stats hnonempty hwhole]
  show Option.bind _ _ = _
  rw [hwrites, Option.bind_some]
  dsimp only
  rw [hdelivers]
  rfl

/-- **A sighting arrives whole or not at all.** Up to 62 bytes it is read as it was sent. Up to 246
bytes the answer is an error that names its length, and beyond them no frame is written. Whatever
the buffer, a report that comes out is that of the sighting. -/
theorem arrives_whole (d : Decoder) (hhunts : d.state = .hunting) (address : Address) (rssi : Int8)
    (advertisement buffer : List UInt8) (timestamp : UInt32) (company : UInt16) :
    let answers := transmit? d buffer address rssi advertisement timestamp company
    (advertisement.length + 14 ≤ buffer.length → answers =
      if h : advertisement.length ≤ 62 then
        some [.ok {
          address
          timestamp
          samples := countSamples company advertisement
          rssi
          payload := ⟨advertisement, h⟩ }]
      else if advertisement.length ≤ 246 then
        some [.error (.payloadTooLong advertisement.length 62)]
      else none) ∧
    (246 < advertisement.length → answers = none) ∧
    ∀ read r, answers = some read → .ok r ∈ read →
      r.address = address ∧ r.rssi = rssi ∧ r.payload.bytes = advertisement := by
  intro answers
  have hrefused (hlong : 246 < advertisement.length) : answers = none :=
    transmit?_eq_none_iff.mpr (.inl hlong)
  refine ⟨fun hroom ↦ ?_, hrefused, fun read r hsent htold ↦ ?_⟩
  · rcases Nat.lt_or_ge 246 advertisement.length with hlong | hshort
    · rw [dif_neg (by omega), if_neg (by omega)]
      exact hrefused hlong
    · rw [if_pos hshort]
      refine (transmit?_eq hhunts hshort hroom).trans ?_
      rw [ofBody_reportBody_of_lt (by omega)]
      split <;> rfl
  · have hframed : ¬ (246 < advertisement.length ∨ buffer.length < advertisement.length + 14) := by
      rw [← transmit?_eq_none_iff]
      exact fun hnone ↦ Option.some_ne_none read (hsent.symm.trans hnone)
    have harrived : answers = _ := transmit?_eq hhunts (by omega) (by omega)
    obtain rfl := Option.some.inj (hsent.symm.trans harrived)
    rw [List.mem_singleton, ofBody_reportBody_of_lt (by omega)] at htold
    split at htold
    · obtain rfl := Except.ok.inj htold
      exact ⟨rfl, rfl, rfl⟩
    · cases htold

/-- A short advertisement, one over the limit, and one whose length byte would be short again. -/
theorem arrives_whole_three_lengths :
    let sent (advertisement : List UInt8) :=
      transmit? .new (List.replicate (advertisement.length + 14) 0) .zero (-70) advertisement 42
        0x0499
    Decoder.new.state = .hunting ∧
    sent [2, 1, 6] = some [.ok ⟨.zero, 42, countSamples 0x0499 [2, 1, 6], -70,
      ⟨[2, 1, 6], by decide⟩⟩] ∧
    sent (List.replicate 63 7) = some [.error (.payloadTooLong 63 62)] ∧
    sent (List.replicate 258 7) = none := by
  have harrives (advertisement : List UInt8) := arrives_whole .new rfl .zero (-70) advertisement
    (List.replicate (advertisement.length + 14) 0) 42 0x0499
  have hroom (advertisement : List UInt8) : advertisement.length + 14 ≤
      (List.replicate (advertisement.length + 14) (0 : UInt8)).length :=
    Nat.le_of_eq List.length_replicate.symm
  refine ⟨rfl, (harrives [2, 1, 6]).1 (hroom _), (harrives (List.replicate 63 7)).1 (hroom _),
    (harrives (List.replicate 258 7)).2.1 ?_⟩
  rw [List.length_replicate]
  decide

end BeaconGateway.Report
