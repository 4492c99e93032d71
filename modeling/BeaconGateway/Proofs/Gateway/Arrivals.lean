import BeaconGateway.Proofs.Gateway.Reach
import BeaconGateway.Proofs.Relay.Delivery
import BeaconGateway.Rehearsal

/-!
# From the wire to the backend

Sightings come over the serial link as frames, with noise between them and in pieces that end
anywhere. When the relay retransmits next, the backend gets one batch, with the last sighting of
each device, in the order in which the devices came up. No sighting is lost on the way, as long as
there is room in the table for their devices: it may have to forget devices whose reports were sent
before, but none of these.

The seams are one lemma each:

| from                     | to                         | lemma                          |
|--------------------------|----------------------------|--------------------------------|
| frames, noise            | bodies                     | `Decoder.feed_wire`            |
| bodies, in pieces        | reports that wait          | `Gateway.carries_arrive`       |
| reports that wait        | the batch                  | `Relay.System.batch_eq`        |
| the batch                | the backend                | `Relay.System.batches_calls`   |

## Main results

* `Gateway.Ready` — a gateway where nothing waits and the backend can be reached;
* `Gateway.Arrival`, `Gateway.arrive` — bytes arrive while time passes;
* `Gateway.posts_latest_sightings` — what the backend gets of them.
-/

namespace BeaconGateway

/-! ### On the wire -/

namespace Sighting

/-- The frame of a sighting, after noise. -/
def segment (noise : List UInt8) (x : Sighting) : Segment where
  noise := noise
  command := Command.advReport.byte
  payload := x.body.tail

theorem length_body_le (x : Sighting) : x.body.length ≤ 9 + maxPayload := by
  have hfits := x.payload.fits
  have hwhole : x.body.length = 9 + x.payload.bytes.length := by
    simp only [body, reportBody, Address.toList, List.length_cons, List.length_append,
      List.length_nil]
    omega
  omega

/-- Sightings on the wire, each after some noise. -/
def wire (frames : List (List UInt8 × Sighting)) : List UInt8 :=
  frames.flatMap fun (noise, x) ↦ noise ++ Frame.ofBody x.body

end Sighting

/-- **Sightings on the wire** are delivered as bodies, in order. -/
theorem Decoder.feed_wire (stats : Stats) {frames : List (List UInt8 × Sighting)}
    {tail : List UInt8} (hquiet : ∀ frame ∈ frames, Frame.start ∉ frame.1)
    (hquietTail : Frame.start ∉ tail) :
    feed ⟨.hunting, stats⟩ (Sighting.wire frames ++ tail) =
      (⟨.hunting, stats.addFrames frames.length⟩, (frames.map Prod.snd).map Sighting.body) := by
  let segments := frames.map fun (noise, x) ↦ Sighting.segment noise x
  have hvalid : ∀ segment ∈ segments, segment.Valid := by
    intro segment hmem
    obtain ⟨frame, hframed, rfl⟩ := List.mem_map.1 hmem
    refine ⟨hquiet frame hframed, ?_⟩
    have hshort := frame.2.length_body_le
    have htail : frame.2.body.tail.length ≤ frame.2.body.length := by simp
    show frame.2.body.tail.length ≤ 254
    rw [maxPayload] at hshort
    omega
  have hbytes : segments.flatMap Segment.bytes = Sighting.wire frames :=
    List.flatMap_map _ _ _
  have hbodies : segments.map Segment.body = (frames.map Prod.snd).map Sighting.body := by
    rw [List.map_map, List.map_map]
    rfl
  have hlength : segments.length = frames.length := List.length_map _
  rw [← hbytes, feed_append, feed_segments stats hvalid, feed_noise _ hquietTail, hbodies, hlength,
    List.append_nil]

namespace Gateway

variable {ω : Type} {w : Wiring ω} {g : Gateway ω}

/-! ### Arrivals -/

/-- Bytes that arrive after the outside has moved on by itself. -/
structure Arrival (ω : Type) where
  /-- What has happened outside. -/
  move : ω → ω
  /-- The bytes. -/
  bytes : List UInt8

/-- The events of an arrival. -/
def Arrival.events (a : Arrival ω) : List (Event ω) :=
  [.outside a.move, .receive a.bytes]

/-- Arrivals in order. -/
def arrive (w : Wiring ω) (g : Gateway ω) (arrivals : List (Arrival ω)) : Gateway ω :=
  g.run w (arrivals.flatMap Arrival.events)

theorem arrive_cons (a : Arrival ω) (rest : List (Arrival ω)) :
    g.arrive w (a :: rest) = (g.arrive w [a]).arrive w rest := by
  rw [arrive, arrive, arrive, run, run, run, ← List.foldl_append, List.flatMap_cons,
    List.flatMap_singleton]

/-- A clock that stands while time passes shows the same after the arrivals. -/
theorem unixTime_arrive {arrivals : List (Arrival ω)}
    (hstanding : ∀ a ∈ arrivals, ∀ outside, w.unixTime (a.move outside) = w.unixTime outside) :
    w.unixTime (g.arrive w arrivals).around.outside = w.unixTime g.around.outside := by
  induction arrivals generalizing g with
  | nil => rfl
  | cons a rest ih =>
    have hlater : ∀ b ∈ rest, ∀ outside, w.unixTime (b.move outside) = w.unixTime outside :=
      fun b hmem ↦ hstanding b (List.mem_cons_of_mem a hmem)
    rw [arrive_cons, ih hlater]
    exact hstanding a List.mem_cons_self g.around.outside

/-- The clock shows a time. -/
def Synced (w : Wiring ω) (g : Gateway ω) : Prop :=
  ∃ now, w.unixTime g.around.outside = some now ∧ minSyncedTime ≤ now

/-- **Arrivals that bring sightings** make of the intake what the sightings do, and leave the relay
and the network alone. -/
theorem carries_arrive {synced : Prop} {before : Intake gatewayCapacity} {xs more : List Sighting}
    {arrivals : List (Arrival ω)} (hcarries : Intake.Carries synced before g.receiver.intake xs)
    (hclock : synced → before.useTimestamps = true ∧
      ∀ begun, begun <+: arrivals → begun ≠ [] → (g.arrive w begun).Synced w)
    (hbrings : (g.receiver.decoder.feedAll (arrivals.map Arrival.bytes)).2 = more.map Sighting.body)
    (hroom : Sighting.devices (xs ++ more) ≤ gatewayCapacity) :
    let after := g.arrive w arrivals
    Intake.Carries synced before after.receiver.intake (xs ++ more) ∧
      after.receiver.decoder = (g.receiver.decoder.feedAll (arrivals.map Arrival.bytes)).1 ∧
      after.relay = g.relay ∧ after.net = g.net := by
  induction arrivals generalizing g xs more with
  | nil =>
    have hnone : more = [] := by simpa [Decoder.feedAll] using hbrings.symm
    rw [hnone, List.append_nil]
    exact ⟨hcarries, rfl, rfl, rfl⟩
  | cons a rest ih =>
    let next := g.arrive w [a]
    have hfed : next.receiver =
        (g.receiver.feed (w.unixTime (a.move g.around.outside)) a.bytes).2 := rfl
    have hdecoder : next.receiver.decoder = (g.receiver.decoder.feed a.bytes).1 := by
      rw [hfed, Receiver.decoder_feed]
    -- the bodies that this piece completes belong to the first of the sightings
    have hsplit : more.map Sighting.body = (g.receiver.decoder.feed a.bytes).2 ++
        (next.receiver.decoder.feedAll (rest.map Arrival.bytes)).2 := by
      rw [← hbrings, hdecoder]
      rfl
    obtain ⟨first, later, rfl, hbodies, hbodies'⟩ := List.map_eq_append_iff.1 hsplit
    rw [← List.append_assoc] at hroom ⊢
    have hcarries' : Intake.Carries synced before next.receiver.intake (xs ++ first) := by
      rw [hfed]
      refine hcarries.feed (fun hsync ↦ ?_) hbodies.symm
        ((Sighting.devices_le_of_prefix (List.prefix_append _ _)).trans hroom)
      obtain ⟨hwanted, hshown⟩ := hclock hsync
      exact ⟨hwanted, hshown [a] ⟨rest, rfl⟩ (List.cons_ne_nil _ _)⟩
    have hclock' : synced → before.useTimestamps = true ∧
        ∀ begun, begun <+: rest → begun ≠ [] → (next.arrive w begun).Synced w := by
      intro hsync
      obtain ⟨hwanted, hshown⟩ := hclock hsync
      refine ⟨hwanted, fun begun hbegins _ ↦ ?_⟩
      rw [← arrive_cons]
      exact hshown (a :: begun) (List.cons_prefix_cons.2 ⟨rfl, hbegins⟩) (List.cons_ne_nil _ _)
    obtain ⟨hreached, hdecoded, hrelay, hnet⟩ := ih hcarries' hclock' hbodies'.symm hroom
    rw [arrive_cons]
    refine ⟨hreached, hdecoded.trans ?_, hrelay, hnet⟩
    rw [hdecoder]
    rfl

/-! ### The batch -/

/-- **A gateway where nothing waits** and the backend can be reached. -/
structure Ready (g : Gateway ω) (relay : Relay) : Prop where
  /-- The relay is there. -/
  isRelay : g.relay = some relay
  /-- It relays. -/
  enabled : relay.enabled = true
  /-- It posts to the backend. -/
  inUse : relay.config.http.enabled = true
  /-- Relaying is not suspended. -/
  unsuspended : g.net.isSuspended = false
  /-- A link is up. -/
  connected : g.net.isConnected = true
  /-- Nothing waits to be relayed. -/
  empty : g.receiver.intake.table.pending = 0
  /-- No frame is in progress. -/
  hunting : g.receiver.decoder.state = .hunting

/-- A relay that relays to the backend sends it what waits, if it can show the stamps. -/
theorem relays_backend {s : Relay.System ω} {xs : List Sighting} {rs : List Report}
    {company : UInt16} (hallowed : s.relayingAllowed = true) (hconnected : s.net.isConnected = true)
    (hinUse : s.relay.config.http.enabled = true) (hwaits : s.batch = latest rs)
    (hseen : rs.map Report.unstamped = xs.map (·.report company))
    (hstamps : s.relay.config.time.useTimestamps = true → ∀ r ∈ rs, minSyncedTime ≤ r.timestamp) :
    s.relays .backend = !xs.isEmpty := by
  have hsends : s.relays .backend = (!(latest rs).isEmpty &&
      Relay.System.stampsKnown s.relay.config (latest rs)) := by
    rw [Relay.System.relays, Relay.System.takes, hallowed, hconnected, hinUse, hwaits]
    simp
  rw [hsends]
  cases xs with
  | nil =>
    have hnone : rs = [] := List.map_eq_nil_iff.1 hseen
    rw [hnone]
    rfl
  | cons x xs =>
    cases hchosen : latest rs with
    | nil =>
      -- the device of the first sighting would have no latest report
      exfalso
      obtain ⟨r, rest, rfl, -, -⟩ := List.map_eq_cons_iff.1 hseen
      have hmem : r.address ∈ (latest (r :: rest)).map Report.address :=
        mem_map_address_latest.2 List.mem_cons_self
      rw [hchosen] at hmem
      exact absurd hmem List.not_mem_nil
    | cons first rest =>
      have htaken : first ∈ rs := mem_of_mem_latest (hchosen ▸ List.mem_cons_self)
      cases hwanted : s.relay.config.time.useTimestamps with
      | false => simp [Relay.System.stampsKnown, hwanted]
      | true => simp [Relay.System.stampsKnown, hwanted, hstamps hwanted first htaken]

/-- **What the backend gets of sightings** that arrive over the serial link, from any gateway that
something was done to, where nothing waits and the backend can be reached. However they are cut into
pieces, and whatever noise is between them, as long as there is room for their devices: when the
relay retransmits next, the backend gets one batch, with the last sighting of each device in the
order in which the devices came up, or none if there were no sightings. Each sighting is counted as
received, and none as dropped or malformed.  Where stamps are to be times, the intake has to be told
so too, and the clock has to show one. -/
theorem posts_latest_sightings {c : Config} {address : Address}
    {gatewayFirmware scannerFirmware : ShortText} {outside : ω} {new : Gateway ω}
    (hcreated : create w c address gatewayFirmware scannerFirmware outside = .ok new)
    (operations : List (Operation ω)) {relay : Relay}
    (hready : (new.performAll w operations).Ready relay)
    {frames : List (List UInt8 × Sighting)} {tail : List UInt8} {arrivals : List (Arrival ω)}
    (hquiet : ∀ frame ∈ frames, Frame.start ∉ frame.1) (hquietTail : Frame.start ∉ tail)
    (harrived : (arrivals.map Arrival.bytes).flatten = Sighting.wire frames ++ tail)
    (hroom : Sighting.devices (frames.map Prod.snd) ≤ gatewayCapacity)
    (hclock : relay.config.time.useTimestamps = true →
      (new.performAll w operations).receiver.intake.useTimestamps = true ∧
        ∀ begun, begun <+: arrivals → begun ≠ [] →
          ((new.performAll w operations).arrive w begun).Synced w) :
    let before := new.performAll w operations
    let after := before.arrive w arrivals
    let sightings := frames.map Prod.snd
    after.relay = some relay ∧
      (∀ signals, signals.contains .retransmit = true →
        ∃ batch, ((after.relaySystem relay).calls w.relayContact signals).filterMap
            (Relay.Call.batchBy .backend) = (if sightings.isEmpty then [] else [batch]) ∧
          batch.map Report.unstamped =
            latest (sightings.map (·.report before.receiver.intake.company))) ∧
      after.receiver.intake.metrics = { before.receiver.intake.metrics with
        received := before.receiver.intake.metrics.received + UInt32.ofNat sightings.length } ∧
      after.receiver.decoder.state = .hunting := by
  intro before after sightings
  have hdecoded : before.receiver.decoder.feedAll (arrivals.map Arrival.bytes) =
      (⟨.hunting, before.receiver.decoder.stats.addFrames frames.length⟩,
        sightings.map Sighting.body) := by
    have hhunting : before.receiver.decoder = ⟨.hunting, before.receiver.decoder.stats⟩ := by
      rw [← hready.hunting]
    rw [Decoder.feedAll_eq, harrived, hhunting, Decoder.feed_wire _ hquiet hquietTail]
  obtain ⟨L, hholds⟩ : before.Sound := sound_performAll (sound_create hcreated) operations
  -- nothing waits at first, so that the sightings on the wire are all that will
  have hnothing : Intake.Carries (relay.config.time.useTimestamps = true) before.receiver.intake
      before.receiver.intake [] := Intake.carries_nil hholds hready.empty
  obtain ⟨hcarries, hdecoder, hrelay, hnet⟩ :=
    carries_arrive hnothing hclock (congrArg Prod.snd hdecoded) hroom
  obtain ⟨L', rs, hholds', hwaits, hseen, hstamps⟩ := hcarries.waiting
  refine ⟨hrelay.trans hready.isRelay, fun signals hretransmits ↦ ?_, hcarries.metrics, ?_⟩
  · let s := after.relaySystem relay
    have hbatch : s.batch = latest rs := (Relay.System.batch_eq hholds').trans hwaits
    have hsame : s.net = before.net := hnet
    have hconnected : s.net.isConnected = true :=
      (congrArg NetworkStatus.isConnected hsame).trans hready.connected
    have hallowed : s.relayingAllowed = true := by
      have hunsuspended : s.net.isSuspended = false :=
        (congrArg NetworkStatus.isSuspended hsame).trans hready.unsuspended
      have hinUse : s.relay.config.http.enabled = true := hready.inUse
      have henabled : s.relay.enabled = true := hready.enabled
      simp [Relay.System.relayingAllowed, Config.relayingConfigured, hunsuspended, hinUse, henabled]
    have hrelays : s.relays .backend = !sightings.isEmpty :=
      relays_backend hallowed hconnected hready.inUse hbatch hseen hstamps
    refine ⟨s.batch, ?_, ?_⟩
    · rw [Relay.System.batches_calls, hretransmits, hrelays]
      cases sightings.isEmpty <;> rfl
    -- to forget the stamps does not change which sighting is the last of its device
    · have hunmoved (r : Report) : r.unstamped.address = r.address := rfl
      have herased : latest (rs.map Report.unstamped) = (latest rs).map Report.unstamped :=
        latest_map hunmoved rs
      rw [hbatch, ← herased, hseen]
      rfl
  · rw [hdecoder, hdecoded]

/-- Of two devices, one of them seen twice, a gateway with the default configuration posts the later
sighting of that one and the sighting of the other. There is noise on the wire, and the bytes arrive
in two pieces, between which the broker goes away. -/
theorem posts_latest_of_three :
    let first : Sighting := ⟨⟨1, 0, 0, 0, 0, 0⟩, -40, .empty⟩
    let other : Sighting := ⟨⟨2, 0, 0, 0, 0, 0⟩, -60, .empty⟩
    let again : Sighting := { first with rssi := -50 }
    let frames := [([0], first), ([], other), ([1, 3], again)]
    let bytes := Sighting.wire frames ++ [0]
    let arrivals : List (Arrival Rehearsal) :=
      [⟨id, bytes.take 20⟩,
        ⟨fun outside ↦ { outside with brokerReachable := false }, bytes.drop 20⟩]
    ∃ new relay batch, create Rehearsal.wiring .default .zero .empty .empty
        (.fair 0 (some 1700000000)) = .ok new ∧
      let before := new.performAll Rehearsal.wiring [.event (.link (.up .wifi))]
      before.Ready relay ∧
        (((before.arrive Rehearsal.wiring arrivals).relaySystem relay).calls
          Rehearsal.wiring.relayContact (.ofList [.retransmit])).filterMap
            (Relay.Call.batchBy .backend) = [batch] ∧
        batch.map Report.unstamped =
          [again.report Config.sensorCompany, other.report Config.sensorCompany] := by
  intro first other again frames bytes arrivals
  obtain ⟨new, relay, hcreated, hready, hstamped, hcompany, hclock⟩ :
      ∃ new relay, create Rehearsal.wiring .default .zero .empty .empty
          (.fair 0 (some 1700000000)) = .ok new ∧
        let before := new.performAll Rehearsal.wiring [.event (.link (.up .wifi))]
        before.Ready relay ∧ before.receiver.intake.useTimestamps = true ∧
          before.receiver.intake.company = Config.sensorCompany ∧
          ∀ begun, begun <+: arrivals → begun ≠ [] →
            (before.arrive Rehearsal.wiring begun).Synced Rehearsal.wiring := by
    have hstanding : ∀ a ∈ arrivals, ∀ outside : Rehearsal,
        Rehearsal.wiring.unixTime (a.move outside) = Rehearsal.wiring.unixTime outside :=
      List.forall_mem_cons.2 ⟨fun _ ↦ rfl, List.forall_mem_singleton.2 fun _ ↦ rfl⟩
    have hlate : minSyncedTime ≤ 1700000000 := by decide
    exact ⟨_, _, rfl, ⟨rfl, rfl, rfl, rfl, rfl, rfl, rfl⟩, rfl, rfl, fun begun hbegins _ ↦
      ⟨1700000000, unixTime_arrive fun a hmem ↦ hstanding a (hbegins.subset hmem), hlate⟩⟩
  have hquiet : ∀ frame ∈ frames, Frame.start ∉ frame.1 := by decide
  have harrived : (arrivals.map Arrival.bytes).flatten = bytes := by
    simp [arrivals]
  obtain ⟨-, hsent, -⟩ := posts_latest_sightings hcreated [.event (.link (.up .wifi))] hready hquiet
    (show Frame.start ∉ [0] by decide) harrived (by decide) fun _ ↦ ⟨hstamped, hclock⟩
  obtain ⟨batch, hposted, hlatest⟩ := hsent (.ofList [.retransmit]) rfl
  rw [hcompany] at hlatest
  exact ⟨new, relay, batch, hcreated, hready, hposted, hlatest⟩

end Gateway

end BeaconGateway
