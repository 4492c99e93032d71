import BeaconGateway.Proofs.Relay.Delivery
import BeaconGateway.Proofs.Relay.Watchdog
import BeaconGateway.Proofs.Scanner.Stamps

/-!
# Running numbers among times

Where stamps are to be times, the backend gets a batch only if its first record looks like one was
put on it; the records behind it are not looked at. They would not have to be if they came in the
order of their stamps. But a device that is heard again keeps its place in the queue and gets a new
stamp. So if the first device was heard before the clock was synchronised and once more after, then
all that were heard before and not since go out as well, each with a running number in the place of
a time.

Nothing else lets them out. A batch is held back whole where its first record has no time, and this
is what happens to the first ones after each start.

## Main results

* `Relay.Uplink` — the intake and the relay over one table;
* `Relay.Uplink.Mixed` — the reports that are let out wrongly;
* `Relay.Uplink.posts_untimed_iff` — when the backend is sent a stamp that is no time.
-/

namespace BeaconGateway.Relay

/-- The intake and the relay, which share a table, and what the table has taken since nothing waited
in it. -/
structure Uplink (ω : Type) where
  /-- The intake, and the table. -/
  intake : Intake gatewayCapacity
  /-- The relay with all that it touches; its table is the intake's. -/
  system : System ω
  /-- The reports that the table has taken since nothing waited in it. -/
  fresh : List Report

namespace Uplink

variable {ω : Type} {contact : Contact ω} {u : Uplink ω}

/-! ### Courses -/

/-- What can happen to the intake and the relay. -/
inductive Turn (ω : Type) where
  /-- A frame comes, or the lack of one, while the clock shows something. -/
  | frame (unixTime : Option UInt32) (body : Option (List UInt8))
  /-- The relay handles signals. -/
  | handle (signals : SignalSet RelaySignal)
  /-- Meanwhile the relay and all that it touches but the table have become this. -/
  | meanwhile (relay : Relay) (net : NetworkStatus) (historyServed : Bool)
    (scanner : Option Address) (mailbox : Mailbox RelaySignal) (outside : ω)

/-- An intake that has seen nothing, and any relay. -/
def start (company : UInt16) (useTimestamps : Bool) (s : System ω) : Uplink ω where
  intake := .new company useTimestamps
  system := s
  fresh := []

/-- The relay with the table that it shares. -/
def joined (u : Uplink ω) : System ω :=
  { u.system with table := u.intake.table }

/-- One turn. -/
def turn (contact : Contact ω) (u : Uplink ω) : Turn ω → Uplink ω
  | .frame unixTime body =>
    let (answer, intake) := u.intake.onFrame unixTime body
    { u with
      intake
      fresh := bif answer.isOk then u.fresh ++ (u.intake.offer? unixTime body).toList else u.fresh }
  | .handle signals =>
    let system := u.joined.handleAll contact signals
    { intake := { u.intake with table := system.table }
      system
      fresh := if system.table.pending = 0 then [] else u.fresh }
  | .meanwhile relay net historyServed scanner mailbox outside =>
    { u with system := { u.system with relay, net, historyServed, scanner, mailbox, outside } }

/-- Turns in order. -/
def follow (contact : Contact ω) (u : Uplink ω) (turns : List (Turn ω)) : Uplink ω :=
  turns.foldl (turn contact) u

/-- The batches that the backend is sent when the relay handles signals. -/
def posts (contact : Contact ω) (u : Uplink ω) (signals : SignalSet RelaySignal) :
    List (List Report) :=
  (u.joined.calls contact signals).filterMap (Call.batchBy .backend)

/-! ### What waits -/

/-- **What waits** is the last report of each device since nothing did. -/
def Waits (u : Uplink ω) : Prop :=
  ∃ L, u.intake.table.Holds L ∧ L.queue.map u.intake.table.records.get = latest u.fresh

theorem waits_start (company : UInt16) (useTimestamps : Bool) (s : System ω) :
    (start company useTimestamps s).Waits :=
  ⟨_, ReportTable.holds_new, rfl⟩

/-- **One turn** leaves waiting what is to wait. -/
theorem Waits.turn (hwaits : u.Waits) (contact : Contact ω) (t : Turn ω) :
    (u.turn contact t).Waits := by
  obtain ⟨L, hholds, hlatest_fresh⟩ := hwaits
  cases t with
  | frame unixTime body =>
    obtain ⟨hnothing, cause, hframe⟩ | ⟨r, hoffered, -, hframe⟩ :=
      u.intake.onFrame_cases unixTime body
    · rw [Uplink.turn, hframe]
      exact ⟨L, hholds, hlatest_fresh⟩
    · obtain ⟨L', hholds', hserved⟩ := hholds.serve_latest hlatest_fresh (.put r)
      rw [Uplink.turn, hframe, hoffered]
      refine ⟨L', hholds', hserved.trans (congrArg latest ?_)⟩
      show takenAfter u.fresh (.put r, .put (u.intake.table.put r).1) = _
      cases (u.intake.table.put r).1 <;> rfl
  | handle signals =>
    have htable : (u.joined.handleAll contact signals).table = _ :=
      System.table_handleAll u.joined signals
    -- whatever the signals are, the table is drained or it is left alone
    have hkept : ∃ L, (u.joined.handleAll contact signals).table.Holds L ∧
        (L.queue = [] ∨ L.queue.map (u.joined.handleAll contact signals).table.records.get =
          latest u.fresh) := by
      rw [htable]
      split_ifs
      · exact ⟨_, (hholds.drain gatewayCapacity).2, .inl rfl⟩
      · exact ⟨L, hholds, .inr hlatest_fresh⟩
    obtain ⟨L', hholds', hwaiting⟩ := hkept
    refine ⟨L', hholds', ?_⟩
    show L'.queue.map _ =
      latest (if (u.joined.handleAll contact signals).table.pending = 0 then _ else _)
    rw [hholds'.pending_eq]
    split_ifs with hempty
    · rw [List.length_eq_zero_iff.1 hempty]
      rfl
    · exact hwaiting.resolve_left (mt List.length_eq_zero_iff.2 hempty)
  | meanwhile => exact ⟨L, hholds, hlatest_fresh⟩

theorem Waits.follow (hwaits : u.Waits) (contact : Contact ω) (turns : List (Turn ω)) :
    (u.follow contact turns).Waits := by
  induction turns generalizing u with
  | nil => exact hwaits
  | cons t rest ih => exact ih (hwaits.turn contact t)

theorem Waits.batch_eq (hwaits : u.Waits) : u.joined.batch = latest u.fresh := by
  obtain ⟨L, hholds, hlatest_fresh⟩ := hwaits
  exact (System.batch_eq hholds).trans hlatest_fresh

/-! ### What is let out -/

/-- **Reports that are let out wrongly**: the device that came up first was heard last under a time,
and another one was not. -/
def Mixed (rs : List Report) : Prop :=
  (∃ first rest r, rs = first :: rest ∧ r.address = first.address ∧ IsLast rs r ∧
    minSyncedTime ≤ r.timestamp) ∧ ∃ r, IsLast rs r ∧ r.timestamp < minSyncedTime

/-- The gate sees a time if the device that came up first was heard last under one. -/
theorem any_head?_latest {rs : List Report} :
    ((latest rs).head?.any fun r ↦ minSyncedTime ≤ r.timestamp) = true ↔
      ∃ first rest r, rs = first :: rest ∧ r.address = first.address ∧ IsLast rs r ∧
        minSyncedTime ≤ r.timestamp := by
  rw [Option.any_eq_true]
  constructor
  · rintro ⟨r, hhead, hlate⟩
    cases rs with
    | nil => cases hhead
    | cons first rest =>
      obtain ⟨hsame, hlast⟩ := head?_latest_eq_some_iff.1 hhead
      exact ⟨first, rest, r, rfl, hsame, hlast, of_decide_eq_true hlate⟩
  · rintro ⟨first, rest, r, rfl, hsame, hlast, hlate⟩
    exact ⟨r, head?_latest_eq_some_iff.2 ⟨hsame, hlast⟩, decide_eq_true hlate⟩

/-- Where stamps are to be times, the backend is relayed to if the gate sees one. -/
theorem relays_backend_iff (hwaits : u.Waits)
    (htimes : u.system.relay.config.time.useTimestamps = true) :
    u.joined.relays .backend = true ↔
      u.joined.relayingAllowed = true ∧ u.system.net.isConnected = true ∧
        u.system.relay.config.http.enabled = true ∧
        ((latest u.fresh).head?.any fun r ↦ minSyncedTime ≤ r.timestamp) = true := by
  have hconfig : u.joined.relay.config = u.system.relay.config := rfl
  have hnet : u.joined.net = u.system.net := rfl
  rw [System.relays, System.takes, hwaits.batch_eq, hconfig, hnet, System.stampsKnown, htimes]
  cases latest u.fresh with
  | nil => simp
  | cons first rest => simp [and_assoc]

/-- **When the backend is sent a stamp that is no time.** In every course of frames, whatever the
clock shows, and of signals, and under every configuration by which stamps are to be times: the
first record of a batch that is posted has a time. Another one has not if and only if the relay
retransmits, relaying to the backend is possible, and of the reports taken since nothing waited the
last one of the first device has a time and the last one of another has not. -/
theorem posts_untimed_iff (contact : Contact ω) (company : UInt16) (useTimestamps : Bool)
    (s : System ω) (turns : List (Turn ω)) (signals : SignalSet RelaySignal) :
    let u := (start company useTimestamps s).follow contact turns
    u.system.relay.config.time.useTimestamps = true →
      (∀ batch ∈ u.posts contact signals,
        ∃ first, batch.head? = some first ∧ minSyncedTime ≤ first.timestamp) ∧
      ((∃ batch ∈ u.posts contact signals, ∃ r ∈ batch, r.timestamp < minSyncedTime) ↔
        signals.contains .retransmit = true ∧ u.joined.relayingAllowed = true ∧
          u.system.net.isConnected = true ∧ u.system.relay.config.http.enabled = true ∧
          Mixed u.fresh) := by
  intro u htimes
  have hwaits : u.Waits := (waits_start company useTimestamps s).follow contact turns
  have hposted : u.posts contact signals =
      if signals.contains .retransmit && u.joined.relays .backend then [latest u.fresh]
      else [] := by
    rw [posts, System.batches_calls, hwaits.batch_eq]
  -- a batch has one record for each device, the last of it
  have huntimed : (∃ r ∈ latest u.fresh, r.timestamp < minSyncedTime) ↔
      ∃ r, IsLast u.fresh r ∧ r.timestamp < minSyncedTime := by
    simp only [mem_latest_iff]
  rw [hposted]
  constructor
  · intro batch hmem
    split_ifs at hmem with hdue
    · obtain ⟨-, -, -, hgate⟩ :=
      (relays_backend_iff hwaits htimes).1 (Bool.and_eq_true_iff.1 hdue).2
      obtain ⟨first, hhead, hlate⟩ := (Option.any_eq_true _ _).1 hgate
      exact ⟨first, List.mem_singleton.1 hmem ▸ hhead, of_decide_eq_true hlate⟩
    · exact absurd hmem List.not_mem_nil
  · rw [Mixed, ← any_head?_latest, ← huntimed]
    constructor
    · rintro ⟨batch, hmem, hearly⟩
      split_ifs at hmem with hdue
      · obtain ⟨hretransmits, hrelays⟩ := Bool.and_eq_true_iff.1 hdue
        obtain ⟨hallowed, hconnected, hinUse, hgate⟩ := (relays_backend_iff hwaits htimes).1 hrelays
        exact ⟨hretransmits, hallowed, hconnected, hinUse, hgate,
          List.mem_singleton.1 hmem ▸ hearly⟩
      · exact absurd hmem List.not_mem_nil
    · rintro ⟨hretransmits, hallowed, hconnected, hinUse, hgate, hearly⟩
      have hrelays := (relays_backend_iff hwaits htimes).2 ⟨hallowed, hconnected, hinUse, hgate⟩
      rw [hretransmits, hrelays, Bool.and_self, if_pos rfl]
      exact ⟨_, List.mem_singleton_self _, hearly⟩

/-! ### Two courses -/

/-- A relay with the default configuration, newly created and connected. -/
def connected : System Nat where
  relay := (Relay.create .default .empty .empty 0).toOption.get rfl
  table := .new
  net := NetworkStatus.down.set NetworkStatus.wifi
  historyServed := false
  scanner := none
  mailbox := .new
  outside := 0

/-- A device is heard. -/
def heard (unixTime : Option UInt32) (device : UInt8) : Turn ω :=
  .frame unixTime (some (Sighting.body ⟨⟨device, 0, 0, 0, 0, 0⟩, -60, .empty⟩))

/-- Two devices are heard before the clock is synchronised, and each of them once more after: what
the backend is sent are times. -/
theorem posts_times :
    let turns : List (Turn Nat) :=
      [heard none 1, heard none 2, heard (some 1700000000) 1, heard (some 1700000001) 2]
    let u := (start 0x0499 true connected).follow .idle turns
    u.system.relay.config.time.useTimestamps = true ∧
      ¬∃ batch ∈ u.posts .idle (.ofList [.retransmit]),
        ∃ r ∈ batch, r.timestamp < minSyncedTime := by
  intro turns
  have hposted := posts_untimed_iff .idle 0x0499 true connected turns (.ofList [.retransmit])
  have htimes : ∀ r ∈ latest ((start 0x0499 true connected).follow .idle turns).fresh,
      ¬r.timestamp < minSyncedTime := by decide +kernel
  have hwanted : ((start 0x0499 true connected).follow .idle
      turns).system.relay.config.time.useTimestamps = true := by decide +kernel
  refine ⟨hwanted, fun huntimed ↦ ?_⟩
  obtain ⟨-, -, -, -, -, r, hlast, hearly⟩ := (hposted hwanted).2.1 huntimed
  exact htimes r (mem_latest_iff.2 hlast) hearly

/-- **A running number among times**: two devices are heard before the clock is synchronised, and
one of them once more after. The backend is sent the time of that one, and the running number of the
other. -/
theorem posts_running_number :
    let turns : List (Turn Nat) := [heard none 1, heard none 2, heard (some 1700000000) 1]
    let u := (start 0x0499 true connected).follow .idle turns
    u.system.relay.config.time.useTimestamps = true ∧
      (u.posts .idle (.ofList [.retransmit])).map (fun batch ↦ batch.map Report.timestamp) =
        [[1700000000, 2]] := by
  decide +kernel

end Uplink

end BeaconGateway.Relay
