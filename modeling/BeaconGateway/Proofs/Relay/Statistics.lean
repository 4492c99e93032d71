import BeaconGateway.Proofs.Document.Status
import BeaconGateway.Proofs.History.Visibility
import BeaconGateway.Proofs.Relay.Diary
import BeaconGateway.Proofs.Relay.Sending
import BeaconGateway.Proofs.Relay.Watchdog

/-!
# Which devices a status report lists

A status report is made from a history of the table without a limit of age, and such a history ends
nowhere before the last device that is known. What is known is what is left of all the reports that
the table took: the last one of each device, the device heard last first, as far as there is room.
The report splits them into two lists and keeps their order in both. So it lists each device that is
tracked, once, and says of it what its last report said.

## Main results

* `Relay.System.asks_sendStatistics` — the one question of the signal to send a status report;
* `Relay.System.lists_tracked` — which devices its document lists.
-/

namespace BeaconGateway

namespace Relay.System

variable {ω : Type}

/-- The signal to send a status report asks one question, if there is a network. -/
theorem asks_sendStatistics (contact : Contact ω) {s : System ω}
    (hwanted : s.relay.config.statistics.enabled = true) (hup : s.net.isConnected = true) :
    s.asks contact (.handle .sendStatistics) = [.statistics (s.statusReport contact)] := by
  obtain ⟨quietSince, hasked, -⟩ :=
    exists_deliver contact (.statistics (s.statusReport contact)) s.recording
  have hsent : s.recording.onStatistics contact.recorded =
      s.recording.deliver contact.recorded (.statistics (s.statusReport contact)) :=
    if_pos (Bool.and_eq_true_iff.2 ⟨hwanted, hup⟩)
  show (s.recording.onStatistics contact.recorded).asked = _
  rw [hsent, hasked]
  rfl

/-- **A status report lists each tracked device once.** Let an intake with a new table have given
out any running number, let frames come, drains take what is pending and settings change, and let
the relay find the table like this when it is to send a status report over a network that is up.
Then it asks to post one document. That is one JSON value, and is read as two lists: the devices
whose last report carried samples, with their number, and the others, the device heard last first in
both. Together they are the devices that are tracked, and the table stays as it is. -/
theorem lists_tracked (contact : Contact ω) (company : UInt16) (useTimestamps : Bool)
    (counter : UInt32) (turns : List Intake.Turn) (any : System ω)
    (hwanted : any.relay.config.statistics.enabled = true) (hup : any.net.isConnected = true) :
    let c : Intake.Course gatewayCapacity :=
      (Intake.Course.startFrom company useTimestamps counter).follow turns
    let s := { any with table := c.intake.table }
    let last := (recent c.taken).take gatewayCapacity
    ∃ report contents,
      s.asks contact (.handle .sendStatistics) = [.statistics report] ∧
      (∃ j, (∀ j', Json.Denotes report.document.render j' ↔ j' = j) ∧
        StatusContents.ofDocument? j = some contents) ∧
      contents.active = (last.filter fun r ↦ r.samples != 0).map (fun r ↦ ⟨r.address, r.samples⟩) ∧
      contents.inactive = (last.filter fun r ↦ r.samples == 0).map Report.address ∧
      contents.seen = contents.active.length ∧
      last.reverse.Sublist c.taken ∧ (∀ r ∈ last, IsLast c.taken r) ∧
      contents.devices.Nodup ∧ contents.devices.length = s.table.tracked ∧
      (∀ a, a ∈ contents.devices ↔
        ∃ slot, s.table.index.contains slot = true ∧ s.table.addressAt slot = a) ∧
      (s.handle contact .sendStatistics).table = s.table := by
  intro c s last
  have htells : c.Tells :=
    (Intake.Course.tells_startFrom company useTimestamps counter).follow turns
  obtain ⟨L, hholds⟩ := htells.holds
  -- what is tracked is what was heard last, and the report shows all of it
  let report := s.statusReport contact
  have hrecords : report.records = last := htells.history_eq_recent 0
  have hreports : c.intake.table.roster.reports = last := htells.remembers
  -- the two lists of the document share out the devices between them
  have hlisted : (StatusContents.ofReport report).devices.Perm (last.map Report.address) := by
    rw [← hrecords]
    exact StatusContents.devices_ofReport_perm report
  have hread := StatusContents.ofDocument?_document report
  refine ⟨report, .ofReport report, asks_sendStatistics contact hwanted hup,
    ⟨report.document, fun j' ↦ Json.denotes_render_iff, hread⟩, ?_, ?_, (List.length_map _).symm,
    ?_, ?_, ?_, ?_, ?_, (handle_idles (by decide) s).table⟩
  · rw [← hrecords]
    rfl
  · rw [← hrecords]
    rfl
  · exact (List.take_sublist _ _).reverse.trans (reverse_recent_sublist c.taken)
  · exact fun r hmem ↦ mem_recent_iff.1 (List.mem_of_mem_take hmem)
  · rw [hlisted.nodup_iff, ← hreports]
    exact hholds.wellFormed_roster.distinct
  · rw [hlisted.length_eq, List.length_map, ← hreports, hholds.roster_eq, List.length_map]
    exact hholds.tracked_eq.symm
  · intro a
    rw [hlisted.mem_iff, List.mem_map, ← hreports]
    simp only [hholds.mem_reports_iff, exists_exists_and_eq_and]
    rfl

/-- Two devices, of which the first is heard again with a sample. -/
theorem lists_tracked_of_two :
    ∃ relay, Relay.create .default .empty .empty 0 = .ok relay ∧
      let any : System Nat :=
        ⟨relay, .new, .set .down NetworkStatus.wifi, false, none, .new, 0⟩
      let frame (b : UInt8) (payload : Payload) : Intake.Turn :=
        .frame none (some (Sighting.body ⟨⟨b, 0, 0, 0, 0, 0⟩, -60, payload⟩))
      let turns : List Intake.Turn := [frame 1 .empty, frame 2 .empty, .drain 2,
        frame 1 ⟨[0x04, 0xFF, 0x99, 0x04, 0x05], by decide⟩]
      let s : System Nat :=
        { any with table := ((Intake.Course.startFrom 0x0499 true 0).follow turns).intake.table }
      any.relay.config.statistics.enabled = true ∧ any.net.isConnected = true ∧
        ∃ report contents, s.asks .idle (.handle .sendStatistics) = [.statistics report] ∧
          (∃ j, (∀ j', Json.Denotes report.document.render j' ↔ j' = j) ∧
            StatusContents.ofDocument? j = some contents) ∧
          contents.active = [⟨⟨1, 0, 0, 0, 0, 0⟩, 1⟩] ∧
          contents.inactive = [⟨2, 0, 0, 0, 0, 0⟩] := by
  refine ⟨_, rfl, ?_⟩
  intro any frame turns s
  have hwanted : any.relay.config.statistics.enabled = true := rfl
  have hup : any.net.isConnected = true := by decide
  have hlast : (recent ((Intake.Course.startFrom 0x0499 true 0 :
      Intake.Course gatewayCapacity).follow turns).taken).take gatewayCapacity = [
        ⟨⟨1, 0, 0, 0, 0, 0⟩, 3, 1, -60, ⟨[0x04, 0xFF, 0x99, 0x04, 0x05], by decide⟩⟩,
        ⟨⟨2, 0, 0, 0, 0, 0⟩, 2, 0, -60, .empty⟩] := by decide +kernel
  obtain ⟨report, contents, hasks, hread, hactive, hinactive, -⟩ :=
    lists_tracked .idle 0x0499 true 0 turns any hwanted hup
  refine ⟨hwanted, hup, report, contents, hasks, hread, ?_, ?_⟩
  · rw [hactive, hlast]
    rfl
  · rw [hinactive, hlast]
    rfl

end Relay.System

end BeaconGateway
