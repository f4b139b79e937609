import StockLedger.Proofs.TransferRuns

/-!
Shipments against reservations in every session. A transfer ships a line only while in
progress; it goes in progress only with every line flagged reserved, and a flag is set
only once the log holds the line's reservation. The engine reserves only when the log
shows no reservation held and releases only when it shows one held. So every shipment
comes after a reservation of its product variant by the same transfer, with at most one
held at that point.

Whether one is still held is not kept. A start whose journal save fails leaves the line
flagged; a cancel whose save fails after releasing the line leaves the flag; the next
start trusts it, and the line ships with its reservation released. Nor does the
reservation cover the line: an item added to a flagged line grows it past what was
reserved.
-/

namespace StockLedger

/-- In every session, each shipment a transfer logs for a product variant comes after a
reservation of that variant by the same transfer, and just before it the transfer has
released at most as many reservations as it made, holding at most one. -/
theorem shipment_follows_reservation {l : Ledger} (reached : Reachable l) {t : Transfer} (stored : t ∈ l.transfers)
    {p v : String} {j : Nat} {b : Adjustment} (found : l.book.log[j]? = some b) (shipment : t.IsShipment p v b) :
    0 < t.reservations (l.book.log.take j) p v ∧
      t.releases (l.book.log.take j) p v ≤ t.reservations (l.book.log.take j) p v ∧
      t.reservations (l.book.log.take j) p v ≤ t.releases (l.book.log.take j) p v + 1 := by
  have reserves := reached.sound.reserves t stored
  exact ⟨reserves.reservedFirst p v j b found shipment, reserves.held j p v⟩

namespace Session

/-- The opened transfer started while the save of an in-progress journal fails, then
cancelled while the save of a cancelled journal fails, then completed. -/
def releasedThenShipped : Ledger :=
  let flagged := ((Transfers.startTransfer {} firstId).exec { opened with trap := some (.status "in_progress") }).2
  let released := ((Transfers.cancel {} firstId).exec { flagged with trap := some (.status "cancelled") }).2
  ((Transfers.complete {} firstId).exec released).2

theorem releasedThenShipped_reachable : Reachable releasedThenShipped :=
  ⟨fresh, fresh_initial, .tail (.tail (.tail (.tail (.tail opened_run (.outside _ _ _ _)) (.start _ _ _))
    (.outside _ _ _ _)) (.cancel _ _ _)) (.complete _ _ _)⟩

theorem releasedThenShipped_reserved_first : ∃ t ∈ releasedThenShipped.transfers, ∃ line ∈ t.lines,
    ∃ j < releasedThenShipped.book.log.length, ∃ b ∈ releasedThenShipped.book.log,
      releasedThenShipped.book.log[j]? = some b ∧ t.IsShipment line.product line.variant b ∧
      0 < t.reservations (releasedThenShipped.book.log.take j) line.product line.variant ∧
      t.releases (releasedThenShipped.book.log.take j) line.product line.variant ≤
        t.reservations (releasedThenShipped.book.log.take j) line.product line.variant ∧
      t.reservations (releasedThenShipped.book.log.take j) line.product line.variant ≤
        t.releases (releasedThenShipped.book.log.take j) line.product line.variant + 1 := by
  have found : ∃ t ∈ releasedThenShipped.transfers, ∃ line ∈ t.lines,
      ∃ j < releasedThenShipped.book.log.length, ∃ b ∈ releasedThenShipped.book.log,
        releasedThenShipped.book.log[j]? = some b ∧ b.reference = some (Transfer.reference t.id) ∧
        b.key = ⟨line.product, line.variant, t.source⟩ ∧ b.kind = .shipped := by
    decide +kernel
  obtain ⟨t, stored, line, member, j, below, b, entry, at_j, filed, key, kind⟩ := found
  exact ⟨t, stored, line, member, j, below, b, entry, at_j, ⟨filed, key, kind⟩,
    shipment_follows_reservation releasedThenShipped_reachable stored at_j ⟨filed, key, kind⟩⟩

/-- The opened transfer started while the save of an in-progress journal fails, two more
units added to its line, and the transfer completed. -/
def grownThenShipped : Ledger :=
  let flagged := ((Transfers.startTransfer {} firstId).exec { opened with trap := some (.status "in_progress") }).2
  let grown := ((Transfers.addLine {} firstId ⟨"p1", "", 2⟩).exec flagged).2
  ((Transfers.complete {} firstId).exec grown).2

theorem grownThenShipped_reachable : Reachable grownThenShipped :=
  ⟨fresh, fresh_initial, .tail (.tail (.tail (.tail opened_run (.outside _ _ _ _)) (.start _ _ _))
    (.addLine _ _ _ _)) (.complete _ _ _)⟩

/-- A line shipped while its transfer holds no reservation of it, and a line shipped
while no reservation of its quantity was ever logged. -/
theorem shipped_without_held_reservation :
    (Reachable releasedThenShipped ∧ ∃ t ∈ releasedThenShipped.transfers, ∃ line ∈ t.lines,
      ∃ j < releasedThenShipped.book.log.length, ∃ b ∈ releasedThenShipped.book.log,
        releasedThenShipped.book.log[j]? = some b ∧ b.reference = some (Transfer.reference t.id) ∧
        b.key = ⟨line.product, line.variant, t.source⟩ ∧ b.kind = .shipped ∧
        t.reservations (releasedThenShipped.book.log.take j) line.product line.variant =
          t.releases (releasedThenShipped.book.log.take j) line.product line.variant) ∧
    (Reachable grownThenShipped ∧ ∃ t ∈ grownThenShipped.transfers, ∃ line ∈ t.lines,
      0 < t.shipments grownThenShipped.book.log line.product line.variant ∧
      ∀ e ∈ grownThenShipped.book.log, e.reference = some (Transfer.reference t.id) →
        e.key = ⟨line.product, line.variant, t.source⟩ → e.kind = .reserved → e.quantity ≠ line.quantity) :=
  ⟨⟨releasedThenShipped_reachable, by decide +kernel⟩, ⟨grownThenShipped_reachable, by decide +kernel⟩⟩

end Session

end StockLedger
