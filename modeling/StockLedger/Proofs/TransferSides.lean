import StockLedger.Proofs.TransferRuns

/-!
The sides of a transfer in every session. Each side of a line is logged at most once, a
receipt or a return only after the shipment, and a return never after a receipt; a
receipt can still follow a return, after a cancel that returned a line and then failed.
A completed transfer has both sides of every line logged once, each recording what
moving the line's quantity moved: all of it exactly when the source had it on hand and
the destination had room for it.
-/

namespace StockLedger

/-- In every session, each side of each product variant of a stored transfer is logged
at most once: the shipment at the source, the receipt at the destination and the return
at the source; a receipt or a return only once the shipment is; and no return after a
receipt. A receipt can still follow a return: a cancel that returned a line and then
failed leaves the transfer open, and completing it receives the line. -/
theorem transfer_sides_at_most_once {l : Ledger} (reached : Reachable l) {t : Transfer} (stored : t ∈ l.transfers)
    (p v : String) :
    t.shipments l.book.log p v ≤ 1 ∧ t.receipts l.book.log p v ≤ 1 ∧ t.returns l.book.log p v ≤ 1 ∧
    (0 < t.receipts l.book.log p v → 0 < t.shipments l.book.log p v) ∧
    (0 < t.returns l.book.log p v → 0 < t.shipments l.book.log p v) ∧
    ∀ (i j : Nat) a b, l.book.log[i]? = some a → l.book.log[j]? = some b →
      t.IsReturn p v a → t.IsReceipt p v b → i < j := by
  have fits := reached.sound.fits t stored
  obtain ⟨shipped, received, returned⟩ := fits.once p v
  exact ⟨shipped, received, returned, fits.receivedShipped p v, fits.returnedShipped p v, fits.returnFirst p v⟩

namespace Session

/-- The opened transfer completed while the destination's key lock is refused (the
shipment goes through, the receipt does not), then cancelled while the save of a
cancelled journal fails (the return goes through), then completed again. -/
def returnedThenReceived : Ledger :=
  let refused := { opened with locker := ⟨none, ["p1|B"]⟩ }
  let shipped := ((Transfers.complete {} firstId).exec refused).2
  let trapped := { shipped with locker := ⟨none, []⟩, trap := some (.status "cancelled") }
  let returned := ((Transfers.cancel {} firstId).exec trapped).2
  ((Transfers.complete {} firstId).exec returned).2

theorem returnedThenReceived_reachable : Reachable returnedThenReceived :=
  ⟨fresh, fresh_initial, .tail (.tail (.tail (.tail (.tail opened_run (.outside _ _ _ _)) (.complete _ _ _))
    (.outside _ _ _ _)) (.cancel _ _ _)) (.complete _ _ _)⟩

theorem returnedThenReceived_sides : ∃ t ∈ returnedThenReceived.transfers, ∃ line ∈ t.lines,
    t.shipments returnedThenReceived.book.log line.product line.variant ≤ 1 ∧
    t.receipts returnedThenReceived.book.log line.product line.variant ≤ 1 ∧
    t.returns returnedThenReceived.book.log line.product line.variant ≤ 1 ∧
    (0 < t.receipts returnedThenReceived.book.log line.product line.variant →
      0 < t.shipments returnedThenReceived.book.log line.product line.variant) ∧
    (0 < t.returns returnedThenReceived.book.log line.product line.variant →
      0 < t.shipments returnedThenReceived.book.log line.product line.variant) ∧
    ∀ (i j : Nat) a b, returnedThenReceived.book.log[i]? = some a → returnedThenReceived.book.log[j]? = some b →
      t.IsReturn line.product line.variant a → t.IsReceipt line.product line.variant b → i < j := by
  have stored : ∃ t ∈ returnedThenReceived.transfers, ∃ line ∈ t.lines, 0 < line.quantity := by decide +kernel
  obtain ⟨t, member, line, lined, -⟩ := stored
  exact ⟨t, member, line, lined,
    transfer_sides_at_most_once returnedThenReceived_reachable member line.product line.variant⟩

/-- A line both returned to its source and received at its destination. -/
theorem returned_line_also_received : Reachable returnedThenReceived ∧
    ∃ t ∈ returnedThenReceived.transfers, ∃ line ∈ t.lines,
      0 < t.returns returnedThenReceived.book.log line.product line.variant ∧
      0 < t.receipts returnedThenReceived.book.log line.product line.variant :=
  ⟨returnedThenReceived_reachable, by decide +kernel⟩

end Session

/-- In every session, each line of positive quantity of a transfer stored as completed has
exactly one shipment logged at the source and one receipt at the destination. The
shipment records what drawing the line's quantity from the source's on-hand stock moved:
the full quantity exactly when that much was on hand. The receipt records what adding it
at the destination moved: the full quantity exactly when it fit under the top figure. -/
theorem completed_transfer_amounts {l : Ledger} (reached : Reachable l) {t : Transfer} (stored : t ∈ l.transfers)
    (done : t.status = .completed) {line : TransferLine} (member : line ∈ t.lines) (positive : 0 < line.quantity) :
    t.shipments l.book.log line.product line.variant = 1 ∧ t.receipts l.book.log line.product line.variant = 1 ∧
    (∀ e ∈ l.book.log, t.IsShipment line.product line.variant e →
      e.quantity = Quantity.drawn e.previous line.quantity ∧
        (e.quantity = -line.quantity ↔ line.quantity ≤ e.previous)) ∧
    (∀ e ∈ l.book.log, t.IsReceipt line.product line.variant e →
      e.quantity = Quantity.added e.previous line.quantity ∧
        (e.quantity = line.quantity ↔ e.previous ≤ Quantity.top - line.quantity)) := by
  have fits := reached.sound.fits t stored
  obtain ⟨shippedAll, receivedAll⟩ := fits.completed done line member
  obtain ⟨-, shipped, received⟩ := fits.journal line member
  obtain ⟨shippedOnce, receivedOnce, -⟩ := fits.once line.product line.variant
  -- the journal of a completed line shows it all moved, and the log backs the journal
  have shippedSome := shipped (Int64.lt_of_lt_of_le positive shippedAll)
  have receivedSome := received (Int64.lt_of_lt_of_le positive receivedAll)
  refine ⟨by omega, by omega, fun e entry shipment => ?_, fun e entry receipt => ?_⟩
  · have amount := fits.shipment_amount member entry shipment
    exact ⟨amount, amount ▸ Quantity.drawn_eq_neg_iff positive⟩
  · have amount := fits.receipt_amount member entry receipt
    exact ⟨amount, amount ▸ Quantity.added_eq_iff⟩

namespace Session

/-- The opened transfer started, the source's on-hand stock then set to one unit, and the
transfer completed. -/
def shortShipped : Ledger :=
  let started := ((Transfers.startTransfer {} firstId).exec opened).2
  let drained := ((Stock.run {} ⟨"p1", "", Location.mainId⟩ (.set 1) {}).exec started).2
  ((Transfers.complete {} firstId).exec drained).2

theorem shortShipped_reachable : Reachable shortShipped :=
  ⟨fresh, fresh_initial, .tail (.tail (.tail opened_run (.start _ _ _)) (.stock _ _ _ _ _ unfiled_note))
    (.complete _ _ _)⟩

theorem shortShipped_amounts : ∃ t ∈ shortShipped.transfers, t.status = .completed ∧
    ∃ line ∈ t.lines, 0 < line.quantity ∧
      t.shipments shortShipped.book.log line.product line.variant = 1 ∧
      t.receipts shortShipped.book.log line.product line.variant = 1 ∧
      (∀ e ∈ shortShipped.book.log, t.IsShipment line.product line.variant e →
        e.quantity = Quantity.drawn e.previous line.quantity ∧
          (e.quantity = -line.quantity ↔ line.quantity ≤ e.previous)) ∧
      (∀ e ∈ shortShipped.book.log, t.IsReceipt line.product line.variant e →
        e.quantity = Quantity.added e.previous line.quantity ∧
          (e.quantity = line.quantity ↔ e.previous ≤ Quantity.top - line.quantity)) := by
  have found : ∃ t ∈ shortShipped.transfers, t.status = .completed ∧ ∃ line ∈ t.lines, 0 < line.quantity := by
    decide +kernel
  obtain ⟨t, stored, done, line, member, positive⟩ := found
  exact ⟨t, stored, done, line, member, positive,
    completed_transfer_amounts shortShipped_reachable stored done member positive⟩

/-- A completed transfer whose shipment did not draw its line's full quantity. -/
theorem completed_transfer_short_shipment : Reachable shortShipped ∧
    ∃ t ∈ shortShipped.transfers, t.status = .completed ∧ ∃ line ∈ t.lines, ∃ e ∈ shortShipped.book.log,
      e.reference = some (Transfer.reference t.id) ∧ e.key = ⟨line.product, line.variant, t.source⟩ ∧
      e.kind = .shipped ∧ e.quantity ≠ -line.quantity :=
  ⟨shortShipped_reachable, by decide +kernel⟩

end Session

end StockLedger
