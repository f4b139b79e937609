import StockLedger.Proofs.TransferInvariant

/-!
Reservations of a transfer against the log. The engine reserves a line at the source
only when the log shows no reservation of it held, releases one only when the log shows
it held, and flags a line reserved only once the log holds its reservation; a transfer
goes in progress only with every line flagged. `Transfer.Reserves log t` collects what
follows for one record: at every point of the log the transfer holds at most one
reservation of each product variant and never released more than it reserved, and every
shipment it logged came after a reservation of the same product variant.
-/

namespace StockLedger

namespace Transfer

/-- Reservation entries of one product variant of `t` at its source. -/
def reservations (log : List Adjustment) (t : Transfer) (p v : String) : Nat :=
  tally log (reference t.id) ⟨p, v, t.source⟩ .reserved

/-- Release entries of one product variant of `t` at its source. -/
def releases (log : List Adjustment) (t : Transfer) (p v : String) : Nat :=
  tally log (reference t.id) ⟨p, v, t.source⟩ .unreserved

/-- A log in which `t` holds at most one reservation of each product variant and never
released one it did not hold. -/
def HoldsOnce (log : List Adjustment) (t : Transfer) : Prop :=
  ∀ p v, t.releases log p v ≤ t.reservations log p v ∧ t.reservations log p v ≤ t.releases log p v + 1

structure Reserves (log : List Adjustment) (t : Transfer) : Prop where
  held : ∀ n, t.HoldsOnce (log.take n)
  flagged : ∀ line ∈ t.lines, line.reserved = true → 0 < t.reservations log line.product line.variant
  started : t.status = .inProgress → ∀ line ∈ t.lines, 0 < t.reservations log line.product line.variant
  reservedFirst : ∀ p v (j : Nat) b, log[j]? = some b → t.IsShipment p v b → 0 < t.reservations (log.take j) p v

variable {log : List Adjustment} {t : Transfer} {e : Adjustment}

theorem Reserves.whole (reserves : t.Reserves log) : t.HoldsOnce log := by
  simpa using reserves.held log.length

/-- A fact about every prefix of a log carries over to the log with one more entry once
it holds of the whole longer log. -/
theorem prefixes_append {P : List Adjustment → Prop} (before : ∀ n, P (log.take n)) (whole : P (log ++ [e])) :
    ∀ n, P ((log ++ [e]).take n) := by
  intro n
  by_cases within : n ≤ log.length
  · rw [List.take_append_of_le_length within]
    exact before n
  · rw [List.take_of_length_le (by simp; omega)]
    exact whole

theorem reservations_append_self {p v : String} (filed : e.reference = some (reference t.id))
    (key : e.key = ⟨p, v, t.source⟩) (kind : e.kind = .reserved) :
    t.reservations (log ++ [e]) p v = t.reservations log p v + 1 :=
  tally_append_same _ _ _ _ e ⟨filed, key, kind⟩

theorem releases_append_self {p v : String} (filed : e.reference = some (reference t.id))
    (key : e.key = ⟨p, v, t.source⟩) (kind : e.kind = .unreserved) :
    t.releases (log ++ [e]) p v = t.releases log p v + 1 :=
  tally_append_same _ _ _ _ e ⟨filed, key, kind⟩

/-- An entry neither reserving nor releasing for `t` leaves the counts as they were. -/
theorem HoldsOnce.append_unmoved (holds : t.HoldsOnce log)
    (unmoved : ¬ (e.reference = some (reference t.id) ∧ (e.kind = .reserved ∨ e.kind = .unreserved))) :
    t.HoldsOnce (log ++ [e]) := by
  intro p v
  have reserved : t.reservations (log ++ [e]) p v = t.reservations log p v :=
    tally_append_other _ _ _ _ e fun ⟨filed, _, kind⟩ => unmoved ⟨filed, .inl kind⟩
  have released : t.releases (log ++ [e]) p v = t.releases log p v :=
    tally_append_other _ _ _ _ e fun ⟨filed, _, kind⟩ => unmoved ⟨filed, .inr kind⟩
  rw [reserved, released]
  exact holds p v

/-- Reserving a product variant whose reservations were all released holds one again. -/
theorem HoldsOnce.append_reservation {p₀ v₀ : String} (holds : t.HoldsOnce log)
    (filed : e.reference = some (reference t.id)) (key : e.key = ⟨p₀, v₀, t.source⟩) (kind : e.kind = .reserved)
    (free : t.reservations log p₀ v₀ ≤ t.releases log p₀ v₀) : t.HoldsOnce (log ++ [e]) := by
  intro p v
  have released : t.releases (log ++ [e]) p v = t.releases log p v :=
    tally_append_other _ _ _ _ e fun ⟨_, _, unreserved⟩ => by simp [kind] at unreserved
  rw [released]
  by_cases same : p = p₀ ∧ v = v₀
  · obtain ⟨rfl, rfl⟩ := same
    rw [reservations_append_self filed key kind]
    have := holds p v
    omega
  · rw [reservations, tally_append_other_variant key same]
    exact holds p v

/-- Releasing a product variant while a reservation of it is held leaves none held. -/
theorem HoldsOnce.append_release {p₀ v₀ : String} (holds : t.HoldsOnce log)
    (filed : e.reference = some (reference t.id)) (key : e.key = ⟨p₀, v₀, t.source⟩)
    (kind : e.kind = .unreserved) (holding : t.releases log p₀ v₀ < t.reservations log p₀ v₀) :
    t.HoldsOnce (log ++ [e]) := by
  intro p v
  have reserved : t.reservations (log ++ [e]) p v = t.reservations log p v :=
    tally_append_other _ _ _ _ e fun ⟨_, _, reservedKind⟩ => by simp [kind] at reservedKind
  rw [reserved]
  by_cases same : p = p₀ ∧ v = v₀
  · obtain ⟨rfl, rfl⟩ := same
    rw [releases_append_self filed key kind]
    have := holds p v
    omega
  · rw [releases, tally_append_other_variant key same]
    exact holds p v

/-- Appending an entry keeps `t` reserving as it should when the counts still hold at
most one reservation and the entry, if it is a shipment of `t`, follows a reservation. -/
theorem Reserves.append (reserves : t.Reserves log) (holds : t.HoldsOnce (log ++ [e]))
    (shipped : ∀ p v, t.IsShipment p v e → 0 < t.reservations log p v) : t.Reserves (log ++ [e]) := by
  have grows : ∀ p v, t.reservations log p v ≤ t.reservations (log ++ [e]) p v :=
    fun p v => tally_le_append _ _ _ _ _
  refine ⟨prefixes_append (P := fun log => t.HoldsOnce log) reserves.held holds, fun line member flag => ?_,
    fun moving line member => ?_, ?_⟩
  · exact Nat.lt_of_lt_of_le (reserves.flagged line member flag) (grows _ _)
  · exact Nat.lt_of_lt_of_le (reserves.started moving line member) (grows _ _)
  · intro p v j b found shipment
    rcases getElem?_append_single found with old | ⟨rfl, rfl⟩
    · rw [List.take_append_of_le_length (Nat.le_of_lt (List.getElem?_eq_some_iff.mp old).1)]
      exact reserves.reservedFirst p v j b old shipment
    · rw [List.take_left' rfl]
      exact shipped p v shipment

/-- An entry that is not a reservation, release or shipment of `t` keeps it reserving. -/
theorem Reserves.append_untouched (reserves : t.Reserves log)
    (quiet : ¬ (e.reference = some (reference t.id) ∧
      (e.kind = .reserved ∨ e.kind = .unreserved ∨ e.kind = .shipped))) :
    t.Reserves (log ++ [e]) := by
  refine reserves.append (reserves.whole.append_unmoved fun ⟨filed, kind⟩ => ?_) fun p v shipment => ?_
  · rcases kind with reserved | unreserved
    · exact quiet ⟨filed, .inl reserved⟩
    · exact quiet ⟨filed, .inr (.inl unreserved)⟩
  · exact absurd ⟨shipment.1, .inr (.inr shipment.2.2)⟩ quiet

/-- The shipment of a line of a transfer in progress follows its reservation. -/
theorem Reserves.append_shipment {line : TransferLine} (reserves : t.Reserves log) (member : line ∈ t.lines)
    (moving : t.status = .inProgress) (key : e.key = ⟨line.product, line.variant, t.source⟩)
    (kind : e.kind = .shipped) : t.Reserves (log ++ [e]) := by
  refine reserves.append (reserves.whole.append_unmoved fun ⟨_, reserving⟩ => ?_) fun p v shipment => ?_
  · rcases reserving with reserved | unreserved
    · simp [kind] at reserved
    · simp [kind] at unreserved
  · -- the shipment is of this line, whose reservation the start logged
    have here := shipment.2.1
    rw [key] at here
    cases here
    exact reserves.started moving line member

theorem Reserves.append_reservation {p v : String} (reserves : t.Reserves log)
    (filed : e.reference = some (reference t.id)) (key : e.key = ⟨p, v, t.source⟩) (kind : e.kind = .reserved)
    (free : t.reservations log p v ≤ t.releases log p v) : t.Reserves (log ++ [e]) :=
  reserves.append (reserves.whole.append_reservation filed key kind free) fun _ _ shipment =>
    absurd (kind.symm.trans shipment.2.2) (by decide)

theorem Reserves.append_release {p v : String} (reserves : t.Reserves log)
    (filed : e.reference = some (reference t.id)) (key : e.key = ⟨p, v, t.source⟩) (kind : e.kind = .unreserved)
    (holding : t.releases log p v < t.reservations log p v) : t.Reserves (log ++ [e]) :=
  reserves.append (reserves.whole.append_release filed key kind holding) fun _ _ shipment =>
    absurd (kind.symm.trans shipment.2.2) (by decide)

section Framed

variable {u : Transfer} (frame : u.Frame t)
include frame

theorem Frame.reservations_eq (log : List Adjustment) (p v : String) :
    u.reservations log p v = t.reservations log p v := by
  simp only [reservations, frame.id, frame.source]

theorem Frame.releases_eq (log : List Adjustment) (p v : String) :
    u.releases log p v = t.releases log p v := by
  simp only [releases, frame.id, frame.source]

theorem Frame.holdsOnce_iff (log : List Adjustment) : u.HoldsOnce log ↔ t.HoldsOnce log := by
  simp only [HoldsOnce, releases, reservations, frame.id, frame.source]

theorem Frame.isShipment_iff (p v : String) (a : Adjustment) : u.IsShipment p v a ↔ t.IsShipment p v a := by
  simp only [IsShipment, frame.id, frame.source]

/-- Reserving carries over to another record of the transfer whose flagged lines the log
backs. -/
theorem Reserves.reline (reserves : u.Reserves log)
    (flagged : ∀ line ∈ t.lines, line.reserved = true → 0 < t.reservations log line.product line.variant) :
    t.Reserves log := by
  refine ⟨fun n => (frame.holdsOnce_iff _).mp (reserves.held n), flagged, fun moving line member => ?_,
    fun p v j b found shipment => ?_⟩
  · obtain ⟨line', member', product, variant, -⟩ := frame.line member
    rw [← frame.reservations_eq, ← product, ← variant]
    exact reserves.started (frame.status.trans moving) line' member'
  · rw [← frame.reservations_eq]
    exact reserves.reservedFirst p v j b found ((frame.isShipment_iff p v b).mpr shipment)

end Framed

end Transfer

end StockLedger
