import StockLedger.Proofs.Tally
import StockLedger.Proofs.Saturating
import Mathlib.Data.List.Nodup

/-!
What the transfer engine keeps true of a stored transfer and the log entries filed under
its reference. The engine writes each side of a line (the shipment at the source, the
receipt at the destination, the return at the source) only after reading the log, and
its journal only after the stock operation it records. `Transfer.Fits log t` collects
what follows for one transfer record: how often each side was logged, in which order,
what its journal may claim, and what the logged amounts were.

Appending an entry keeps a record fitting when the entry is not one of the record's
sides (`Fits.append_untouched`), and otherwise under exactly the test the engine makes
before writing that side (`Fits.append_shipment`, `append_receipt`, `append_return`).
-/

namespace StockLedger

namespace TransferLine

/-- What a line moves: its product, variant and quantity. Only adding items changes it. -/
def shape (line : TransferLine) : String × String × Int64 := (line.product, line.variant, line.quantity)

/-- A line whose journal says all of it has left the source and reached the destination. -/
def Arrived (line : TransferLine) : Prop := line.quantity ≤ line.shipped ∧ line.quantity ≤ line.received

end TransferLine

namespace Transfer

def shipments (log : List Adjustment) (t : Transfer) (p v : String) : Nat :=
  tally log (reference t.id) ⟨p, v, t.source⟩ .shipped

def receipts (log : List Adjustment) (t : Transfer) (p v : String) : Nat :=
  tally log (reference t.id) ⟨p, v, t.destination⟩ .received

def returns (log : List Adjustment) (t : Transfer) (p v : String) : Nat :=
  tally log (reference t.id) ⟨p, v, t.source⟩ .returned

def IsShipment (t : Transfer) (p v : String) (e : Adjustment) : Prop :=
  e.reference = some (reference t.id) ∧ e.key = ⟨p, v, t.source⟩ ∧ e.kind = .shipped

def IsReturn (t : Transfer) (p v : String) (e : Adjustment) : Prop :=
  e.reference = some (reference t.id) ∧ e.key = ⟨p, v, t.source⟩ ∧ e.kind = .returned

def IsReceipt (t : Transfer) (p v : String) (e : Adjustment) : Prop :=
  e.reference = some (reference t.id) ∧ e.key = ⟨p, v, t.destination⟩ ∧ e.kind = .received

/-- Whether an entry is one of the sides of `t` the engine counts before writing one:
a shipment, receipt or return filed under its reference. -/
def Touches (t : Transfer) (e : Adjustment) : Prop :=
  e.reference = some (reference t.id) ∧ (e.kind = .shipped ∨ e.kind = .received ∨ e.kind = .returned)

/-- What the engine keeps true of one transfer record against the log. -/
structure Fits (log : List Adjustment) (t : Transfer) : Prop where
  placed : t.source ≠ "" ∧ t.destination ≠ ""
  named : ∀ line ∈ t.lines, line.product ≠ ""
  distinctLines : (t.lines.map fun line => (line.product, line.variant)).Nodup
  once : ∀ p v, t.shipments log p v ≤ 1 ∧ t.receipts log p v ≤ 1 ∧ t.returns log p v ≤ 1
  receivedShipped : ∀ p v, 0 < t.receipts log p v → 0 < t.shipments log p v
  returnedShipped : ∀ p v, 0 < t.returns log p v → 0 < t.shipments log p v
  /-- A return is never logged after a receipt of the same product variant. -/
  returnFirst : ∀ p v (i j : Nat) a b, log[i]? = some a → log[j]? = some b →
    t.IsReturn p v a → t.IsReceipt p v b → i < j
  /-- What the journal says of a line is backed by the log. -/
  journal : ∀ line ∈ t.lines, 0 ≤ line.received ∧
    (0 < line.shipped → 0 < t.shipments log line.product line.variant) ∧
    (0 < line.received → 0 < t.receipts log line.product line.variant)
  pending : t.status = .pending → ∀ p v, t.shipments log p v = 0 ∧ t.receipts log p v = 0
  completed : t.status = .completed → ∀ line ∈ t.lines, line.Arrived
  /-- A shipment or receipt logged under `t` is of one of its lines, at its end, and
  records what moving that line's quantity moved. -/
  amounts : ∀ e ∈ log, e.reference = some (reference t.id) →
    (e.kind = .shipped → ∃ line ∈ t.lines, e.key = ⟨line.product, line.variant, t.source⟩ ∧
      e.quantity = Quantity.drawn e.previous line.quantity) ∧
    (e.kind = .received → ∃ line ∈ t.lines, e.key = ⟨line.product, line.variant, t.destination⟩ ∧
      e.quantity = Quantity.added e.previous line.quantity)

end Transfer

theorem tally_pos_of_mem {log : List Adjustment} {ref : String} {key : StockKey} {kind : AdjustmentKind}
    {e : Adjustment} (member : e ∈ log) (hits : e.reference = some ref ∧ e.key = key ∧ e.kind = kind) :
    0 < tally log ref key kind :=
  List.countP_pos_iff.mpr ⟨e, member, decide_eq_true hits⟩

theorem getElem?_append_single {log : List Adjustment} {e a : Adjustment} {i : Nat}
    (found : (log ++ [e])[i]? = some a) : log[i]? = some a ∨ (i = log.length ∧ a = e) := by
  by_cases before : i < log.length
  · rw [List.getElem?_append_left before] at found
    exact .inl found
  · rw [List.getElem?_append_right (by omega), List.getElem?_singleton] at found
    split at found
    · exact .inr ⟨by omega, (Option.some.inj found).symm⟩
    · cases found

theorem mem_of_getElem? {log : List Adjustment} {a : Adjustment} {i : Nat} (found : log[i]? = some a) :
    a ∈ log :=
  List.mem_of_getElem? found

namespace Transfer

variable {log : List Adjustment} {t : Transfer} {e : Adjustment}

theorem tally_untouched (quiet : ¬ t.Touches e) (key : StockKey) {kind : AdjustmentKind}
    (counted : kind = .shipped ∨ kind = .received ∨ kind = .returned) :
    tally (log ++ [e]) (reference t.id) key kind = tally log (reference t.id) key kind :=
  tally_append_other _ _ _ _ e fun ⟨filed, _, same⟩ => quiet ⟨filed, same ▸ counted⟩

theorem tally_append_other_variant {p₀ v₀ p v loc ref : String} {kind : AdjustmentKind}
    (key : e.key = ⟨p₀, v₀, loc⟩) (other : ¬ (p = p₀ ∧ v = v₀)) :
    tally (log ++ [e]) ref ⟨p, v, loc⟩ kind = tally log ref ⟨p, v, loc⟩ kind :=
  tally_append_other _ _ _ _ e fun ⟨_, here, _⟩ => other (by rw [key] at here; cases here; exact ⟨rfl, rfl⟩)

theorem Fits.append_untouched (fits : t.Fits log) (quiet : ¬ t.Touches e) : t.Fits (log ++ [e]) := by
  have ships : ∀ p v, t.shipments (log ++ [e]) p v = t.shipments log p v :=
    fun p v => tally_untouched quiet _ (.inl rfl)
  have gets : ∀ p v, t.receipts (log ++ [e]) p v = t.receipts log p v :=
    fun p v => tally_untouched quiet _ (.inr (.inl rfl))
  have backs : ∀ p v, t.returns (log ++ [e]) p v = t.returns log p v :=
    fun p v => tally_untouched quiet _ (.inr (.inr rfl))
  refine ⟨fits.placed, fits.named, fits.distinctLines, ?_, ?_, ?_, ?_, ?_, ?_, fits.completed, ?_⟩
  · intro p v
    rw [ships, gets, backs]
    exact fits.once p v
  · intro p v
    rw [gets, ships]
    exact fits.receivedShipped p v
  · intro p v
    rw [backs, ships]
    exact fits.returnedShipped p v
  · intro p v i j a b ha hb returned received
    rcases getElem?_append_single ha with ha | ⟨-, rfl⟩
    · rcases getElem?_append_single hb with hb | ⟨-, rfl⟩
      · exact fits.returnFirst p v i j a b ha hb returned received
      · exact absurd ⟨received.1, .inr (.inl received.2.2)⟩ quiet
    · exact absurd ⟨returned.1, .inr (.inr returned.2.2)⟩ quiet
  · intro line member
    rw [ships, gets]
    exact fits.journal line member
  · intro pending p v
    rw [ships, gets]
    exact fits.pending pending p v
  · intro e' member filed
    rcases List.mem_append.mp member with old | new
    · exact fits.amounts e' old filed
    · obtain rfl := List.mem_singleton.mp new
      exact ⟨fun shipped => absurd ⟨filed, .inl shipped⟩ quiet,
        fun received => absurd ⟨filed, .inr (.inl received)⟩ quiet⟩

theorem Fits.append_shipment {line : TransferLine} (fits : t.Fits log) (member : line ∈ t.lines)
    (moving : t.status ≠ .pending) (fresh : t.shipments log line.product line.variant = 0)
    (filed : e.reference = some (reference t.id)) (key : e.key = ⟨line.product, line.variant, t.source⟩)
    (kind : e.kind = .shipped) (amount : e.quantity = Quantity.drawn e.previous line.quantity) :
    t.Fits (log ++ [e]) := by
  have gets : ∀ p v, t.receipts (log ++ [e]) p v = t.receipts log p v :=
    fun p v => tally_append_other _ _ _ _ e fun ⟨_, _, same⟩ => by simp [kind] at same
  have backs : ∀ p v, t.returns (log ++ [e]) p v = t.returns log p v :=
    fun p v => tally_append_other _ _ _ _ e fun ⟨_, _, same⟩ => by simp [kind] at same
  have grows : ∀ p v, t.shipments log p v ≤ t.shipments (log ++ [e]) p v :=
    fun p v => tally_le_append _ _ _ _ _
  have neither : ∀ p v, ¬ t.IsReturn p v e ∧ ¬ t.IsReceipt p v e :=
    fun p v => ⟨fun ⟨_, _, same⟩ => by simp [kind] at same, fun ⟨_, _, same⟩ => by simp [kind] at same⟩
  refine ⟨fits.placed, fits.named, fits.distinctLines, ?_, ?_, ?_, ?_, ?_, ?_, fits.completed, ?_⟩
  · intro p v
    refine ⟨?_, by rw [gets]; exact (fits.once p v).2.1, by rw [backs]; exact (fits.once p v).2.2⟩
    by_cases same : p = line.product ∧ v = line.variant
    · obtain ⟨rfl, rfl⟩ := same
      rw [shipments, tally_append_same _ _ _ _ e ⟨filed, key, kind⟩]
      exact Nat.succ_le_succ (Nat.le_of_eq fresh)
    · rw [shipments, tally_append_other_variant key same]
      exact (fits.once p v).1
  · intro p v received
    rw [gets] at received
    exact Nat.lt_of_lt_of_le (fits.receivedShipped p v received) (grows p v)
  · intro p v returned
    rw [backs] at returned
    exact Nat.lt_of_lt_of_le (fits.returnedShipped p v returned) (grows p v)
  · intro p v i j a b ha hb returned received
    rcases getElem?_append_single ha with ha | ⟨-, rfl⟩
    · rcases getElem?_append_single hb with hb | ⟨-, rfl⟩
      · exact fits.returnFirst p v i j a b ha hb returned received
      · exact absurd received (neither p v).2
    · exact absurd returned (neither p v).1
  · intro line' member'
    obtain ⟨settled, shipped, received⟩ := fits.journal line' member'
    refine ⟨settled, fun pos => Nat.lt_of_lt_of_le (shipped pos) (grows _ _), fun pos => ?_⟩
    rw [gets]
    exact received pos
  · intro pending
    exact absurd pending moving
  · intro e' member' filed'
    rcases List.mem_append.mp member' with old | new
    · exact fits.amounts e' old filed'
    · obtain rfl := List.mem_singleton.mp new
      exact ⟨fun _ => ⟨line, member, key, amount⟩, fun received => by simp [kind] at received⟩

theorem Fits.append_receipt {line : TransferLine} (fits : t.Fits log) (member : line ∈ t.lines)
    (moving : t.status ≠ .pending) (fresh : t.receipts log line.product line.variant = 0)
    (shipped : 0 < t.shipments log line.product line.variant)
    (filed : e.reference = some (reference t.id)) (key : e.key = ⟨line.product, line.variant, t.destination⟩)
    (kind : e.kind = .received) (amount : e.quantity = Quantity.added e.previous line.quantity) :
    t.Fits (log ++ [e]) := by
  have ships : ∀ p v, t.shipments (log ++ [e]) p v = t.shipments log p v :=
    fun p v => tally_append_other _ _ _ _ e fun ⟨_, _, same⟩ => by simp [kind] at same
  have backs : ∀ p v, t.returns (log ++ [e]) p v = t.returns log p v :=
    fun p v => tally_append_other _ _ _ _ e fun ⟨_, _, same⟩ => by simp [kind] at same
  have grows : ∀ p v, t.receipts log p v ≤ t.receipts (log ++ [e]) p v :=
    fun p v => tally_le_append _ _ _ _ _
  have notReturn : ∀ p v, ¬ t.IsReturn p v e := fun p v ⟨_, _, same⟩ => by simp [kind] at same
  refine ⟨fits.placed, fits.named, fits.distinctLines, ?_, ?_, ?_, ?_, ?_, ?_, fits.completed, ?_⟩
  · intro p v
    refine ⟨by rw [ships]; exact (fits.once p v).1, ?_, by rw [backs]; exact (fits.once p v).2.2⟩
    by_cases same : p = line.product ∧ v = line.variant
    · obtain ⟨rfl, rfl⟩ := same
      rw [receipts, tally_append_same _ _ _ _ e ⟨filed, key, kind⟩]
      exact Nat.succ_le_succ (Nat.le_of_eq fresh)
    · rw [receipts, tally_append_other_variant key same]
      exact (fits.once p v).2.1
  · intro p v received
    rw [ships]
    by_cases same : p = line.product ∧ v = line.variant
    · obtain ⟨rfl, rfl⟩ := same
      exact shipped
    · rw [receipts, tally_append_other_variant key same] at received
      exact fits.receivedShipped p v received
  · intro p v returned
    rw [backs, ships] at *
    exact fits.returnedShipped p v returned
  · intro p v i j a b ha hb returned received
    rcases getElem?_append_single ha with ha | ⟨-, rfl⟩
    · rcases getElem?_append_single hb with hb | ⟨rfl, -⟩
      · exact fits.returnFirst p v i j a b ha hb returned received
      · exact (List.getElem?_eq_some_iff.mp ha).1
    · exact absurd returned (notReturn p v)
  · intro line' member'
    obtain ⟨settled, shippedLine, receivedLine⟩ := fits.journal line' member'
    refine ⟨settled, fun pos => by rw [ships]; exact shippedLine pos,
      fun pos => Nat.lt_of_lt_of_le (receivedLine pos) (grows _ _)⟩
  · intro pending
    exact absurd pending moving
  · intro e' member' filed'
    rcases List.mem_append.mp member' with old | new
    · exact fits.amounts e' old filed'
    · obtain rfl := List.mem_singleton.mp new
      exact ⟨fun shippedKind => by simp [kind] at shippedKind, fun _ => ⟨line, member, key, amount⟩⟩

theorem Fits.append_return {line : TransferLine} (fits : t.Fits log)
    (fresh : t.returns log line.product line.variant = 0)
    (unreceived : t.receipts log line.product line.variant = 0)
    (shipped : 0 < t.shipments log line.product line.variant)
    (filed : e.reference = some (reference t.id)) (key : e.key = ⟨line.product, line.variant, t.source⟩)
    (kind : e.kind = .returned) : t.Fits (log ++ [e]) := by
  have ships : ∀ p v, t.shipments (log ++ [e]) p v = t.shipments log p v :=
    fun p v => tally_append_other _ _ _ _ e fun ⟨_, _, same⟩ => by simp [kind] at same
  have gets : ∀ p v, t.receipts (log ++ [e]) p v = t.receipts log p v :=
    fun p v => tally_append_other _ _ _ _ e fun ⟨_, _, same⟩ => by simp [kind] at same
  have notReceipt : ∀ p v, ¬ t.IsReceipt p v e := fun p v ⟨_, _, same⟩ => by simp [kind] at same
  refine ⟨fits.placed, fits.named, fits.distinctLines, ?_, ?_, ?_, ?_, ?_, ?_, fits.completed, ?_⟩
  · intro p v
    refine ⟨by rw [ships]; exact (fits.once p v).1, by rw [gets]; exact (fits.once p v).2.1, ?_⟩
    by_cases same : p = line.product ∧ v = line.variant
    · obtain ⟨rfl, rfl⟩ := same
      rw [returns, tally_append_same _ _ _ _ e ⟨filed, key, kind⟩]
      exact Nat.succ_le_succ (Nat.le_of_eq fresh)
    · rw [returns, tally_append_other_variant key same]
      exact (fits.once p v).2.2
  · intro p v received
    rw [gets] at received
    rw [ships]
    exact fits.receivedShipped p v received
  · intro p v returned
    rw [ships]
    by_cases same : p = line.product ∧ v = line.variant
    · obtain ⟨rfl, rfl⟩ := same
      exact shipped
    · rw [returns, tally_append_other_variant key same] at returned
      exact fits.returnedShipped p v returned
  · intro p v i j a b atI atJ returned received
    rcases getElem?_append_single atJ with oldJ | ⟨-, rfl⟩
    · rcases getElem?_append_single atI with oldI | ⟨-, rfl⟩
      · exact fits.returnFirst p v i j a b oldI oldJ returned received
      · -- the new return is of this line, which has no receipt to come before it
        have here := returned.2.1
        rw [key] at here
        cases here
        exact absurd unreceived
          (Nat.ne_of_gt (tally_pos_of_mem (mem_of_getElem? oldJ) received))
    · exact absurd received (notReceipt p v)
  · intro line' member'
    obtain ⟨settled, shippedLine, receivedLine⟩ := fits.journal line' member'
    exact ⟨settled, fun pos => by rw [ships]; exact shippedLine pos,
      fun pos => by rw [gets]; exact receivedLine pos⟩
  · intro pending p v
    rw [ships, gets]
    exact fits.pending pending p v
  · intro e' member' filed'
    rcases List.mem_append.mp member' with old | new
    · exact fits.amounts e' old filed'
    · obtain rfl := List.mem_singleton.mp new
      exact ⟨fun shippedKind => by simp [kind] at shippedKind,
        fun receivedKind => by simp [kind] at receivedKind⟩

theorem reference_inj {a b : String} : reference a = reference b ↔ a = b := by
  constructor
  · intro same
    exact (String.append_right_inj _).mp same
  · rintro rfl
    rfl

/-- Two records of one transfer that agree on everything the log is read against: the
id, the two ends, the status and what each line moves. -/
structure Frame (u t : Transfer) : Prop where
  id : u.id = t.id
  source : u.source = t.source
  destination : u.destination = t.destination
  status : u.status = t.status
  shapes : u.lines.map TransferLine.shape = t.lines.map TransferLine.shape

theorem Frame.refl (t : Transfer) : t.Frame t := ⟨rfl, rfl, rfl, rfl, rfl⟩

theorem Frame.symm {u : Transfer} (frame : u.Frame t) : t.Frame u :=
  ⟨frame.id.symm, frame.source.symm, frame.destination.symm, frame.status.symm, frame.shapes.symm⟩

theorem Frame.trans {u w : Transfer} (first : u.Frame t) (second : t.Frame w) : u.Frame w :=
  ⟨first.id.trans second.id, first.source.trans second.source,
    first.destination.trans second.destination, first.status.trans second.status,
    first.shapes.trans second.shapes⟩

section Framed

variable {u : Transfer} (frame : u.Frame t)
include frame

theorem Frame.shipments_eq (p v : String) : u.shipments log p v = t.shipments log p v := by
  simp only [shipments, frame.id, frame.source]

theorem Frame.receipts_eq (p v : String) : u.receipts log p v = t.receipts log p v := by
  simp only [receipts, frame.id, frame.destination]

theorem Frame.returns_eq (p v : String) : u.returns log p v = t.returns log p v := by
  simp only [returns, frame.id, frame.source]

theorem Frame.isReturn_iff (p v : String) (a : Adjustment) : u.IsReturn p v a ↔ t.IsReturn p v a := by
  simp only [IsReturn, frame.id, frame.source]

theorem Frame.isReceipt_iff (p v : String) (a : Adjustment) : u.IsReceipt p v a ↔ t.IsReceipt p v a := by
  simp only [IsReceipt, frame.id, frame.destination]

theorem Frame.line {line : TransferLine} (member : line ∈ t.lines) :
    ∃ line' ∈ u.lines, line'.product = line.product ∧ line'.variant = line.variant ∧
      line'.quantity = line.quantity := by
  have shaped : line.shape ∈ u.lines.map TransferLine.shape := frame.shapes ▸ List.mem_map_of_mem member
  obtain ⟨line', member', same⟩ := List.mem_map.mp shaped
  simp only [TransferLine.shape, Prod.mk.injEq] at same
  exact ⟨line', member', same⟩

theorem Frame.pairs : u.lines.map (fun line => (line.product, line.variant)) =
    t.lines.map (fun line => (line.product, line.variant)) := by
  have projected := congrArg (List.map fun s : String × String × Int64 => (s.1, s.2.1)) frame.shapes
  simpa [List.map_map, Function.comp_def, TransferLine.shape] using projected

theorem Frame.length_eq : u.lines.length = t.lines.length := by
  simpa using congrArg List.length frame.shapes

theorem Fits.reline (fits : u.Fits log)
    (journal : ∀ line ∈ t.lines, 0 ≤ line.received ∧
      (0 < line.shipped → 0 < t.shipments log line.product line.variant) ∧
      (0 < line.received → 0 < t.receipts log line.product line.variant))
    (completed : t.status = .completed → ∀ line ∈ t.lines, line.Arrived) : t.Fits log := by
  refine ⟨?_, ?_, ?_, ?_, ?_, ?_, ?_, journal, ?_, completed, ?_⟩
  · rw [← frame.source, ← frame.destination]
    exact fits.placed
  · intro line member
    obtain ⟨line', member', product, -, -⟩ := frame.line member
    rw [← product]
    exact fits.named line' member'
  · rw [← frame.pairs]
    exact fits.distinctLines
  · intro p v
    rw [← frame.shipments_eq, ← frame.receipts_eq, ← frame.returns_eq]
    exact fits.once p v
  · intro p v
    rw [← frame.shipments_eq, ← frame.receipts_eq]
    exact fits.receivedShipped p v
  · intro p v
    rw [← frame.shipments_eq, ← frame.returns_eq]
    exact fits.returnedShipped p v
  · intro p v i j a b atI atJ returned received
    exact fits.returnFirst p v i j a b atI atJ ((frame.isReturn_iff p v a).mpr returned)
      ((frame.isReceipt_iff p v b).mpr received)
  · intro pending p v
    rw [← frame.shipments_eq, ← frame.receipts_eq]
    exact fits.pending (frame.status.trans pending) p v
  · intro e member filed
    obtain ⟨shipped, received⟩ := fits.amounts e member (frame.id ▸ filed)
    constructor
    · intro kind
      obtain ⟨line', member', key, amount⟩ := shipped kind
      obtain ⟨line, member, product, variant, quantity⟩ := frame.symm.line member'
      exact ⟨line, member, by rw [key, product, variant, frame.source], by rw [amount, quantity]⟩
    · intro kind
      obtain ⟨line', member', key, amount⟩ := received kind
      obtain ⟨line, member, product, variant, quantity⟩ := frame.symm.line member'
      exact ⟨line, member, by rw [key, product, variant, frame.destination], by rw [amount, quantity]⟩

end Framed

theorem Fits.line_unique (fits : t.Fits log) {line line' : TransferLine} (member : line ∈ t.lines)
    (member' : line' ∈ t.lines) (product : line'.product = line.product) (variant : line'.variant = line.variant) :
    line' = line :=
  List.inj_on_of_nodup_map fits.distinctLines member' member (by rw [product, variant])

theorem Fits.shipment_amount (fits : t.Fits log) {line : TransferLine} (member : line ∈ t.lines) {e : Adjustment}
    (entry : e ∈ log) (shipment : t.IsShipment line.product line.variant e) :
    e.quantity = Quantity.drawn e.previous line.quantity := by
  obtain ⟨filed, key, kind⟩ := shipment
  obtain ⟨line', member', key', amount⟩ := (fits.amounts e entry filed).1 kind
  rw [key, StockKey.mk.injEq] at key'
  rw [amount, fits.line_unique member member' key'.1.symm key'.2.1.symm]

theorem Fits.receipt_amount (fits : t.Fits log) {line : TransferLine} (member : line ∈ t.lines) {e : Adjustment}
    (entry : e ∈ log) (receipt : t.IsReceipt line.product line.variant e) :
    e.quantity = Quantity.added e.previous line.quantity := by
  obtain ⟨filed, key, kind⟩ := receipt
  obtain ⟨line', member', key', amount⟩ := (fits.amounts e entry filed).2 kind
  rw [key, StockKey.mk.injEq] at key'
  rw [amount, fits.line_unique member member' key'.1.symm key'.2.1.symm]

end Transfer

end StockLedger
