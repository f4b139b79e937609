import StockLedger.Proofs.TransferReservations

/-!
Soundness of a ledger and the edits that keep it. `Ledger.Sound` asks of a ledger what
every ledger a run reaches has: its stores kept in memory, every entry of a kind the
ledger writes and filed under the reference of a stored transfer if under any, and every
stored transfer fitting and reserving as it should against the log. The engine edits a
ledger in three ways: it appends one entry to the log (`Sound.extend` and the lemmas for
each side), it overwrites a stored record with a copy (`Sound.replace`) and it stores a
new record (`Sound.insert`). `Ledger.Tracks l t` says that a copy `t` the engine works on
fits the log as the stored record does.
-/

namespace StockLedger

/-- What every ledger a run reaches keeps true. -/
structure Ledger.Sound (l : Ledger) : Prop where
  inMemory : l.wiring.inventory = false
  journalInMemory : l.wiring.transfers = false
  placesInMemory : l.wiring.locations = false
  kinds : ∀ e ∈ l.book.log, e.kind ≠ Transfers.noUndo
  filed : ∀ e ∈ l.book.log, ∀ x, e.reference = some (Transfer.reference x) → ∃ t ∈ l.transfers, t.id = x
  distinct : (l.transfers.map (·.id)).Nodup
  fits : ∀ t ∈ l.transfers, t.Fits l.book.log
  reserves : ∀ t ∈ l.transfers, t.Reserves l.book.log

namespace Ledger

variable {l l' : Ledger} {e : Adjustment}

/-- `l'` agrees with `l` on everything soundness reads: the log, the stored transfers
and the wiring. -/
structure Keeps (l l' : Ledger) : Prop where
  log : l'.book.log = l.book.log
  transfers : l'.transfers = l.transfers
  wiring : l'.wiring = l.wiring

/-- `l'` is `l` with `e` appended to the log, the transfers and wiring as they were. -/
structure Extends (l l' : Ledger) (e : Adjustment) : Prop where
  log : l'.book.log = l.book.log ++ [e]
  transfers : l'.transfers = l.transfers
  wiring : l'.wiring = l.wiring

theorem Keeps.refl (l : Ledger) : l.Keeps l := ⟨rfl, rfl, rfl⟩

theorem Keeps.trans {l'' : Ledger} (first : l.Keeps l') (second : l'.Keeps l'') : l.Keeps l'' :=
  ⟨second.log.trans first.log, second.transfers.trans first.transfers, second.wiring.trans first.wiring⟩

theorem Sound.keep (sound : l.Sound) (keeps : l.Keeps l') : l'.Sound where
  inMemory := keeps.wiring ▸ sound.inMemory
  journalInMemory := keeps.wiring ▸ sound.journalInMemory
  placesInMemory := keeps.wiring ▸ sound.placesInMemory
  kinds := keeps.log ▸ sound.kinds
  filed := keeps.log ▸ keeps.transfers ▸ sound.filed
  distinct := keeps.transfers ▸ sound.distinct
  fits := keeps.log ▸ keeps.transfers ▸ sound.fits
  reserves := keeps.log ▸ keeps.transfers ▸ sound.reserves

theorem Sound.unique (sound : l.Sound) {s x : Transfer} (stored : s ∈ l.transfers) (other : x ∈ l.transfers)
    (same : x.id = s.id) : x = s :=
  List.inj_on_of_nodup_map sound.distinct other stored same

theorem Sound.find?_id (sound : l.Sound) {s : Transfer} (stored : s ∈ l.transfers) :
    l.transfers.find? (·.id == s.id) = some s := by
  rcases found : l.transfers.find? (·.id == s.id) with _ | x
  · exact absurd (List.find?_eq_none.mp found s stored) (by simp)
  · rw [found, sound.unique stored (List.mem_of_find?_eq_some found) (by simpa using List.find?_some found)]

/-- Appending an entry keeps a sound ledger sound when the entry has a kind the ledger
writes, a transfer reference it carries names a stored transfer, and every stored
transfer still fits and reserves as it should. -/
theorem Sound.extend (sound : l.Sound) (ext : l.Extends l' e) (kind : e.kind ≠ Transfers.noUndo)
    (filed : ∀ x, e.reference = some (Transfer.reference x) → ∃ t ∈ l.transfers, t.id = x)
    (fits : ∀ t ∈ l.transfers, t.Fits (l.book.log ++ [e]))
    (reserves : ∀ t ∈ l.transfers, t.Reserves (l.book.log ++ [e])) : l'.Sound where
  inMemory := ext.wiring ▸ sound.inMemory
  journalInMemory := ext.wiring ▸ sound.journalInMemory
  placesInMemory := ext.wiring ▸ sound.placesInMemory
  kinds := by
    rw [ext.log]
    intro e' member
    rcases List.mem_append.mp member with old | new
    · exact sound.kinds e' old
    · rw [List.mem_singleton.mp new]
      exact kind
  filed := by
    rw [ext.log, ext.transfers]
    intro e' member x reference
    rcases List.mem_append.mp member with old | new
    · exact sound.filed e' old x reference
    · rw [List.mem_singleton.mp new] at reference
      exact filed x reference
  distinct := ext.transfers ▸ sound.distinct
  fits := by
    rw [ext.log, ext.transfers]
    exact fits
  reserves := by
    rw [ext.log, ext.transfers]
    exact reserves

theorem Sound.extend_foreign (sound : l.Sound) (ext : l.Extends l' e) (kind : e.kind ≠ Transfers.noUndo)
    (foreign : ∀ x, e.reference ≠ some (Transfer.reference x)) : l'.Sound :=
  sound.extend ext kind (fun x filed => absurd filed (foreign x))
    (fun t stored => (sound.fits t stored).append_untouched fun touches => foreign t.id touches.1)
    (fun t stored => (sound.reserves t stored).append_untouched fun touches => foreign t.id touches.1)

end Ledger

open Run Transfers

namespace Move

variable {w w' : Level} {mv? : Option Movement}

/-- The movements of the five moves the engine makes: the kind each files, and for the
two that carry stock between the ends, how much of it moved. -/
theorem apply_ship (q : Int64) (applied : (Move.ship q).apply w = .ok (w', mv?)) :
    ∃ mv, mv? = some mv ∧ mv.kind = .shipped ∧ mv.delta = Quantity.drawn mv.previous q := by
  simp only [apply, Except.ok.injEq, Prod.mk.injEq] at applied
  exact ⟨_, applied.2.symm, rfl, rfl⟩

theorem apply_receive (q : Int64) (applied : (Move.receive q).apply w = .ok (w', mv?)) :
    ∃ mv, mv? = some mv ∧ mv.kind = .received ∧ mv.delta = Quantity.added mv.previous q := by
  simp only [apply, Except.ok.injEq, Prod.mk.injEq] at applied
  exact ⟨_, applied.2.symm, rfl, rfl⟩

theorem apply_restock (q : Int64) (applied : (Move.restock q).apply w = .ok (w', mv?)) :
    ∃ mv, mv? = some mv ∧ mv.kind = .returned := by
  simp only [apply, Except.ok.injEq, Prod.mk.injEq] at applied
  exact ⟨_, applied.2.symm, rfl⟩

theorem apply_reserve (q : Int64) (applied : (Move.reserve q).apply w = .ok (w', mv?)) :
    ∃ mv, mv? = some mv ∧ mv.kind = .reserved ∧ mv.delta = q := by
  simp only [apply] at applied
  split at applied
  · cases applied
  · simp only [Except.ok.injEq, Prod.mk.injEq] at applied
    exact ⟨_, applied.2.symm, rfl, rfl⟩

theorem apply_release (q : Int64) (applied : (Move.release q).apply w = .ok (w', mv?)) :
    ∃ mv, mv? = some mv ∧ mv.kind = .unreserved := by
  simp only [apply, Except.ok.injEq, Prod.mk.injEq] at applied
  exact ⟨_, applied.2.symm, rfl⟩

theorem apply_kind {m : Move} {mv : Movement} (applied : m.apply w = .ok (w', some mv)) :
    mv.kind ≠ Transfers.noUndo := by
  cases m <;> simp only [apply] at applied <;> (repeat' split at applied) <;>
    simp only [Except.ok.injEq, Prod.mk.injEq, Option.some.injEq, reduceCtorEq, and_false] at applied <;>
    (rw [← applied.2]; simp [Transfers.noUndo])

end Move

namespace Ledger

/-- A working copy `t` of a stored transfer: the copy fits and reserves against the log,
and the record stored under its id agrees with it on its ends, status and line shapes. -/
structure Tracks (l : Ledger) (t : Transfer) : Prop where
  stored : ∃ s ∈ l.transfers, s.Frame t
  fits : t.Fits l.book.log
  reserves : t.Reserves l.book.log

variable {l l' : Ledger} {t : Transfer}

theorem Tracks.keep (tracks : l.Tracks t) (keeps : l.Keeps l') : l'.Tracks t :=
  ⟨keeps.transfers ▸ tracks.stored, keeps.log ▸ tracks.fits, keeps.log ▸ tracks.reserves⟩

/-- A copy tracked on a sound ledger stays tracked, and the ledger sound, when an entry
under its reference is appended that keeps every record framed with it fitting and
reserving. -/
theorem Sound.extend_tracked {e : Adjustment} (sound : l.Sound) (tracks : l.Tracks t) (ext : l.Extends l' e)
    (kind : e.kind ≠ Transfers.noUndo) (filed : e.reference = some (Transfer.reference t.id))
    (keeps : ∀ u : Transfer, u.Frame t → u.Fits l.book.log → u.Fits (l.book.log ++ [e]))
    (reserving : ∀ u : Transfer, u.Frame t → u.Reserves l.book.log → u.Reserves (l.book.log ++ [e])) :
    l'.Sound ∧ l'.Tracks t := by
  obtain ⟨s, stored, frame⟩ := tracks.stored
  -- the entry is filed under `t`'s reference, so no other stored transfer counts it
  have others : ∀ x ∈ l.transfers, x.id ≠ t.id → e.reference ≠ some (Transfer.reference x.id) := by
    intro x _ other named
    rw [filed, Option.some.injEq, Transfer.reference_inj] at named
    exact other named.symm
  refine ⟨sound.extend ext kind ?_ ?_ ?_, ext.transfers ▸ tracks.stored, ext.log ▸ keeps t (.refl t) tracks.fits,
    ext.log ▸ reserving t (.refl t) tracks.reserves⟩
  · intro x named
    rw [filed, Option.some.injEq, Transfer.reference_inj] at named
    exact ⟨s, stored, frame.id.trans named⟩
  · intro x member
    by_cases same : x.id = t.id
    · rw [sound.unique stored member (same.trans frame.id.symm)]
      exact keeps s frame (sound.fits s stored)
    · exact (sound.fits x member).append_untouched fun touches => others x member same touches.1
  · intro x member
    by_cases same : x.id = t.id
    · rw [sound.unique stored member (same.trans frame.id.symm)]
      exact reserving s frame (sound.reserves s stored)
    · exact (sound.reserves x member).append_untouched fun touches => others x member same touches.1

theorem mem_replaced {t : Transfer} {ts : List Transfer} {x : Transfer}
    (member : x ∈ ts.map fun s => if s.id == t.id then t else s) : x = t ∨ x ∈ ts := by
  obtain ⟨s, stored, rfl⟩ := List.mem_map.mp member
  by_cases same : s.id = t.id
  · simp [same]
  · simp [same, stored]

theorem replaced_ids (t : Transfer) (ts : List Transfer) :
    (ts.map fun s => if s.id == t.id then t else s).map (·.id) = ts.map (·.id) := by
  rw [List.map_map]
  apply List.map_congr_left
  intro s _
  by_cases same : s.id = t.id <;> simp [same]

theorem Sound.replace (sound : l.Sound) (stored : ∃ s ∈ l.transfers, s.id = t.id)
    (fits : t.Fits l.book.log) (reserves : t.Reserves l.book.log) :
    let l' := { l with transfers := l.transfers.map fun (s : Transfer) => if s.id == t.id then t else s }
    l'.Sound ∧ l'.Tracks t := by
  obtain ⟨s, member, same⟩ := stored
  have kept : t ∈ l.transfers.map fun s => if s.id == t.id then t else s :=
    List.mem_map.mpr ⟨s, member, by simp [same]⟩
  refine ⟨⟨sound.inMemory, sound.journalInMemory, sound.placesInMemory, sound.kinds, ?_, ?_, ?_, ?_⟩,
    ⟨t, kept, .refl t⟩, fits, reserves⟩
  · intro e entry x named
    obtain ⟨x', old, rfl⟩ := sound.filed e entry x named
    by_cases replaced : x'.id = t.id
    · exact ⟨t, kept, replaced.symm⟩
    · exact ⟨x', List.mem_map.mpr ⟨x', old, by simp [replaced]⟩, rfl⟩
  · show ((l.transfers.map fun s => if s.id == t.id then t else s).map (·.id)).Nodup
    rw [replaced_ids t]
    exact sound.distinct
  · intro x member'
    rcases mem_replaced member' with rfl | old
    · exact fits
    · exact sound.fits x old
  · intro x member'
    rcases mem_replaced member' with rfl | old
    · exact reserves
    · exact sound.reserves x old

end Ledger

namespace TransferLine

abbrev pair (x : TransferLine) : String × String := (x.product, x.variant)

theorem pairs_merge (ls : List TransferLine) (r : LineRequest) :
    (merge ls r).map pair =
      if (r.product, r.variant) ∈ ls.map pair then ls.map pair else ls.map pair ++ [(r.product, r.variant)] := by
  induction ls with
  | nil => simp [merge]
  | cons x rest ih =>
    by_cases same : x.product = r.product ∧ x.variant = r.variant
    · obtain ⟨product, variant⟩ := same
      simp [merge, product, variant]
    · have other : (r.product, r.variant) ≠ x.pair := fun eq => same (by simp_all [pair])
      rw [merge, if_neg same, List.map_cons, ih]
      by_cases listed : (r.product, r.variant) ∈ rest.map pair <;> simp [listed, other]

theorem nodup_merge {ls : List TransferLine} (r : LineRequest) (distinct : (ls.map pair).Nodup) :
    ((merge ls r).map pair).Nodup := by
  rw [pairs_merge]
  split
  · exact distinct
  · rename_i fresh
    exact List.nodup_append.mpr ⟨distinct, List.nodup_singleton _,
      fun a member b single same => fresh (by rw [List.mem_singleton.mp single] at same; exact same ▸ member)⟩

theorem mem_merge {ls : List TransferLine} {r : LineRequest} {x : TransferLine} (member : x ∈ merge ls r) :
    (∃ y ∈ ls, x.product = y.product ∧ x.variant = y.variant ∧ x.shipped = y.shipped ∧
      x.received = y.received ∧ x.reserved = y.reserved) ∨
      x = ⟨r.product, r.variant, r.quantity, false, 0, 0⟩ := by
  induction ls with
  | nil => simpa [merge] using member
  | cons y rest ih =>
    unfold merge at member
    split at member
    · rcases List.mem_cons.mp member with rfl | old
      · exact .inl ⟨y, by simp, rfl, rfl, rfl, rfl, rfl⟩
      · exact .inl ⟨x, by simp [old], rfl, rfl, rfl, rfl, rfl⟩
    · rcases List.mem_cons.mp member with rfl | later
      · exact .inl ⟨x, by simp, rfl, rfl, rfl, rfl, rfl⟩
      · rcases ih later with ⟨z, old, same⟩ | fresh
        · exact .inl ⟨z, by simp [old], same⟩
        · exact .inr fresh

end TransferLine

namespace Transfer

variable {t : Transfer} {i : Nat} {line line' : TransferLine} {log : List Adjustment}

@[simp] theorem setLine_lines : (t.setLine i line').lines = t.lines.set i line' := rfl

theorem frame_setLine (found : t.lines[i]? = some line) (shape : line'.shape = line.shape) :
    t.Frame (t.setLine i line') := by
  refine ⟨rfl, rfl, rfl, rfl, ?_⟩
  apply List.ext_getElem?
  intro j
  simp only [setLine_lines, List.getElem?_map, List.getElem?_set]
  by_cases same : i = j
  · subst same
    obtain ⟨below, at_i⟩ := List.getElem?_eq_some_iff.mp found
    simp [shape, below, at_i]
  · simp [same]

theorem setLine_getElem?_self (found : t.lines[i]? = some line) : (t.setLine i line').lines[i]? = some line' := by
  simp [(List.getElem?_eq_some_iff.mp found).1]

theorem setLine_getElem?_ne {j : Nat} (other : j ≠ i) : (t.setLine i line').lines[j]? = t.lines[j]? := by
  simp [Ne.symm other]

theorem Fits.setLine (fits : t.Fits log) (found : t.lines[i]? = some line) (line' : TransferLine)
    (shape : line'.shape = line.shape)
    (journal : 0 ≤ line'.received ∧ (0 < line'.shipped → 0 < t.shipments log line'.product line'.variant) ∧
      (0 < line'.received → 0 < t.receipts log line'.product line'.variant))
    (arrived : t.status = .completed → line'.Arrived) : (t.setLine i line').Fits log := by
  have frame := frame_setLine found shape
  refine fits.reline frame ?_ ?_
  · intro x member
    rw [← frame.shipments_eq, ← frame.receipts_eq]
    rcases List.mem_or_eq_of_mem_set member with old | rfl
    · exact fits.journal x old
    · exact journal
  · intro completed x member
    rcases List.mem_or_eq_of_mem_set member with old | rfl
    · exact fits.completed completed x old
    · exact arrived completed

theorem Fits.setReserved (fits : t.Fits log) (found : t.lines[i]? = some line) (held : Bool) :
    (t.setLine i { line with reserved := held }).Fits log :=
  have member := List.mem_of_getElem? found
  fits.setLine found _ rfl (fits.journal line member) fun completed => fits.completed completed line member

theorem Fits.setStatus (fits : t.Fits log) (status : TransferStatus) (arrivedAt : Option Instant)
    (pending : status = .pending → t.status = .pending)
    (arrived : status = .completed → ∀ line ∈ t.lines, line.Arrived) : { t with status, arrivedAt }.Fits log :=
  ⟨fits.placed, fits.named, fits.distinctLines, fits.once, fits.receivedShipped, fits.returnedShipped,
    fits.returnFirst, fits.journal, fun now => fits.pending (pending now), arrived, fits.amounts⟩

theorem Fits.setLines (fits : t.Fits log) (lines : List TransferLine) (pending : t.status = .pending)
    (named : ∀ x ∈ lines, x.product ≠ "") (distinct : (lines.map TransferLine.pair).Nodup)
    (journal : ∀ x ∈ lines, 0 ≤ x.received ∧ (0 < x.shipped → 0 < t.shipments log x.product x.variant) ∧
      (0 < x.received → 0 < t.receipts log x.product x.variant)) : { t with lines }.Fits log := by
  refine ⟨fits.placed, named, distinct, fits.once, fits.receivedShipped, fits.returnedShipped,
    fits.returnFirst, journal, fits.pending, fun done => absurd (pending.symm.trans done) (by decide), ?_⟩
  -- a side logged under a pending transfer would be counted by one of its tallies
  intro e member filed
  obtain ⟨shipped, received⟩ := fits.amounts e member filed
  constructor
  · intro kind
    obtain ⟨line, -, key, -⟩ := shipped kind
    have counted := tally_pos_of_mem member ⟨filed, key, kind⟩
    exact absurd ((fits.pending pending line.product line.variant).1) (Nat.ne_of_gt counted)
  · intro kind
    obtain ⟨line, -, key, -⟩ := received kind
    have counted := tally_pos_of_mem member ⟨filed, key, kind⟩
    exact absurd ((fits.pending pending line.product line.variant).2) (Nat.ne_of_gt counted)

theorem Fits.fresh (absent : ∀ e ∈ log, e.reference ≠ some (reference t.id))
    (placed : t.source ≠ "" ∧ t.destination ≠ "")
    (named : ∀ x ∈ t.lines, x.product ≠ "") (distinct : (t.lines.map TransferLine.pair).Nodup)
    (pending : t.status = .pending) (unmoved : ∀ x ∈ t.lines, x.shipped = 0 ∧ x.received = 0) : t.Fits log := by
  have none : ∀ key kind, tally log (reference t.id) key kind = 0 := fun key kind =>
    tally_eq_zero_of_absent log _ key kind absent
  refine ⟨placed, named, distinct, fun p v => ?_, fun p v counted => ?_, fun p v counted => ?_,
    fun p v i j a b _ found _ received => ?_, fun x member => ?_, fun _ p v => ⟨none _ _, none _ _⟩,
    fun done => absurd (pending.symm.trans done) (by decide), fun e member filed => absurd filed (absent e member)⟩
  · simp [shipments, receipts, returns, none]
  · exact absurd counted (by simp [receipts, none])
  · exact absurd counted (by simp [returns, none])
  · exact absurd received.1 (absent b (List.mem_of_getElem? found))
  · obtain ⟨shipped, received⟩ := unmoved x member
    simp [shipped, received]


theorem Reserves.setLine (reserves : t.Reserves log) (found : t.lines[i]? = some line) (line' : TransferLine)
    (shape : line'.shape = line.shape)
    (flag : line'.reserved = true → 0 < t.reservations log line'.product line'.variant) :
    (t.setLine i line').Reserves log := by
  have frame := frame_setLine found shape
  refine reserves.reline frame fun x member held => ?_
  rw [← frame.reservations_eq]
  rcases List.mem_or_eq_of_mem_set member with old | rfl
  · exact reserves.flagged x old held
  · exact flag held

theorem Reserves.setStatus (reserves : t.Reserves log) (status : TransferStatus) (arrivedAt : Option Instant)
    (started : status = .inProgress → ∀ line ∈ t.lines, 0 < t.reservations log line.product line.variant) :
    { t with status, arrivedAt }.Reserves log :=
  ⟨reserves.held, reserves.flagged, started, reserves.reservedFirst⟩

theorem Reserves.setLines (reserves : t.Reserves log) (lines : List TransferLine) (pending : t.status = .pending)
    (flagged : ∀ x ∈ lines, x.reserved = true → 0 < t.reservations log x.product x.variant) :
    { t with lines }.Reserves log :=
  ⟨reserves.held, flagged, fun moving => absurd (pending.symm.trans moving) (by decide), reserves.reservedFirst⟩

theorem Reserves.fresh (absent : ∀ e ∈ log, e.reference ≠ some (reference t.id))
    (unflagged : ∀ x ∈ t.lines, x.reserved = false) (pending : t.status = .pending) : t.Reserves log := by
  have none : ∀ n p v, t.reservations (log.take n) p v = 0 ∧ t.releases (log.take n) p v = 0 := fun n p v =>
    ⟨tally_eq_zero_of_absent _ _ _ _ fun e member => absent e (List.mem_of_mem_take member),
      tally_eq_zero_of_absent _ _ _ _ fun e member => absent e (List.mem_of_mem_take member)⟩
  refine ⟨fun n p v => ?_, fun x member held => ?_, fun moving => absurd (pending.symm.trans moving) (by decide),
    fun p v j b found shipment => absurd shipment.1 (absent b (List.mem_of_getElem? found))⟩
  · rw [(none n p v).1, (none n p v).2]
    decide
  · rw [unflagged x member] at held
    cases held

end Transfer

namespace Ledger

variable {l : Ledger} {t : Transfer} {i : Nat} {line line' : TransferLine}

theorem Tracks.setLine (tracks : l.Tracks t) (found : t.lines[i]? = some line)
    (fits : (t.setLine i line').Fits l.book.log) (reserves : (t.setLine i line').Reserves l.book.log)
    (shape : line'.shape = line.shape) : l.Tracks (t.setLine i line') := by
  obtain ⟨s, stored, frame⟩ := tracks.stored
  exact ⟨⟨s, stored, frame.trans (Transfer.frame_setLine found shape)⟩, fits, reserves⟩

section Sides

variable {l' : Ledger} {e : Adjustment} (sound : l.Sound) (tracks : l.Tracks t) (ext : l.Extends l' e)
  (member : line ∈ t.lines) (filed : e.reference = some (Transfer.reference t.id))
include sound tracks ext member filed

theorem Sound.extend_shipment (moving : t.status = .inProgress)
    (fresh : t.shipments l.book.log line.product line.variant = 0)
    (key : e.key = ⟨line.product, line.variant, t.source⟩) (kind : e.kind = .shipped)
    (amount : e.quantity = Quantity.drawn e.previous line.quantity) : l'.Sound ∧ l'.Tracks t := by
  refine sound.extend_tracked tracks ext (by rw [kind]; decide) filed (fun u frame fits => ?_)
    fun u frame reserves => ?_
  · obtain ⟨line', member', product, variant, quantity⟩ := frame.line member
    refine fits.append_shipment member' (by rw [frame.status, moving]; decide) ?_ (frame.id ▸ filed) ?_ kind ?_
    · rw [frame.shipments_eq, product, variant, fresh]
    · rw [key, frame.source, product, variant]
    · rw [amount, quantity]
  · obtain ⟨line', member', product, variant, -⟩ := frame.line member
    exact reserves.append_shipment member' (frame.status.trans moving) (by rw [key, frame.source, product, variant])
      kind

theorem Sound.extend_receipt (moving : t.status ≠ .pending)
    (fresh : t.receipts l.book.log line.product line.variant = 0)
    (shipped : 0 < t.shipments l.book.log line.product line.variant)
    (key : e.key = ⟨line.product, line.variant, t.destination⟩) (kind : e.kind = .received)
    (amount : e.quantity = Quantity.added e.previous line.quantity) : l'.Sound ∧ l'.Tracks t := by
  refine sound.extend_tracked tracks ext (by rw [kind]; decide) filed (fun u frame fits => ?_)
    fun u _ reserves => reserves.append_untouched fun ⟨_, reserving⟩ => ?_
  · obtain ⟨line', member', product, variant, quantity⟩ := frame.line member
    refine fits.append_receipt member' (frame.status ▸ moving) ?_ ?_ (frame.id ▸ filed) ?_ kind ?_
    · rw [frame.receipts_eq, product, variant, fresh]
    · rw [frame.shipments_eq, product, variant]
      exact shipped
    · rw [key, frame.destination, product, variant]
    · rw [amount, quantity]
  · rcases reserving with other | other | other <;> exact absurd (kind.symm.trans other) (by decide)

theorem Sound.extend_return (fresh : t.returns l.book.log line.product line.variant = 0)
    (unreceived : t.receipts l.book.log line.product line.variant = 0)
    (shipped : 0 < t.shipments l.book.log line.product line.variant)
    (key : e.key = ⟨line.product, line.variant, t.source⟩) (kind : e.kind = .returned) :
    l'.Sound ∧ l'.Tracks t := by
  refine sound.extend_tracked tracks ext (by rw [kind]; decide) filed (fun u frame fits => ?_)
    fun u _ reserves => reserves.append_untouched fun ⟨_, reserving⟩ => ?_
  · obtain ⟨line', -, product, variant, -⟩ := frame.line member
    have fresh' : u.returns l.book.log line'.product line'.variant = 0 := by
      rw [frame.returns_eq, product, variant, fresh]
    refine fits.append_return fresh' ?_ ?_ (frame.id ▸ filed) ?_ kind
    · rw [frame.receipts_eq, product, variant, unreceived]
    · rw [frame.shipments_eq, product, variant]
      exact shipped
    · rw [key, frame.source, product, variant]
  · rcases reserving with other | other | other <;> exact absurd (kind.symm.trans other) (by decide)

end Sides

section Holds

variable {l' : Ledger} {e : Adjustment} (sound : l.Sound) (tracks : l.Tracks t) (ext : l.Extends l' e)
  (filed : e.reference = some (Transfer.reference t.id)) {p v : String} (key : e.key = ⟨p, v, t.source⟩)
include sound tracks ext filed key

theorem Sound.extend_reservation (kind : e.kind = .reserved)
    (free : t.reservations l.book.log p v ≤ t.releases l.book.log p v) : l'.Sound ∧ l'.Tracks t := by
  refine sound.extend_tracked tracks ext (by rw [kind]; decide) filed
    (fun _ _ fits => fits.append_untouched fun touches => ?_) fun u frame reserves => ?_
  · rcases touches.2 with other | other | other <;> exact absurd (kind.symm.trans other) (by decide)
  · refine reserves.append_reservation (frame.id ▸ filed) (by rw [key, frame.source]) kind ?_
    rw [frame.reservations_eq, frame.releases_eq]
    exact free

theorem Sound.extend_release (kind : e.kind = .unreserved)
    (holding : t.releases l.book.log p v < t.reservations l.book.log p v) : l'.Sound ∧ l'.Tracks t := by
  refine sound.extend_tracked tracks ext (by rw [kind]; decide) filed
    (fun _ _ fits => fits.append_untouched fun touches => ?_) fun u frame reserves => ?_
  · rcases touches.2 with other | other | other <;> exact absurd (kind.symm.trans other) (by decide)
  · refine reserves.append_release (frame.id ▸ filed) (by rw [key, frame.source]) kind ?_
    rw [frame.reservations_eq, frame.releases_eq]
    exact holding

end Holds

theorem Tracks.setMoved (tracks : l.Tracks t) (found : t.lines[i]? = some line) (shipped received : Int64)
    (fits : (t.setLine i { line with shipped, received }).Fits l.book.log) :
    l.Tracks (t.setLine i { line with shipped, received }) :=
  have flagged := tracks.reserves.flagged line (List.mem_of_getElem? found)
  tracks.setLine found fits (tracks.reserves.setLine found _ rfl flagged) rfl

theorem Tracks.setReserved (tracks : l.Tracks t) (found : t.lines[i]? = some line) (held : Bool)
    (backed : held = true → 0 < t.reservations l.book.log line.product line.variant) :
    l.Tracks (t.setLine i { line with reserved := held }) :=
  tracks.setLine found (tracks.fits.setReserved found held) (tracks.reserves.setLine found _ rfl backed) rfl

theorem Sound.insert (sound : l.Sound) (fresh : (l.transfers.any (·.id == t.id)) = false)
    (fits : t.Fits l.book.log) (reserves : t.Reserves l.book.log) :
    { l with transfers := l.transfers ++ [t] }.Sound := by
  have unstored : t.id ∉ l.transfers.map (·.id) := by simpa using fresh
  refine ⟨sound.inMemory, sound.journalInMemory, sound.placesInMemory, sound.kinds, ?_, ?_, ?_, ?_⟩
  · intro e member x named
    obtain ⟨s, stored, same⟩ := sound.filed e member x named
    exact ⟨s, List.mem_append_left _ stored, same⟩
  · show ((l.transfers ++ [t]).map (·.id)).Nodup
    rw [List.map_append]
    refine List.nodup_append.mpr ⟨sound.distinct, List.nodup_singleton _, fun a old b single same => ?_⟩
    rw [List.mem_singleton.mp single] at same
    simp only at same
    exact unstored (same ▸ old)
  · intro x member
    rcases List.mem_append.mp member with old | new
    · exact sound.fits x old
    · rw [List.mem_singleton.mp new]
      exact fits
  · intro x member
    rcases List.mem_append.mp member with old | new
    · exact sound.reserves x old
    · rw [List.mem_singleton.mp new]
      exact reserves

theorem Sound.unfiled (sound : l.Sound) {id : String} (fresh : (l.transfers.any (·.id == id)) = false) :
    ∀ e ∈ l.book.log, e.reference ≠ some (Transfer.reference id) := by
  intro e member named
  obtain ⟨s, stored, same⟩ := sound.filed e member id named
  have : (l.transfers.any (·.id == id)) = true := List.any_eq_true.mpr ⟨s, stored, by simp [same]⟩
  rw [fresh] at this
  cases this

end Ledger

end StockLedger
