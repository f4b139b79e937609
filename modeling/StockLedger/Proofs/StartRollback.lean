import StockLedger.Proofs.LevelBounds
import StockLedger.Proofs.CancelSettles

/-!
A start that fails on a refused reservation. Before it fails, the start has raised the
source level of each line it reserved by the line's quantity; the rollback then releases
every reservation the log holds, and a release of what a reservation added to an exact
level gives the level back as it was. `Ledger.Holding` follows each line through the two
states it passes: settled, its level as before and no reservation of it held; or raised
in this start from an exact level, under a lock the call is given. The rollback writes the
journal last, and that write may fail; the flags it clears are then left as the earlier
saves wrote them, and on levels that are not exact a release may not undo a reservation
(`Session.refused_start_falls_short`). A completion of a pending transfer runs the same start
first, so what is proved of the start holds of it there too.
-/

namespace StockLedger

namespace Book

/-- `b'` has the levels and the tallies of `b` at every key but `k`. -/
structure AgreesOff (b b' : Book) (k : StockKey) : Prop where
  levels : ∀ k', k' ≠ k → b'.find? k' = b.find? k'
  tallies : ∀ ref k' kind, k' ≠ k → tally b'.log ref k' kind = tally b.log ref k' kind

end Book

theorem Ledger.agreesOff_written (l : Ledger) {k : StockKey} {w : Level} (c : Option Change) (keyed : w.key = k) :
    l.book.AgreesOff (l.written k w c).book k := by
  refine ⟨fun k' other => ?_, fun ref k' kind other => ?_⟩
  · rw [Ledger.written_find?, if_neg fun (same : w.key = k') => other (same.symm.trans keyed)]
  · rw [Ledger.written_log, tally_append]
    cases c with
    | none => rfl
    | some c => simp [tally_single, Ne.symm other]

namespace Transfer

/-- The key a line of `t` is reserved at: its product variant at the source. -/
def sourceKey (t : Transfer) (x : TransferLine) : StockKey := ⟨x.product, x.variant, t.source⟩

theorem Fits.sourceKey_inj {log : List Adjustment} {t : Transfer} (fits : t.Fits log) {x y : TransferLine}
    (hx : x ∈ t.lines) (hy : y ∈ t.lines) (same : t.sourceKey x = t.sourceKey y) : x = y := by
  simp only [sourceKey, StockKey.mk.injEq] at same
  exact List.inj_on_of_nodup_map fits.distinctLines hx hy (by rw [same.1, same.2.1])

theorem Fits.sourceKey_ne {log : List Adjustment} {t : Transfer} (fits : t.Fits log) {i j : Nat}
    {x y : TransferLine} (at_i : t.lines[i]? = some x) (at_j : t.lines[j]? = some y) (other : j ≠ i) :
    t.sourceKey y ≠ t.sourceKey x := by
  intro keyed
  simp only [sourceKey, StockKey.mk.injEq] at keyed
  have apart := List.nodup_iff_getElem?_ne_getElem?.mp fits.distinctLines
  have pair_i : (t.lines.map fun line => (line.product, line.variant))[i]? = some (x.product, x.variant) := by
    simp [at_i]
  have pair_j : (t.lines.map fun line => (line.product, line.variant))[j]? = some (y.product, y.variant) := by
    simp [at_j]
  have below_i := (List.getElem?_eq_some_iff.mp at_i).1
  have below_j := (List.getElem?_eq_some_iff.mp at_j).1
  rcases Nat.lt_or_gt_of_ne other with before | after
  · exact apart j i before (by simpa using below_i) (by rw [pair_i, pair_j, keyed.1, keyed.2.1])
  · exact apart i j after (by simpa using below_j) (by rw [pair_i, pair_j, keyed.1, keyed.2.1])

end Transfer

namespace Ledger

section Keyed

variable (l₀ : Ledger) (call : Call) (ref : String) (k : StockKey)

/-- Under `ref`, the reservations at `k` balance its releases in `b`, and the level of `k`
is the one `l₀` kept. -/
def Settled (b : Book) : Prop :=
  tally b.log ref k .reserved = tally b.log ref k .unreserved ∧ b.find? k = l₀.book.find? k

/-- Under `ref`, `k` holds one reservation of `q` more than it released, taken from an
exact level of `l₀` that had `q` available; the call is given the lock of `k`. -/
def Raised (q : Int64) (b : Book) : Prop :=
  tally b.log ref k .reserved = tally b.log ref k .unreserved + 1 ∧
    ∃ w, l₀.book.find? k = some w ∧ w.Exact ∧ 0 < q.toInt ∧ q.toInt ≤ w.available.toInt ∧
      b.find? k = some (w.raisedBy q) ∧ l₀.locker.acquire call k.text = .ok ()

variable {l₀ call ref k} {b b' : Book} {k' : StockKey}

theorem Settled.agreesOff (settled : l₀.Settled ref k b) (agrees : b.AgreesOff b' k') (other : k ≠ k') :
    l₀.Settled ref k b' :=
  ⟨by rw [agrees.tallies _ _ _ other, agrees.tallies _ _ _ other]; exact settled.1,
    (agrees.levels k other).trans settled.2⟩

theorem Raised.agreesOff {q : Int64} (raised : l₀.Raised call ref k q b) (agrees : b.AgreesOff b' k')
    (other : k ≠ k') : l₀.Raised call ref k q b' := by
  obtain ⟨held, w, found, exact, positive, enough, raisedHere, acquired⟩ := raised
  refine ⟨by rw [agrees.tallies _ _ _ other, agrees.tallies _ _ _ other]; exact held,
    w, found, exact, positive, enough, (agrees.levels k other).trans raisedHere, acquired⟩

end Keyed

section Moves

open Run

variable {l₀ l : Ledger} {call : Call} {ref reason : String} {k : StockKey} {q : Int64}

/-- A reservation at a settled key is refused with the ledger unchanged, or raises the key
and touches no other. -/
theorem Settled.post_reserve (settled : l₀.Settled ref k l.book) (exact : l₀.book.Exact)
    (inMemory : l.wiring.inventory = false) (locker : l.locker = l₀.locker) (filed : ref ≠ "") :
    Post (Stock.run call k (.reserve q) { reference := ref, reason }) l
      (fun _ l' => l₀.Raised call ref k q l'.book ∧ l.book.AgreesOff l'.book k ∧
        l'.locker = l.locker ∧ l'.trap = l.trap ∧ l'.transfers = l.transfers ∧ l'.wiring = l.wiring)
      (fun _ l' => l' = l) := by
  refine Stock.post_run_cases inMemory (fun _ => rfl) fun w w' mv? checked acquired working applied => ?_
  obtain ⟨rfl, enough, mv, rfl, kind⟩ := Move.reserve_raisedBy applied
  have found : l₀.book.find? k = some w := settled.2.symm.trans (Book.find?_of_working working)
  have keyed : (w.raisedBy q).key = k := by rw [Level.raisedBy_key]; exact Book.working_key working
  refine ⟨⟨?_, w, found, exact.find? found, Move.unit_positive checked, enough, ?_, locker ▸ acquired⟩,
    l.agreesOff_written _ keyed, by simp, by simp, by simp, by simp⟩
  · simp [tally_append, tally_single, kind, Stock.optional_of_ne filed, settled.1]
  · rw [Option.map_some, written_find?, if_pos keyed]

/-- Releasing at a raised key goes through, settles the key and touches no other. -/
theorem Raised.post_release (raised : l₀.Raised call ref k q l.book) (inMemory : l.wiring.inventory = false)
    (locker : l.locker = l₀.locker) (filed : ref ≠ "") :
    Post (Stock.run call k (.release q) { reference := ref, reason }) l
      (fun _ l' => l₀.Settled ref k l'.book ∧ l.book.AgreesOff l'.book k ∧
        l'.locker = l.locker ∧ l'.trap = l.trap)
      (fun _ _ => False) := by
  obtain ⟨held, w, found, exact, positive, enough, raisedHere, acquired⟩ := raised
  have applied := Move.release_raisedBy exact positive enough
  have keyed : w.key = k := by simpa using List.find?_some found
  have working : l.book.working k (Move.release q).creates = .ok (w.raisedBy q) := by
    simp only [Book.working, raisedHere]
  rw [Post, Stock.run_exec_ok inMemory (Move.release_precheck positive) (locker ▸ acquired) working applied]
  refine ⟨⟨?_, ?_⟩, l.agreesOff_written _ keyed, by simp, by simp⟩
  · simp [tally_append, tally_single, Stock.optional_of_ne filed, held]
  · rw [Option.map_some, written_find?, if_pos keyed, found]

end Moves

end Ledger

namespace Ledger

/-- What a start of `t` keeps of the ledger `l₀` it began on, as long as it is reserving or
rolling back: the lock table, the journal trap, the level of every key no line of `t` is
reserved at, and for each line, its source key settled or raised by the line's quantity. -/
structure Holding (l₀ : Ledger) (call : Call) (t : Transfer) (l : Ledger) : Prop where
  locker : l.locker = l₀.locker
  trap : l.trap = l₀.trap
  outside : ∀ k, (∀ x ∈ t.lines, t.sourceKey x ≠ k) → l.book.find? k = l₀.book.find? k
  lines : ∀ x ∈ t.lines, l₀.Settled (Transfer.reference t.id) (t.sourceKey x) l.book ∨
    l₀.Raised call (Transfer.reference t.id) (t.sourceKey x) x.quantity l.book

/-- What a start of `t` refused by a reservation leaves of the ledger `l₀` it began on:
the reservations of every line balanced, every level as it was, and the record stored
under the transfer's id in the status it had; once the journal write of the rollback went
through, with no line flagged reserved. -/
structure RolledBack (l₀ : Ledger) (t : Transfer) (l : Ledger) : Prop where
  balanced : ∀ x ∈ t.lines,
    t.reservations l.book.log x.product x.variant = t.releases l.book.log x.product x.variant
  levels : ∀ k, l.book.find? k = l₀.book.find? k
  stored : ∃ s ∈ l.transfers, s.id = t.id ∧ s.status = t.status ∧
    (l.trap = l₀.trap → ∀ x ∈ s.lines, x.reserved = false)

variable {l₀ l l' : Ledger} {call : Call} {t : Transfer}

theorem settled_of_free {x : TransferLine}
    (free : t.reservations l₀.book.log x.product x.variant ≤ t.releases l₀.book.log x.product x.variant)
    (holds : t.HoldsOnce l₀.book.log) : l₀.Settled (Transfer.reference t.id) (t.sourceKey x) l₀.book :=
  ⟨Nat.le_antisymm free (holds x.product x.variant).1, rfl⟩

theorem Holding.begin
    (free : ∀ x ∈ t.lines, t.reservations l₀.book.log x.product x.variant ≤ t.releases l₀.book.log x.product x.variant)
    (holds : t.HoldsOnce l₀.book.log) : l₀.Holding call t l₀ :=
  ⟨rfl, rfl, fun _ _ => rfl, fun x member => .inl (settled_of_free (free x member) holds)⟩

theorem Holding.keep (holding : l₀.Holding call t l) (book : l'.book = l.book) (locker : l'.locker = l.locker)
    (trap : l'.trap = l.trap) : l₀.Holding call t l' :=
  ⟨locker.trans holding.locker, trap.trans holding.trap, book ▸ holding.outside, book ▸ holding.lines⟩

/-- A write at the source key of one line, leaving that key settled or raised, keeps the
start's hold on the ledger. -/
theorem Holding.write {log : List Adjustment} {x : TransferLine} (holding : l₀.Holding call t l)
    (fits₀ : t.Fits log) (member : x ∈ t.lines) (agrees : l.book.AgreesOff l'.book (t.sourceKey x))
    (locker : l'.locker = l.locker) (trap : l'.trap = l.trap)
    (here : l₀.Settled (Transfer.reference t.id) (t.sourceKey x) l'.book ∨
      l₀.Raised call (Transfer.reference t.id) (t.sourceKey x) x.quantity l'.book) :
    l₀.Holding call t l' := by
  refine ⟨locker.trans holding.locker, trap.trans holding.trap, fun k away => ?_, fun y other => ?_⟩
  · exact (agrees.levels k (away x member).symm).trans (holding.outside k away)
  · by_cases same : y = x
    · exact same ▸ here
    · have apart : t.sourceKey y ≠ t.sourceKey x := fun keyed => same (fits₀.sourceKey_inj other member keyed)
      exact (holding.lines y other).imp (·.agreesOff agrees apart) (·.agreesOff agrees apart)

/-- Once every line is settled, every level is the one the start began with. -/
theorem Holding.levels (holding : l₀.Holding call t l)
    (settled : ∀ x ∈ t.lines, l₀.Settled (Transfer.reference t.id) (t.sourceKey x) l.book) (k : StockKey) :
    l.book.find? k = l₀.book.find? k := by
  by_cases line : ∃ x ∈ t.lines, t.sourceKey x = k
  · obtain ⟨x, member, rfl⟩ := line
    exact (settled x member).2
  · exact holding.outside k fun x member keyed => line ⟨x, member, keyed⟩

end Ledger

namespace Transfers

open Run

variable {l₀ l : Ledger} {call : Call} {t u : Transfer} {x line : TransferLine}

theorem applied_framed (frame : t.Frame u) (shape : x.shape = line.shape) (side undo : AdjustmentKind) :
    applied call u line u.source side undo = applied call t x t.source side undo := by
  simp only [TransferLine.shape, Prod.mk.injEq] at shape
  simp only [applied, shape.1, shape.2.1, frame.id, frame.source]

theorem lineMove_framed (frame : t.Frame u) (shape : x.shape = line.shape) (move : Int64 → Move) (reason : String) :
    lineMove call u line u.source move reason =
      Stock.run call (t.sourceKey x) (move x.quantity) { reference := Transfer.reference t.id, reason } := by
  simp only [TransferLine.shape, Prod.mk.injEq] at shape
  simp only [lineMove, Transfer.sourceKey, shape.1, shape.2.1, shape.2.2, frame.id, frame.source]

/-- A save of a stored record changes no level, entry or lock: it stores the record, or
springs the journal trap and leaves the stored records as they were. -/
theorem post_save_trap (inMemory : l.wiring.transfers = false) (stored : ∃ s ∈ l.transfers, s.id = t.id) :
    Post (save call t) l
      (fun _ l' => l'.book = l.book ∧ l'.locker = l.locker ∧ l'.trap = l.trap ∧ t ∈ l'.transfers)
      (fun e l' => e = .cause .journalWrite none ∧ l'.book = l.book ∧ l'.transfers = l.transfers ∧
        l'.trap ≠ l.trap) := by
  obtain ⟨s, member, same⟩ := stored
  have found : l.transfers.any (·.id == t.id) = true := List.any_eq_true.mpr ⟨s, member, by simp [same]⟩
  have updated : Post (TransferStore.update call t) l
      (fun _ l' => l'.book = l.book ∧ l'.locker = l.locker ∧ l'.trap = l.trap ∧ t ∈ l'.transfers)
      (fun e l' => e = .cause .journalWrite none ∧ l'.book = l.book ∧ l'.transfers = l.transfers ∧
        l'.trap ≠ l.trap) := by
    rw [Post, update_exec inMemory, if_pos found]
    exact ⟨rfl, rfl, rfl, List.mem_map.mpr ⟨s, member, by simp [same]⟩⟩
  unfold save
  rw [post_bind, post_get]
  rcases trap : l.trap with _ | j
  · simpa [trap] using updated
  · by_cases springs : (l.trappable && j.springs t) = true
    · simp [springs]
    · simpa [trap, springs] using updated

/-- One line of the rollback: a raised line is released, a settled one left alone, and
either way the line ends settled and cleared of its flag; no settled line is unsettled. -/
theorem post_releaseLine_rollback (sound : l.Sound) (tracks : l.Tracks u) (frame : t.Frame u)
    (fits₀ : t.Fits l₀.book.log) (pending : t.status = .pending) (holding : l₀.Holding call t l)
    (errs : List Failure) (i : Nat) :
    Post (releaseLine call (u, errs) i) l
      (fun r l' => l₀.Holding call t l' ∧
        (∀ x ∈ t.lines, l₀.Settled (Transfer.reference t.id) (t.sourceKey x) l.book →
          l₀.Settled (Transfer.reference t.id) (t.sourceKey x) l'.book) ∧
        (∀ x, t.lines[i]? = some x → l₀.Settled (Transfer.reference t.id) (t.sourceKey x) l'.book) ∧
        (∀ y, r.1.lines[i]? = some y → y.reserved = false) ∧ ∀ j ≠ i, r.1.lines[j]? = u.lines[j]?)
      (fun _ _ => False) := by
  simp only [releaseLine]
  rcases found : u.lines[i]? with _ | line
  · refine ⟨holding, fun _ _ settled => settled, fun x at_i => ?_, fun y at_i => ?_, fun _ _ => rfl⟩
    · obtain ⟨y, found', -⟩ := frame.getElem?_shape at_i
      rw [found] at found'
      cases found'
    · rw [found] at at_i
      cases at_i
  dsimp only
  obtain ⟨x, at_i, shape⟩ := frame.symm.getElem?_shape found
  have member := List.mem_of_getElem? at_i
  have product := fits₀.named x member
  have placed := fits₀.placed.1
  -- the line is cleared in every branch; only a raised line moves the ledger
  have cleared : ∀ l', l₀.Holding call t l' →
      (∀ x ∈ t.lines, l₀.Settled (Transfer.reference t.id) (t.sourceKey x) l.book →
        l₀.Settled (Transfer.reference t.id) (t.sourceKey x) l'.book) →
      l₀.Settled (Transfer.reference t.id) (t.sourceKey x) l'.book →
      l₀.Holding call t l' ∧
        (∀ x ∈ t.lines, l₀.Settled (Transfer.reference t.id) (t.sourceKey x) l.book →
          l₀.Settled (Transfer.reference t.id) (t.sourceKey x) l'.book) ∧
        (∀ x', t.lines[i]? = some x' → l₀.Settled (Transfer.reference t.id) (t.sourceKey x') l'.book) ∧
        (∀ y, (u.setLine i { line with reserved := false }).lines[i]? = some y → y.reserved = false) ∧
        ∀ j ≠ i, (u.setLine i { line with reserved := false }).lines[j]? = u.lines[j]? := by
    intro l' holding' kept settled'
    refine ⟨holding', kept, fun x' at_i' => ?_, fun y at_y => ?_, fun j other => Transfer.setLine_getElem?_ne other⟩
    · rw [at_i, Option.some.injEq] at at_i'
      exact at_i' ▸ settled'
    · rw [Transfer.setLine_getElem?_self found, Option.some.injEq] at at_y
      rw [← at_y]
  -- nothing of a pending transfer is shipped
  have unshipped : tally l.book.log (Transfer.reference t.id) ⟨x.product, x.variant, t.source⟩ .shipped = 0 := by
    have none := (tracks.fits.pending (frame.status ▸ pending) x.product x.variant).1
    rwa [frame.symm.shipments_eq] at none
  rw [applied_framed frame shape, applied_framed frame shape, lineMove_framed frame shape]
  simp only [post_bind, post_attempt]
  rw [post_applied_side sound product placed (by decide)]
  simp only [unshipped, Nat.lt_irrefl, decide_false, post_bind, post_attempt]
  rw [post_applied sound product placed (by decide)]
  rcases holding.lines x member with settled | raised
  · have balanced : tally l.book.log (Transfer.reference t.id) ⟨x.product, x.variant, t.source⟩ .unreserved =
        tally l.book.log (Transfer.reference t.id) ⟨x.product, x.variant, t.source⟩ .reserved := settled.1.symm
    simp only [balanced, Nat.lt_irrefl, decide_false, Bool.false_eq_true, reduceIte, post_pure]
    exact cleared l holding (fun _ _ settled => settled) settled
  · have held : tally l.book.log (Transfer.reference t.id) ⟨x.product, x.variant, t.source⟩ .unreserved <
        tally l.book.log (Transfer.reference t.id) ⟨x.product, x.variant, t.source⟩ .reserved := by
      have := raised.1
      simp only [Transfer.sourceKey] at this
      omega
    simp only [held, decide_true, reduceIte, post_bind, post_attempt]
    refine (raised.post_release sound.inMemory holding.locker (reference_ne_empty _)).mono ?_
      fun _ _ refused => refused.elim
    rintro _ l' ⟨settled', agrees, locker', trap'⟩
    refine cleared l' (holding.write fits₀ member agrees locker' trap' (.inl settled')) (fun y other settled => ?_)
      settled'
    by_cases same : y = x
    · exact same ▸ settled'
    · exact settled.agreesOff agrees fun keyed => same (fits₀.sourceKey_inj other member keyed)

/-- The rollback of a start leaves every line settled and the copy cleared of its flags. -/
theorem post_releaseAll_rollback (sound : l.Sound) (tracks : l.Tracks u) (frame : t.Frame u)
    (fits₀ : t.Fits l₀.book.log) (pending : t.status = .pending) (holding : l₀.Holding call t l) :
    Post (releaseAll call u) l
      (fun r l' => (l'.Sound ∧ l'.Tracks r.1 ∧ t.Frame r.1 ∧ l₀.Holding call t l') ∧
        (∀ x ∈ t.lines, l₀.Settled (Transfer.reference t.id) (t.sourceKey x) l'.book) ∧
        ∀ y ∈ r.1.lines, y.reserved = false)
      (fun _ _ => False) := by
  -- the lines passed so far are settled and cleared; the pass never fails
  have passing : Post ((List.range u.lines.length).foldlM (releaseLine call) (u, [])) l
      (fun r l' => (l'.Sound ∧ l'.Tracks r.1 ∧ t.Frame r.1 ∧ l₀.Holding call t l') ∧
        ∀ j < u.lines.length,
          (∀ x, t.lines[j]? = some x → l₀.Settled (Transfer.reference t.id) (t.sourceKey x) l'.book) ∧
          ∀ y, r.1.lines[j]? = some y → y.reserved = false)
      (fun _ _ => False) := by
    refine post_foldlM_range u.lines.length (releaseLine call)
      (fun n (r : Transfer × List Failure) l' => (l'.Sound ∧ l'.Tracks r.1 ∧ t.Frame r.1 ∧ l₀.Holding call t l') ∧
        ∀ j < n, (∀ x, t.lines[j]? = some x → l₀.Settled (Transfer.reference t.id) (t.sourceKey x) l'.book) ∧
          ∀ y, r.1.lines[j]? = some y → y.reserved = false)
      ⟨⟨sound, tracks, frame, holding⟩, fun j below => absurd below (Nat.not_lt_zero j)⟩ ?_
    rintro i - ⟨w, errs⟩ l' ⟨⟨sound', tracks', frame', holding'⟩, done⟩
    refine ((post_releaseLine sound' tracks' errs i).and
      (post_releaseLine_rollback sound' tracks' frame' fits₀ pending holding' errs i)).mono ?_
      fun _ _ failed => failed.2
    rintro ⟨w', errs'⟩ l'' ⟨⟨sound'', tracks'', frame''⟩, holding'', kept, settled, cleared, others⟩
    refine ⟨⟨sound'', tracks'', frame'.trans frame'', holding''⟩, fun j below => ?_⟩
    by_cases same : j = i
    · subst same
      exact ⟨settled, cleared⟩
    · have earlier := done j (by omega)
      refine ⟨fun x at_j => kept x (List.mem_of_getElem? at_j) (earlier.1 x at_j), fun y at_j => earlier.2 y ?_⟩
      rw [← others j same]
      exact at_j
  unfold releaseAll
  refine passing.mono ?_ fun _ _ failed => failed
  rintro r l' ⟨kept, done⟩
  refine ⟨kept, fun x member => ?_, fun y member => ?_⟩
  · obtain ⟨j, at_j⟩ := List.mem_iff_getElem?.mp member
    have below := (List.getElem?_eq_some_iff.mp at_j).1
    have started := frame.length_eq
    exact (done j (by omega)).1 x at_j
  · obtain ⟨j, at_j⟩ := List.mem_iff_getElem?.mp member
    have below := (List.getElem?_eq_some_iff.mp at_j).1
    have copied := kept.2.2.1.length_eq
    have started := frame.length_eq
    exact (done j (by omega)).2 y at_j

/-- The journal write that ends a rollback, whether it goes through or not. -/
theorem post_save_rolledBack {w : Transfer} (sound : l.Sound) (tracks : l.Tracks w) (frame : t.Frame w)
    (holding : l₀.Holding call t l)
    (settled : ∀ x ∈ t.lines, l₀.Settled (Transfer.reference t.id) (t.sourceKey x) l.book)
    (cleared : ∀ y ∈ w.lines, y.reserved = false) :
    Post (save call w) l (fun _ l' => l₀.RolledBack t l') (fun _ l' => l₀.RolledBack t l') := by
  obtain ⟨s, stored, frame'⟩ := tracks.stored
  have balanced : ∀ x ∈ t.lines,
      t.reservations l.book.log x.product x.variant = t.releases l.book.log x.product x.variant :=
    fun x member => (settled x member).1
  refine (post_save_trap sound.journalInMemory ⟨s, stored, frame'.id⟩).mono ?_ ?_
  · rintro _ l' ⟨book, -, -, saved⟩
    exact ⟨book ▸ balanced, book ▸ holding.levels settled, w, saved, frame.id.symm, frame.status.symm,
      fun _ => cleared⟩
  · rintro _ l' ⟨-, book, transfers, sprung⟩
    exact ⟨book ▸ balanced, book ▸ holding.levels settled, s, transfers ▸ stored, frame'.id.trans frame.id.symm,
      frame'.status.trans frame.status.symm, fun same => absurd (same.trans holding.trap.symm) sprung⟩

theorem journalWrite_carries : (Failure.cause .journalWrite none).carries .journalWrite = true := rfl

/-- One line of a start: a line flagged reserved is passed over, an unflagged one is settled
and gets reserved and flagged. A refused reservation rolls the start back; any other
failure is a failed journal write. -/
theorem post_startLine_rollback (sound : l.Sound) (tracks : l.Tracks u) (frame : t.Frame u)
    (fits₀ : t.Fits l₀.book.log) (pending : t.status = .pending) (exact : l₀.book.Exact)
    (holding : l₀.Holding call t l)
    (unflagged : ∀ (j : Nat) x (y : TransferLine), t.lines[j]? = some x → u.lines[j]? = some y → y.reserved = false →
      l₀.Settled (Transfer.reference t.id) (t.sourceKey x) l.book) (i : Nat) :
    Post (startLine call u i) l
      (fun u' l' => l₀.Holding call t l' ∧ ∀ (j : Nat) x (y : TransferLine), t.lines[j]? = some x → u'.lines[j]? = some y →
        y.reserved = false → l₀.Settled (Transfer.reference t.id) (t.sourceKey x) l'.book)
      (fun e l' => e.carries .journalWrite = false → l₀.RolledBack t l') := by
  unfold startLine
  rcases found : u.lines[i]? with _ | line
  · exact ⟨holding, unflagged⟩
  dsimp only
  by_cases flagged : line.reserved = true
  · simp only [flagged, reduceIte, post_pure]
    exact ⟨holding, unflagged⟩
  obtain ⟨x, at_i, shape⟩ := frame.symm.getElem?_shape found
  have member := List.mem_of_getElem? at_i
  have settled := unflagged i x line at_i found (by simpa using flagged)
  have balanced : tally l.book.log (Transfer.reference t.id) ⟨x.product, x.variant, t.source⟩ .unreserved =
      tally l.book.log (Transfer.reference t.id) ⟨x.product, x.variant, t.source⟩ .reserved := settled.1.symm
  simp only [flagged, Bool.false_eq_true, reduceIte, post_bind]
  rw [applied_framed frame shape, lineMove_framed frame shape,
    post_applied sound (fits₀.named x member) fits₀.placed.1 (by decide)]
  simp only [balanced, Nat.lt_irrefl, decide_false, Bool.not_false, reduceIte, post_bind, post_attempt]
  refine (settled.post_reserve exact sound.inMemory holding.locker (reference_ne_empty _)).mono ?_ ?_
  · -- reserved: the line is raised, flagged and saved
    rintro _ l' ⟨raised, agrees, locker', trap', transfers', wiring'⟩
    obtain ⟨s, stored, frame'⟩ := tracks.stored
    simp only [post_pure]
    refine (post_save_trap (t := u.setLine i { line with reserved := true }) (wiring' ▸ sound.journalInMemory)
      ⟨s, transfers' ▸ stored, frame'.id⟩).mono ?_ ?_
    swap
    · rintro _ _ ⟨rfl, -⟩ refused
      rw [journalWrite_carries] at refused
      cases refused
    rintro _ l'' ⟨book, locker'', trap'', -⟩
    refine ⟨(holding.write fits₀ member agrees locker' trap' (.inr raised)).keep book locker'' trap'',
      fun j x' y at_j at_y cleared => ?_⟩
    by_cases same : j = i
    · subst same
      rw [Transfer.setLine_getElem?_self found, Option.some.injEq] at at_y
      rw [← at_y] at cleared
      cases cleared
    · rw [Transfer.setLine_getElem?_ne same] at at_y
      rw [book]
      exact (unflagged j x' y at_j at_y cleared).agreesOff agrees (fits₀.sourceKey_ne at_i at_j same)
  · -- refused: the ledger is as it was, and the rollback runs from it
    rintro _ _ rfl
    refine (post_releaseAll_rollback sound tracks frame fits₀ pending holding).mono ?_ fun _ _ failed => failed.elim
    rintro ⟨w, errs⟩ l' ⟨⟨sound', tracks', frame', holding'⟩, settled', cleared⟩
    simp only [post_fail]
    exact (post_save_rolledBack sound' tracks' frame' holding' settled' cleared).mono
      (fun _ _ rolled _ => rolled) fun _ _ rolled _ => rolled

/-- A start of a tracked pending copy none of whose reservations is held, on exact levels:
a refused reservation rolls it back, and any other failure is a failed journal write. -/
theorem post_start_rollback (sound : l.Sound) (tracks : l.Tracks t) (pending : t.status = .pending)
    (free : ∀ x ∈ t.lines, t.reservations l.book.log x.product x.variant ≤ t.releases l.book.log x.product x.variant)
    (exact : l.book.Exact) :
    Post (start call t) l (fun _ _ => True) (fun e l' => e.carries .journalWrite = false → l.RolledBack t l') := by
  have holds := tracks.reserves.whole
  -- the pass keeps the copy tracked, the start's hold, and every unflagged line settled
  have reserving : Post ((List.range t.lines.length).foldlM (startLine call) t) l
      (fun u l' => (l'.Sound ∧ l'.Tracks u ∧ t.Frame u) ∧ l.Holding call t l' ∧
        ∀ (j : Nat) x (y : TransferLine), t.lines[j]? = some x → u.lines[j]? = some y → y.reserved = false →
          l.Settled (Transfer.reference t.id) (t.sourceKey x) l'.book)
      (fun e l' => e.carries .journalWrite = false → l.RolledBack t l') := by
    refine post_foldlM _ _ _ ⟨⟨sound, tracks, .refl t⟩, Ledger.Holding.begin free holds,
      fun j x y at_j _ _ => Ledger.settled_of_free (free x (List.mem_of_getElem? at_j)) holds⟩ ?_
    rintro i - u l' ⟨⟨sound', tracks', frame⟩, holding, unflagged⟩
    refine ((post_startLine sound' tracks' i).and
      (post_startLine_rollback sound' tracks' frame tracks.fits pending exact holding unflagged i)).mono ?_
      fun _ _ failed => failed.2
    rintro _ _ ⟨⟨⟨sound'', tracks'', frame'⟩, -⟩, kept⟩
    exact ⟨⟨sound'', tracks'', frame.trans frame'⟩, kept⟩
  unfold start
  rw [post_bind]
  refine reserving.mono ?_ fun _ _ rolled => rolled
  rintro u l' ⟨⟨sound', tracks', -⟩, -⟩
  obtain ⟨s, stored, frame'⟩ := tracks'.stored
  rw [post_bind]
  refine (post_save_trap (t := { u with status := .inProgress }) sound'.journalInMemory
    ⟨s, stored, frame'.id⟩).mono (fun _ _ _ => trivial) ?_
  rintro _ _ ⟨rfl, -⟩ refused
  rw [journalWrite_carries] at refused
  cases refused

/-- Under its lock, a change of a stored transfer runs its body on the stored record's copy. -/
theorem withTransfer_exec {id : String} {s : Transfer} {body : Transfer → Run Transfer}
    (inMemory : l.wiring.transfers = false) (found : l.transfers.find? (·.id == id) = some s)
    (locked : l.locker.acquire call (Transfer.lockKey id) = .ok ()) :
    (withTransfer call id body).exec l = (body (TransferStore.copied s)).exec l := by
  unfold withTransfer
  rw [exec_bind, exec_lock, locked]
  dsimp only
  rw [exec_bind, find_exec inMemory, found]

section Pending

variable {id : String} {s : Transfer} (inMemory : l.wiring.transfers = false)
  (found : l.transfers.find? (·.id == id) = some s) (locked : l.locker.acquire call (Transfer.lockKey id) = .ok ())
  (pending : s.status = .pending)
include inMemory found locked pending

/-- Starting a stored pending transfer is the start of its copy. -/
theorem startTransfer_exec : (startTransfer call id).exec l = (start call (TransferStore.copied s)).exec l := by
  unfold startTransfer
  rw [withTransfer_exec inMemory found locked]
  simp only [Transfer.copied_status, pending, bne_self_eq_false, Bool.false_eq_true, reduceIte]

/-- Completing a stored pending transfer starts its copy, then finishes what the start gives. -/
theorem complete_exec :
    (complete call id).exec l = (start call (TransferStore.copied s) >>= finish call).exec l := by
  unfold complete
  rw [withTransfer_exec inMemory found locked]
  simp only [Transfer.copied_status, pending, beq_self_eq_true, reduceIte]
  rfl

end Pending

end Transfers

/-- A start refused by a reservation gives back what it took, whether it runs alone or
inside a completion. Take a stored pending transfer none of whose reservations the log holds,
on a ledger whose levels are exact, and a call given the transfer's lock. Starting it is the
start of its stored record, and completing it is that start followed by the finish. If that
start fails other than by a failed journal write, then every line's reservations and releases
balance, every level is as it was, and the record stored under the transfer's id is still
pending; once the rollback's own journal write went through (the trap is as it was), no line
of it is flagged reserved. -/
theorem refused_start_rolls_back {l : Ledger} (reached : Reachable l) (call : Call) {s : Transfer}
    (stored : s ∈ l.transfers) (pending : s.status = .pending)
    (free : ∀ x ∈ s.lines, s.reservations l.book.log x.product x.variant ≤ s.releases l.book.log x.product x.variant)
    (exact : l.book.Exact) (locked : l.locker.acquire call (Transfer.lockKey s.id) = .ok ()) :
    (Transfers.startTransfer call s.id).exec l = (Transfers.start call (TransferStore.copied s)).exec l ∧
    (Transfers.complete call s.id).exec l =
      (Transfers.start call (TransferStore.copied s) >>= Transfers.finish call).exec l ∧
    ∀ e l', (Transfers.start call (TransferStore.copied s)).exec l = (.error e, l') →
      e.carries .journalWrite = false →
      (∀ x ∈ s.lines, s.reservations l'.book.log x.product x.variant = s.releases l'.book.log x.product x.variant) ∧
      (∀ k, l'.book.find? k = l.book.find? k) ∧
      ∃ s' ∈ l'.transfers, s'.id = s.id ∧ s'.status = .pending ∧
        (l'.trap = l.trap → ∀ x ∈ s'.lines, x.reserved = false) := by
  have sound := reached.sound
  have found := sound.find?_id stored
  refine ⟨Transfers.startTransfer_exec sound.journalInMemory found locked pending,
    Transfers.complete_exec sound.journalInMemory found locked pending, fun e l' failed refused => ?_⟩
  -- the start of the copy, refused, rolls back
  have rolled : Run.Post (Transfers.start call (TransferStore.copied s)) l (fun _ _ => True)
      (fun e l' => e.carries .journalWrite = false → l.RolledBack (TransferStore.copied s) l') :=
    Transfers.post_start_rollback sound (Transfers.tracks_copied sound stored) pending free exact
  unfold Run.Post at rolled
  rw [failed] at rolled
  obtain ⟨balanced, levels, s', kept, same, status, cleared⟩ := rolled refused
  exact ⟨balanced, levels, s', kept, same, status.trans pending, cleared⟩

theorem Except.error_of_mapError {ε ε' α : Type} {f : ε → ε'} {x : Except ε α} {b : ε'}
    (mapped : x.mapError f = .error b) : ∃ e, x = .error e ∧ f e = b := by
  cases x with
  | error e => exact ⟨e, rfl, by simpa [Except.mapError] using mapped⟩
  | ok a => simp [Except.mapError] at mapped

namespace Session

/-- A store `B`, ten units of `p1` at the main warehouse, none of `p2`, and a pending transfer
of three `p1` and one `p2` to `B`. -/
def twoLines : Ledger :=
  let placed := ((Places.add {} (Location.store "B" "B")).exec fresh).2
  let stocked := ((Stock.run {} ⟨"p1", "", Location.mainId⟩ (.set 10) {}).exec placed).2
  ((Transfers.create {}
    { source := Location.mainId, destination := "B", notes := "", expectedArrival := none,
      lines := [⟨"p1", "", 3⟩, ⟨"p2", "", 1⟩] }).exec stocked).2

/-- The transfer `twoLines` stores. -/
def twoLineTransfer : Transfer :=
  { id := firstId, source := Location.mainId, destination := "B", status := .pending,
    lines := [⟨"p1", "", 3, false, 0, 0⟩, ⟨"p2", "", 1, false, 0, 0⟩], expectedArrival := none,
    arrivedAt := none, notes := none, createdAt := Instant.zero }

theorem twoLines_reachable : Reachable twoLines :=
  ⟨fresh, fresh_initial, .tail (.tail (.single (.place _ _ _)) (.stock _ _ _ _ _ unfiled_note)) (.create _ _ _)⟩

/-- Starting `twoLines`, alone or inside a completion, reserves the `p1` line, finds no level
of `p2` and gives the `p1` reservation back. -/
theorem twoLines_start_rolled_back :
    ∃ e l', e.carries .journalWrite = false ∧
      (Transfers.startTransfer {} twoLineTransfer.id).exec twoLines = (.error e, l') ∧
      (Transfers.complete {} twoLineTransfer.id).exec twoLines = (.error e, l') ∧
      (∀ x ∈ twoLineTransfer.lines, twoLineTransfer.reservations l'.book.log x.product x.variant =
        twoLineTransfer.releases l'.book.log x.product x.variant) ∧
      (∀ k, l'.book.find? k = twoLines.book.find? k) ∧
      ∃ s' ∈ l'.transfers, s'.id = twoLineTransfer.id ∧ s'.status = .pending ∧
        (l'.trap = twoLines.trap → ∀ x ∈ s'.lines, x.reserved = false) := by
  obtain ⟨e, failed, refused⟩ := Except.error_of_mapError (by decide +kernel :
    ((Transfers.start {} (TransferStore.copied twoLineTransfer)).exec twoLines).1.mapError
      (Failure.carries .journalWrite) = .error false)
  have ended : (Transfers.start {} (TransferStore.copied twoLineTransfer)).exec twoLines =
      (.error e, ((Transfers.start {} (TransferStore.copied twoLineTransfer)).exec twoLines).2) := by
    rw [← failed]
  obtain ⟨alone, completing, rolled⟩ := refused_start_rolls_back twoLines_reachable {} (s := twoLineTransfer)
    (by decide +kernel) rfl (by decide +kernel) (by decide +kernel) (Except.eq_ok_unit (by decide +kernel))
  exact ⟨e, _, refused, alone.trans ended, by rw [completing, Run.exec_bind, ended], rolled e _ ended refused⟩

/-- A transfer whose start lost its last journal write and whose cancel lost its own, so
that its stored `p1` line is still flagged reserved with no reservation held; a `p2` line
added after; and a journal that fails on the next write. -/
def staleFlag : Ledger :=
  let placed := ((Places.add {} (Location.store "B" "B")).exec fresh).2
  let stocked := ((Stock.run {} ⟨"p1", "", Location.mainId⟩ (.set 10) {}).exec placed).2
  let created := ((Transfers.create {}
    { source := Location.mainId, destination := "B", notes := "", expectedArrival := none,
      lines := [⟨"p1", "", 3⟩] }).exec stocked).2
  let started := ((Transfers.startTransfer {} firstId).exec { created with trap := some (.status "in_progress") }).2
  let cancelled := ((Transfers.cancel {} firstId).exec { started with trap := some (.status "cancelled") }).2
  let grown := ((Transfers.addLine {} firstId ⟨"p2", "", 1⟩).exec cancelled).2
  { grown with trap := some .any }

theorem staleFlag_reachable : Reachable staleFlag :=
  ⟨fresh, fresh_initial, .tail (.tail (.tail (.tail (.tail (.tail (.tail (.tail (.single (.place _ _ _))
    (.stock _ _ _ _ _ unfiled_note)) (.create _ _ _)) (.outside _ _ _ _)) (.start _ _ _)) (.outside _ _ _ _))
    (.cancel _ _ _)) (.addLine _ _ _ _)) (.outside _ _ _ _)⟩

/-- The main warehouse set to the largest count of `p1` and all of it reserved, then set to
`-2` and all but three of the largest count reserved again: the commitment wraps to `-5`, so
the level is not exact and shows three available. A pending transfer of three `p1` and one
`p2` to `B` follows. -/
def wrappedCommitment : Ledger :=
  let placed := ((Places.add {} (Location.store "B" "B")).exec fresh).2
  let stocked := ((Stock.run {} mainStock (.set 9223372036854775807) {}).exec placed).2
  let reserved := ((Stock.run {} mainStock (.reserve 9223372036854775807) {}).exec stocked).2
  let lowered := ((Stock.run {} mainStock (.set (-2)) {}).exec reserved).2
  let wrapped := ((Stock.run {} mainStock (.reserve 9223372036854775804) {}).exec lowered).2
  ((Transfers.create {}
    { source := Location.mainId, destination := "B", notes := "", expectedArrival := none,
      lines := [⟨"p1", "", 3⟩, ⟨"p2", "", 1⟩] }).exec wrapped).2

theorem wrappedCommitment_reachable : Reachable wrappedCommitment :=
  ⟨fresh, fresh_initial, .tail (.tail (.tail (.tail (.tail (.single (.place _ _ _))
    (.stock _ _ _ _ _ unfiled_note)) (.stock _ _ _ _ _ unfiled_note)) (.stock _ _ _ _ _ unfiled_note))
    (.stock _ _ _ _ _ unfiled_note)) (.create _ _ _)⟩

/-- A refused start falls short of giving everything back in two ways. On `wrappedCommitment`,
whose levels are not exact, the start reserves three `p1` on a commitment of `-5` and fails at
`p2`; a release cannot lower a negative commitment, so the level of `p1` is not given back.
On `staleFlag` the start is refused at `p2` and rolled back, but the rollback's journal write
fails, so the stored record keeps the stale flag of `p1`. -/
theorem refused_start_falls_short :
    (Reachable wrappedCommitment ∧ ¬ wrappedCommitment.book.Exact ∧
      ∃ s ∈ wrappedCommitment.transfers, s.status = .pending ∧
        (∀ x ∈ s.lines, s.reservations wrappedCommitment.book.log x.product x.variant ≤
          s.releases wrappedCommitment.book.log x.product x.variant) ∧
        (wrappedCommitment.locker.acquire {} (Transfer.lockKey s.id)).isOk = true ∧
        ((Transfers.startTransfer {} s.id).exec wrappedCommitment).1.mapError
          (Failure.carries .journalWrite) = .error false ∧
        ((Transfers.startTransfer {} s.id).exec wrappedCommitment).2.book.find? mainStock ≠
          wrappedCommitment.book.find? mainStock) ∧
    (let l' := ((Transfers.startTransfer {} firstId).exec staleFlag).2
    Reachable staleFlag ∧ staleFlag.book.Exact ∧
      (∃ s ∈ staleFlag.transfers, s.id = firstId ∧ s.status = .pending ∧ ∀ x ∈ s.lines,
        s.reservations staleFlag.book.log x.product x.variant ≤ s.releases staleFlag.book.log x.product x.variant) ∧
      ((Transfers.startTransfer {} firstId).exec staleFlag).1.mapError (Failure.carries .journalWrite) = .error false ∧
      l'.trap ≠ staleFlag.trap ∧
      ∃ s ∈ l'.transfers, s.id = firstId ∧ ∃ x ∈ s.lines, x.reserved = true) :=
  ⟨⟨wrappedCommitment_reachable, by decide +kernel⟩, staleFlag_reachable, by decide +kernel⟩

end Session

end StockLedger
