import StockLedger.Proofs.LedgerSound

/-!
The transfer engine keeps a sound ledger sound. Each step of the engine works on a copy
of a stored transfer; `Ledger.Tracks l t` says that the copy `t` fits the log and that
the record stored under its id frames it. One lemma per engine function states what it
leaves behind, from the side tests and single stock moves up to the operations a caller
issues, whatever fails on the way.
-/

namespace StockLedger

open Run Transfers

namespace Transfers

variable {l : Ledger} {t : Transfer} {call : Call}

theorem post_applied {line : TransferLine} {location : String} {side undo : AdjustmentKind}
    {ok : Bool → Ledger → Prop} {err : Failure → Ledger → Prop}
    (sound : l.Sound) (product : line.product ≠ "") (placed : location ≠ "") (distinct : side ≠ undo) :
    Post (applied call t line location side undo) l ok err ↔
      ok (decide (tally l.book.log (Transfer.reference t.id) ⟨line.product, line.variant, location⟩ undo <
        tally l.book.log (Transfer.reference t.id) ⟨line.product, line.variant, location⟩ side)) l := by
  simp only [Post, applied_exec call t line location side undo sound.inMemory product placed distinct]

theorem post_applied_side {line : TransferLine} {location : String} {side : AdjustmentKind}
    {ok : Bool → Ledger → Prop} {err : Failure → Ledger → Prop}
    (sound : l.Sound) (product : line.product ≠ "") (placed : location ≠ "") (counted : side ≠ noUndo) :
    Post (applied call t line location side noUndo) l ok err ↔
      ok (decide
        (0 < tally l.book.log (Transfer.reference t.id) ⟨line.product, line.variant, location⟩ side)) l := by
  rw [post_applied sound product placed counted, tally_eq_zero_of_kind]
  · intro e member
    exact sound.kinds e member

/-- A stock move of a line is refused with the ledger unchanged, or files one entry under
the transfer's reference at the line's key, reporting a movement the move can make. -/
theorem post_lineMove {line : TransferLine} {location : String} {move : Int64 → Move} {reason : String}
    {P : Movement → Prop} (sound : l.Sound)
    (reports : ∀ w w' mv?, (move line.quantity).apply w = .ok (w', mv?) → ∃ mv, mv? = some mv ∧ P mv) :
    Post (lineMove call t line location move reason) l
      (fun _ l' => ∃ mv, P mv ∧ l.Extends l' (l.filed ⟨line.product, line.variant, location⟩
        (Stock.noted call (move line.quantity) { reference := Transfer.reference t.id, reason } mv)))
      (fun _ l' => l' = l) := by
  unfold lineMove
  rw [Post, Stock.run_exec]
  rcases (move line.quantity).precheck with e | ⟨⟩
  · rfl
  rcases Stock.write_cases call ⟨line.product, line.variant, location⟩ (move line.quantity)
      { reference := Transfer.reference t.id, reason } sound.inMemory
    with ⟨e, failed⟩ | ⟨w, w', mv?, _, applied, wrote⟩
  · simp only [failed]
  · obtain ⟨mv, rfl, holds⟩ := reports w w' mv? applied
    simp only [wrote, Option.map_some]
    exact ⟨mv, holds, ⟨by simp, by simp, by simp⟩⟩

theorem update_exec (inMemory : l.wiring.transfers = false) :
    (TransferStore.update call t).exec l =
      if l.transfers.any (·.id == t.id) then
        (.ok (), { l with transfers := l.transfers.map fun s => if s.id == t.id then t else s })
      else (.error (.withDetail .transferNotFound t.id), l) := by
  by_cases found : l.transfers.any (·.id == t.id) <;>
    simp [TransferStore.update, TransferStore.onDatabase, inMemory, found, -List.any_eq_true]

theorem post_save_of {ok : Unit → Ledger → Prop} {err : Failure → Ledger → Prop}
    (trapped : err (.cause .journalWrite none) { l with trap := none })
    (updated : Post (TransferStore.update call t) l ok err) : Post (save call t) l ok err := by
  unfold save
  rw [post_bind, post_get]
  rcases trap : l.trap with _ | j
  · simpa [trap] using updated
  · by_cases springs : (l.trappable && j.springs t) = true
    · simp only [springs, if_true, post_bind, post_set, post_fail]
      exact trapped
    · simpa [trap, springs] using updated

/-- A save of a copy whose id is stored and that fits and reserves against the log keeps
the ledger sound, and when it goes through, the copy is what is stored. A failed save
leaves every store as it was. -/
theorem post_save (sound : l.Sound) (stored : ∃ s ∈ l.transfers, s.id = t.id) (fits : t.Fits l.book.log)
    (reserves : t.Reserves l.book.log) :
    Post (save call t) l (fun _ l' => l'.Sound ∧ l'.Tracks t) (fun _ l' => l'.Sound) := by
  have found : l.transfers.any (·.id == t.id) = true := by
    obtain ⟨s, member, same⟩ := stored
    exact List.any_eq_true.mpr ⟨s, member, by simp [same]⟩
  refine post_save_of (sound.keep ⟨rfl, rfl, rfl⟩) ?_
  rw [Post, update_exec sound.journalInMemory, if_pos found]
  exact sound.replace stored fits reserves

theorem post_save_log (inMemory : l.wiring.transfers = false) :
    Post (save call t) l (fun _ l' => l'.book.log = l.book.log) (fun _ l' => l'.book.log = l.book.log) := by
  refine post_save_of rfl ?_
  rw [Post, update_exec inMemory]
  by_cases found : l.transfers.any (·.id == t.id) = true
  · rw [if_pos found]
  · rw [if_neg found]

@[simp] theorem optional_reference (id : String) :
    Stock.optional (Transfer.reference id) = some (Transfer.reference id) :=
  Stock.optional_of_ne (reference_ne_empty id)

theorem post_releaseLine (sound : l.Sound) (tracks : l.Tracks t) (errs : List Failure) (i : Nat) :
    Post (releaseLine call (t, errs) i) l (fun r l' => l'.Sound ∧ l'.Tracks r.1 ∧ t.Frame r.1)
      (fun _ l' => l'.Sound) := by
  simp only [releaseLine]
  rcases found : t.lines[i]? with _ | line
  · exact ⟨sound, tracks, .refl t⟩
  have member := List.mem_of_getElem? found
  have product := tracks.fits.named line member
  have placed := tracks.fits.placed.1
  have cleared : l.Sound ∧ l.Tracks (t.setLine i { line with reserved := false }) ∧
      t.Frame (t.setLine i { line with reserved := false }) :=
    ⟨sound, tracks.setReserved found false fun flag => absurd flag Bool.false_ne_true,
      Transfer.frame_setLine found rfl⟩
  simp only [post_bind, post_attempt]
  rw [post_applied_side sound product placed (by decide)]
  by_cases shipped : 0 < tally l.book.log (Transfer.reference t.id) ⟨line.product, line.variant, t.source⟩ .shipped
  · simpa [shipped] using cleared
  simp only [shipped, decide_false, post_bind, post_attempt]
  rw [post_applied sound product placed (by decide)]
  split
  · rename_i held
    -- the log holds the line's reservation, so the release undoes it
    have holding :
        t.releases l.book.log line.product line.variant < t.reservations l.book.log line.product line.variant :=
      of_decide_eq_true held
    simp only [post_bind, post_attempt]
    refine (post_lineMove (P := fun mv => mv.kind = .unreserved) sound
      fun _ _ _ applied => Move.apply_release _ applied).mono ?_ ?_
    · rintro _ l' ⟨mv, kind, ext⟩
      obtain ⟨sound', tracks'⟩ := sound.extend_release tracks ext (by simp) (Ledger.filed_key _ _ _)
        (by simp [kind]) holding
      exact ⟨sound', tracks'.setReserved found false fun flag => absurd flag Bool.false_ne_true,
        Transfer.frame_setLine found rfl⟩
    · rintro _ l' rfl
      exact ⟨sound, tracks, .refl t⟩
  · exact cleared

theorem post_releaseAll (sound : l.Sound) (tracks : l.Tracks t) :
    Post (releaseAll call t) l (fun r l' => l'.Sound ∧ l'.Tracks r.1 ∧ t.Frame r.1) (fun _ l' => l'.Sound) := by
  unfold releaseAll
  refine post_foldlM _ _ _ ⟨sound, tracks, .refl t⟩ ?_
  rintro i - ⟨u, errs⟩ l' ⟨sound', tracks', frame⟩
  exact (post_releaseLine sound' tracks' errs i).mono
    (fun _ _ ⟨sound'', tracks'', frame'⟩ => ⟨sound'', tracks'', frame.trans frame'⟩) fun _ _ kept => kept

theorem post_save_tracked (sound : l.Sound) (tracks : l.Tracks t) :
    Post (save call t) l (fun _ l' => l'.Sound ∧ l'.Tracks t) (fun _ l' => l'.Sound) := by
  obtain ⟨s, stored, frame⟩ := tracks.stored
  exact post_save sound ⟨s, stored, frame.id⟩ tracks.fits tracks.reserves

/-- Reserving one line keeps the ledger sound and the copy tracked, and leaves the line
flagged reserved and every other line as it was; a refused reservation releases the
others and fails. -/
theorem post_startLine (sound : l.Sound) (tracks : l.Tracks t) (i : Nat) :
    Post (startLine call t i) l
      (fun t' l' => (l'.Sound ∧ l'.Tracks t' ∧ t.Frame t') ∧
        (∀ x, t'.lines[i]? = some x → x.reserved = true) ∧ ∀ j ≠ i, t'.lines[j]? = t.lines[j]?)
      (fun _ l' => l'.Sound) := by
  unfold startLine
  rcases found : t.lines[i]? with _ | line
  · exact ⟨⟨sound, tracks, .refl t⟩, (fun x at_i => by rw [found] at at_i; cases at_i), fun _ _ => rfl⟩
  have member := List.mem_of_getElem? found
  have product := tracks.fits.named line member
  have placed := tracks.fits.placed.1
  by_cases held : line.reserved = true
  · simp only [held, reduceIte, post_pure]
    exact ⟨⟨sound, tracks, .refl t⟩, fun x at_i => (Option.some.inj (found.symm.trans at_i)) ▸ held,
      fun _ _ => trivial⟩
  simp only [held, Bool.false_eq_true, reduceIte, post_bind]
  rw [post_applied sound product placed (by decide)]
  -- the line is marked reserved and saved once the log holds its reservation
  have saving : ∀ l', l'.Sound → l'.Tracks t → 0 < t.reservations l'.book.log line.product line.variant →
      Post (save call (t.setLine i { line with reserved := true })) l'
        (fun _ l'' => (l''.Sound ∧ l''.Tracks (t.setLine i { line with reserved := true }) ∧
          t.Frame (t.setLine i { line with reserved := true })) ∧
          (∀ x, (t.setLine i { line with reserved := true }).lines[i]? = some x → x.reserved = true) ∧
          ∀ j ≠ i, (t.setLine i { line with reserved := true }).lines[j]? = t.lines[j]?)
        (fun _ l'' => l''.Sound) := by
    intro l' sound' tracks' backed
    refine (post_save_tracked sound' (tracks'.setReserved found true fun _ => backed)).mono
      (fun _ _ saved => ⟨⟨saved.1, saved.2, Transfer.frame_setLine found rfl⟩, fun x at_i => ?_,
        fun j other => Transfer.setLine_getElem?_ne other⟩) fun _ _ kept => kept
    rw [Transfer.setLine_getElem?_self found, Option.some.injEq] at at_i
    rw [← at_i]
  split
  · rename_i absent
    have free :
        t.reservations l.book.log line.product line.variant ≤ t.releases l.book.log line.product line.variant := by
      simpa [Transfer.reservations, Transfer.releases] using absent
    simp only [post_bind, post_attempt, post_pure]
    refine (post_lineMove (P := fun mv => mv.kind = .reserved) sound fun _ _ _ applied => ?_).mono ?_ ?_
    · obtain ⟨mv, filed, kind, -⟩ := Move.apply_reserve _ applied
      exact ⟨mv, filed, kind⟩
    · rintro _ l' ⟨mv, kind, ext⟩
      obtain ⟨sound', tracks'⟩ := sound.extend_reservation tracks ext (by simp) (Ledger.filed_key _ _ _)
        (by simp [kind]) free
      refine saving l' sound' tracks' ?_
      rw [ext.log, Transfer.reservations_append_self (by simp) (Ledger.filed_key _ _ _) (by simp [kind])]
      exact Nat.succ_pos _
    · rintro e l' rfl
      refine (post_releaseAll sound tracks).mono ?_ fun _ _ kept => kept
      rintro ⟨u, errs⟩ l'' ⟨sound'', tracks'', -⟩
      exact (post_save_tracked sound'' tracks'').mono (fun _ _ saved => saved.1) fun _ _ kept => kept
  · rename_i present
    have holding :
        t.releases l.book.log line.product line.variant < t.reservations l.book.log line.product line.variant := by
      simpa [Transfer.reservations, Transfer.releases] using present
    simp only [post_bind, post_pure]
    exact saving l sound tracks (Nat.lt_of_le_of_lt (Nat.zero_le _) holding)

/-- A pass over the lines of a copy that settles line `i` at step `i`, changing no other
line and keeping `R`, leaves every line it passed settled. -/
theorem post_lines_settled {f : Transfer → Nat → Run Transfer} {R : Transfer → Ledger → Prop}
    {S : TransferLine → Prop} {err : Failure → Ledger → Prop} (n : Nat) (start : R t l)
    (step : ∀ i < n, ∀ u l', R u l' → Post (f u i) l'
      (fun u' l'' => R u' l'' ∧ (∀ x, u'.lines[i]? = some x → S x) ∧
        ∀ j ≠ i, u'.lines[j]? = u.lines[j]?) err) :
    Post ((List.range n).foldlM f t) l (fun u l' => R u l' ∧ ∀ j < n, ∀ x, u.lines[j]? = some x → S x) err :=
  post_foldlM_range n f (fun k u l' => R u l' ∧ ∀ j < k, ∀ x, u.lines[j]? = some x → S x)
    ⟨start, fun j below => absurd below (Nat.not_lt_zero j)⟩
    fun i below u l' ⟨kept, settled⟩ => (step i below u l' kept).mono
      (fun _ _ ⟨kept', here, others⟩ => ⟨kept', fun j below' x found => by
        by_cases same : j = i
        · exact here x (same ▸ found)
        · rw [others j same] at found
          exact settled j (by omega) x found⟩)
      fun _ _ failed => failed

theorem forall_lines_of_settled {S : TransferLine → Prop}
    (settled : ∀ j < t.lines.length, ∀ x, t.lines[j]? = some x → S x) : ∀ x ∈ t.lines, S x := by
  intro x member
  obtain ⟨j, found⟩ := List.mem_iff_getElem?.mp member
  exact settled j (List.getElem?_eq_some_iff.mp found).1 x found

theorem post_start (sound : l.Sound) (tracks : l.Tracks t) :
    Post (start call t) l (fun t' l' => l'.Sound ∧ l'.Tracks t' ∧ t'.status = .inProgress)
      (fun _ l' => l'.Sound) := by
  have reserving : Post ((List.range t.lines.length).foldlM (startLine call) t) l
      (fun u l' => (l'.Sound ∧ l'.Tracks u ∧ t.Frame u) ∧
        ∀ j < t.lines.length, ∀ x, u.lines[j]? = some x → x.reserved = true) (fun _ l' => l'.Sound) :=
    post_lines_settled t.lines.length ⟨sound, tracks, .refl t⟩ fun i _ u l' ⟨sound', tracks', frame⟩ =>
      (post_startLine sound' tracks' i).mono
        (fun _ _ ⟨⟨sound'', tracks'', frame'⟩, settled⟩ =>
          ⟨⟨sound'', tracks'', frame.trans frame'⟩, settled⟩)
        fun _ _ kept => kept
  unfold start
  rw [post_bind]
  refine reserving.mono ?_ fun _ _ kept => kept
  rintro u l' ⟨⟨sound', tracks', frame⟩, flagged⟩
  obtain ⟨s, stored, frame'⟩ := tracks'.stored
  -- every line is flagged, so the log holds a reservation of each
  have reserved : ∀ line ∈ u.lines, 0 < u.reservations l'.book.log line.product line.variant :=
    fun line member =>
      tracks'.reserves.flagged line member (forall_lines_of_settled (frame.length_eq ▸ flagged) line member)
  rw [post_bind]
  refine (post_save sound' ?_ (tracks'.fits.setStatus .inProgress u.arrivedAt (by simp) (by simp))
    (tracks'.reserves.setStatus .inProgress u.arrivedAt fun _ => reserved)).mono ?_ fun _ _ kept => kept
  · exact ⟨s, stored, frame'.id⟩
  · intro _ l'' saved
    exact ⟨saved.1, saved.2, rfl⟩

/-- One side of a line from what its steps need: `Q` of the copy when there is nothing to
do, soundness and the copy tracked once the side's entry is logged, and `Q` of the
journaled copy once it is saved with the side in the log. -/
theorem post_sideLine {progress : TransferLine → Int64} {finished : TransferLine → TransferLine}
    {location : String} {side : AdjustmentKind} {move : Int64 → Move} {reason : String}
    {P : TransferLine → Movement → Prop} {Q : Transfer → Ledger → Prop} {i : Nat}
    (sound : l.Sound) (tracks : l.Tracks t) (placed : location ≠ "") (counted : side ≠ noUndo)
    (idle : (∀ line, t.lines[i]? = some line → line.quantity ≤ progress line) → Q t l)
    (reports : ∀ line, t.lines[i]? = some line → ∀ w w' mv?, (move line.quantity).apply w = .ok (w', mv?) →
      ∃ mv, mv? = some mv ∧ mv.kind = side ∧ P line mv)
    (logged : ∀ line, t.lines[i]? = some line → progress line < line.quantity →
      tally l.book.log (Transfer.reference t.id) ⟨line.product, line.variant, location⟩ side = 0 →
      ∀ mv l', mv.kind = side → P line mv →
        l.Extends l' (l.filed ⟨line.product, line.variant, location⟩
          (Stock.noted call (move line.quantity) { reference := Transfer.reference t.id, reason } mv)) →
        l'.Sound ∧ l'.Tracks t)
    (marked : ∀ line, t.lines[i]? = some line → progress line < line.quantity →
      ∀ l', l'.Sound → l'.Tracks t →
      0 < tally l'.book.log (Transfer.reference t.id) ⟨line.product, line.variant, location⟩ side →
      Post (save call (t.setLine i (finished line))) l' (fun _ => Q (t.setLine i (finished line)))
        (fun _ l'' => l''.Sound)) :
    Post (sideLine call progress finished location side move reason t i) l Q (fun _ l' => l'.Sound) := by
  unfold sideLine
  rcases found : t.lines[i]? with _ | line
  · exact idle fun _ present => by simp [found] at present
  have product := tracks.fits.named line (List.mem_of_getElem? found)
  dsimp -zeta only
  split
  · rename_i behind
    rw [post_bind, post_applied_side sound product placed counted]
    extract_lets journaled mark
    have marking : ∀ l', l'.Sound → l'.Tracks t →
        0 < tally l'.book.log (Transfer.reference t.id) ⟨line.product, line.variant, location⟩ side →
        Post (mark ()) l' Q fun _ l'' => l''.Sound := by
      intro l' sound' tracks' happened
      simp only [mark, journaled, post_bind, post_pure]
      exact marked line found behind l' sound' tracks' happened
    split
    · rename_i absent
      rw [post_bind]
      refine (post_lineMove sound (reports line found)).mono ?_ fun _ _ unchanged => unchanged ▸ sound
      rintro _ l' ⟨mv, ⟨kind, holds⟩, ext⟩
      have fresh : tally l.book.log (Transfer.reference t.id) ⟨line.product, line.variant, location⟩ side = 0 := by
        simpa using absent
      obtain ⟨sound', tracks'⟩ := logged line found behind fresh mv l' kind holds ext
      refine marking l' sound' tracks' ?_
      rw [ext.log, tally_append_same _ _ _ _ _ ⟨by simp, by simp, by simp [kind]⟩]
      omega
    · rename_i present
      exact marking l sound tracks (Nat.pos_of_ne_zero (by simpa using present))
  · rename_i ahead
    exact idle fun line' found' => by
      rw [found] at found'
      cases found'
      exact Int64.not_lt.mp ahead

theorem post_shipSide (sound : l.Sound) (tracks : l.Tracks t) (moving : t.status = .inProgress) (i : Nat) :
    Post (sideLine call (·.shipped) (fun line => { line with shipped := line.quantity }) t.source .shipped
        .ship "Shipped for transfer" t i) l
      (fun t' l' => l'.Sound ∧ l'.Tracks t' ∧ t.Frame t' ∧
        (∀ x, t'.lines[i]? = some x → x.quantity ≤ x.shipped) ∧ ∀ j ≠ i, t'.lines[j]? = t.lines[j]?)
      (fun _ l' => l'.Sound) := by
  refine post_sideLine (P := fun line mv => mv.delta = Quantity.drawn mv.previous line.quantity) sound tracks
    tracks.fits.placed.1 (by decide) (fun ahead => ⟨sound, tracks, .refl t, ahead, fun _ _ => rfl⟩) ?_ ?_ ?_
  · intro line _ w w' mv? applied
    exact Move.apply_ship _ applied
  · intro line found _ fresh mv l' kind amount ext
    exact sound.extend_shipment tracks ext (List.mem_of_getElem? found) (by simp) moving
      fresh (by simp) (by simp [kind]) (by simp [amount])
  · intro line found _ l' sound' tracks' happened
    have member := List.mem_of_getElem? found
    obtain ⟨settled, -, received⟩ := tracks'.fits.journal line member
    have fits := tracks'.fits.setLine found { line with shipped := line.quantity } rfl
      ⟨settled, fun _ => happened, received⟩
      fun done => absurd (moving.symm.trans done) (by decide)
    refine (post_save_tracked sound' (tracks'.setMoved found _ _ fits)).mono ?_ fun _ _ kept => kept
    intro _ l'' ⟨sound'', tracks''⟩
    refine ⟨sound'', tracks'', Transfer.frame_setLine found rfl, fun x at_i => ?_,
      fun j other => Transfer.setLine_getElem?_ne other⟩
    rw [Transfer.setLine_getElem?_self found, Option.some.injEq] at at_i
    rw [← at_i]
    exact Int64.le_refl _

theorem post_receiveSide (sound : l.Sound) (tracks : l.Tracks t) (moving : t.status = .inProgress) {i : Nat}
    (shipped : ∀ x, t.lines[i]? = some x → x.quantity ≤ x.shipped) :
    Post (sideLine call (·.received) (fun line => { line with received := line.quantity }) t.destination
        .received .receive "Received from transfer" t i) l
      (fun t' l' => l'.Sound ∧ l'.Tracks t' ∧ t.Frame t' ∧ (∀ x, t'.lines[i]? = some x → x.Arrived) ∧
        ∀ j ≠ i, t'.lines[j]? = t.lines[j]?)
      (fun _ l' => l'.Sound) := by
  refine post_sideLine (P := fun line mv => mv.delta = Quantity.added mv.previous line.quantity) sound tracks
    tracks.fits.placed.2 (by decide)
    (fun ahead => ⟨sound, tracks, .refl t, fun x at_i => ⟨shipped x at_i, ahead x at_i⟩, fun _ _ => rfl⟩)
    ?_ ?_ ?_
  · intro line _ w w' mv? applied
    exact Move.apply_receive _ applied
  · intro line found behind fresh mv l' kind amount ext
    have member := List.mem_of_getElem? found
    obtain ⟨settled, left, -⟩ := tracks.fits.journal line member
    -- the line is behind on arrivals, so its quantity and its journaled shipment are positive
    have sent : 0 < line.shipped := by
      have := Int64.le_iff_toInt_le.mp (shipped line found)
      have := Int64.lt_iff_toInt_lt.mp behind
      have := Int64.le_iff_toInt_le.mp settled
      exact Int64.lt_iff_toInt_lt.mpr (by simp at *; omega)
    exact sound.extend_receipt tracks ext member (by simp) (by rw [moving]; decide) fresh (left sent)
      (by simp) (by simp [kind]) (by simp [amount])
  · intro line found behind l' sound' tracks' happened
    have member := List.mem_of_getElem? found
    obtain ⟨settled, left, -⟩ := tracks'.fits.journal line member
    have positive : 0 ≤ line.quantity := by
      have := Int64.lt_iff_toInt_lt.mp behind
      have := Int64.le_iff_toInt_le.mp settled
      exact Int64.le_iff_toInt_le.mpr (by simp at *; omega)
    have fits := tracks'.fits.setLine found { line with received := line.quantity } rfl
      ⟨positive, left, fun _ => happened⟩
      fun done => absurd (moving.symm.trans done) (by decide)
    refine (post_save_tracked sound' (tracks'.setMoved found _ _ fits)).mono ?_ fun _ _ kept => kept
    intro _ l'' ⟨sound'', tracks''⟩
    refine ⟨sound'', tracks'', Transfer.frame_setLine found rfl, fun x at_i => ?_,
      fun j other => Transfer.setLine_getElem?_ne other⟩
    rw [Transfer.setLine_getElem?_self found, Option.some.injEq] at at_i
    rw [← at_i]
    exact ⟨shipped line found, Int64.le_refl _⟩

theorem post_finishLine (sound : l.Sound) (tracks : l.Tracks t) (moving : t.status = .inProgress) (i : Nat) :
    Post (finishLine call t i) l
      (fun t' l' => l'.Sound ∧ l'.Tracks t' ∧ t.Frame t' ∧ (∀ x, t'.lines[i]? = some x → x.Arrived) ∧
        ∀ j ≠ i, t'.lines[j]? = t.lines[j]?)
      (fun _ l' => l'.Sound) := by
  unfold finishLine
  refine post_bind_of _ (post_shipSide sound tracks moving i) ?_
  rintro u l' ⟨sound', tracks', frame, shipped, others⟩
  refine (post_receiveSide sound' tracks' (frame.status.symm.trans moving) shipped).mono ?_ fun _ _ kept => kept
  rintro u' l'' ⟨sound'', tracks'', frame', arrived, others'⟩
  exact ⟨sound'', tracks'', frame.trans frame', arrived,
    fun j other => (others' j other).trans (others j other)⟩


/-- Finishing a copy in progress keeps the ledger sound, whatever fails on the way; the
copy it stores at the end is completed with every line arrived. -/
theorem post_finish (sound : l.Sound) (tracks : l.Tracks t) (moving : t.status = .inProgress) :
    Post (finish call t) l (fun _ l' => l'.Sound) (fun _ l' => l'.Sound) := by
  -- the loop invariant: the lines passed so far have arrived
  have finishing : Post ((List.range t.lines.length).foldlM (finishLine call) t) l
      (fun u l' => (l'.Sound ∧ l'.Tracks u ∧ t.Frame u) ∧
        ∀ j < t.lines.length, ∀ x, u.lines[j]? = some x → x.Arrived) (fun _ l' => l'.Sound) :=
    post_lines_settled t.lines.length ⟨sound, tracks, .refl t⟩ fun i _ u l' ⟨sound', tracks', frame⟩ =>
      (post_finishLine sound' tracks' (frame.status.symm.trans moving) i).mono
        (fun _ _ ⟨sound'', tracks'', frame', here, others⟩ =>
          ⟨⟨sound'', tracks'', frame.trans frame'⟩, here, others⟩)
        fun _ _ kept => kept
  unfold finish
  rw [post_bind]
  refine finishing.mono ?_ fun _ _ kept => kept
  rintro u l' ⟨⟨sound', tracks', frame⟩, arrived⟩
  obtain ⟨s, stored, frame'⟩ := tracks'.stored
  simp only [post_bind, post_now]
  refine (post_save sound' ?_ (tracks'.fits.setStatus .completed (some l'.clock) (by simp)
    fun _ => forall_lines_of_settled (frame.length_eq ▸ arrived))
    (tracks'.reserves.setStatus .completed (some l'.clock) fun moving => absurd moving (by decide))).mono
    (fun _ _ saved => saved.1) fun _ _ kept => kept
  exact ⟨s, stored, frame'.id⟩

theorem post_unwindLine (sound : l.Sound) (tracks : l.Tracks t) (open_ : t.status ≠ .completed) (i : Nat) :
    Post (unwindLine call t i) l (fun t' l' => l'.Sound ∧ l'.Tracks t' ∧ t.Frame t') (fun _ l' => l'.Sound) := by
  unfold unwindLine
  rcases found : t.lines[i]? with _ | line
  · exact ⟨sound, tracks, .refl t⟩
  have member := List.mem_of_getElem? found
  have product := tracks.fits.named line member
  dsimp -zeta only
  rw [post_bind, post_applied_side sound product tracks.fits.placed.1 (by decide)]
  split
  · exact ⟨sound, tracks, .refl t⟩
  rename_i left
  rw [post_bind, post_applied_side sound product tracks.fits.placed.2 (by decide)]
  split
  · exact ⟨sound, tracks, .refl t⟩
  rename_i absent
  rw [post_bind, post_applied_side sound product tracks.fits.placed.1 (by decide)]
  extract_lets cleared mark
  -- the line is journaled as not shipped once the log holds its return
  have marking : ∀ l', l'.Sound → l'.Tracks t →
      Post (mark ()) l' (fun t' l'' => l''.Sound ∧ l''.Tracks t' ∧ t.Frame t') fun _ l'' => l''.Sound := by
    intro l' sound' tracks'
    simp only [mark, cleared, post_bind, post_pure]
    obtain ⟨settled, -, received⟩ := tracks'.fits.journal line member
    have fits := tracks'.fits.setLine found { line with shipped := 0 } rfl
      ⟨settled, fun none => absurd none (show ¬ (0 : Int64) < 0 by decide), received⟩ fun done => absurd done open_
    exact (post_save_tracked sound' (tracks'.setMoved found _ _ fits)).mono
      (fun _ _ saved => ⟨saved.1, saved.2, Transfer.frame_setLine found rfl⟩) fun _ _ kept => kept
  split
  · rename_i unreturned
    rw [post_bind]
    refine (post_lineMove (P := fun mv => mv.kind = .returned) sound
      fun _ _ _ applied => Move.apply_restock _ applied).mono ?_ fun _ _ unchanged => unchanged ▸ sound
    rintro _ l' ⟨mv, kind, ext⟩
    obtain ⟨sound', tracks'⟩ := sound.extend_return tracks ext member (by simp)
      (by simpa [Transfer.returns] using unreturned) (by simpa [Transfer.receipts] using absent)
      (by simpa [Transfer.shipments, Nat.pos_iff_ne_zero] using left) (by simp) (by simp [kind])
    exact marking l' sound' tracks'
  · exact marking l sound tracks

theorem post_unwind (sound : l.Sound) (tracks : l.Tracks t) (open_ : t.status ≠ .completed) :
    Post (unwind call t) l (fun t' l' => l'.Sound ∧ l'.Tracks t' ∧ t.Frame t') (fun _ l' => l'.Sound) := by
  have unwinding : Post ((List.range t.lines.length).foldlM (unwindLine call) t) l
      (fun u l' => l'.Sound ∧ l'.Tracks u ∧ t.Frame u) (fun _ l' => l'.Sound) :=
    post_foldlM _ _ _ ⟨sound, tracks, .refl t⟩ fun i _ u l' ⟨sound', tracks', frame⟩ =>
      (post_unwindLine sound' tracks' (fun done => open_ (frame.status.trans done)) i).mono
        (fun _ _ ⟨sound'', tracks'', frame'⟩ => ⟨sound'', tracks'', frame.trans frame'⟩) fun _ _ kept => kept
  unfold unwind
  rw [post_bind]
  refine unwinding.mono ?_ fun _ _ kept => kept
  rintro u l' ⟨sound', tracks', frame⟩
  rw [post_bind]
  refine (post_releaseAll sound' tracks').mono ?_ fun _ _ kept => kept
  rintro ⟨u', errs⟩ l'' ⟨sound'', tracks'', frame'⟩
  by_cases released : errs.isEmpty = true
  · simpa [released] using ⟨sound'', tracks'', frame.trans frame'⟩
  · simpa [released] using sound''

theorem find_exec {id : String} (inMemory : l.wiring.transfers = false) :
    (TransferStore.find call id).exec l =
      match l.transfers.find? (·.id == id) with
      | some s => (.ok (TransferStore.copied s), l)
      | none => (.error (.withDetail .transferNotFound id), l) := by
  rcases found : l.transfers.find? (·.id == id) with _ | s <;>
    simp [TransferStore.find, TransferStore.onDatabase, inMemory, found]

theorem tracks_copied (sound : l.Sound) {s : Transfer} (stored : s ∈ l.transfers) :
    l.Tracks (TransferStore.copied s) :=
  have frame : s.Frame (TransferStore.copied s) := ⟨rfl, rfl, rfl, rfl, rfl⟩
  have fits := sound.fits s stored
  have reserves := sound.reserves s stored
  ⟨⟨s, stored, frame⟩, fits.reline frame fits.journal fits.completed, reserves.reline frame reserves.flagged⟩

theorem post_withTransfer_find {id : String} {body : Transfer → Run Transfer} {ok : Transfer → Ledger → Prop}
    {err : Failure → Ledger → Prop} (inMemory : l.wiring.transfers = false) (refused : ∀ e, err e l)
    (run : ∀ s, l.transfers.find? (·.id == id) = some s → Post (body (TransferStore.copied s)) l ok err) :
    Post (withTransfer call id body) l ok err := by
  unfold withTransfer
  rw [post_bind, post_lock]
  split
  · rw [post_bind, Post, find_exec inMemory]
    rcases found : l.transfers.find? (·.id == id) with _ | s
    · simpa [found] using refused _
    · simpa [found] using run s found
  · exact refused _

theorem post_withTransfer_found {id : String} {body : Transfer → Run Transfer} {ok : Transfer → Ledger → Prop}
    {err : Failure → Ledger → Prop} (inMemory : l.wiring.transfers = false) (refused : ∀ e, err e l)
    (run : ∀ s ∈ l.transfers, s.id = id → Post (body (TransferStore.copied s)) l ok err) :
    Post (withTransfer call id body) l ok err :=
  post_withTransfer_find inMemory refused fun s found =>
    run s (List.mem_of_find?_eq_some found) (by simpa using List.find?_some found)

theorem post_withTransfer {id : String} {body : Transfer → Run Transfer} {ok : Transfer → Ledger → Prop}
    (sound : l.Sound) (run : ∀ t, l.Tracks t → Post (body t) l ok fun _ l' => l'.Sound) :
    Post (withTransfer call id body) l ok fun _ l' => l'.Sound :=
  post_withTransfer_found sound.journalInMemory (fun _ => sound) fun _ stored _ =>
    run _ (tracks_copied sound stored)

theorem post_cancel (sound : l.Sound) (id : String) :
    Post (cancel call id) l (fun _ l' => l'.Sound) (fun _ l' => l'.Sound) := by
  unfold cancel
  refine post_withTransfer sound fun t tracks => ?_
  by_cases open_ : t.status.isOpen = true
  · have unfinished : t.status ≠ .completed := fun done => by rw [done] at open_; cases open_
    simp only [open_, Bool.not_true, Bool.false_eq_true, reduceIte, post_bind, post_pure]
    refine (post_unwind sound tracks unfinished).mono ?_ fun _ _ kept => kept
    rintro u l' ⟨sound', tracks', -⟩
    obtain ⟨s, stored, frame⟩ := tracks'.stored
    refine (post_save sound' ?_ (tracks'.fits.setStatus .cancelled u.arrivedAt (by simp) (by simp))
      (tracks'.reserves.setStatus .cancelled u.arrivedAt fun moving => absurd moving (by decide))).mono
      (fun _ _ saved => saved.1) fun _ _ kept => kept
    exact ⟨s, stored, frame.id⟩
  · simpa [open_] using sound

theorem post_complete (sound : l.Sound) (id : String) :
    Post (complete call id) l (fun _ l' => l'.Sound) (fun _ l' => l'.Sound) := by
  unfold complete
  refine post_withTransfer sound fun t tracks => ?_
  by_cases open_ : t.status.isOpen = true
  · simp only [open_, Bool.not_true, Bool.false_eq_true, reduceIte]
    by_cases pending : t.status = .pending
    · simp only [pending, beq_self_eq_true, reduceIte, post_bind]
      refine (post_start sound tracks).mono ?_ fun _ _ kept => kept
      rintro u l' ⟨sound', tracks', moving⟩
      exact post_finish sound' tracks' moving
    · have moving : t.status = .inProgress := by
        revert open_ pending
        cases t.status <;> simp [TransferStatus.isOpen]
      simp only [moving]
      exact post_finish sound tracks moving
  · simpa [open_] using sound

theorem post_startTransfer (sound : l.Sound) (id : String) :
    Post (startTransfer call id) l (fun _ l' => l'.Sound) (fun _ l' => l'.Sound) := by
  unfold startTransfer
  refine post_withTransfer sound fun t tracks => ?_
  by_cases pending : t.status = .pending
  · simp only [pending, bne_self_eq_false, Bool.false_eq_true, reduceIte]
    exact (post_start sound tracks).mono (fun _ _ started => started.1) fun _ _ kept => kept
  · simpa [pending] using sound

theorem post_addLine (sound : l.Sound) (id : String) (r : LineRequest) :
    Post (addLine call id r) l (fun _ l' => l'.Sound) (fun _ l' => l'.Sound) := by
  unfold addLine
  rw [post_bind, post_check]
  rcases checked : r.check with e | ⟨⟩
  · exact sound
  have product : r.product ≠ "" := by
    intro empty
    simp [LineRequest.check, empty] at checked
  refine post_withTransfer sound fun t tracks => ?_
  by_cases pending : t.status = .pending
  · have allowed : (t.status != .pending) = false := by simp [pending]
    simp only [allowed, Bool.false_eq_true, reduceIte, post_bind, post_pure]
    obtain ⟨s, stored, frame⟩ := tracks.stored
    have fits := tracks.fits
    refine (post_save sound ?_ (fits.setLines _ pending ?_ (TransferLine.nodup_merge r fits.distinctLines) ?_)
      (tracks.reserves.setLines _ pending ?_)).mono (fun _ _ saved => saved.1) fun _ _ kept => kept
    · exact ⟨s, stored, frame.id⟩
    · intro x member
      rcases TransferLine.mem_merge member with ⟨y, old, same, -⟩ | rfl
      · rw [same]
        exact fits.named y old
      · exact product
    · intro x member
      rcases TransferLine.mem_merge member with ⟨y, old, productEq, variantEq, shippedEq, receivedEq, -⟩ | rfl
      · rw [productEq, variantEq, shippedEq, receivedEq]
        exact fits.journal y old
      · exact ⟨show (0 : Int64) ≤ 0 by decide, fun none => absurd none (show ¬ (0 : Int64) < 0 by decide),
          fun none => absurd none (show ¬ (0 : Int64) < 0 by decide)⟩
    · -- a merged line keeps the flag of the line it grew, and a new line is unflagged
      intro x member
      rcases TransferLine.mem_merge member with ⟨y, old, productEq, variantEq, -, -, reservedEq⟩ | rfl
      · rw [productEq, variantEq, reservedEq]
        exact tracks.reserves.flagged y old
      · exact fun flag => absurd flag Bool.false_ne_true
  · simpa [pending] using sound

theorem places_find_exec {id : String} (inMemory : l.wiring.locations = false) :
    (Places.find call id).exec l = (l.registry.find id, l) := by
  simp [Places.find, LocationStore.find, LocationStore.onDatabase, inMemory]

theorem post_places_find {id : String} {ok : Location → Ledger → Prop} {err : Failure → Ledger → Prop}
    (inMemory : l.wiring.locations = false) :
    Post (Places.find call id) l ok err ↔ match l.registry.find id with
      | .ok a => ok a l
      | .error e => err e l := by
  rw [Post, places_find_exec inMemory]
  cases l.registry.find id <;> rfl

theorem create_exec (inMemory : l.wiring.transfers = false) :
    (TransferStore.create call t).exec l =
      if l.transfers.any (·.id == t.id) then (.error (.withDetail .transferInvalid ("duplicate id " ++ t.id)), l)
      else (.ok (), { l with transfers := l.transfers ++ [t] }) := by
  by_cases found : l.transfers.any (·.id == t.id) <;>
    simp [TransferStore.create, TransferStore.onDatabase, inMemory, found, -List.any_eq_true]

/-- Storing a new transfer keeps a sound ledger sound when the record fits once its id
is known to be new; a taken id is refused with nothing changed. -/
theorem post_insert (sound : l.Sound)
    (fits : (l.transfers.any (·.id == t.id)) = false → t.Fits l.book.log)
    (reserves : (l.transfers.any (·.id == t.id)) = false → t.Reserves l.book.log) :
    Post (TransferStore.create call t) l (fun _ l' => l'.Sound) (fun _ l' => l'.Sound) := by
  rw [Post, create_exec sound.journalInMemory]
  cases taken : l.transfers.any (·.id == t.id)
  · exact sound.insert taken (fits taken) (reserves taken)
  · exact sound

theorem post_mergeLines (requests : List LineRequest) :
    Post (requests.foldlM (fun acc r => do check r.check; return TransferLine.merge acc r) []) l
      (fun lines l' => l' = l ∧
        (∀ x ∈ lines, x.product ≠ "" ∧ x.shipped = 0 ∧ x.received = 0 ∧ x.reserved = false) ∧
        (lines.map TransferLine.pair).Nodup)
      (fun _ l' => l' = l) := by
  refine post_foldlM _ _ _ ⟨rfl, by simp, List.nodup_nil⟩ ?_
  rintro r - acc l' ⟨rfl, lines, distinct⟩
  rw [post_bind, post_check]
  rcases checked : r.check with e | ⟨⟩
  · rfl
  have product : r.product ≠ "" := by
    intro empty
    simp [LineRequest.check, empty] at checked
  refine ⟨rfl, fun x member => ?_, TransferLine.nodup_merge r distinct⟩
  rcases TransferLine.mem_merge member with ⟨y, old, productEq, -, shippedEq, receivedEq, reservedEq⟩ | rfl
  · obtain ⟨named, shipped, received, unreserved⟩ := lines y old
    exact ⟨productEq ▸ named, shippedEq ▸ shipped, receivedEq ▸ received, reservedEq ▸ unreserved⟩
  · exact ⟨product, rfl, rfl, rfl⟩

theorem post_create (sound : l.Sound) (req : TransferRequest) :
    Post (create call req) l (fun _ l' => l'.Sound) (fun _ l' => l'.Sound) := by
  unfold create
  extract_lets body guarded
  by_cases unplaced : req.source = "" ∨ req.destination = ""
  · rw [if_pos unplaced, post_bind, post_fail]
    exact sound
  rw [if_neg unplaced]
  simp only [guarded]
  by_cases same : req.source = req.destination
  · rw [if_pos same, post_bind, post_fail]
    exact sound
  rw [if_neg same]
  simp only [body, post_bind, post_places_find sound.placesInMemory]
  split
  · split
    · simp only [post_freshId, post_now]
      -- drawing the id moves only the counter
      have counted : ({ l with nextId := l.nextId + 1 } : Ledger).Sound := sound.keep ⟨rfl, rfl, rfl⟩
      refine (post_mergeLines req.lines).mono ?_ fun _ _ unchanged => unchanged ▸ counted
      rintro lines l' ⟨rfl, lined, distinct⟩
      refine (post_insert counted (fun fresh => Transfer.Fits.fresh (counted.unfiled fresh) (not_or.mp unplaced)
        (fun x member => (lined x member).1) distinct rfl
        fun x member => ⟨(lined x member).2.1, (lined x member).2.2.1⟩)
        fun fresh => Transfer.Reserves.fresh (counted.unfiled fresh) (fun x member => (lined x member).2.2.2) rfl).mono
        (fun _ _ kept => kept) fun _ _ kept => kept
    · exact sound
  · exact sound

theorem all_exec (inMemory : l.wiring.transfers = false) (q : TransferQuery) :
    (TransferStore.all call q).exec l = (.ok ((l.transfers.filter q.admits).map TransferStore.copied), l) := by
  simp [TransferStore.all, TransferStore.onDatabase, inMemory]

theorem post_resumeOne (sound : l.Sound) (acc : Nat × List Failure) (p : Transfer) :
    Post (resumeOne call acc p) l (fun _ l' => l'.Sound) (fun _ l' => l'.Sound) := by
  obtain ⟨n, errs⟩ := acc
  simp only [resumeOne, post_bind, post_attempt, post_pure]
  refine post_withTransfer sound fun t tracks => ?_
  by_cases moving : t.status = .inProgress
  · have due : (t.status != .inProgress) = false := by simp [moving]
    simp only [due, Bool.false_eq_true, reduceIte]
    exact post_finish sound tracks moving
  · simpa [moving] using sound

theorem post_resume (sound : l.Sound) :
    Post (resume call) l (fun _ l' => l'.Sound) (fun _ l' => l'.Sound) := by
  unfold resume
  rw [post_bind]
  refine post_of_exec (all_exec sound.journalInMemory _) ?_
  exact post_foldlM _ _ (fun _ l' => l'.Sound) sound fun p _ acc l' sound' => post_resumeOne sound' acc p

end Transfers

end StockLedger
