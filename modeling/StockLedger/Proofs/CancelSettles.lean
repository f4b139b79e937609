import StockLedger.Proofs.TransferLifecycle

/-!
What a cancel that succeeds leaves behind. Undoing a transfer logs only returns and
releases, so what the log says of a line's shipment and reservation cannot come back
once undone: `UndoneBy log log'` says `log'` is `log` followed by such entries. The
unwinding pass leaves each line it passes never shipped, arrived or returned
(`Transfer.Returned`); the release pass leaves each line it releases without a failure
shipped or holding no reservation (`Transfer.Released`); and a cancel succeeds only when
neither pass failed.
-/

namespace StockLedger

/-- `log'` is `log` followed by returns and releases only. -/
def UndoneBy (log log' : List Adjustment) : Prop :=
  ∃ extra, log' = log ++ extra ∧ ∀ e ∈ extra, e.kind = .returned ∨ e.kind = .unreserved

namespace UndoneBy

variable {log log' log'' : List Adjustment}

theorem refl (log : List Adjustment) : UndoneBy log log := ⟨[], by simp, by simp⟩

theorem trans (first : UndoneBy log log') (second : UndoneBy log' log'') : UndoneBy log log'' := by
  obtain ⟨extra, rfl, undoing⟩ := first
  obtain ⟨extra', rfl, undoing'⟩ := second
  refine ⟨extra ++ extra', by simp, fun e member => ?_⟩
  rcases List.mem_append.mp member with old | new
  · exact undoing e old
  · exact undoing' e new

theorem single {e : Adjustment} (kind : e.kind = .returned ∨ e.kind = .unreserved) : UndoneBy log (log ++ [e]) :=
  ⟨[e], rfl, fun _ member => List.mem_singleton.mp member ▸ kind⟩

theorem tally_eq (undone : UndoneBy log log') {ref : String} {key : StockKey} {kind : AdjustmentKind}
    (returned : kind ≠ .returned) (released : kind ≠ .unreserved) :
    tally log' ref key kind = tally log ref key kind := by
  obtain ⟨extra, rfl, undoing⟩ := undone
  have none : tally extra ref key kind = 0 := tally_eq_zero_of_kind extra ref key kind fun e member same => by
    rcases undoing e member with kind' | kind' <;> rw [same] at kind'
    · exact returned kind'
    · exact released kind'
  rw [tally_append, none, Nat.add_zero]

theorem tally_le (undone : UndoneBy log log') (ref : String) (key : StockKey) (kind : AdjustmentKind) :
    tally log ref key kind ≤ tally log' ref key kind := by
  obtain ⟨extra, rfl, -⟩ := undone
  exact tally_le_append _ _ _ _ extra

end UndoneBy

namespace Transfer

variable {log log' : List Adjustment} {t u : Transfer} {p v : String}

/-- The source holds no reservation of `t` for the product variant, unless it shipped. -/
def Released (log : List Adjustment) (t : Transfer) (p v : String) : Prop :=
  0 < t.shipments log p v ∨ t.reservations log p v ≤ t.releases log p v

/-- A shipment of the product variant of `t` arrived or came back. -/
def Returned (log : List Adjustment) (t : Transfer) (p v : String) : Prop :=
  0 < t.shipments log p v → 0 < t.receipts log p v ∨ 0 < t.returns log p v

theorem shipments_undone (undone : UndoneBy log log') : t.shipments log' p v = t.shipments log p v :=
  undone.tally_eq (by decide) (by decide)

theorem Released.undo (released : t.Released log p v) (undone : UndoneBy log log') : t.Released log' p v := by
  rcases released with shipped | free
  · exact .inl (shipments_undone undone ▸ shipped)
  · refine .inr ?_
    calc t.reservations log' p v = t.reservations log p v := undone.tally_eq (by decide) (by decide)
      _ ≤ t.releases log p v := free
      _ ≤ t.releases log' p v := undone.tally_le _ _ _

theorem Returned.undo (returned : t.Returned log p v) (undone : UndoneBy log log') : t.Returned log' p v := by
  intro shipped
  rcases returned (shipments_undone undone ▸ shipped) with received | back
  · exact .inl (Nat.lt_of_lt_of_le received (undone.tally_le _ _ _))
  · exact .inr (Nat.lt_of_lt_of_le back (undone.tally_le _ _ _))

theorem Released.of_frame (frame : u.Frame t) (released : t.Released log p v) : u.Released log p v := by
  unfold Released
  rw [frame.shipments_eq, frame.reservations_eq, frame.releases_eq]
  exact released

theorem Returned.of_frame (frame : u.Frame t) (returned : t.Returned log p v) : u.Returned log p v := by
  unfold Returned
  rw [frame.shipments_eq, frame.receipts_eq, frame.returns_eq]
  exact returned

/-- The line at an index of a framed record has the same shape. -/
theorem Frame.getElem?_shape (frame : u.Frame t) {i : Nat} {line : TransferLine} (found : u.lines[i]? = some line) :
    ∃ line', t.lines[i]? = some line' ∧ line'.shape = line.shape := by
  have shaped := congrArg (·[i]?) frame.shapes
  simp only [List.getElem?_map, found, Option.map_some] at shaped
  rcases found' : t.lines[i]? with _ | line'
  · rw [found'] at shaped
    cases shaped
  · rw [found', Option.map_some, Option.some.injEq] at shaped
    exact ⟨line', rfl, shaped.symm⟩

/-- The line at an index of a framed record moves the same product variant. -/
theorem Frame.getElem? (frame : u.Frame t) {i : Nat} {line : TransferLine} (found : u.lines[i]? = some line) :
    ∃ line', t.lines[i]? = some line' ∧ line'.product = line.product ∧ line'.variant = line.variant := by
  obtain ⟨line', found', shaped⟩ := frame.getElem?_shape found
  simp only [TransferLine.shape, Prod.mk.injEq] at shaped
  exact ⟨line', found', shaped.1, shaped.2.1⟩

end Transfer

namespace Transfers

open Run Transfer

variable {l : Ledger} {u : Transfer} {call : Call}

/-- Releasing one line logs at most its release, and leaves it released unless the
release failed, in which case the failure is collected. -/
theorem post_releaseLine_settles (sound : l.Sound) (tracks : l.Tracks u) (errs : List Failure) (i : Nat) :
    Post (releaseLine call (u, errs) i) l
      (fun r l' => UndoneBy l.book.log l'.book.log ∧ (∃ more, r.2 = errs ++ more) ∧
        (r.2 = errs → ∀ line, u.lines[i]? = some line → u.Released l'.book.log line.product line.variant))
      (fun _ _ => True) := by
  simp only [releaseLine]
  rcases found : u.lines[i]? with _ | line
  · exact ⟨.refl _, ⟨[], by simp⟩, fun _ _ absent => by cases absent⟩
  have member := List.mem_of_getElem? found
  have product := tracks.fits.named line member
  have settled : ∀ l' : Ledger, UndoneBy l.book.log l'.book.log → u.Released l'.book.log line.product line.variant →
      UndoneBy l.book.log l'.book.log ∧ (∃ more, errs = errs ++ more) ∧
        (errs = errs → ∀ x, some line = some x → u.Released l'.book.log x.product x.variant) :=
    fun _ undone released => ⟨undone, ⟨[], by simp⟩, fun _ _ same => Option.some.inj same ▸ released⟩
  simp only [post_bind, post_attempt]
  rw [post_applied_side sound product tracks.fits.placed.1 (by decide)]
  by_cases shipped : 0 < tally l.book.log (Transfer.reference u.id) ⟨line.product, line.variant, u.source⟩ .shipped
  · simpa [shipped] using settled l (.refl _) (.inl shipped)
  simp only [shipped, decide_false, post_bind, post_attempt]
  rw [post_applied sound product tracks.fits.placed.1 (by decide)]
  split
  · rename_i held
    have holding : u.releases l.book.log line.product line.variant < u.reservations l.book.log line.product line.variant :=
      of_decide_eq_true held
    simp only [post_bind, post_attempt]
    refine (post_lineMove (P := fun mv => mv.kind = .unreserved) sound
      fun _ _ _ applied => Move.apply_release _ applied).mono ?_ ?_
    · rintro _ l' ⟨mv, kind, ext⟩
      -- the release just logged matches the one reservation the line could hold
      have undone : UndoneBy l.book.log l'.book.log := ext.log ▸ .single (.inr (by simp [kind]))
      have bounded := ((tracks.reserves.whole) line.product line.variant).2
      have released : u.releases l'.book.log line.product line.variant =
          u.releases l.book.log line.product line.variant + 1 := by
        rw [ext.log]
        exact releases_append_self (by simp) (Ledger.filed_key _ _ _) (by simp [kind])
      have reserved : u.reservations l'.book.log line.product line.variant =
          u.reservations l.book.log line.product line.variant := undone.tally_eq (by decide) (by decide)
      simpa using settled l' undone (.inr (by omega))
    · rintro e l' rfl
      exact ⟨.refl _, ⟨[e], rfl⟩, fun same => absurd same (by simp)⟩
  · rename_i absent
    have free : u.reservations l.book.log line.product line.variant ≤ u.releases l.book.log line.product line.variant := by
      simpa [Transfer.reservations, Transfer.releases] using absent
    simpa using settled l (.refl _) (.inr free)

/-- The release pass logs only releases, and when it collects no failure, every line is
left released. -/
theorem post_releaseAll_settles (sound : l.Sound) (tracks : l.Tracks u) :
    Post (releaseAll call u) l
      (fun r l' => UndoneBy l.book.log l'.book.log ∧ (r.2 = [] → ∀ j < u.lines.length, ∀ line,
        u.lines[j]? = some line → u.Released l'.book.log line.product line.variant))
      (fun _ _ => True) := by
  -- the loop invariant: the lines passed so far are released unless a failure was collected
  have passing : Post ((List.range u.lines.length).foldlM (releaseLine call) (u, [])) l
      (fun (r : Transfer × List Failure) l' => (l'.Sound ∧ l'.Tracks r.1 ∧ u.Frame r.1) ∧ UndoneBy l.book.log l'.book.log ∧
        (r.2 = [] → ∀ j < u.lines.length, ∀ line,
          u.lines[j]? = some line → u.Released l'.book.log line.product line.variant))
      (fun _ _ => True) := by
    refine post_foldlM_range _ _ (fun k (r : Transfer × List Failure) l' => (l'.Sound ∧ l'.Tracks r.1 ∧ u.Frame r.1) ∧
        UndoneBy l.book.log l'.book.log ∧ (r.2 = [] → ∀ j < k, ∀ line,
          u.lines[j]? = some line → u.Released l'.book.log line.product line.variant))
      ⟨⟨sound, tracks, .refl u⟩, .refl _, fun _ j below => absurd below (Nat.not_lt_zero j)⟩ ?_
    rintro i - ⟨w, errs⟩ l' ⟨⟨sound', tracks', frame⟩, undone, settled⟩
    refine ((post_releaseLine sound' tracks' errs i).and (post_releaseLine_settles sound' tracks' errs i)).mono
      ?_ fun _ _ _ => trivial
    rintro ⟨w', errs'⟩ l'' ⟨⟨sound'', tracks'', frame'⟩, undone', ⟨more, grew⟩, here⟩
    refine ⟨⟨sound'', tracks'', frame.trans frame'⟩, undone.trans undone', fun none j below line found => ?_⟩
    -- no failure at the end means none before this step and none at it
    obtain ⟨before, quiet⟩ := List.append_eq_nil_iff.mp (grew ▸ none)
    by_cases current : j = i
    · subst current
      obtain ⟨line', found', product, variant⟩ := frame.getElem? found
      have released := here (by simpa [quiet] using grew) line' found'
      rw [product, variant] at released
      exact released.of_frame frame
    · exact (settled before j (by omega) line found).undo undone'
  unfold releaseAll
  exact passing.mono (fun _ _ passed => passed.2) fun _ _ _ => trivial

/-- Undoing one line logs at most its return, and leaves it never shipped, arrived or
returned, when it goes through. -/
theorem post_unwindLine_settles (sound : l.Sound) (tracks : l.Tracks u) (i : Nat) :
    Post (unwindLine call u i) l
      (fun _ l' => UndoneBy l.book.log l'.book.log ∧
        ∀ line, u.lines[i]? = some line → u.Returned l'.book.log line.product line.variant)
      (fun _ _ => True) := by
  unfold unwindLine
  rcases found : u.lines[i]? with _ | line
  · exact ⟨.refl _, fun _ absent => by cases absent⟩
  have product := tracks.fits.named line (List.mem_of_getElem? found)
  have settled : ∀ l' : Ledger, UndoneBy l.book.log l'.book.log → u.Returned l'.book.log line.product line.variant →
      UndoneBy l.book.log l'.book.log ∧ ∀ x, some line = some x → u.Returned l'.book.log x.product x.variant :=
    fun _ undone back => ⟨undone, fun _ same => Option.some.inj same ▸ back⟩
  dsimp -zeta only
  rw [post_bind, post_applied_side sound product tracks.fits.placed.1 (by decide)]
  split
  · rename_i unshipped
    have none : u.shipments l.book.log line.product line.variant = 0 := by
      simpa [Transfer.shipments] using unshipped
    exact settled l (.refl _) fun shipped => absurd shipped (by omega)
  rw [post_bind, post_applied_side sound product tracks.fits.placed.2 (by decide)]
  split
  · rename_i arrived
    exact settled l (.refl _) fun _ => .inl (by simpa [Transfer.receipts] using arrived)
  rw [post_bind, post_applied_side sound product tracks.fits.placed.1 (by decide)]
  extract_lets cleared mark
  -- the journal save after the return leaves the log as it was
  have marking : ∀ l' : Ledger, l'.wiring.transfers = false → UndoneBy l.book.log l'.book.log →
      u.Returned l'.book.log line.product line.variant →
      Post (mark ()) l' (fun _ l'' => UndoneBy l.book.log l''.book.log ∧
        ∀ x, some line = some x → u.Returned l''.book.log x.product x.variant) fun _ _ => True := by
    intro l' inMemory undone back
    simp only [mark, cleared, post_bind, post_pure]
    exact (post_save_log inMemory).mono (fun _ _ same => same ▸ settled l' undone back) fun _ _ _ => trivial
  split
  · rw [post_bind]
    refine (post_lineMove (P := fun mv => mv.kind = .returned) sound
      fun _ _ _ applied => Move.apply_restock _ applied).mono ?_ fun _ _ _ => trivial
    rintro _ l' ⟨mv, kind, ext⟩
    have undone : UndoneBy l.book.log l'.book.log := ext.log ▸ .single (.inl (by simp [kind]))
    refine marking l' (ext.wiring ▸ sound.journalInMemory) undone fun _ => .inr ?_
    rw [Transfer.returns, ext.log]
    exact tally_pos_of_mem (List.mem_append_right _ (List.mem_singleton_self _)) ⟨by simp, by simp, by simp [kind]⟩
  · rename_i back
    exact marking l sound.journalInMemory (.refl _) fun _ => .inr (Nat.pos_of_ne_zero (by simpa [Transfer.returns] using back))

/-- An unwinding that succeeds leaves every line of the copy released and never shipped,
arrived or returned. -/
theorem post_unwind_settles (sound : l.Sound) (tracks : l.Tracks u) (open_ : u.status ≠ .completed) :
    Post (unwind call u) l
      (fun _ l' => ∀ line ∈ u.lines, u.Released l'.book.log line.product line.variant ∧
        u.Returned l'.book.log line.product line.variant)
      (fun _ _ => True) := by
  -- the loop invariant: the lines passed so far are never shipped, arrived or returned
  have unwinding : Post ((List.range u.lines.length).foldlM (unwindLine call) u) l
      (fun w l' => (l'.Sound ∧ l'.Tracks w ∧ u.Frame w) ∧ UndoneBy l.book.log l'.book.log ∧
        ∀ j < u.lines.length, ∀ line, u.lines[j]? = some line → u.Returned l'.book.log line.product line.variant)
      (fun _ _ => True) := by
    refine post_foldlM_range _ _ (fun k w l' => (l'.Sound ∧ l'.Tracks w ∧ u.Frame w) ∧
        UndoneBy l.book.log l'.book.log ∧
        ∀ j < k, ∀ line, u.lines[j]? = some line → u.Returned l'.book.log line.product line.variant)
      ⟨⟨sound, tracks, .refl u⟩, .refl _, fun j below => absurd below (Nat.not_lt_zero j)⟩ ?_
    rintro i - w l' ⟨⟨sound', tracks', frame⟩, undone, returned⟩
    refine ((post_unwindLine sound' tracks' (fun done => open_ (frame.status.trans done)) i).and
      (post_unwindLine_settles sound' tracks' i)).mono ?_ fun _ _ _ => trivial
    rintro w' l'' ⟨⟨sound'', tracks'', frame'⟩, undone', here⟩
    refine ⟨⟨sound'', tracks'', frame.trans frame'⟩, undone.trans undone', fun j below line found => ?_⟩
    by_cases current : j = i
    · subst current
      obtain ⟨line', found', product, variant⟩ := frame.getElem? found
      have back := here line' found'
      rw [product, variant] at back
      exact back.of_frame frame
    · exact (returned j (by omega) line found).undo undone'
  unfold unwind
  rw [post_bind]
  refine unwinding.mono ?_ fun _ _ _ => trivial
  rintro w l' ⟨⟨sound', tracks', frame⟩, -, returned⟩
  rw [post_bind]
  refine ((post_releaseAll sound' tracks').and (post_releaseAll_settles sound' tracks')).mono ?_
    fun _ _ _ => trivial
  rintro ⟨w', errs⟩ l'' ⟨-, undone, released⟩
  by_cases none : errs.isEmpty = true
  · simp only [none, reduceIte, post_pure]
    refine forall_lines_of_settled fun j below line found => ⟨?_, (returned j below line found).undo undone⟩
    obtain ⟨line', found', product, variant⟩ := frame.getElem? found
    have settled := released (List.isEmpty_iff.mp none) j (frame.length_eq ▸ below) line' found'
    rw [product, variant] at settled
    exact settled.of_frame frame
  · simp [none]

/-- A cancel that succeeds stores the transfer cancelled with every line released and
never shipped, arrived or returned. -/
theorem post_cancel_settles (sound : l.Sound) (id : String) :
    Post (cancel call id) l
      (fun _ l' => ∃ s ∈ l'.transfers, s.id = id ∧ s.status = .cancelled ∧
        ∀ line ∈ s.lines, s.Released l'.book.log line.product line.variant ∧
          s.Returned l'.book.log line.product line.variant)
      (fun _ _ => True) := by
  unfold cancel
  refine post_withTransfer_found sound.journalInMemory (fun _ => trivial) fun s stored named => ?_
  have tracks := tracks_copied sound stored
  by_cases opened : s.status.isOpen = true
  · have unfinished : s.status ≠ .completed := fun done => by rw [done] at opened; cases opened
    simp only [Transfer.copied_status, opened, Bool.not_true, Bool.false_eq_true, reduceIte, post_bind, post_pure]
    refine ((post_unwind sound tracks unfinished).and (post_unwind_settles sound tracks unfinished)).mono ?_
      fun _ _ _ => trivial
    rintro w l' ⟨⟨sound', tracks', frame⟩, settled⟩
    obtain ⟨x, kept, frame'⟩ := tracks'.stored
    have stored' : ∃ x ∈ l'.transfers, x.id = ({ w with status := .cancelled } : Transfer).id :=
      ⟨x, kept, frame'.id⟩
    refine ((post_save sound' stored'
      (tracks'.fits.setStatus .cancelled w.arrivedAt (by simp) (by simp))
      (tracks'.reserves.setStatus .cancelled w.arrivedAt fun moving => absurd moving (by decide))).and
      (post_save_log sound'.journalInMemory)).mono ?_ fun _ _ _ => trivial
    rintro _ l'' ⟨⟨-, tracks''⟩, same⟩
    -- the stored record frames the saved copy, which moves the lines of the found one
    obtain ⟨s', stored', frame''⟩ := tracks''.stored
    refine ⟨s', stored', frame''.id.trans (frame.id.symm.trans named), frame''.status, fun line member => ?_⟩
    obtain ⟨line', member', product, variant, -⟩ := frame''.symm.line member
    obtain ⟨line'', member'', product', variant', -⟩ := frame.line member'
    obtain ⟨released, returned⟩ := settled line'' member''
    rw [product', variant', product, variant, ← same] at released returned
    exact ⟨(released.of_frame frame.symm).of_frame frame'', (returned.of_frame frame.symm).of_frame frame''⟩
  · simp [opened]

end Transfers

/-- In every session, a cancel that succeeds leaves no loose ends: the transfer is stored
cancelled; for each of its lines the source holds no reservation of it (the reservations
filed under its reference are matched by releases) unless the line shipped; a shipped line
arrived at the destination or came back to the source; and no later step files anything
under its reference. -/
theorem cancel_leaves_no_loose_ends {l : Ledger} (reached : Reachable l) (call : Call) (id : String)
    (succeeded : ((Transfers.cancel call id).exec l).1.isOk = true) :
    let l' := ((Transfers.cancel call id).exec l).2
    ∃ s ∈ l'.transfers, s.id = id ∧ s.status = .cancelled ∧
      (∀ line ∈ s.lines,
        (0 < s.shipments l'.book.log line.product line.variant ∨
          s.reservations l'.book.log line.product line.variant = s.releases l'.book.log line.product line.variant) ∧
        (0 < s.shipments l'.book.log line.product line.variant →
          0 < s.receipts l'.book.log line.product line.variant ∨ 0 < s.returns l'.book.log line.product line.variant)) ∧
      ∀ l'', Relation.ReflTransGen Step l' l'' →
        l''.book.log.filter (·.reference == some (Transfer.reference id)) =
          l'.book.log.filter (·.reference == some (Transfer.reference id)) := by
  intro l'
  obtain ⟨_, s, stored, named, cancelled, settled⟩ := (Transfers.post_cancel_settles reached.sound id).of_isOk succeeded
  have reached' : Reachable l' := reached.later (.single (.cancel l call id))
  -- no more releases than reservations, so releasing every one held balances them
  have holds := (reached'.sound.reserves s stored).whole
  refine ⟨s, stored, named, cancelled, fun line member => ?_, fun l'' run => ?_⟩
  · obtain ⟨released, returned⟩ := settled line member
    exact ⟨released.imp_right fun free => Nat.le_antisymm free (holds line.product line.variant).1, returned⟩
  · have kept := (reached'.closed_stays run stored (by rw [cancelled]; rfl)).2
    rwa [named] at kept

namespace Session

/-- The opened transfer started: its line is reserved at the main warehouse. -/
def started : Ledger := ((Transfers.startTransfer {} firstId).exec opened).2

theorem started_reachable : Reachable started := opened_reachable.later (.single (.start _ _ _))

/-- Cancelling the started transfer releases its reservation. -/
theorem started_cancel_settled :
    let l' := ((Transfers.cancel {} firstId).exec started).2
    ∃ s ∈ l'.transfers, s.id = firstId ∧ s.status = .cancelled ∧
      (∀ line ∈ s.lines,
        (0 < s.shipments l'.book.log line.product line.variant ∨
          s.reservations l'.book.log line.product line.variant = s.releases l'.book.log line.product line.variant) ∧
        (0 < s.shipments l'.book.log line.product line.variant →
          0 < s.receipts l'.book.log line.product line.variant ∨ 0 < s.returns l'.book.log line.product line.variant)) ∧
      ∀ l'', Relation.ReflTransGen Step l' l'' →
        l''.book.log.filter (·.reference == some (Transfer.reference firstId)) =
          l'.book.log.filter (·.reference == some (Transfer.reference firstId)) :=
  cancel_leaves_no_loose_ends started_reachable {} firstId (by decide +kernel)

end Session

end StockLedger
