import StockLedger.Proofs.TransferRuns

/-!
How a stored transfer changes along a session. A transfer's status moves only along
`TransferStatus.Next`: a pending transfer starts or is cancelled, one in progress completes
or is cancelled. Its lines change only while it is stored pending, and once it is stored
completed or cancelled neither its record nor the entries under its reference change.

An operation writes the store only through saves of its working copy of one transfer, so
`Ledger.Since l₀ l` collects what an operation started at `l₀` has done by `l`: each
transfer stored at `l₀` is stored at `l` as a record that `Transfer.Advances` from it, a
transfer stored only at `l` is pending, and the log has grown by entries none of which is
filed under a transfer stored closed at `l₀`. One lemma per engine function carries it
through, whatever fails on the way.
-/

namespace StockLedger

namespace TransferStatus

/-- The moves of a transfer's status. -/
inductive Next : TransferStatus → TransferStatus → Prop
  | start : Next .pending .inProgress
  | complete : Next .inProgress .completed
  | cancelPending : Next .pending .cancelled
  | cancelMoving : Next .inProgress .cancelled

theorem Next.isOpen {a b : TransferStatus} (next : Next a b) : a.isOpen = true := by
  cases next <;> rfl

/-- Nothing moves a closed status. -/
theorem eq_of_reaches_closed {a b : TransferStatus} (reaches : Relation.ReflTransGen Next a b)
    (closed : a.isOpen = false) : b = a := by
  induction reaches with
  | refl => rfl
  | tail _ next same =>
    subst same
    rw [next.isOpen] at closed
    cases closed

theorem Next.cancel {a : TransferStatus} (opened : a.isOpen = true) : Next a .cancelled := by
  cases a with
  | pending => exact .cancelPending
  | inProgress => exact .cancelMoving
  | _ => cases opened

theorem isOpen_of_reaches {a b : TransferStatus} (reaches : Relation.ReflTransGen Next a b)
    (opened : b.isOpen = true) : a.isOpen = true := by
  cases closed : a.isOpen
  · rw [eq_of_reaches_closed reaches closed, closed] at opened
    exact opened
  · rfl

end TransferStatus

open TransferStatus

namespace Transfer

/-- What one step of a session may make of a stored transfer `s`: the record `s'` stored
under its id has a status the machine reaches from `s`'s, different lines only when both
are pending, and is `s` itself when `s` is closed. -/
structure Advances (s s' : Transfer) : Prop where
  id : s'.id = s.id
  status : Relation.ReflTransGen Next s.status s'.status
  lines : s'.lines.map TransferLine.shape ≠ s.lines.map TransferLine.shape →
    s.status = .pending ∧ s'.status = .pending
  final : s.status.isOpen = false → s' = s

theorem Advances.refl (s : Transfer) : s.Advances s :=
  ⟨rfl, .refl, fun changed => absurd rfl changed, fun _ => rfl⟩

/-- A working copy the engine makes of an open transfer `s`: the same transfer moving the
same lines, at a status the machine reaches from `s`'s. -/
structure Succeeds (s u : Transfer) : Prop where
  opened : s.status.isOpen = true
  id : u.id = s.id
  shapes : u.lines.map TransferLine.shape = s.lines.map TransferLine.shape
  status : Relation.ReflTransGen Next s.status u.status

variable {s u w : Transfer}

theorem Succeeds.advances (succeeds : s.Succeeds u) : s.Advances u :=
  ⟨succeeds.id, succeeds.status, fun changed => absurd succeeds.shapes changed,
    fun closed => absurd succeeds.opened (by rw [closed]; decide)⟩

/-- A copy framed with a working copy is one too. -/
theorem Succeeds.frame (succeeds : s.Succeeds u) (frame : u.Frame w) : s.Succeeds w :=
  ⟨succeeds.opened, frame.id.symm.trans succeeds.id, frame.shapes.symm.trans succeeds.shapes,
    frame.status ▸ succeeds.status⟩

theorem Succeeds.setStatus (succeeds : s.Succeeds u) {status : TransferStatus} (next : Next u.status status)
    (arrivedAt : Option Instant) : s.Succeeds { u with status, arrivedAt } :=
  ⟨succeeds.opened, succeeds.id, succeeds.shapes, succeeds.status.tail next⟩

theorem succeeds_copied (opened : s.status.isOpen = true) : s.Succeeds (TransferStore.copied s) :=
  ⟨opened, rfl, rfl, .refl⟩

end Transfer

namespace TransferLine

/-- What a line's journal can say of one side: none of its units moved, or all of a
positive quantity. -/
def SideJournaled (moved quantity : Int64) : Prop := moved = 0 ∨ 0 < quantity ∧ moved = quantity

/-- What a line's journal can say of its units: each side journaled as it can be. -/
def Journaled (line : TransferLine) : Prop :=
  SideJournaled line.shipped line.quantity ∧ SideJournaled line.received line.quantity

namespace SideJournaled

variable {x q : Int64}

/-- A side journaled as behind its line's quantity is one of a positive quantity. -/
theorem pos_of_behind (side : SideJournaled x q) (behind : x < q) : 0 < q := by
  rcases side with rfl | ⟨positive, -⟩
  · exact behind
  · exact positive

/-- A side behind its quantity is journaled again once it is moved up to it. -/
theorem fill (side : SideJournaled x q) (behind : x < q) : SideJournaled q q :=
  .inr ⟨side.pos_of_behind behind, rfl⟩

theorem eq_zero (side : SideJournaled x q) (unmoved : ¬ 0 < x) : x = 0 := by
  rcases side with none | ⟨positive, all⟩
  · exact none
  · exact absurd (all ▸ positive) unmoved

theorem eq_zero_of_not_pos (side : SideJournaled x q) (positive : ¬ 0 < q) : x = 0 := by
  rcases side with zero | ⟨moving, -⟩
  · exact zero
  · exact absurd moving positive

/-- A side of a positive quantity that has covered it moved all of it. -/
theorem eq_of_covered (side : SideJournaled x q) (positive : 0 < q) (covered : q ≤ x) : x = q := by
  rcases side with rfl | ⟨-, all⟩
  · exact absurd (Int64.lt_of_lt_of_le positive covered) Int64.lt_irrefl
  · exact all

end SideJournaled

variable {line : TransferLine}

theorem journaled_of_unmoved (shipped : line.shipped = 0) (received : line.received = 0) : line.Journaled :=
  ⟨.inl shipped, .inl received⟩

theorem Journaled.unship (journaled : line.Journaled) : ({ line with shipped := 0 } : TransferLine).Journaled :=
  ⟨.inl rfl, journaled.2⟩

/-- A journaled line that has arrived shows all of a positive quantity moved, or nothing
moved of a quantity that is not positive. -/
theorem Journaled.delivered (journaled : line.Journaled) (arrived : line.Arrived) :
    (0 < line.quantity ∧ line.shipped = line.quantity ∧ line.received = line.quantity) ∨
      (line.quantity ≤ 0 ∧ line.shipped = 0 ∧ line.received = 0) := by
  obtain ⟨shipped, received⟩ := journaled
  by_cases positive : 0 < line.quantity
  · exact .inl ⟨positive, shipped.eq_of_covered positive arrived.1, received.eq_of_covered positive arrived.2⟩
  · exact .inr ⟨Int64.not_lt.mp positive, shipped.eq_zero_of_not_pos positive, received.eq_zero_of_not_pos positive⟩

end TransferLine

namespace Transfer

/-- What a stored journal can say: every line journaled, and an arrival time once
completed. -/
structure Journaled (t : Transfer) : Prop where
  lines : ∀ line ∈ t.lines, line.Journaled
  arrival : t.status = .completed → t.arrivedAt.isSome

theorem Journaled.setLine {t : Transfer} {i : Nat} (journaled : t.Journaled)
    (line' : TransferLine) (good : line'.Journaled) : (t.setLine i line').Journaled := by
  constructor
  · intro x member
    rcases List.mem_or_eq_of_mem_set member with old | rfl
    · exact journaled.lines x old
    · exact good
  · exact journaled.arrival

@[simp] theorem copied_status (t : Transfer) : (TransferStore.copied t).status = t.status := rfl

@[simp] theorem copied_lines (t : Transfer) : (TransferStore.copied t).lines = t.lines := rfl

@[simp] theorem copied_id (t : Transfer) : (TransferStore.copied t).id = t.id := rfl

theorem Journaled.copied {t : Transfer} (journaled : t.Journaled) : (TransferStore.copied t).Journaled :=
  ⟨journaled.lines, journaled.arrival⟩

end Transfer

namespace Ledger

/-- What an operation started at `l₀` has done by `l`: the stores kept where they were;
every transfer stored at `l₀` still stored, each record under its id advanced from it;
every transfer stored only at `l` pending; every stored journal journaled; and the log
grown by entries none of which is filed under a transfer stored closed at `l₀`. -/
structure Since (l₀ l : Ledger) : Prop where
  wiring : l.wiring = l₀.wiring
  stored : ∀ s ∈ l₀.transfers, ∃ s' ∈ l.transfers, s'.id = s.id
  advanced : ∀ s ∈ l₀.transfers, ∀ s' ∈ l.transfers, s'.id = s.id → s.Advances s'
  born : ∀ s' ∈ l.transfers, (∃ s ∈ l₀.transfers, s.id = s'.id) ∨ s'.status = .pending
  grown : ∃ extra, l.book.log = l₀.book.log ++ extra ∧
    ∀ e ∈ extra, ∀ s ∈ l₀.transfers, s.status.isOpen = false → e.reference ≠ some (Transfer.reference s.id)
  journaled : ∀ s ∈ l.transfers, s.Journaled

/-- A working copy of a transfer stored open at `l₀`, with a journal a stored record may
have. -/
structure Copy (l₀ : Ledger) (u : Transfer) : Prop where
  origin : ∃ s ∈ l₀.transfers, s.Succeeds u
  journaled : u.Journaled

variable {l₀ l l' : Ledger} {u w : Transfer}

theorem Since.refl (sound : l₀.Sound) (journaled : ∀ s ∈ l₀.transfers, s.Journaled) : l₀.Since l₀ where
  wiring := rfl
  stored s member := ⟨s, member, rfl⟩
  advanced s member s' member' same := sound.unique member member' same ▸ .refl s
  born s' member := .inl ⟨s', member, rfl⟩
  grown := ⟨[], by simp, by simp⟩
  journaled := journaled

theorem Since.inMemory (sound₀ : l₀.Sound) (since : l₀.Since l) : l.wiring.inventory = false := by
  rw [since.wiring]
  exact sound₀.inMemory

theorem Since.journalInMemory (sound₀ : l₀.Sound) (since : l₀.Since l) : l.wiring.transfers = false := by
  rw [since.wiring]
  exact sound₀.journalInMemory

/-- A ledger agreeing with one reached on the stores and the log is reached too. -/
theorem Since.keep (since : l₀.Since l) (keeps : l.Keeps l') : l₀.Since l' where
  wiring := keeps.wiring.trans since.wiring
  stored := by
    rw [keeps.transfers]
    exact since.stored
  advanced := by
    rw [keeps.transfers]
    exact since.advanced
  born := by
    rw [keeps.transfers]
    exact since.born
  grown := by
    rw [keeps.log]
    exact since.grown
  journaled := by
    rw [keeps.transfers]
    exact since.journaled

/-- A write of a level whose entry, if any, is not filed under a transfer stored closed at
`l₀`. -/
theorem Since.written (since : l₀.Since l) {key : StockKey} {w : Level} {c : Option Change}
    (quiet : ∀ ch ∈ c, ∀ s ∈ l₀.transfers, s.status.isOpen = false →
      ch.reference ≠ some (Transfer.reference s.id)) :
    l₀.Since (l.written key w c) := by
  obtain ⟨extra, grown, clear⟩ := since.grown
  refine ⟨by simp [since.wiring], by simpa using since.stored, by simpa using since.advanced,
    by simpa using since.born, ⟨extra ++ (c.map (l.filed key)).toList, by simp [grown], ?_⟩,
    by simpa using since.journaled⟩
  intro e member s stored closed
  rcases List.mem_append.mp member with old | new
  · exact clear e old s stored closed
  · rcases c with _ | ch
    · cases new
    · simp only [Option.map_some, Option.toList_some, List.mem_singleton] at new
      subst new
      exact quiet ch rfl s stored closed

/-- Overwriting the stored records under a record's id with it, when each transfer stored
at `l₀` under that id advances to it and it is new only if pending. -/
theorem Since.replace (since : l₀.Since l) (advances : ∀ s ∈ l₀.transfers, s.id = u.id → s.Advances u)
    (born : (∃ s ∈ l₀.transfers, s.id = u.id) ∨ u.status = .pending) (journaled : u.Journaled) :
    l₀.Since { l with transfers := l.transfers.map fun x => if x.id == u.id then u else x } where
  wiring := since.wiring
  stored s member := by
    obtain ⟨s', member', same⟩ := since.stored s member
    by_cases replaced : s'.id = u.id
    · exact ⟨u, List.mem_map.mpr ⟨s', member', by simp [replaced]⟩, replaced ▸ same⟩
    · exact ⟨s', List.mem_map.mpr ⟨s', member', by simp [replaced]⟩, same⟩
  advanced s member x member' same := by
    rcases mem_replaced member' with rfl | old
    · exact advances s member same.symm
    · exact since.advanced s member x old same
  born x member := by
    rcases mem_replaced member with rfl | old
    · exact born
    · exact since.born x old
  grown := since.grown
  journaled x member := by
    rcases mem_replaced member with rfl | old
    · exact journaled
    · exact since.journaled x old

/-- The entries filed under a transfer stored closed at `l₀` are the ones it had there. -/
theorem Since.log_closed (since : l₀.Since l) {s : Transfer} (stored : s ∈ l₀.transfers) (closed : s.status.isOpen = false) :
    l.book.log.filter (·.reference == some (Transfer.reference s.id)) =
      l₀.book.log.filter (·.reference == some (Transfer.reference s.id)) := by
  obtain ⟨extra, grown, clear⟩ := since.grown
  have none : extra.filter (·.reference == some (Transfer.reference s.id)) = [] :=
    List.filter_eq_nil_iff.mpr fun e member filed => clear e member s stored closed (by simpa using filed)
  rw [grown, List.filter_append, none, List.append_nil]

/-- Storing a pending record under an id no stored record has. -/
theorem Since.insert (since : l₀.Since l) (fresh : l.transfers.any (·.id == u.id) = false)
    (pending : u.status = .pending) (journaled : u.Journaled) :
    l₀.Since { l with transfers := l.transfers ++ [u] } where
  wiring := since.wiring
  stored s member := (since.stored s member).imp fun _ ⟨kept, same⟩ => ⟨List.mem_append_left _ kept, same⟩
  advanced s member x member' same := by
    rcases List.mem_append.mp member' with old | new
    · exact since.advanced s member x old same
    · rw [List.mem_singleton.mp new] at same
      obtain ⟨s', kept, same'⟩ := since.stored s member
      have taken : l.transfers.any (·.id == u.id) = true :=
        List.any_eq_true.mpr ⟨s', kept, by simp [same', same]⟩
      rw [fresh] at taken
      cases taken
  born x member := by
    rcases List.mem_append.mp member with old | new
    · exact since.born x old
    · exact .inr (List.mem_singleton.mp new ▸ pending)
  grown := since.grown
  journaled x member := by
    rcases List.mem_append.mp member with old | new
    · exact since.journaled x old
    · exact List.mem_singleton.mp new ▸ journaled

/-- The record `find` gives back of a transfer stored in progress is a copy of the
transfer stored under its id at `l₀`. -/
theorem Since.copy_found (since : l₀.Since l) {t : Transfer} (stored : t ∈ l.transfers)
    (moving : t.status = .inProgress) : l₀.Copy (TransferStore.copied t) := by
  rcases since.born t stored with ⟨s, origin, same⟩ | pending
  · have advances := since.advanced s origin t stored same.symm
    have opened : s.status.isOpen = true := isOpen_of_reaches advances.status (by rw [moving]; rfl)
    have shapes : t.lines.map TransferLine.shape = s.lines.map TransferLine.shape := by
      by_contra changed
      rw [(advances.lines changed).2] at moving
      cases moving
    exact ⟨⟨s, origin, ⟨opened, advances.id, shapes, advances.status⟩⟩, (since.journaled t stored).copied⟩
  · rw [moving] at pending
    cases pending

section Copies

variable (sound₀ : l₀.Sound)

include sound₀

theorem Copy.advances (copy : l₀.Copy u) : ∀ s ∈ l₀.transfers, s.id = u.id → s.Advances u := by
  obtain ⟨s₀, origin, succeeds⟩ := copy.origin
  intro s member same
  rw [sound₀.unique origin member (same.trans succeeds.id)]
  exact succeeds.advances

/-- The moves of a copy are filed under no transfer stored closed at `l₀`. -/
theorem Copy.quiet (copy : l₀.Copy u) :
    ∀ s ∈ l₀.transfers, s.status.isOpen = false → Transfer.reference u.id ≠ Transfer.reference s.id := by
  obtain ⟨s₀, origin, succeeds⟩ := copy.origin
  intro s member closed same
  have found : s = s₀ := sound₀.unique origin member ((Transfer.reference_inj.mp same).symm.trans succeeds.id)
  rw [found, succeeds.opened] at closed
  cases closed

omit sound₀ in
theorem Copy.frame (copy : l₀.Copy u) (frame : u.Frame w) (journaled : w.Journaled) : l₀.Copy w :=
  ⟨copy.origin.imp fun _ ⟨stored, succeeds⟩ => ⟨stored, succeeds.frame frame⟩, journaled⟩

omit sound₀ in
theorem Copy.setLine (copy : l₀.Copy u) {i : Nat} {line line' : TransferLine} (found : u.lines[i]? = some line)
    (shape : line'.shape = line.shape) (journaled : line'.Journaled) : l₀.Copy (u.setLine i line') :=
  copy.frame (Transfer.frame_setLine found shape) (copy.journaled.setLine line' journaled)

omit sound₀ in
theorem Copy.setStatus (copy : l₀.Copy u) {status : TransferStatus} (next : Next u.status status)
    {arrivedAt : Option Instant} (arrival : status = .completed → arrivedAt.isSome) :
    l₀.Copy { u with status, arrivedAt } :=
  ⟨copy.origin.imp fun _ ⟨stored, succeeds⟩ => ⟨stored, succeeds.setStatus next arrivedAt⟩,
    ⟨copy.journaled.lines, arrival⟩⟩

omit sound₀ in
/-- The copy `find` gives back of an open transfer stored at `l₀`. -/
theorem Copy.stored {t : Transfer} (journaled : ∀ s ∈ l₀.transfers, s.Journaled) (stored : t ∈ l₀.transfers)
    (opened : t.status.isOpen = true) : l₀.Copy (TransferStore.copied t) :=
  ⟨⟨t, stored, Transfer.succeeds_copied opened⟩, (journaled t stored).copied⟩

end Copies

end Ledger

namespace Transfers

open Run

variable {l₀ l : Ledger} {u : Transfer} {call : Call}

/-- A save of a record each transfer stored at `l₀` under its id advances to, new only if
pending: the trap fires with the stores as they were, or the record is stored. -/
theorem post_save_since (sound₀ : l₀.Sound) (since : l₀.Since l)
    (advances : ∀ s ∈ l₀.transfers, s.id = u.id → s.Advances u)
    (born : (∃ s ∈ l₀.transfers, s.id = u.id) ∨ u.status = .pending) (journaled : u.Journaled) :
    Post (save call u) l (fun _ l' => l₀.Since l') (fun _ l' => l₀.Since l') := by
  refine post_save_of (since.keep ⟨rfl, rfl, rfl⟩) ?_
  rw [Post, update_exec (since.journalInMemory sound₀)]
  by_cases found : l.transfers.any (·.id == u.id) = true
  · rw [if_pos found]
    exact since.replace advances born journaled
  · rw [if_neg found]
    exact since

theorem post_save_copy (sound₀ : l₀.Sound) (since : l₀.Since l) (copy : l₀.Copy u) :
    Post (save call u) l (fun _ l' => l₀.Since l') (fun _ l' => l₀.Since l') :=
  post_save_since sound₀ since (copy.advances sound₀) (.inl (copy.origin.imp fun _ ⟨stored, succeeds⟩ =>
    ⟨stored, succeeds.id.symm⟩)) copy.journaled

/-- A stock write whose entry is filed under no transfer stored closed at `l₀`. -/
theorem post_write_since (sound₀ : l₀.Sound) (since : l₀.Since l) (key : StockKey) (move : Move) (note : Note)
    (quiet : ∀ s ∈ l₀.transfers, s.status.isOpen = false → note.reference ≠ Transfer.reference s.id) :
    Post (Stock.write call key move note) l (fun _ l' => l₀.Since l') (fun _ l' => l₀.Since l') := by
  rcases Stock.write_cases call key move note (since.inMemory sound₀) with ⟨e, failed⟩ | ⟨_, w', mv?, -, -, wrote⟩
  · exact post_of_exec_error failed since
  refine post_of_exec wrote (since.written fun ch filed s stored closed named => ?_)
  rw [Option.mem_def, Option.map_eq_some_iff] at filed
  obtain ⟨mv, -, rfl⟩ := filed
  simp only [Stock.noted_reference, Stock.optional] at named
  split at named
  · cases named
  · exact quiet s stored closed (Option.some.inj named)

theorem post_run_since (sound₀ : l₀.Sound) (since : l₀.Since l) (key : StockKey) (move : Move) (note : Note)
    (quiet : ∀ s ∈ l₀.transfers, s.status.isOpen = false → note.reference ≠ Transfer.reference s.id) :
    Post (Stock.run call key move note) l (fun _ l' => l₀.Since l') (fun _ l' => l₀.Since l') := by
  rw [Stock.run, post_bind, post_check]
  split
  · exact post_write_since sound₀ since key move note quiet
  · exact since

/-- The side test reads the log and changes nothing. -/
theorem post_applied_of {t : Transfer} {line : TransferLine} {location : String} {side undo : AdjustmentKind}
    {ok : Bool → Ledger → Prop} {err : Failure → Ledger → Prop} (inMemory : l.wiring.inventory = false)
    (holds : ∀ b, ok b l) : Post (applied call t line location side undo) l ok err := by
  simp only [Post, applied, exec_bind, Stock.history_exec call _ inMemory, exec_pure]
  exact holds _

theorem post_lineMove_copy (sound₀ : l₀.Sound) (since : l₀.Since l) (copy : l₀.Copy u) {line : TransferLine}
    {location : String} {move : Int64 → Move} {reason : String} :
    Post (lineMove call u line location move reason) l (fun _ l' => l₀.Since l') (fun _ l' => l₀.Since l') :=
  post_run_since sound₀ since _ _ _ (copy.quiet sound₀)

/-- Releasing one line of a copy changes at most its reservation flag. -/
theorem post_releaseLine_copy (sound₀ : l₀.Sound) (since : l₀.Since l) (copy : l₀.Copy u)
    (errs : List Failure) (i : Nat) :
    Post (releaseLine call (u, errs) i) l (fun r l' => l₀.Since l' ∧ l₀.Copy r.1 ∧ u.Frame r.1)
      (fun _ l' => l₀.Since l') := by
  simp only [releaseLine]
  rcases found : u.lines[i]? with _ | line
  · exact ⟨since, copy, .refl u⟩
  have cleared : ∀ l', l₀.Since l' → l₀.Since l' ∧ l₀.Copy (u.setLine i { line with reserved := false }) ∧
      u.Frame (u.setLine i { line with reserved := false }) := fun l' since' =>
    ⟨since', copy.setLine found rfl (copy.journaled.lines line (List.mem_of_getElem? found)),
      Transfer.frame_setLine found rfl⟩
  simp only [post_bind, post_attempt]
  refine post_applied_of (since.inMemory sound₀) fun shipped => ?_
  cases shipped
  · dsimp only
    simp only [post_bind, post_attempt]
    refine post_applied_of (since.inMemory sound₀) fun held => ?_
    cases held
    · exact cleared l since
    · simp only [reduceIte, post_bind, post_attempt]
      refine (post_lineMove_copy sound₀ since copy).mono (fun _ l' since' => cleared l' since')
        fun _ l' since' => ⟨since', copy, .refl u⟩
  · exact cleared l since

theorem post_releaseAll_copy (sound₀ : l₀.Sound) (since : l₀.Since l) (copy : l₀.Copy u) :
    Post (releaseAll call u) l (fun r l' => l₀.Since l' ∧ l₀.Copy r.1 ∧ u.Frame r.1)
      (fun _ l' => l₀.Since l') := by
  unfold releaseAll
  refine post_foldlM _ _ _ ⟨since, copy, .refl u⟩ ?_
  rintro i - ⟨w, errs⟩ l' ⟨since', copy', frame⟩
  exact (post_releaseLine_copy sound₀ since' copy' errs i).mono
    (fun _ _ ⟨since'', copy'', frame'⟩ => ⟨since'', copy'', frame.trans frame'⟩) fun _ _ kept => kept

/-- Reserving one line of a copy changes at most its reservation flag; a refused
reservation releases the others and fails. -/
theorem post_startLine_copy (sound₀ : l₀.Sound) (since : l₀.Since l) (copy : l₀.Copy u) (i : Nat) :
    Post (startLine call u i) l (fun w l' => l₀.Since l' ∧ l₀.Copy w ∧ u.Frame w) (fun _ l' => l₀.Since l') := by
  unfold startLine
  rcases found : u.lines[i]? with _ | line
  · exact ⟨since, copy, .refl u⟩
  have marked : l₀.Copy (u.setLine i { line with reserved := true }) :=
    copy.setLine found rfl (copy.journaled.lines line (List.mem_of_getElem? found))
  have saving : ∀ l', l₀.Since l' → Post (save call (u.setLine i { line with reserved := true })) l'
      (fun _ l'' => l₀.Since l'' ∧ l₀.Copy (u.setLine i { line with reserved := true }) ∧
        u.Frame (u.setLine i { line with reserved := true }))
      (fun _ l'' => l₀.Since l'') := fun l' since' =>
    (post_save_copy sound₀ since' marked).mono (fun _ _ saved => ⟨saved, marked, Transfer.frame_setLine found rfl⟩)
      fun _ _ kept => kept
  by_cases held : line.reserved = true
  · simp only [held, reduceIte, post_pure]
    exact ⟨since, copy, .refl u⟩
  simp only [held, Bool.false_eq_true, reduceIte, post_bind]
  refine post_applied_of (since.inMemory sound₀) fun done => ?_
  cases done
  · simp only [Bool.not_false, reduceIte, post_bind, post_attempt]
    refine (post_lineMove_copy sound₀ since copy).mono (fun _ l' since' => ?_) fun _ l' since' => ?_
    · simp only [post_pure]
      exact saving l' since'
    · simp only [post_fail]
      refine (post_releaseAll_copy sound₀ since' copy).mono ?_ fun _ _ kept => kept
      rintro r l'' ⟨since'', copy'', -⟩
      exact post_save_copy sound₀ since'' copy''
  · simp only [Bool.not_true, Bool.false_eq_true, reduceIte, post_bind, post_pure]
    exact saving l since

/-- A pass over the lines of a copy whose every step keeps it a copy and keeps its
frame. -/
theorem post_lines_copy {f : Transfer → Nat → Run Transfer} (n : Nat) (since : l₀.Since l) (copy : l₀.Copy u)
    (step : ∀ i w l', l₀.Since l' → l₀.Copy w →
      Post (f w i) l' (fun w' l'' => l₀.Since l'' ∧ l₀.Copy w' ∧ w.Frame w') (fun _ l'' => l₀.Since l'')) :
    Post ((List.range n).foldlM f u) l (fun w l' => l₀.Since l' ∧ l₀.Copy w ∧ u.Frame w)
      (fun _ l' => l₀.Since l') :=
  post_foldlM _ _ _ ⟨since, copy, .refl u⟩ fun i _ w l' ⟨since', copy', frame⟩ =>
    (step i w l' since' copy').mono (fun _ _ ⟨since'', copy'', frame'⟩ => ⟨since'', copy'', frame.trans frame'⟩)
      fun _ _ kept => kept

/-- Starting a pending copy leaves it in progress. -/
theorem post_start_copy (sound₀ : l₀.Sound) (since : l₀.Since l) (copy : l₀.Copy u) (pending : u.status = .pending) :
    Post (start call u) l (fun w l' => l₀.Since l' ∧ l₀.Copy w ∧ w.status = .inProgress)
      (fun _ l' => l₀.Since l') := by
  unfold start
  rw [post_bind]
  refine (post_lines_copy _ since copy fun i _ _ since' copy' => post_startLine_copy sound₀ since' copy' i).mono
    ?_ fun _ _ kept => kept
  rintro w l' ⟨since', copy', frame⟩
  have waiting : w.status = .pending := frame.status.symm.trans pending
  have started : l₀.Copy { w with status := .inProgress } :=
    copy'.setStatus (waiting ▸ .start) fun done => by cases done
  rw [post_bind]
  exact (post_save_copy sound₀ since' started).mono (fun _ _ saved => ⟨saved, started, rfl⟩) fun _ _ kept => kept

/-- One side of a line of a copy, given that the side's journal keeps the line's shape and
journals a side behind its quantity as done. -/
theorem post_sideLine_copy {progress : TransferLine → Int64} {finished : TransferLine → TransferLine}
    {location : String} {side : AdjustmentKind} {move : Int64 → Move} {reason : String}
    (sound₀ : l₀.Sound) (since : l₀.Since l) (copy : l₀.Copy u) (i : Nat)
    (shape : ∀ line, (finished line).shape = line.shape)
    (journal : ∀ line : TransferLine, line.Journaled → progress line < line.quantity → (finished line).Journaled) :
    Post (sideLine call progress finished location side move reason u i) l
      (fun w l' => l₀.Since l' ∧ l₀.Copy w ∧ u.Frame w) (fun _ l' => l₀.Since l') := by
  unfold sideLine
  rcases found : u.lines[i]? with _ | line
  · exact ⟨since, copy, .refl u⟩
  dsimp -zeta only
  split
  · rename_i behind
    have marked : l₀.Copy (u.setLine i (finished line)) :=
      copy.setLine found (shape line) (journal line (copy.journaled.lines line (List.mem_of_getElem? found)) behind)
    have saving : ∀ l', l₀.Since l' → Post (save call (u.setLine i (finished line))) l'
        (fun _ l'' => l₀.Since l'' ∧ l₀.Copy (u.setLine i (finished line)) ∧ u.Frame (u.setLine i (finished line)))
        (fun _ l'' => l₀.Since l'') := fun l' since' =>
      (post_save_copy sound₀ since' marked).mono
        (fun _ _ saved => ⟨saved, marked, Transfer.frame_setLine found (shape line)⟩) fun _ _ kept => kept
    rw [post_bind]
    refine post_applied_of (since.inMemory sound₀) fun done => ?_
    cases done
    · simp only [Bool.not_false, reduceIte, post_bind, post_pure]
      exact (post_lineMove_copy sound₀ since copy).mono (fun _ l' since' => saving l' since') fun _ _ kept => kept
    · simp only [Bool.not_true, Bool.false_eq_true, reduceIte, post_bind, post_pure]
      exact saving l since
  · exact ⟨since, copy, .refl u⟩

theorem post_finishLine_copy (sound₀ : l₀.Sound) (since : l₀.Since l) (copy : l₀.Copy u) (i : Nat) :
    Post (finishLine call u i) l (fun w l' => l₀.Since l' ∧ l₀.Copy w ∧ u.Frame w) (fun _ l' => l₀.Since l') := by
  unfold finishLine
  refine post_bind_of _ (post_sideLine_copy sound₀ since copy i (fun _ => rfl)
    fun _ journaled behind => ⟨journaled.1.fill behind, journaled.2⟩) ?_
  rintro w l' ⟨since', copy', frame⟩
  exact Post.mono (post_sideLine_copy sound₀ since' copy' i (fun _ => rfl)
    fun _ journaled behind => ⟨journaled.1, journaled.2.fill behind⟩)
    (fun _ _ ⟨since'', copy'', frame'⟩ => ⟨since'', copy'', frame.trans frame'⟩) fun _ _ kept => kept

/-- Finishing a copy in progress stores it completed, with its arrival time, if
anything. -/
theorem post_finish_copy (sound₀ : l₀.Sound) (since : l₀.Since l) (copy : l₀.Copy u) (moving : u.status = .inProgress) :
    Post (finish call u) l (fun _ l' => l₀.Since l') (fun _ l' => l₀.Since l') := by
  unfold finish
  rw [post_bind]
  refine (post_lines_copy _ since copy fun i _ _ since' copy' => post_finishLine_copy sound₀ since' copy' i).mono
    ?_ fun _ _ kept => kept
  rintro w l' ⟨since', copy', frame⟩
  have moving' : w.status = .inProgress := frame.status.symm.trans moving
  have done : l₀.Copy { w with status := .completed, arrivedAt := some l'.clock } :=
    copy'.setStatus (moving' ▸ .complete) fun _ => rfl
  simp only [post_bind, post_now]
  exact (post_save_copy sound₀ since' done).mono (fun _ _ saved => saved) fun _ _ kept => kept

/-- Undoing one line of a copy changes at most its shipment journal. -/
theorem post_unwindLine_copy (sound₀ : l₀.Sound) (since : l₀.Since l) (copy : l₀.Copy u) (i : Nat) :
    Post (unwindLine call u i) l (fun w l' => l₀.Since l' ∧ l₀.Copy w ∧ u.Frame w) (fun _ l' => l₀.Since l') := by
  unfold unwindLine
  rcases found : u.lines[i]? with _ | line
  · exact ⟨since, copy, .refl u⟩
  have cleared : l₀.Copy (u.setLine i { line with shipped := 0 }) :=
    copy.setLine found rfl (copy.journaled.lines line (List.mem_of_getElem? found)).unship
  have saving : ∀ l', l₀.Since l' → Post (save call (u.setLine i { line with shipped := 0 })) l'
      (fun _ l'' => l₀.Since l'' ∧ l₀.Copy (u.setLine i { line with shipped := 0 }) ∧
        u.Frame (u.setLine i { line with shipped := 0 }))
      (fun _ l'' => l₀.Since l'') := fun l' since' =>
    (post_save_copy sound₀ since' cleared).mono
      (fun _ _ saved => ⟨saved, cleared, Transfer.frame_setLine found rfl⟩) fun _ _ kept => kept
  dsimp -zeta only
  rw [post_bind]
  refine post_applied_of (since.inMemory sound₀) fun left => ?_
  cases left
  · simp only [Bool.not_false, reduceIte, post_pure]
    exact ⟨since, copy, .refl u⟩
  simp only [Bool.not_true, Bool.false_eq_true, reduceIte, post_bind]
  refine post_applied_of (since.inMemory sound₀) fun arrived => ?_
  cases arrived
  · simp only [Bool.false_eq_true, reduceIte, post_bind]
    refine post_applied_of (since.inMemory sound₀) fun returned => ?_
    cases returned
    · simp only [Bool.not_false, reduceIte, post_bind, post_pure]
      exact (post_lineMove_copy sound₀ since copy).mono (fun _ l' since' => saving l' since') fun _ _ kept => kept
    · simp only [Bool.not_true, Bool.false_eq_true, reduceIte, post_bind, post_pure]
      exact saving l since
  · simp only [reduceIte, post_pure]
    exact ⟨since, copy, .refl u⟩

/-- Undoing a copy keeps it a copy, journaling lines as not shipped and releasing
reservations. -/
theorem post_unwind_copy (sound₀ : l₀.Sound) (since : l₀.Since l) (copy : l₀.Copy u) :
    Post (unwind call u) l (fun w l' => l₀.Since l' ∧ l₀.Copy w ∧ u.Frame w) (fun _ l' => l₀.Since l') := by
  unfold unwind
  rw [post_bind]
  refine (post_lines_copy _ since copy fun i _ _ since' copy' => post_unwindLine_copy sound₀ since' copy' i).mono
    ?_ fun _ _ kept => kept
  rintro w l' ⟨since', copy', frame⟩
  rw [post_bind]
  refine (post_releaseAll_copy sound₀ since' copy').mono ?_ fun _ _ kept => kept
  rintro ⟨w', errs⟩ l'' ⟨since'', copy'', frame'⟩
  by_cases released : errs.isEmpty = true
  · simpa [released] using ⟨since'', copy'', frame.trans frame'⟩
  · simpa [released] using since''

/-- A change of one transfer runs its body on the copy of a stored record, or fails with
the ledger as it was. -/
theorem post_withTransfer_since {id : String} {body : Transfer → Run Transfer} {ok : Transfer → Ledger → Prop}
    (sound₀ : l₀.Sound) (since : l₀.Since l)
    (run : ∀ t ∈ l.transfers, Post (body (TransferStore.copied t)) l ok fun _ l' => l₀.Since l') :
    Post (withTransfer call id body) l ok fun _ l' => l₀.Since l' :=
  post_withTransfer_found (since.journalInMemory sound₀) (fun _ => since) fun t stored _ => run t stored

/-- Storing a new pending record with an unmoved journal, or refusing its id. -/
theorem post_insert_since (sound₀ : l₀.Sound) (since : l₀.Since l) (pending : u.status = .pending)
    (journaled : u.Journaled) :
    Post (TransferStore.create call u) l (fun _ l' => l₀.Since l') (fun _ l' => l₀.Since l') := by
  rw [Post, create_exec (since.journalInMemory sound₀)]
  cases taken : l.transfers.any (·.id == u.id)
  · exact since.insert taken pending journaled
  · exact since

theorem post_resumeOne_since (sound₀ : l₀.Sound) (since : l₀.Since l) (acc : Nat × List Failure) (p : Transfer) :
    Post (resumeOne call acc p) l (fun _ l' => l₀.Since l') (fun _ l' => l₀.Since l') := by
  obtain ⟨n, errs⟩ := acc
  simp only [resumeOne, post_bind, post_attempt, post_pure]
  refine post_withTransfer_since sound₀ since fun t stored => ?_
  by_cases moving : t.status = .inProgress
  · have due : ((TransferStore.copied t).status != .inProgress) = false := by simp [moving]
    simp only [due, Bool.false_eq_true, reduceIte]
    exact post_finish_copy sound₀ since (since.copy_found stored moving) moving
  · simpa [moving] using since

section Operations

variable (sound₀ : l₀.Sound) (journaled₀ : ∀ s ∈ l₀.transfers, s.Journaled)

include sound₀ journaled₀

theorem post_cancel_since (id : String) :
    Post (cancel call id) l₀ (fun _ l' => l₀.Since l') (fun _ l' => l₀.Since l') := by
  have since := Ledger.Since.refl sound₀ journaled₀
  unfold cancel
  refine post_withTransfer_since sound₀ since fun t stored => ?_
  by_cases opened : t.status.isOpen = true
  · simp only [Transfer.copied_status, opened, Bool.not_true, Bool.false_eq_true, reduceIte, post_bind,
      post_pure]
    refine (post_unwind_copy sound₀ since (Ledger.Copy.stored journaled₀ stored opened)).mono ?_
      fun _ _ kept => kept
    rintro w l' ⟨since', copy', frame⟩
    have cancelled : l₀.Copy { w with status := .cancelled } :=
      copy'.setStatus (Next.cancel (frame.status ▸ opened)) fun done => by cases done
    exact (post_save_copy sound₀ since' cancelled).mono (fun _ _ saved => saved) fun _ _ kept => kept
  · simpa [opened] using since

theorem post_complete_since (id : String) :
    Post (complete call id) l₀ (fun _ l' => l₀.Since l') (fun _ l' => l₀.Since l') := by
  have since := Ledger.Since.refl sound₀ journaled₀
  unfold complete
  refine post_withTransfer_since sound₀ since fun t stored => ?_
  by_cases opened : t.status.isOpen = true
  · have copy := Ledger.Copy.stored journaled₀ stored opened
    simp only [Transfer.copied_status, opened, Bool.not_true, Bool.false_eq_true, reduceIte]
    by_cases pending : t.status = .pending
    · simp only [pending, beq_self_eq_true, reduceIte, post_bind]
      refine (post_start_copy sound₀ since copy pending).mono ?_ fun _ _ kept => kept
      rintro w l' ⟨since', copy', moving⟩
      exact post_finish_copy sound₀ since' copy' moving
    · have moving : t.status = .inProgress := by
        revert opened pending
        cases t.status <;> simp [TransferStatus.isOpen]
      simp only [moving]
      exact post_finish_copy sound₀ since copy moving
  · simpa [opened] using since

theorem post_startTransfer_since (id : String) :
    Post (startTransfer call id) l₀ (fun _ l' => l₀.Since l') (fun _ l' => l₀.Since l') := by
  have since := Ledger.Since.refl sound₀ journaled₀
  unfold startTransfer
  refine post_withTransfer_since sound₀ since fun t stored => ?_
  by_cases pending : t.status = .pending
  · have copy := Ledger.Copy.stored journaled₀ stored (by rw [pending]; rfl)
    simp only [Transfer.copied_status, pending, bne_self_eq_false, Bool.false_eq_true, reduceIte]
    exact (post_start_copy sound₀ since copy pending).mono (fun _ _ started => started.1) fun _ _ kept => kept
  · simpa [pending] using since

/-- Adding an item stores the transfer's lines merged with it, only while it is pending. -/
theorem post_addLine_since (id : String) (r : LineRequest) :
    Post (addLine call id r) l₀ (fun _ l' => l₀.Since l') (fun _ l' => l₀.Since l') := by
  have since := Ledger.Since.refl sound₀ journaled₀
  unfold addLine
  rw [post_bind, post_check]
  rcases r.check with e | ⟨⟩
  · exact since
  refine post_withTransfer_since sound₀ since fun t stored => ?_
  by_cases pending : t.status = .pending
  · have allowed : ((TransferStore.copied t).status != .pending) = false := by simp [pending]
    simp only [allowed, Bool.false_eq_true, reduceIte, post_bind, post_pure]
    -- a pending transfer has moved nothing, so every merged line is unmoved
    have fits := sound₀.fits t stored
    have unmoved : ∀ y ∈ t.lines, y.shipped = 0 ∧ y.received = 0 := fun y member =>
      have journaled := (journaled₀ t stored).lines y member
      have none := fits.pending pending y.product y.variant
      have backed := fits.journal y member
      ⟨journaled.1.eq_zero fun sent => absurd (backed.2.1 sent) (by omega),
        journaled.2.eq_zero fun arrived => absurd (backed.2.2 arrived) (by omega)⟩
    refine post_save_since sound₀ since ?_ (.inl ⟨t, stored, rfl⟩) ⟨?_, fun done => ?_⟩
    · intro s origin same
      rw [sound₀.unique stored origin same]
      exact ⟨rfl, .refl, fun _ => ⟨pending, pending⟩, fun closed => by rw [pending] at closed; cases closed⟩
    · intro x member
      rcases TransferLine.mem_merge member with ⟨y, old, -, -, shipped, received, -⟩ | rfl
      · exact TransferLine.journaled_of_unmoved (shipped.trans (unmoved y old).1) (received.trans (unmoved y old).2)
      · exact TransferLine.journaled_of_unmoved rfl rfl
    · simp [pending] at done
  · simpa [pending] using since

/-- Creating stores a new pending transfer whose lines have moved nothing. -/
theorem post_create_since (req : TransferRequest) :
    Post (create call req) l₀ (fun _ l' => l₀.Since l') (fun _ l' => l₀.Since l') := by
  have since := Ledger.Since.refl sound₀ journaled₀
  unfold create
  extract_lets body guarded
  by_cases unplaced : req.source = "" ∨ req.destination = ""
  · rw [if_pos unplaced, post_bind, post_fail]
    exact since
  rw [if_neg unplaced]
  simp only [guarded]
  by_cases same : req.source = req.destination
  · rw [if_pos same, post_bind, post_fail]
    exact since
  rw [if_neg same]
  simp only [body, post_bind, post_places_find sound₀.placesInMemory]
  split
  · split
    · simp only [post_freshId, post_now]
      -- drawing the id moves only the counter
      have counted : l₀.Since { l₀ with nextId := l₀.nextId + 1 } := since.keep ⟨rfl, rfl, rfl⟩
      refine (post_mergeLines req.lines).mono ?_ fun _ _ unchanged => unchanged ▸ counted
      rintro lines l' ⟨rfl, lined, -⟩
      refine (post_insert_since sound₀ counted rfl ⟨fun x member => ?_, fun done => by cases done⟩).mono
        (fun _ _ kept => kept) fun _ _ kept => kept
      exact TransferLine.journaled_of_unmoved (lined x member).2.1 (lined x member).2.2.1
    · exact since
  · exact since

theorem post_resume_since :
    Post (resume call) l₀ (fun _ l' => l₀.Since l') (fun _ l' => l₀.Since l') := by
  have since := Ledger.Since.refl sound₀ journaled₀
  unfold resume
  rw [post_bind]
  refine post_of_exec (all_exec sound₀.journalInMemory _) ?_
  exact post_foldlM _ _ (fun _ l' => l₀.Since l') since fun p _ acc _ since' =>
    post_resumeOne_since sound₀ since' acc p

end Operations

/-- A synchronised change under a reference no transfer has. -/
theorem post_applyChange_since (sound₀ : l₀.Sound) (since : l₀.Since l) (key : StockKey) (changeType : String)
    (quantity : Int64) (reference reason : String) (foreign : ∀ x, reference ≠ Transfer.reference x) :
    Post (Stock.applyChange call key changeType quantity reference reason) l (fun _ l' => l₀.Since l')
      (fun _ l' => l₀.Since l') := by
  rw [Post, Stock.applyChange_exec]
  by_cases negative : quantity < 0
  · rw [if_pos negative]
    exact since
  rw [if_neg negative]
  rcases SyncMode.ofName? changeType with _ | mode
  · exact since
  · exact post_write_since sound₀ since key _ { reference, reason } fun s _ _ => foreign s.id

end Transfers

open Transfers

/-- What one step does to the stored transfers and the log, whatever its operation is and
wherever it fails. -/
theorem Step.since {l l' : Ledger} (step : Step l l') (sound : l.Sound) (journaled : ∀ s ∈ l.transfers, s.Journaled) :
    l.Since l' := by
  have since := Ledger.Since.refl sound journaled
  cases step with
  | create call req => exact (post_create_since sound journaled req).final
  | addLine call id r => exact (post_addLine_since sound journaled id r).final
  | start call id => exact (post_startTransfer_since sound journaled id).final
  | complete call id => exact (post_complete_since sound journaled id).final
  | cancel call id => exact (post_cancel_since sound journaled id).final
  | resume call => exact (post_resume_since sound journaled).final
  | stock call key move note foreign =>
    exact (post_run_since sound since key move note fun s _ _ => foreign s.id).final
  | sync call key changeType quantity reference reason foreign =>
    exact (post_applyChange_since sound since key changeType quantity reference reason foreign).final
  | place call loc => exact since.keep (Places.post_add_keeps sound.placesInMemory loc).final
  | activate call id on => exact since.keep (Places.post_setActive_keeps sound.placesInMemory id on).final
  | outside clock trap locker => exact since.keep ⟨rfl, rfl, rfl⟩

/-- A ledger a run leads to from a reached one is reached. -/
theorem Reachable.later {l l' : Ledger} (reached : Reachable l) (run : Relation.ReflTransGen Step l l') :
    Reachable l' := by
  obtain ⟨l₀, start, before⟩ := reached
  exact ⟨l₀, start, before.trans run⟩

/-- Every transfer stored in a reached ledger has a journal its log can back: each side of
each line none or all of a positive quantity, and an arrival time once completed. -/
theorem Reachable.journaled {l : Ledger} (reached : Reachable l) : ∀ s ∈ l.transfers, s.Journaled := by
  obtain ⟨l₀, start, run⟩ := reached
  induction run with
  | refl => simp [start.transfers]
  | tail before step journaled =>
    exact (step.since (Reachable.sound ⟨l₀, start, before⟩) journaled).journaled

/-- In every session, one step moves the stored status of each transfer only along the
machine's moves, changes its lines only while it is stored pending and stays pending, and
changes neither the record nor the entries filed under a transfer stored completed or
cancelled; a transfer it stores anew is pending. Every transfer stored completed has its
arrival time and every line shipped and received in full, save a line whose quantity an
added item wrapped below one, which moves nothing. -/
theorem stored_transfer_lifecycle {l l' : Ledger} (reached : Reachable l) (step : Step l l') :
    (∀ s ∈ l.transfers, (∃ s' ∈ l'.transfers, s'.id = s.id) ∧ ∀ s' ∈ l'.transfers, s'.id = s.id → s.Advances s') ∧
    (∀ s' ∈ l'.transfers, (∃ s ∈ l.transfers, s.id = s'.id) ∨ s'.status = .pending) ∧
    (∀ s ∈ l.transfers, s.status.isOpen = false →
      l'.book.log.filter (·.reference == some (Transfer.reference s.id)) =
        l.book.log.filter (·.reference == some (Transfer.reference s.id))) ∧
    (∀ s' ∈ l'.transfers, s'.status = .completed → s'.arrivedAt.isSome ∧ ∀ line ∈ s'.lines,
      (0 < line.quantity ∧ line.shipped = line.quantity ∧ line.received = line.quantity) ∨
        (line.quantity ≤ 0 ∧ line.shipped = 0 ∧ line.received = 0)) := by
  have since := step.since reached.sound reached.journaled
  have reached' : Reachable l' := reached.later (.single step)
  refine ⟨fun s stored => ⟨since.stored s stored, since.advanced s stored⟩, since.born,
    fun s stored closed => since.log_closed stored closed, fun s' stored done => ?_⟩
  have journaled := since.journaled s' stored
  have fits := reached'.sound.fits s' stored
  exact ⟨journaled.arrival done, fun line member =>
    (journaled.lines line member).delivered (fits.completed done line member)⟩

/-- A transfer stored completed or cancelled stays stored as it is along every later run,
and no entry is filed under it again. -/
theorem Reachable.closed_stays {l l' : Ledger} (reached : Reachable l) (run : Relation.ReflTransGen Step l l')
    {s : Transfer} (stored : s ∈ l.transfers) (closed : s.status.isOpen = false) :
    s ∈ l'.transfers ∧ l'.book.log.filter (·.reference == some (Transfer.reference s.id)) =
      l.book.log.filter (·.reference == some (Transfer.reference s.id)) := by
  induction run with
  | refl => exact ⟨stored, rfl⟩
  | tail before step kept =>
    obtain ⟨stored', log⟩ := kept
    have reached' := reached.later before
    have since := step.since reached'.sound reached'.journaled
    obtain ⟨s', member, same⟩ := since.stored s stored'
    have unchanged : s' = s := (since.advanced s stored' s' member same).final closed
    exact ⟨unchanged ▸ member, (since.log_closed stored' closed).trans log⟩

namespace Session

theorem opened_reachable : Reachable opened := ⟨fresh, fresh_initial, opened_run⟩

/-- Completing the opened transfer starts it, ships and receives its line and stores it
completed. -/
theorem opened_completed_lifecycle :
    let completed := ((Transfers.complete {} firstId).exec opened).2
    (∀ s ∈ opened.transfers, (∃ s' ∈ completed.transfers, s'.id = s.id) ∧
      ∀ s' ∈ completed.transfers, s'.id = s.id → s.Advances s') ∧
    (∀ s' ∈ completed.transfers, (∃ s ∈ opened.transfers, s.id = s'.id) ∨ s'.status = .pending) ∧
    (∀ s ∈ opened.transfers, s.status.isOpen = false →
      completed.book.log.filter (·.reference == some (Transfer.reference s.id)) =
        opened.book.log.filter (·.reference == some (Transfer.reference s.id))) ∧
    (∀ s' ∈ completed.transfers, s'.status = .completed → s'.arrivedAt.isSome ∧ ∀ line ∈ s'.lines,
      (0 < line.quantity ∧ line.shipped = line.quantity ∧ line.received = line.quantity) ∨
        (line.quantity ≤ 0 ∧ line.shipped = 0 ∧ line.received = 0)) :=
  stored_transfer_lifecycle opened_reachable (.complete _ _ _)

/-- A transfer of the whole top figure of `p1`, started while the save of its in-progress
journal fails, grown by one unit so that its line's quantity wraps to the bottom figure,
and completed. -/
def wrappedLine : Ledger :=
  let placed := ((Places.add {} (Location.store "B" "B")).exec fresh).2
  let stocked := ((Stock.run {} ⟨"p1", "", Location.mainId⟩ (.set 9223372036854775807) {}).exec placed).2
  let created := ((Transfers.create {}
    { source := Location.mainId, destination := "B", notes := "", expectedArrival := none,
      lines := [⟨"p1", "", 9223372036854775807⟩] }).exec stocked).2
  let trapped := { created with trap := some (.status "in_progress") }
  let started := ((Transfers.startTransfer {} firstId).exec trapped).2
  let grown := ((Transfers.addLine {} firstId ⟨"p1", "", 1⟩).exec started).2
  ((Transfers.complete {} firstId).exec grown).2

theorem wrappedLine_reachable : Reachable wrappedLine :=
  ⟨fresh, fresh_initial, .tail (.tail (.tail (.tail (.tail (.tail (.single (.place _ _ _))
    (.stock _ _ _ _ _ unfiled_note)) (.create _ _ _)) (.outside _ _ _ _)) (.start _ _ _)) (.addLine _ _ _ _))
    (.complete _ _ _)⟩

/-- A transfer stored completed with a line neither shipped nor received in full. -/
theorem completed_line_unshipped : Reachable wrappedLine ∧
    ∃ t ∈ wrappedLine.transfers, t.status = .completed ∧ ∃ line ∈ t.lines,
      line.shipped ≠ line.quantity ∧ line.received ≠ line.quantity :=
  ⟨wrappedLine_reachable, by decide +kernel⟩

end Session

end StockLedger
