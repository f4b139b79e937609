import StockLedger.Proofs.Outcome
import StockLedger.Ledger.Stock

/-!
Stock writes on a ledger that keeps its levels in memory. A write takes the key's lock,
reads the key's level (or a fresh one when the move may create it), applies the move and
stores the level with the entry of its movement appended to the log, all in one step.
Whatever fails along the way, the ledger is left exactly as it was. `Ledger.written`
names the ledger a successful write leaves, and `Stock.noted` the change it files.
-/

namespace StockLedger

namespace Stock

/-- The change a stock operation files for a movement: the movement's figures, the
note's reference, its reason or the move's default, and the note's user or the caller. -/
def noted (call : Call) (move : Move) (note : Note) (mv : Movement) : Change :=
  { kind := mv.kind, delta := mv.delta, previous := mv.previous,
    reference := optional note.reference,
    reason := if note.reason = "" then move.defaultReason else note.reason,
    createdBy := optional (if note.user = "" then call.actor else note.user) }

@[simp] theorem noted_kind (call : Call) (move : Move) (note : Note) (mv : Movement) :
    (noted call move note mv).kind = mv.kind := rfl

@[simp] theorem noted_delta (call : Call) (move : Move) (note : Note) (mv : Movement) :
    (noted call move note mv).delta = mv.delta := rfl

@[simp] theorem noted_previous (call : Call) (move : Move) (note : Note) (mv : Movement) :
    (noted call move note mv).previous = mv.previous := rfl

@[simp] theorem noted_reference (call : Call) (move : Move) (note : Note) (mv : Movement) :
    (noted call move note mv).reference = optional note.reference := rfl

@[simp] theorem noted_reason (call : Call) (move : Move) (note : Note) (mv : Movement) :
    (noted call move note mv).reason = if note.reason = "" then move.defaultReason else note.reason := rfl

theorem optional_of_ne {s : String} (filled : s ≠ "") : optional s = some s := by
  simp [optional, filled]

end Stock

namespace Ledger

/-- The identifier `freshId` draws next. -/
def nextIdText (l : Ledger) : String := "00000000-0000-4000-8000-" ++ Run.hex 12 (l.nextId + 1)

/-- The entry a write files for change `c` on `key`: numbered after the book's last entry
and dated by the ledger's clock. -/
def filed (l : Ledger) (key : StockKey) (c : Change) : Adjustment :=
  c.entry l.nextIdText (l.book.seq + 1) key l.clock

/-- The ledger after the level of `key` is written as `w`, with the entry of change `c`,
if there is one, appended to the log. -/
def written (l : Ledger) (key : StockKey) (w : Level) : Option Change → Ledger
  | none => { l with book := (l.book.commit w none).1 }
  | some c =>
    { l with book := (l.book.commit w (some fun seq => c.entry l.nextIdText seq key l.clock)).1,
             nextId := l.nextId + 1 }

section Written

variable (l : Ledger) (key : StockKey) (w : Level) (c : Option Change)

@[simp] theorem written_transfers : (l.written key w c).transfers = l.transfers := by cases c <;> rfl

@[simp] theorem written_wiring : (l.written key w c).wiring = l.wiring := by cases c <;> rfl

@[simp] theorem written_registry : (l.written key w c).registry = l.registry := by cases c <;> rfl

@[simp] theorem written_locker : (l.written key w c).locker = l.locker := by cases c <;> rfl

@[simp] theorem written_trap : (l.written key w c).trap = l.trap := by cases c <;> rfl

@[simp] theorem written_trappable : (l.written key w c).trappable = l.trappable := by cases c <;> rfl

@[simp] theorem written_clock : (l.written key w c).clock = l.clock := by cases c <;> rfl

@[simp] theorem written_catalog : (l.written key w c).catalog = l.catalog := by cases c <;> rfl

@[simp] theorem written_sources : (l.written key w c).sources = l.sources := by cases c <;> rfl

@[simp] theorem written_published : (l.written key w c).published = l.published := by cases c <;> rfl

@[simp] theorem written_seq : (l.written key w c).book.seq = if c.isSome then l.book.seq + 1 else l.book.seq := by
  cases c <;> rfl

@[simp] theorem written_levels : (l.written key w c).book.levels = Book.store l.book.levels w := by
  cases c <;> rfl

@[simp] theorem written_log :
    (l.written key w c).book.log = l.book.log ++ (c.map (l.filed key)).toList := by
  cases c <;> simp [written, Book.commit, filed]

end Written

@[simp] theorem filed_key (l : Ledger) (key : StockKey) (c : Change) : (l.filed key c).key = key := rfl

@[simp] theorem filed_kind (l : Ledger) (key : StockKey) (c : Change) : (l.filed key c).kind = c.kind := rfl

@[simp] theorem filed_quantity (l : Ledger) (key : StockKey) (c : Change) :
    (l.filed key c).quantity = c.delta := rfl

@[simp] theorem filed_previous (l : Ledger) (key : StockKey) (c : Change) :
    (l.filed key c).previous = c.previous := rfl

@[simp] theorem filed_reference (l : Ledger) (key : StockKey) (c : Change) :
    (l.filed key c).reference = c.reference := rfl

@[simp] theorem filed_reason (l : Ledger) (key : StockKey) (c : Change) : (l.filed key c).reason = c.reason := rfl

@[simp] theorem filed_next (l : Ledger) (key : StockKey) (c : Change) :
    (l.filed key c).next = c.previous + c.delta := rfl

@[simp] theorem filed_seq (l : Ledger) (key : StockKey) (c : Change) : (l.filed key c).seq = l.book.seq + 1 := rfl

end Ledger

namespace Stock

open Run

/-- A write on a ledger kept in memory: refused by the lock, by a missing level or by the
move itself with the ledger unchanged, or done in full. -/
theorem write_exec (call : Call) (key : StockKey) (move : Move) (note : Note) {l : Ledger}
    (inMemory : l.wiring.inventory = false) :
    (write call key move note).exec l =
      match l.locker.acquire call key.text with
      | .error e => (.error e, l)
      | .ok _ =>
        match l.book.working key move.creates with
        | .error e => (.error e, l)
        | .ok w =>
          match move.apply w with
          | .error e => (.error e, l)
          | .ok (w', mv?) => (.ok w', l.written key w' (mv?.map (noted call move note))) := by
  rcases acquired : l.locker.acquire call key.text with e | ⟨⟩
  · simp [write, acquired]
  rcases working : l.book.working key move.creates with e | w
  · simp [write, LevelStore.mutate, LevelStore.onDatabase, acquired, inMemory, working]
  rcases applied : move.apply w with e | ⟨w', _ | mv⟩
  · simp [write, LevelStore.mutate, LevelStore.onDatabase, acquired, inMemory, working, applied]
  · simp [write, LevelStore.mutate, LevelStore.onDatabase, acquired, inMemory, working, applied,
      Ledger.written]
  · simp [write, LevelStore.mutate, LevelStore.onDatabase, acquired, inMemory, working, applied,
      Ledger.written, noted]
    rfl

/-- A stock operation checks its quantity first, then writes. -/
theorem run_exec (call : Call) (key : StockKey) (move : Move) (note : Note) (l : Ledger) :
    (run call key move note).exec l =
      match move.precheck with
      | .error e => (.error e, l)
      | .ok _ => (write call key move note).exec l := by
  rcases checked : move.precheck with e | ⟨⟩ <;> simp [run, checked]

/-- A synchronised change is refused with the ledger unchanged, or is a write of a sync move. -/
theorem applyChange_exec (call : Call) (key : StockKey) (changeType : String) (quantity : Int64)
    (reference reason : String) (l : Ledger) :
    (applyChange call key changeType quantity reference reason).exec l =
      if quantity < 0 then
        (.error (.withDetail .changeInvalid ("negative quantity " ++ Quantity.text quantity)), l)
      else match SyncMode.ofName? changeType with
        | none => (.error (.withDetail .changeInvalid ("unknown change type " ++ Text.quote changeType)), l)
        | some mode => (write call key (.sync mode quantity) { reference, reason }).exec l := by
  by_cases negative : quantity < 0
  · simp [applyChange, negative]
  · rcases mode : SyncMode.ofName? changeType with _ | mode <;> simp [applyChange, negative, mode]

/-- The outcomes of a write in memory, as one statement: either it fails and leaves the
ledger as it was, or it succeeds with the move applied to the key's working level. -/
theorem write_cases (call : Call) (key : StockKey) (move : Move) (note : Note) {l : Ledger}
    (inMemory : l.wiring.inventory = false) :
    (∃ e, (write call key move note).exec l = (.error e, l)) ∨
    ∃ w w' mv?, l.book.working key move.creates = .ok w ∧ move.apply w = .ok (w', mv?) ∧
      (write call key move note).exec l = (.ok w', l.written key w' (mv?.map (noted call move note))) := by
  rw [write_exec call key move note inMemory]
  rcases l.locker.acquire call key.text with e | ⟨⟩
  · exact .inl ⟨e, rfl⟩
  rcases working : l.book.working key move.creates with e | w
  · exact .inl ⟨e, rfl⟩
  rcases applied : move.apply w with e | ⟨w', mv?⟩
  · exact .inl ⟨e, by simp only [applied]⟩
  · exact .inr ⟨w, w', mv?, rfl, applied, by simp only [applied]⟩

variable {l : Ledger} {call : Call} {key : StockKey} {move : Move} {note : Note}

/-- A stock operation fails with the ledger as it was, or passes its check, is given its
lock, finds its working level and applies its move. -/
theorem post_run_cases {ok : Level → Ledger → Prop} {err : Failure → Ledger → Prop}
    (inMemory : l.wiring.inventory = false) (refused : ∀ e, err e l)
    (wrote : ∀ w w' mv?, move.precheck = .ok () → l.locker.acquire call key.text = .ok () →
      l.book.working key move.creates = .ok w → move.apply w = .ok (w', mv?) →
      ok w' (l.written key w' (mv?.map (noted call move note)))) :
    Post (run call key move note) l ok err := by
  rw [Post, run_exec]
  rcases checked : move.precheck with e | ⟨⟩
  · exact refused e
  rw [write_exec call key move note inMemory]
  rcases acquired : l.locker.acquire call key.text with e | ⟨⟩
  · exact refused e
  rcases working : l.book.working key move.creates with e | w
  · exact refused e
  rcases applied : move.apply w with e | ⟨w', mv?⟩
  · simpa only [applied] using refused e
  · simpa only [applied] using wrote w w' mv? checked acquired working applied

theorem run_exec_ok {w w' : Level} {mv? : Option Movement} (inMemory : l.wiring.inventory = false)
    (checked : move.precheck = .ok ()) (acquired : l.locker.acquire call key.text = .ok ())
    (working : l.book.working key move.creates = .ok w) (applied : move.apply w = .ok (w', mv?)) :
    (run call key move note).exec l = (.ok w', l.written key w' (mv?.map (noted call move note))) := by
  simp only [run_exec, checked, write_exec call key move note inMemory, acquired, working, applied]

end Stock

end StockLedger
