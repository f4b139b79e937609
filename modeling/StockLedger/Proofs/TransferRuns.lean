import StockLedger.Proofs.TransferEngine
import StockLedger.Console.Answer
import Mathlib.Logic.Relation

/-!
Runs of the ledger. A run starts from a ledger with nothing logged and no transfers,
every store in memory, and takes steps: transfer operations, stock operations and
synchronised changes under references no transfer has, location changes, and changes of
the clock and of which journal writes and key locks fail. Whatever a step's operation
does, and wherever it fails, the ledger stays sound, so what `Ledger.Sound` says holds
after every run.
-/

namespace StockLedger

open Run

namespace Ledger

/-- Where a session of the ledger starts: nothing logged, no transfers, every store in
memory. -/
structure Initial (l : Ledger) : Prop where
  inMemory : l.wiring.inventory = false
  journalInMemory : l.wiring.transfers = false
  placesInMemory : l.wiring.locations = false
  log : l.book.log = []
  transfers : l.transfers = []

variable {l : Ledger}

theorem Initial.sound (start : l.Initial) : l.Sound where
  inMemory := start.inMemory
  journalInMemory := start.journalInMemory
  placesInMemory := start.placesInMemory
  kinds := by simp [start.log]
  filed := by simp [start.log]
  distinct := by simp [start.transfers]
  fits := by simp [start.transfers]
  reserves := by simp [start.transfers]

end Ledger

namespace Stock

variable {l : Ledger} {call : Call}

/-- A stock write under no transfer's reference keeps a sound ledger sound. -/
theorem post_write_foreign (sound : l.Sound) (key : StockKey) (move : Move) (note : Note)
    (foreign : ∀ x, note.reference ≠ Transfer.reference x) :
    Post (write call key move note) l (fun _ l' => l'.Sound) (fun _ l' => l'.Sound) := by
  rcases write_cases call key move note sound.inMemory with ⟨e, failed⟩ | ⟨w, w', mv?, _, applied, wrote⟩
  · exact post_of_exec_error failed sound
  refine post_of_exec wrote ?_
  rcases mv? with _ | mv
  · exact sound.keep ⟨by simp, by simp, by simp⟩
  have ext : l.Extends (l.written key w' (some (noted call move note mv))) (l.filed key (noted call move note mv)) :=
    ⟨by simp, by simp, by simp⟩
  refine sound.extend_foreign ext (by simpa using Move.apply_kind applied) ?_
  intro x filed
  simp only [Ledger.filed_reference, noted_reference, optional] at filed
  split at filed
  · cases filed
  · exact foreign x (Option.some.inj filed)

theorem post_run_foreign (sound : l.Sound) (key : StockKey) (move : Move) (note : Note)
    (foreign : ∀ x, note.reference ≠ Transfer.reference x) :
    Post (run call key move note) l (fun _ l' => l'.Sound) (fun _ l' => l'.Sound) := by
  rw [run, post_bind, post_check]
  split
  · exact post_write_foreign sound key move note foreign
  · exact sound

theorem post_applyChange_foreign (sound : l.Sound) (key : StockKey) (changeType : String) (quantity : Int64)
    (reference reason : String) (foreign : ∀ x, reference ≠ Transfer.reference x) :
    Post (applyChange call key changeType quantity reference reason) l (fun _ l' => l'.Sound)
      (fun _ l' => l'.Sound) := by
  rw [Post, applyChange_exec]
  by_cases negative : quantity < 0
  · rw [if_pos negative]
    exact sound
  rw [if_neg negative]
  rcases SyncMode.ofName? changeType with _ | mode
  · exact sound
  · exact post_write_foreign sound key _ { reference, reason } foreign

end Stock

namespace Places

variable {l : Ledger} {call : Call}

/-- Storing a location touches only the registry. -/
theorem post_store_keeps (inMemory : l.wiring.locations = false) (loc : Location) :
    Post (LocationStore.create call loc) l (fun _ l' => l.Keeps l') (fun _ l' => l.Keeps l') := by
  -- rewriting the database branch away, rather than simplifying it, keeps the kernel
  -- from unfolding the insert statement
  rw [LocationStore.create, post_bind, LocationStore.onDatabase, post_bind, post_get, post_pure,
    inMemory, if_neg Bool.false_ne_true]
  simp only [post_bind, post_get, post_check, post_modify]
  split
  · exact ⟨rfl, rfl, rfl⟩
  · exact .refl l

/-- Registering a location touches only the registry. -/
theorem post_add_keeps (inMemory : l.wiring.locations = false) (loc : Location) :
    Post (add call loc) l (fun _ l' => l.Keeps l') (fun _ l' => l.Keeps l') := by
  unfold add
  by_cases unnamed : loc.id = ""
  · simpa [unnamed] using Ledger.Keeps.refl l
  simp only [unnamed, reduceIte, post_bind, post_now, post_pure]
  exact post_store_keeps inMemory _

/-- Switching a location on or off touches only the registry. -/
theorem post_setActive_keeps (inMemory : l.wiring.locations = false) (id : String) (on : Bool) :
    Post (setActive call id on) l (fun _ l' => l.Keeps l') (fun _ l' => l.Keeps l') := by
  simp only [setActive, LocationStore.setActive, LocationStore.onDatabase, inMemory, post_bind,
    post_get, post_pure, Bool.false_eq_true, reduceIte, post_check, post_modify]
  split
  · exact ⟨rfl, rfl, rfl⟩
  · exact .refl l

theorem post_add (sound : l.Sound) (loc : Location) :
    Post (add call loc) l (fun _ l' => l'.Sound) (fun _ l' => l'.Sound) :=
  (post_add_keeps sound.placesInMemory loc).mono (fun _ _ keeps => sound.keep keeps) fun _ _ keeps => sound.keep keeps

theorem post_setActive (sound : l.Sound) (id : String) (on : Bool) :
    Post (setActive call id on) l (fun _ l' => l'.Sound) (fun _ l' => l'.Sound) :=
  (post_setActive_keeps sound.placesInMemory id on).mono (fun _ _ keeps => sound.keep keeps)
    fun _ _ keeps => sound.keep keeps

end Places

/-- One step of a session: a transfer operation, a stock operation or synchronised change
under a reference no transfer has, a location change, or a change from outside of the
clock, of which journal write fails next and of which key locks are refused. -/
inductive Step : Ledger → Ledger → Prop
  | create (l : Ledger) (call : Call) (req : TransferRequest) : Step l ((Transfers.create call req).exec l).2
  | addLine (l : Ledger) (call : Call) (id : String) (r : LineRequest) :
      Step l ((Transfers.addLine call id r).exec l).2
  | start (l : Ledger) (call : Call) (id : String) : Step l ((Transfers.startTransfer call id).exec l).2
  | complete (l : Ledger) (call : Call) (id : String) : Step l ((Transfers.complete call id).exec l).2
  | cancel (l : Ledger) (call : Call) (id : String) : Step l ((Transfers.cancel call id).exec l).2
  | resume (l : Ledger) (call : Call) : Step l ((Transfers.resume call).exec l).2
  | stock (l : Ledger) (call : Call) (key : StockKey) (move : Move) (note : Note)
      (foreign : ∀ x, note.reference ≠ Transfer.reference x) : Step l ((Stock.run call key move note).exec l).2
  | sync (l : Ledger) (call : Call) (key : StockKey) (changeType : String) (quantity : Int64)
      (reference reason : String) (foreign : ∀ x, reference ≠ Transfer.reference x) :
      Step l ((Stock.applyChange call key changeType quantity reference reason).exec l).2
  | place (l : Ledger) (call : Call) (loc : Location) : Step l ((Places.add call loc).exec l).2
  | activate (l : Ledger) (call : Call) (id : String) (on : Bool) :
      Step l ((Places.setActive call id on).exec l).2
  | outside (l : Ledger) (clock : Instant) (trap : Option JournalTrap) (locker : Locker) :
      Step l { l with clock, trap, locker }

/-- The ledgers a session reaches: those a run of steps leads to from where it starts. -/
def Reachable (l : Ledger) : Prop := ∃ l₀, l₀.Initial ∧ Relation.ReflTransGen Step l₀ l

/-- Every step keeps a sound ledger sound, whichever way its operation ends. -/
theorem Step.sound {l l' : Ledger} (step : Step l l') (sound : l.Sound) : l'.Sound := by
  cases step with
  | create call req => exact (Transfers.post_create sound req).final
  | addLine call id r => exact (Transfers.post_addLine sound id r).final
  | start call id => exact (Transfers.post_startTransfer sound id).final
  | complete call id => exact (Transfers.post_complete sound id).final
  | cancel call id => exact (Transfers.post_cancel sound id).final
  | resume call => exact (Transfers.post_resume sound).final
  | stock call key move note foreign => exact (Stock.post_run_foreign sound key move note foreign).final
  | sync call key changeType quantity reference reason foreign =>
    exact (Stock.post_applyChange_foreign sound key changeType quantity reference reason foreign).final
  | place call loc => exact (Places.post_add sound loc).final
  | activate call id on => exact (Places.post_setActive sound id on).final
  | outside clock trap locker => exact sound.keep ⟨rfl, rfl, rfl⟩

/-- Every ledger a session reaches is sound. -/
theorem Reachable.sound {l : Ledger} (reached : Reachable l) : l.Sound := by
  obtain ⟨l₀, start, run⟩ := reached
  induction run with
  | refl => exact start.sound
  | tail _ step sound => exact step.sound sound

namespace Session

/-- A session as the console starts it, with the clock at zero and nothing published. -/
def fresh : Ledger := Console.freshLedger Instant.zero .off none ⟨none, []⟩

theorem fresh_initial : fresh.Initial := ⟨rfl, rfl, rfl, rfl, rfl⟩

/-- The id the first transfer of a session gets after one stock write. -/
def firstId : String := "00000000-0000-4000-8000-000000000002"

theorem unfiled_note : ∀ x, ({} : Note).reference ≠ Transfer.reference x :=
  fun x => (Transfers.reference_ne_empty x).symm

/-- A store `B`, ten units of `p1` at the main warehouse, and a pending transfer of three
of them to `B`. -/
def opened : Ledger :=
  let placed := ((Places.add {} (Location.store "B" "B")).exec fresh).2
  let stocked := ((Stock.run {} ⟨"p1", "", Location.mainId⟩ (.set 10) {}).exec placed).2
  ((Transfers.create {}
    { source := Location.mainId, destination := "B", notes := "", expectedArrival := none,
      lines := [⟨"p1", "", 3⟩] }).exec stocked).2

theorem opened_run : Relation.ReflTransGen Step fresh opened :=
  .tail (.tail (.single (.place _ _ _)) (.stock _ _ _ _ _ unfiled_note)) (.create _ _ _)

end Session

end StockLedger
