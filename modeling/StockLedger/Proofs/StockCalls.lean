import StockLedger.Proofs.OrderHoldings
import StockLedger.Proofs.TransferRuns

/-!
Calls of the stock ledger and what each leaves behind. A call is a stock operation on a
key (a set, count, reservation, release, shipment, receipt, return, damage report, scrap
or threshold update) or a change reported by a synchronised system. `Stock.Op.checked` is
the move a call makes, or why it is refused before the key's lock is taken.

On a ledger kept in memory a call is atomic (`stock_call_atomic`): when it fails the
ledger is as it was, and when it succeeds only the level of its key is written and,
unless it only updates thresholds, the log grows by one entry for that key, numbered one
past the book's last.

A stock run starts from an empty book and takes calls, which a parameter admits, and
changes that leave the book and the wiring alone. Its log stays numbered one by one in
the order it grows (`Stock.Reachable.numbered`).
-/

namespace StockLedger

namespace Move

/-- Every move but a threshold update files an entry. -/
def audited : Move → Bool
  | .limits _ => false
  | _ => true

variable {m : Move} {w w' : Level} {mv? : Option Movement}

theorem apply_audited (applied : m.apply w = .ok (w', mv?)) : mv?.isSome = m.audited := by
  cases m <;> simp only [apply] at applied
  case reserve q =>
    split at applied
    · cases applied
    · cases applied
      rfl
  case limits t =>
    split at applied
    · cases applied
    · cases applied
      rfl
  all_goals
    cases applied
    rfl

end Move

namespace Book

theorem working_key {b : Book} {key : StockKey} {creates : Bool} {w : Level}
    (working : b.working key creates = .ok w) : w.key = key :=
  (figure_of_working working Level.onHand rfl).2

/-- The log is numbered one by one from one in the order it grew, and the book's number
is that of its last entry. -/
def Numbered (b : Book) : Prop :=
  b.log.map (·.seq) = (List.range b.log.length).map (fun i => Int64.ofNat (i + 1)) ∧
    b.seq = Int64.ofNat b.log.length

theorem numbered_empty : empty.Numbered := ⟨rfl, rfl⟩

theorem Numbered.append {b b' : Book} {e : Adjustment} (numbered : b.Numbered)
    (log : b'.log = b.log ++ [e]) (seq : e.seq = b.seq + 1) (counter : b'.seq = e.seq) : b'.Numbered := by
  obtain ⟨seqs, last⟩ := numbered
  have next : e.seq = Int64.ofNat (b.log.length + 1) := by rw [seq, last, Int64.ofNat_add]; rfl
  constructor
  · rw [log, List.length_append, List.length_singleton, List.range_succ, List.map_append, List.map_append, seqs]
    simp [next]
  · rw [counter, next, log, List.length_append, List.length_singleton]

end Book

namespace Ledger

theorem written_find? (l : Ledger) (key : StockKey) (w : Level) (c : Option Change) (k : StockKey) :
    (l.written key w c).book.find? k = if w.key = k then some w else l.book.find? k := by
  unfold Book.find?
  rw [written_levels, Book.find?_store]

end Ledger

namespace Stock

/-- A call of the stock ledger: a stock operation on a key with its move and note, or a
change of on-hand stock reported by a synchronised system. The first kind takes any move,
the sync moves included, so what holds of every call holds of more than the operations
offer. -/
inductive Op where
  | run (key : StockKey) (move : Move) (note : Note)
  | change (key : StockKey) (changeType : String) (quantity : Int64) (reference reason : String)

namespace Op

def key : Op → StockKey
  | run key _ _ => key
  | change key _ _ _ _ => key

def note : Op → Note
  | run _ _ note => note
  | change _ _ _ reference reason => { reference, reason }

/-- The move a call makes, or why it is refused before the key's lock is taken. -/
def checked : Op → Except Failure Move
  | run _ move _ => move.precheck.map fun _ => move
  | change _ changeType quantity _ _ =>
    if quantity < 0 then
      .error (.withDetail .changeInvalid ("negative quantity " ++ Quantity.text quantity))
    else match SyncMode.ofName? changeType with
      | none => .error (.withDetail .changeInvalid ("unknown change type " ++ Text.quote changeType))
      | some mode => .ok (.sync mode quantity)

def exec (call : Call) : Op → Run Level
  | run key move note => Stock.run call key move note
  | change key changeType quantity reference reason =>
    Stock.applyChange call key changeType quantity reference reason

/-- Whether a call files an entry when it succeeds: all but threshold updates do. -/
def audited : Op → Bool
  | run _ move _ => move.audited
  | change .. => true

theorem audited_of_checked {op : Op} {move : Move} (checked : op.checked = .ok move) :
    op.audited = move.audited := by
  cases op with
  | run key m note =>
    simp only [Op.checked] at checked
    rcases passed : m.precheck with e | ⟨⟩ <;> rw [passed] at checked <;> cases checked
    rfl
  | change key changeType quantity reference reason =>
    simp only [Op.checked] at checked
    split at checked
    · cases checked
    · split at checked
      · cases checked
      · cases checked
        rfl

/-- A call checks its move, then writes it. -/
theorem exec_eq (call : Call) (op : Op) (l : Ledger) :
    (op.exec call).exec l = match op.checked with
      | .error e => (.error e, l)
      | .ok move => (write call op.key move op.note).exec l := by
  cases op with
  | run key move note =>
    rw [exec, run_exec]
    rcases passed : move.precheck with e | ⟨⟩ <;> simp [checked, passed, Except.map, Op.key, Op.note]
  | change key changeType quantity reference reason =>
    rw [exec, applyChange_exec]
    by_cases negative : quantity < 0
    · simp [checked, negative]
    · rcases mode : SyncMode.ofName? changeType with _ | mode <;> simp [checked, negative, mode, Op.key, Op.note]

variable {call : Call} {op : Op} {l : Ledger}

/-- A call on a ledger kept in memory fails and leaves the ledger as it was, or writes the
level its move makes of the key's working level, with the entry of its movement. -/
theorem exec_cases (call : Call) (op : Op) (inMemory : l.wiring.inventory = false) :
    (∃ e, (op.exec call).exec l = (.error e, l)) ∨
    ∃ move w w' mv?, op.checked = .ok move ∧ l.book.working op.key move.creates = .ok w ∧
      move.apply w = .ok (w', mv?) ∧
      (op.exec call).exec l = (.ok w', l.written op.key w' (mv?.map (noted call move op.note))) := by
  rw [exec_eq]
  rcases checked : op.checked with e | move
  · exact .inl ⟨e, rfl⟩
  rcases write_cases call op.key move op.note inMemory with failed | ⟨w, w', mv?, working, applied, wrote⟩
  · exact .inl failed
  · exact .inr ⟨move, w, w', mv?, rfl, working, applied, wrote⟩

theorem post_exec {ok : Level → Ledger → Prop} {err : Failure → Ledger → Prop}
    (inMemory : l.wiring.inventory = false) (refused : ∀ e, err e l)
    (wrote : ∀ move w w' mv?, op.checked = .ok move → l.book.working op.key move.creates = .ok w →
      move.apply w = .ok (w', mv?) → ok w' (l.written op.key w' (mv?.map (noted call move op.note)))) :
    Run.Post (op.exec call) l ok err := by
  rcases exec_cases call op inMemory with ⟨e, failed⟩ | ⟨move, w, w', mv?, checked, working, applied, done⟩
  · exact Run.post_of_exec_error failed (refused e)
  · exact Run.post_of_exec done (wrote move w w' mv? checked working applied)

/-- What a successful call leaves: the level it returns stored under its key, every
other key's level as it was, and one entry for its key appended, numbered one past the
book's last, or none for a threshold update. -/
structure Written (op : Op) (l : Ledger) (w : Level) (l' : Ledger) : Prop where
  stored : l'.book.find? op.key = some w
  others : ∀ k, k ≠ op.key → l'.book.find? k = l.book.find? k
  logged : if op.audited then
      ∃ e, e.key = op.key ∧ e.seq = l.book.seq + 1 ∧ l'.book.log = l.book.log ++ [e] ∧ l'.book.seq = e.seq
    else l'.book.log = l.book.log ∧ l'.book.seq = l.book.seq

theorem written_of_apply {move : Move} {w w' : Level} {mv? : Option Movement} (checked : op.checked = .ok move)
    (working : l.book.working op.key move.creates = .ok w) (applied : move.apply w = .ok (w', mv?)) :
    op.Written l w' (l.written op.key w' (mv?.map (noted call move op.note))) := by
  have keyed : w'.key = op.key := (Move.apply_recounts applied).2.trans (Book.working_key working)
  have filing := Move.apply_audited applied
  rw [← audited_of_checked checked] at filing
  refine ⟨by rw [Ledger.written_find?, if_pos keyed], fun k other => ?_, ?_⟩
  · rw [Ledger.written_find?, if_neg (fun same => other (same.symm.trans keyed))]
  · rcases mv? with _ | mv
    · rw [← filing]
      simp
    · rw [← filing]
      exact ⟨l.filed op.key (noted call move op.note mv), rfl, rfl, by simp, by simp⟩

end Op

/-- A call on a ledger kept in memory is atomic. When it fails the ledger is as it was,
levels, log and every other store; no level is created. When it succeeds only the level
of its key changes, and exactly one entry for that key is appended, numbered one past the
book's last, unless the call only updates thresholds. -/
theorem stock_call_atomic (call : Call) (op : Op) {l : Ledger} (inMemory : l.wiring.inventory = false) :
    Run.Post (op.exec call) l (op.Written l) (fun _ l' => l' = l) :=
  Op.post_exec inMemory (fun _ => rfl) fun _ _ _ _ checked working applied =>
    Op.written_of_apply checked working applied

/-- One step of a stock run: a call the run admits, or a change of the ledger that leaves
its book and its wiring alone, such as the clock, the locks and the other stores. -/
inductive Step (admits : Ledger → Op → Prop) : Ledger → Ledger → Prop
  | call (l : Ledger) (call : Call) (op : Op) (admitted : admits l op) : Step admits l ((op.exec call).exec l).2
  | outside (l l' : Ledger) (book : l'.book = l.book) (wiring : l'.wiring = l.wiring) : Step admits l l'

def everyOp (_ : Ledger) (_ : Op) : Prop := True

/-- The ledgers a stock run reaches from an empty book kept in memory. -/
def Reachable (admits : Ledger → Op → Prop) (l : Ledger) : Prop :=
  ∃ l₀, l₀.wiring.inventory = false ∧ l₀.book = Book.empty ∧ Relation.ReflTransGen (Step admits) l₀ l

variable {admits : Ledger → Op → Prop}

theorem Step.inMemory {l l' : Ledger} (step : Step admits l l') (inMemory : l.wiring.inventory = false) :
    l'.wiring.inventory = false := by
  cases step with
  | call call op admitted =>
    rcases Op.exec_cases call op inMemory with ⟨e, failed⟩ | ⟨_, _, _, _, _, _, _, wrote⟩
    · rw [failed]
      exact inMemory
    · rw [wrote, Ledger.written_wiring]
      exact inMemory
  | outside l' book wiring =>
    rw [wiring]
    exact inMemory

/-- What holds of an empty book kept in memory, is kept by every admitted call and
depends on nothing but the book and the wiring holds along every stock run. -/
theorem Reachable.induction {P : Ledger → Prop} {l : Ledger} (reached : Reachable admits l)
    (start : ∀ l, l.wiring.inventory = false → l.book = Book.empty → P l)
    (step : ∀ l call op, l.wiring.inventory = false → admits l op → P l → P ((op.exec call).exec l).2)
    (outside : ∀ l l', l'.book = l.book → l'.wiring = l.wiring → P l → P l') : P l := by
  obtain ⟨l₀, inMemory, empty, run⟩ := reached
  have both : l.wiring.inventory = false ∧ P l := by
    induction run with
    | refl => exact ⟨inMemory, start l₀ inMemory empty⟩
    | tail _ last holds =>
      refine ⟨last.inMemory holds.1, ?_⟩
      cases last with
      | call call op admitted => exact step _ call op holds.1 admitted holds.2
      | outside =>
        rename_i book wiring
        exact outside _ _ book wiring holds.2
  exact both.2

theorem Reachable.inMemory {l : Ledger} (reached : Reachable admits l) : l.wiring.inventory = false :=
  reached.induction (fun _ inMemory _ => inMemory)
    (fun l call op inMemory admitted _ => Step.inMemory (.call l call op admitted) inMemory)
    (fun _ _ _ wiring kept => wiring ▸ kept)

theorem Op.Written.numbered {op : Op} {l l' : Ledger} {w : Level} (written : op.Written l w l')
    (numbered : l.book.Numbered) : l'.book.Numbered := by
  have logged := written.logged
  split at logged
  · obtain ⟨e, _, seq, log, counter⟩ := logged
    exact numbered.append log seq counter
  · obtain ⟨log, seq⟩ := logged
    unfold Book.Numbered
    rw [log, seq]
    exact numbered

/-- Along a stock run the log is numbered one by one in the order it grows, so its order
is the order of the entries' numbers. -/
theorem Reachable.numbered {l : Ledger} (reached : Reachable admits l) : l.book.Numbered := by
  refine reached.induction (fun _ _ empty => empty ▸ Book.numbered_empty) ?_
    (fun _ _ book _ numbered => book ▸ numbered)
  intro l call op inMemory _ numbered
  exact Run.Post.final (P := fun l' => l'.book.Numbered)
    ((stock_call_atomic call op inMemory).mono (fun _ _ written => written.numbered numbered)
      (fun _ _ same => same ▸ numbered))

end Stock

namespace Session

/-- The stock of `p1`, without variant, at the main warehouse. -/
def mainStock : StockKey := ⟨"p1", "", Location.mainId⟩

theorem setTen_atomic :
    fresh.wiring.inventory = false ∧
      Run.Post ((Stock.Op.run mainStock (.set 10) {}).exec {}) fresh
        ((Stock.Op.run mainStock (.set 10) {}).Written fresh) (fun _ l' => l' = fresh) :=
  ⟨rfl, Stock.stock_call_atomic {} _ rfl⟩

end Session

end StockLedger
