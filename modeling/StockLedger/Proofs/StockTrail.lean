import StockLedger.Proofs.StockCalls
import StockLedger.Proofs.OrderAccounts

/-!
The log accounts for every level. At each key the entries of the kinds that move on-hand
stock (sets, counts, shipments, receipts, returns, scrapping and synchronised changes),
in the order they were appended, form a chain: the first starts at zero, each ends at its
start plus its quantity, the next starts where the one before ended, and the last ends at
the key's on-hand figure. The damage reports and scrapping of a key sum to its damaged
figure, and a key without a level has no entries.

A write keeps this (`Book.Replays.written`) because every move that changes on-hand or
damaged stock files an entry of exactly what it changed, and a move that files none of
that kind leaves the figure alone; along a stock run it holds from the empty book on
(`log_reconstructs_stock`).
-/

namespace StockLedger

namespace AdjustmentKind

def movesOnHand : AdjustmentKind → Bool
  | .adjustment | .cycleCount | .shipped | .received | .returned | .scrapped => true
  | _ => false

def movesDamaged : AdjustmentKind → Bool
  | .damaged | .scrapped => true
  | _ => false

end AdjustmentKind

/-- What a movement adds to the figure that the kinds `p` track. -/
def Movement.along (p : AdjustmentKind → Bool) : Option Movement → Int64
  | some mv => if p mv.kind then mv.delta else 0
  | none => 0

namespace Move

variable {m : Move} {w w' : Level} {mv? : Option Movement}

theorem apply_onHand (applied : m.apply w = .ok (w', mv?)) :
    w'.onHand = w.onHand + Movement.along AdjustmentKind.movesOnHand mv? ∧
      ∀ mv ∈ mv?, mv.kind.movesOnHand → mv.previous = w.onHand := by
  cases m <;> simp only [apply] at applied
  case reserve q =>
    split at applied
    · cases applied
    · cases applied
      simp [Movement.along, AdjustmentKind.movesOnHand, Level.recount]
  case limits t =>
    split at applied
    · cases applied
    · cases applied
      simp [Movement.along, Thresholds.write, Level.recount]
  all_goals
    cases applied
    simp [Movement.along, AdjustmentKind.movesOnHand, Level.recount] <;> grind

theorem apply_damaged (applied : m.apply w = .ok (w', mv?)) :
    w'.damaged = w.damaged + Movement.along AdjustmentKind.movesDamaged mv? := by
  cases m <;> simp only [apply] at applied
  case reserve q =>
    split at applied
    · cases applied
    · cases applied
      simp [Movement.along, AdjustmentKind.movesDamaged, Level.recount]
  case limits t =>
    split at applied
    · cases applied
    · cases applied
      simp [Movement.along, Thresholds.write, Level.recount]
  all_goals
    cases applied
    simp [Movement.along, AdjustmentKind.movesDamaged, Level.recount] <;> grind

end Move

namespace Book

/-- The entries of a key that move its on-hand stock, oldest first. -/
def onHandTrail (log : List Adjustment) (k : StockKey) : List Adjustment :=
  log.filter fun e => e.key == k && e.kind.movesOnHand

/-- The damaged figure the log gives a key: its damage reports and scrapping summed,
wrapping. -/
def damageTotal (log : List Adjustment) (k : StockKey) : Int64 :=
  Orders.sumOf (fun e => e.key == k && e.kind.movesDamaged) log

/-- Entries that follow one another from `start` to `stop`: the first starts at `start`,
each ends at its start plus its quantity, the next starts where the one before ended, and
the last ends at `stop`. -/
def Chained : Int64 → List Adjustment → Int64 → Prop
  | start, [], stop => stop = start
  | start, e :: rest, stop => e.previous = start ∧ e.next = e.previous + e.quantity ∧ Chained e.next rest stop

theorem Chained.append {start stop : Int64} {es : List Adjustment} {e : Adjustment}
    (chain : Chained start es stop) (joined : e.previous = stop) (adds : e.next = e.previous + e.quantity) :
    Chained start (es ++ [e]) e.next := by
  induction es generalizing start with
  | nil =>
    simp only [Chained] at chain
    exact ⟨joined.trans chain, adds, rfl⟩
  | cons first rest ih =>
    obtain ⟨starts, next, tail⟩ := chain
    exact ⟨starts, next, ih tail⟩

theorem onHandTrail_append (log : List Adjustment) (e : Adjustment) (k : StockKey) :
    onHandTrail (log ++ [e]) k = onHandTrail log k ++ if e.key = k ∧ e.kind.movesOnHand then [e] else [] := by
  by_cases counted : e.key = k ∧ e.kind.movesOnHand <;> simp_all [onHandTrail]

theorem damageTotal_append (log : List Adjustment) (e : Adjustment) (k : StockKey) :
    damageTotal (log ++ [e]) k = damageTotal log k + if e.key = k ∧ e.kind.movesDamaged then e.quantity else 0 := by
  unfold damageTotal
  rw [Orders.sumOf_append]
  by_cases counted : e.key = k ∧ e.kind.movesDamaged <;> simp_all

/-- The log replays the book: at every key the on-hand entries chain from zero to the
on-hand figure, the damage entries sum to the damaged figure, and a key without a level
has no entries. -/
structure Replays (b : Book) : Prop where
  onHand : ∀ k, Chained 0 (onHandTrail b.log k) (b.figure k Level.onHand)
  damaged : ∀ k, b.figure k Level.damaged = damageTotal b.log k
  unlogged : ∀ k, b.find? k = none → ∀ e ∈ b.log, e.key ≠ k

theorem replays_empty : empty.Replays where
  onHand k := by simp [onHandTrail, Chained, figure, find?, empty]
  damaged k := by simp [figure, find?, empty, damageTotal, Orders.sumOf]
  unlogged k _ := by simp [empty]

section Written

variable {l : Ledger} {key : StockKey} {move : Move} {w w' : Level} {mv? : Option Movement}
  (call : Call) (note : Note)

theorem Replays.written_onHand (replays : l.book.Replays) (working : l.book.working key move.creates = .ok w)
    (applied : move.apply w = .ok (w', mv?)) (k : StockKey) :
    Chained 0 (onHandTrail (l.written key w' (mv?.map (Stock.noted call move note))).book.log k)
      ((l.written key w' (mv?.map (Stock.noted call move note))).book.figure k Level.onHand) := by
  have keyed : w'.key = key := (Move.apply_recounts applied).2.trans (working_key working)
  have was : l.book.figure key Level.onHand = w.onHand := (figure_of_working working Level.onHand rfl).1
  obtain ⟨grown, starts⟩ := Move.apply_onHand applied
  rw [Ledger.written_figure l keyed]
  -- only the written key's trail can grow, and only by an entry that moves on-hand stock
  rcases mv? with _ | mv
  · simp only [Option.map_none, Ledger.written_log, Option.toList_none, List.append_nil]
    split
    · rename_i here
      subst here
      rw [grown, Movement.along, Int64.add_zero, ← was]
      exact replays.onHand key
    · exact replays.onHand k
  · have eKey : (l.filed key (Stock.noted call move note mv)).key = key := rfl
    have eKind : (l.filed key (Stock.noted call move note mv)).kind = mv.kind := rfl
    simp only [Option.map_some, Ledger.written_log, Option.toList_some]
    rw [onHandTrail_append]
    by_cases here : key = k
    · subst here
      rw [if_pos rfl]
      by_cases moves : mv.kind.movesOnHand
      · rw [if_pos ⟨eKey, eKind ▸ moves⟩, grown, Movement.along, if_pos moves]
        have ends : (l.filed key (Stock.noted call move note mv)).next = w.onHand + mv.delta := by
          rw [Ledger.filed_next, Stock.noted_previous, Stock.noted_delta, starts mv rfl moves]
        rw [← ends]
        exact (replays.onHand key).append
          (by rw [Ledger.filed_previous, Stock.noted_previous, starts mv rfl moves, was]) (by simp)
      · rw [if_neg (fun h => moves (eKind ▸ h.2)), List.append_nil, grown, Movement.along, if_neg moves,
          Int64.add_zero, ← was]
        exact replays.onHand key
    · rw [if_neg (fun h => here (eKey ▸ h.1)), List.append_nil, if_neg here]
      exact replays.onHand k

theorem Replays.written_damaged (replays : l.book.Replays) (working : l.book.working key move.creates = .ok w)
    (applied : move.apply w = .ok (w', mv?)) (k : StockKey) :
    (l.written key w' (mv?.map (Stock.noted call move note))).book.figure k Level.damaged =
      damageTotal (l.written key w' (mv?.map (Stock.noted call move note))).book.log k := by
  have keyed : w'.key = key := (Move.apply_recounts applied).2.trans (working_key working)
  have was : l.book.figure key Level.damaged = w.damaged := (figure_of_working working Level.damaged rfl).1
  rw [Ledger.written_figure l keyed]
  rcases mv? with _ | mv
  · simp only [Option.map_none, Ledger.written_log, Option.toList_none, List.append_nil]
    split
    · rename_i here
      subst here
      rw [Move.apply_damaged applied, Movement.along, Int64.add_zero, ← was]
      exact replays.damaged key
    · exact replays.damaged k
  · have eKey : (l.filed key (Stock.noted call move note mv)).key = key := rfl
    simp only [Option.map_some, Ledger.written_log, Option.toList_some]
    rw [damageTotal_append]
    by_cases here : key = k
    · subst here
      rw [if_pos rfl, Move.apply_damaged applied, ← was, replays.damaged key, Movement.along]
      by_cases moves : mv.kind.movesDamaged
      · rw [if_pos moves, if_pos ⟨eKey, moves⟩]
        rfl
      · rw [if_neg moves, if_neg (fun h => moves h.2)]
    · rw [if_neg here, if_neg (fun h => here (eKey ▸ h.1)), Int64.add_zero]
      exact replays.damaged k

theorem Replays.written_unlogged (replays : l.book.Replays) (working : l.book.working key move.creates = .ok w)
    (applied : move.apply w = .ok (w', mv?)) (k : StockKey)
    (absent : (l.written key w' (mv?.map (Stock.noted call move note))).book.find? k = none) :
    ∀ e ∈ (l.written key w' (mv?.map (Stock.noted call move note))).book.log, e.key ≠ k := by
  have keyed : w'.key = key := (Move.apply_recounts applied).2.trans (working_key working)
  rw [Ledger.written_find?] at absent
  have other : key ≠ k := fun here => by rw [if_pos (keyed.trans here)] at absent; cases absent
  rw [if_neg (fun same => other (keyed.symm.trans same))] at absent
  intro e member
  rw [Ledger.written_log] at member
  rcases List.mem_append.mp member with old | new
  · exact replays.unlogged k absent e old
  · rcases mv? with _ | mv
    · cases new
    · rw [List.mem_singleton.mp new, Ledger.filed_key]
      exact other

/-- A write keeps the log replaying the book. -/
theorem Replays.written (replays : l.book.Replays) (working : l.book.working key move.creates = .ok w)
    (applied : move.apply w = .ok (w', mv?)) :
    (l.written key w' (mv?.map (Stock.noted call move note))).book.Replays where
  onHand := replays.written_onHand call note working applied
  damaged := replays.written_damaged call note working applied
  unlogged := replays.written_unlogged call note working applied

end Written

end Book

namespace Stock

theorem Reachable.replays {admits : Ledger → Op → Prop} {l : Ledger} (reached : Reachable admits l) :
    l.book.Replays := by
  refine reached.induction (fun _ _ empty => empty ▸ Book.replays_empty) ?_
    (fun _ _ book _ replays => book ▸ replays)
  intro l call op inMemory _ replays
  exact Run.Post.final (P := fun l' => l'.book.Replays)
    (Op.post_exec inMemory (fun _ => replays)
      fun _ _ _ _ _ working applied => replays.written call op.note working applied)

end Stock

/-- Along every stock run the log reconstructs the stock. It is numbered one by one in
the order it grew. At every key the entries that move on-hand stock, in that order, chain
from zero to the key's on-hand figure: the first starts at zero, each ends at its start
plus its quantity, and the next starts where it ended. The key's damage reports and
scrapping sum, wrapping, to its damaged figure. A key without a level has no entries. -/
theorem log_reconstructs_stock {l : Ledger} (reached : Stock.Reachable Stock.everyOp l) :
    l.book.Numbered ∧ ∀ k, Book.Chained 0 (Book.onHandTrail l.book.log k) (l.book.figure k Level.onHand) ∧
      l.book.figure k Level.damaged = Book.damageTotal l.book.log k ∧
      (l.book.find? k = none → ∀ e ∈ l.book.log, e.key ≠ k) := by
  have replays := reached.replays
  exact ⟨reached.numbered, fun k => ⟨replays.onHand k, replays.damaged k, replays.unlogged k⟩⟩

namespace Session

/-- Ten units of `p1` received at the main warehouse, three of them reserved, two
reported damaged, one of those scrapped, and the count set to seven. -/
def countedRun : Ledger :=
  let received := (((Stock.Op.run mainStock (.receive 10) {}).exec {}).exec fresh).2
  let reserved := (((Stock.Op.run mainStock (.reserve 3) {}).exec {}).exec received).2
  let damaged := (((Stock.Op.run mainStock (.damage 2) {}).exec {}).exec reserved).2
  let scrapped := (((Stock.Op.run mainStock (.scrap 1) {}).exec {}).exec damaged).2
  (((Stock.Op.run mainStock (.count 7 Instant.zero) {}).exec {}).exec scrapped).2

theorem countedRun_reachable : Stock.Reachable Stock.everyOp countedRun :=
  ⟨fresh, rfl, rfl, .tail (.tail (.tail (.tail (.single (.call _ _ _ trivial)) (.call _ _ _ trivial))
    (.call _ _ _ trivial)) (.call _ _ _ trivial)) (.call _ _ _ trivial)⟩

theorem countedRun_reconstructs :
    Stock.Reachable Stock.everyOp countedRun ∧ countedRun.book.Numbered ∧
      ∀ k, Book.Chained 0 (Book.onHandTrail countedRun.book.log k) (countedRun.book.figure k Level.onHand) ∧
        countedRun.book.figure k Level.damaged = Book.damageTotal countedRun.book.log k ∧
        (countedRun.book.find? k = none → ∀ e ∈ countedRun.book.log, e.key ≠ k) :=
  ⟨countedRun_reachable, log_reconstructs_stock countedRun_reachable⟩

end Session

end StockLedger
