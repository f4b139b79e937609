import StockLedger.Proofs.StockCalls

/-!
A change of a level kept on the database, as one transaction. What the database answers
is left open: every statement may be refused when prepared or run, return any rows and
fail after them. What is fixed is what the store sends. `Ledger.Sends` records the
statements a run adds to the database's record, and `Run.Transmits` says a run sends a
plan when it succeeds and a prefix of it when it fails; each statement primitive transmits
itself, and the rule for `>>=` concatenates plans. The transaction body sends a prefix of
its steps when it fails (`LevelStore.transact_stops`); when it succeeds, every statement
was answered without error (`LevelStore.WentThrough`) and all of them went out. The change
as a whole commits or rolls back around it (`level_change_all_or_nothing`).
-/

namespace StockLedger

/-- `l'` follows `l` by the statements `sent`: its book and wiring are as they were, and
its database recorded `sent` after what it had recorded. -/
structure Ledger.Sends (l l' : Ledger) (sent : List Statement) : Prop where
  book : l'.book = l.book
  wiring : l'.wiring = l.wiring
  clock : l'.clock = l.clock
  recorded : l'.database.sent = l.database.sent ++ sent

namespace Ledger.Sends

theorem refl (l : Ledger) : l.Sends l [] := ⟨rfl, rfl, rfl, by simp⟩

theorem trans {l l₁ l₂ : Ledger} {xs ys : List Statement} (first : l.Sends l₁ xs) (second : l₁.Sends l₂ ys) :
    l.Sends l₂ (xs ++ ys) :=
  ⟨second.book.trans first.book, second.wiring.trans first.wiring, second.clock.trans first.clock,
    by rw [second.recorded, first.recorded, List.append_assoc]⟩

/-- A run that stops within `ys` after `xs` went out has stopped within `xs ++ ys`. -/
theorem within_append {l l₁ l' : Ledger} {xs ys : List Statement} (first : l.Sends l₁ xs)
    (stopped : ∃ p, p <+: ys ∧ l₁.Sends l' p) : ∃ p, p <+: xs ++ ys ∧ l.Sends l' p := by
  obtain ⟨p, below, sent⟩ := stopped
  exact ⟨xs ++ p, (List.prefix_append_right_inj xs).mpr below, first.trans sent⟩

theorem within_mono {l l' : Ledger} {xs ys : List Statement} (stopped : ∃ p, p <+: xs ∧ l.Sends l' p)
    (longer : xs <+: ys) : ∃ p, p <+: ys ∧ l.Sends l' p := by
  obtain ⟨p, below, sent⟩ := stopped
  exact ⟨p, below.trans longer, sent⟩

end Ledger.Sends

namespace Database

theorem pick_sent (d : Database) (preparing : Bool) (text : String) : (d.pick preparing text).1.sent = d.sent := by
  unfold pick
  split
  · rfl
  · split
    · rfl
    · split <;> rfl

end Database

namespace Run

/-- `m` sends `plan` when it succeeds and a prefix of it when it fails, and changes
neither the book, the wiring nor the clock. -/
def Transmits (m : Run α) (plan : List Statement) : Prop :=
  ∀ l, Post m l (fun _ l' => l.Sends l' plan) (fun _ l' => ∃ p, p <+: plan ∧ l.Sends l' p)

theorem transmits_pure (a : α) : Transmits (pure a) [] := fun l => Ledger.Sends.refl l

theorem transmits_fail (e : Failure) (plan : List Statement) : Transmits (fail e : Run α) plan := fun l =>
  ⟨[], List.nil_prefix, Ledger.Sends.refl l⟩

theorem transmits_fail_bind (e : Failure) (f : β → Run α) (plan : List Statement) :
    Transmits (fail e >>= f) plan := fun l =>
  ⟨[], List.nil_prefix, Ledger.Sends.refl l⟩

theorem transmits_bind {m : Run β} {f : β → Run α} {xs ys : List Statement} (first : Transmits m xs)
    (rest : ∀ b, Transmits (f b) ys) : Transmits (m >>= f) (xs ++ ys) := by
  intro l
  refine post_bind_of _ ((first l).mono (fun _ _ sent => sent) fun _ _ stopped => ?_) fun b l₁ sent => ?_
  · exact Ledger.Sends.within_mono stopped (List.prefix_append _ _)
  · exact (rest b l₁).mono (fun _ _ sent' => sent.trans sent') fun _ _ stopped => sent.within_append stopped

theorem Post.of_ok {m : Run α} {ok : α → Ledger → Prop} {err : Failure → Ledger → Prop} {l l' : Ledger} {a : α}
    (holds : Post m l ok err) (ran : m.exec l = (.ok a, l')) : ok a l' := by
  unfold Post at holds
  rwa [ran] at holds

theorem Transmits.sends_of_ok {m : Run α} {plan : List Statement} (sends : Transmits m plan) {l l' : Ledger}
    {a : α} (ran : m.exec l = (.ok a, l')) : l.Sends l' plan :=
  (sends l).of_ok ran

theorem exec_bind_ok {m : Run β} {f : β → Run α} {l l' : Ledger} {a : α} (ran : (m >>= f).exec l = (.ok a, l')) :
    ∃ b l₁, m.exec l = (.ok b, l₁) ∧ (f b).exec l₁ = (.ok a, l') := by
  rw [exec_bind] at ran
  rcases first : m.exec l with ⟨_ | b, l₁⟩ <;> rw [first] at ran
  · cases ran
  · exact ⟨b, l₁, rfl, ran⟩

theorem exec_pure_ok {a b : α} {l l' : Ledger} (ran : (pure a : Run α).exec l = (.ok b, l')) : a = b ∧ l = l' := by
  simpa using ran

/-- The outcome of a run, as a postcondition, to keep beside what is proved of it. -/
theorem post_outcome (m : Run α) (l : Ledger) :
    Post m l (fun a l' => m.exec l = (.ok a, l')) (fun e l' => m.exec l = (.error e, l')) := by
  unfold Post
  split <;> assumption

end Run

namespace Sql

open Run

theorem transmits_reach (call : Call) : Transmits (reach call) [] := by
  intro l
  unfold reach
  rcases call.halted? with _ | c
  · simp only
    rw [post_bind, post_get]
    rcases l.database.backend with rules | _
    · exact Ledger.Sends.refl l
    · exact transmits_fail _ _ l
  · exact transmits_fail _ _ l

theorem consult_sends (preparing : Bool) (s : Statement) (l : Ledger) :
    l.Sends ((consult preparing s).exec l).2 (if preparing then [] else [s]) := by
  refine ⟨rfl, rfl, rfl, ?_⟩
  cases preparing <;> simp [consult, Database.record, Database.pick_sent]

theorem transmits_consult (preparing : Bool) (s : Statement) :
    Transmits (consult preparing s) (if preparing then [] else [s]) := fun l =>
  post_of_exec rfl (consult_sends preparing s l)

theorem transmits_prepare (s : Statement) : Transmits (consult true s) [] := transmits_consult true s

theorem transmits_record (s : Statement) : Transmits (consult false s) [s] := transmits_consult false s

theorem transmits_step (call : Call) (name : String) : Transmits (step call name) [⟨name, none⟩] := by
  have plan : [(⟨name, none⟩ : Statement)] = [] ++ ([⟨name, none⟩] ++ []) := rfl
  rw [plan]
  unfold step
  refine transmits_bind (transmits_reach call) fun _ => transmits_bind (transmits_record _) fun r => ?_
  split
  · exact transmits_fail _ _
  · exact transmits_pure _

theorem transmits_send (call : Call) (text : String) (args : List Cell) :
    Transmits (send call text args) [⟨text, some args⟩] := by
  have plan : [(⟨text, some args⟩ : Statement)] = [] ++ ([] ++ ([⟨text, some args⟩] ++ [])) := rfl
  rw [plan]
  unfold send
  refine transmits_bind (transmits_reach call) fun _ => transmits_bind (transmits_prepare _) fun r => ?_
  -- a refusal at preparing ends the call; otherwise the statement runs
  dsimp only
  split
  · exact transmits_fail_bind _ _ _
  · refine transmits_bind (transmits_record _) fun r' => ?_
    split
    · exact transmits_fail _ _
    · exact transmits_pure _

theorem transmits_exec (call : Call) (text : String) (args : List Cell) :
    Transmits (exec call text args) [⟨text, some args⟩] := by
  rw [← List.append_nil [(⟨text, some args⟩ : Statement)]]
  unfold exec
  refine transmits_bind (transmits_send call text args) fun r => ?_
  split
  · split <;> exact transmits_pure _
  · exact transmits_pure _

theorem transmits_query (call : Call) (text : String) (args : List Cell) :
    Transmits (query call text args) [⟨text, some args⟩] := by
  rw [← List.append_nil [(⟨text, some args⟩ : Statement)]]
  unfold query
  refine transmits_bind (transmits_send call text args) fun r => ?_
  split <;> exact transmits_pure _

theorem transmits_plainly (r : Except String α) : Transmits (plainly r) [] := by
  unfold plainly
  split
  · exact transmits_pure _
  · exact transmits_fail _ _

theorem transmits_getRecord (call : Call) (text : String) (args : List Cell) (fields : List (String × Slot))
    (dest : String) : Transmits (getRecord call text args fields dest) [⟨text, some args⟩] := by
  rw [← List.append_nil [(⟨text, some args⟩ : Statement)], ← List.append_nil ([] : List Statement)]
  unfold getRecord
  refine transmits_bind (transmits_query call text args) fun a => transmits_bind (transmits_plainly _) fun _ => ?_
  split
  · split
    · exact transmits_fail _ _
    · exact transmits_pure _
  · rw [← List.append_nil ([] : List Statement)]
    exact transmits_bind (transmits_plainly _) fun _ => transmits_pure _

/-- Abandoning a transaction always records its `ROLLBACK`. -/
theorem rollback_sends (l : Ledger) : (rollback.exec l).1 = .ok () ∧ l.Sends (rollback.exec l).2 [⟨"ROLLBACK", none⟩] :=
  ⟨rfl, consult_sends false _ l⟩

end Sql

namespace LevelStore

open Run

theorem transmits_labelled (what : String) {m : Run α} {xs : List Statement} (sends : Transmits m xs) :
    Transmits (labelled what m) xs := by
  intro l
  unfold labelled
  rw [post_bind, post_attempt]
  exact sends l

theorem labelled_exec_ok (what : String) {m : Run α} {l l' : Ledger} {a : α}
    (ran : (labelled what m).exec l = (.ok a, l')) : m.exec l = (.ok a, l') := by
  unfold labelled at ran
  rw [exec_bind, exec_attempt] at ran
  rcases first : m.exec l with ⟨_ | b, l₁⟩ <;> rw [first] at ran
  · cases ran
  · exact ran

/-- The sequence number a database's answer to an append gives: the single column of its
first row, read as an integer, when no failure follows the rows. -/
def returnedSeq (answer : Sql.Answer) : Option Int64 :=
  match answer.rows with
  | [] => none
  | row :: _ =>
    match answer.columns, row with
    | [_], [v] =>
      match Scan.convert .int64 v, answer.rowError with
      | .ok s, none => some s.asInt
      | _, _ => none
    | _, _ => none

/-- A statement with named parameters as it is sent. -/
def statement (text : String) (values : List (String × Cell)) : Statement :=
  ⟨(Sql.named text values).1, some (Sql.named text values).2⟩

/-- Appending an entry numbers it by the database's answer to its statement, and sends a
prefix of that statement when it fails. -/
theorem append_post (call : Call) (a : Adjustment) (l : Ledger) :
    Post (append call a) l
      (fun a' l' => ∃ answer, (Sql.query call (Sql.named appendText (entryCells a)).1
          (Sql.named appendText (entryCells a)).2).exec l = (.ok answer, l') ∧
        returnedSeq answer = some a'.seq ∧ a' = { a with seq := a'.seq })
      (fun _ l' => ∃ p, p <+: [statement appendText (entryCells a)] ∧ l.Sends l' p) := by
  unfold append
  have sends := Sql.transmits_query call (Sql.named appendText (entryCells a)).1 (Sql.named appendText (entryCells a)).2 l
  unfold Post at sends ⊢
  rcases answered : (Sql.query call (Sql.named appendText (entryCells a)).1
    (Sql.named appendText (entryCells a)).2).exec l with ⟨_ | answer, l₁⟩
  · rw [answered] at sends
    simp [labelled, answered]
    exact sends
  · rw [answered] at sends
    simp only [labelled, Run.exec_bind, Run.exec_attempt, answered, Run.exec_pure]
    have sent : l.Sends l₁ [statement appendText (entryCells a)] := sends
    have kept : ∃ p, p <+: [statement appendText (entryCells a)] ∧ l.Sends l₁ p := ⟨_, List.prefix_refl _, sent⟩
    obtain ⟨columns, rows, rowError⟩ := answer
    -- the answer decides the outcome without sending anything more
    rcases rows with _ | ⟨row, rest⟩
    · cases rowError <;> exact kept
    rcases columns with _ | ⟨c, _ | ⟨c', cs⟩⟩ <;> rcases row with _ | ⟨v, _ | ⟨v', vs⟩⟩ <;>
      try exact kept
    rcases converted : Scan.convert .int64 v with why | s
    · -- a sequence number that does not scan refuses the entry
      cases rowError <;> simpa [converted] using kept
    · -- so does a failure after the rows
      rcases rowError with _ | e
      · simp [converted, returnedSeq]
      · simpa [converted] using kept

/-- The statement that reads and locks the level of a key. -/
def lockText : String := "SELECT * FROM inventory_levels WHERE " ++ keyClause ++ " FOR UPDATE"

/-- The statements of a change's transaction when each goes through: the creation when
allowed, the locking read, the write of the level and the append of its entry, if any. -/
def steps (key : StockKey) (create : Bool) (now : Instant) (written : Level) (entry : Option Adjustment) :
    List Statement :=
  (if create then [statement createText (levelCells (Level.fresh key) now)] else []) ++
    [⟨lockText, some (keyArgs key)⟩, statement writeText (levelCells written now)] ++
    (entry.map fun a => statement appendText (entryCells a)).toList

end LevelStore

/-- A run that sends nothing to the database and leaves the book, the wiring and the
clock alone. -/
def Run.Aside (m : Run α) : Prop := ∀ l : Ledger, l.Sends (m.exec l).2 []

theorem Run.Aside.post {m : Run α} (aside : m.Aside) (l : Ledger) :
    Run.Post m l (fun _ l' => l.Sends l' []) (fun _ l' => l.Sends l' []) := by
  have sent := aside l
  unfold Run.Post
  rcases ran : m.exec l with ⟨_ | _, l'⟩ <;> rw [ran] at sent <;> exact sent

namespace LevelStore

/-- A change of a level that sends nothing to the database and keeps the book, the wiring
and the clock, whatever level it is given. -/
def Quiet (change : Level → Run (Level × Option Adjustment)) : Prop := ∀ lv, (change lv).Aside

open Run

theorem ite_bind_unit (c : Prop) [Decidable c] (x : Run β) (k : Run α) :
    (if c then x >>= fun _ => k else k) = (if c then x >>= (fun _ => pure ()) else pure ()) >>= fun _ => k := by
  split <;> simp

theorem transmits_named_exec (call : Call) (text : String) (values : List (String × Cell)) :
    Transmits (Sql.exec call (Sql.named text values).1 (Sql.named text values).2) [statement text values] :=
  Sql.transmits_exec call _ _

/-- The creation sent when a change may create the level. -/
def creation (key : StockKey) (create : Bool) (now : Instant) : List Statement :=
  if create then [statement createText (levelCells (Level.fresh key) now)] else []

theorem steps_eq (key : StockKey) (create : Bool) (now : Instant) (written : Level) (entry : Option Adjustment) :
    steps key create now written entry = creation key create now ++ [⟨lockText, some (keyArgs key)⟩] ++
      [statement writeText (levelCells written now)] ++ (entry.map fun a => statement appendText (entryCells a)).toList := by
  simp [steps, creation]

theorem steps_some (key : StockKey) (create : Bool) (now : Instant) (written : Level) (a : Adjustment) :
    steps key create now written (some a) = steps key create now written none ++ [statement appendText (entryCells a)] := by
  simp [steps]

/-- The body of a change's transaction stops within its statements: when it fails, it has
sent a prefix of them. -/
theorem transact_stops (call : Call) (key : StockKey) (create : Bool) {change : Level → Run (Level × Option Adjustment)}
    (quiet : Quiet change) (l : Ledger) :
    Post (transact call key create change) l (fun _ _ => True)
      (fun _ l' => ∃ written entry p, p <+: steps key create l.clock written entry ∧ l.Sends l' p) := by
  unfold transact
  rw [post_bind, post_now]
  dsimp only
  rw [ite_bind_unit]
  -- the creation, when the change may create the level
  refine post_bind_of (fun _ l₁ => l.Sends l₁ (creation key create l.clock)) ?_ fun _ l₁ created => ?_
  · have begun : creation key create l.clock <+: steps key create l.clock (Level.fresh key) none := by
      rw [steps_eq, List.append_assoc, List.append_assoc]
      exact List.prefix_append _ _
    cases create
    · exact Ledger.Sends.refl l
    · have sends := transmits_bind (transmits_labelled "failed to create inventory level"
        (transmits_named_exec call createText (levelCells (Level.fresh key) l.clock))) fun _ => transmits_pure ()
      rw [List.append_nil] at sends
      exact (sends l).mono (fun _ _ sent => sent) fun _ _ stopped =>
        ⟨Level.fresh key, none, Ledger.Sends.within_mono stopped begun⟩
  -- the locking read: without a row the transaction stops there
  have lockedIn : ∀ written entry, creation key create l.clock ++ [⟨lockText, some (keyArgs key)⟩] <+:
      steps key create l.clock written entry := fun written entry => by
    rw [steps_eq]
    exact (List.prefix_append _ _).trans (List.prefix_append _ _)
  refine post_bind_of (fun _ l₂ => l.Sends l₂ (creation key create l.clock ++ [⟨lockText, some (keyArgs key)⟩]))
    ?_ fun found l₂ locked => ?_
  · exact (Sql.transmits_getRecord call lockText (keyArgs key) levelColumns _ l₁).mono
      (fun _ _ sent => created.trans sent) fun _ _ stopped =>
        ⟨Level.fresh key, none, Ledger.Sends.within_mono (created.within_append stopped) (lockedIn _ _)⟩
  rcases found with _ | row
  · rw [post_bind, post_fail]
    exact ⟨Level.fresh key, none, _, lockedIn _ _, locked⟩
  rw [post_bind, post_pure]
  -- the change, which sends nothing
  refine post_bind_of (fun _ l₃ => l.Sends l₃ (creation key create l.clock ++ [⟨lockText, some (keyArgs key)⟩]))
    ?_ fun changed l₃ kept => ?_
  · exact ((quiet (levelOf row)).post l₂).mono (fun _ _ sent => by simpa using locked.trans sent)
      fun _ _ sent => ⟨Level.fresh key, none, _, lockedIn _ _, by simpa using locked.trans sent⟩
  obtain ⟨written, entry⟩ := changed
  -- the write of the level
  refine post_bind_of (fun _ l₄ => l.Sends l₄ (steps key create l.clock written none)) ?_ fun _ l₄ wrote => ?_
  · refine (transmits_labelled _ (transmits_named_exec call writeText (levelCells written l.clock)) l₃).mono
      (fun _ _ sent => by simpa [steps_eq] using kept.trans sent) fun _ _ stopped => ?_
    refine ⟨written, entry, Ledger.Sends.within_mono (kept.within_append stopped) ?_⟩
    rw [steps_eq]
    exact List.prefix_append _ _
  -- the append of the entry
  rcases entry with _ | a
  · trivial
  rw [post_bind]
  refine (append_post call a l₄).mono (fun _ _ _ => trivial) fun _ _ stopped => ⟨written, some a, ?_⟩
  rw [steps_some]
  exact wrote.within_append stopped

/-- The body of a change's transaction, run from `l` to `l'`, with every statement answered
without error: the creation when allowed, the locking read, which found the level's row,
the change of that level into `written` and `entry`, the write of `written`, and the append
of the entry, whose answer numbered it `seq`. -/
def WentThrough (call : Call) (key : StockKey) (create : Bool) (change : Level → Run (Level × Option Adjustment))
    (l l' : Ledger) (written : Level) (entry : Option Adjustment) (seq : Int64) : Prop :=
  ∃ l₁ row l₂ l₃ l₄,
    (if create then ∃ n, (Sql.exec call (Sql.named createText (levelCells (Level.fresh key) l.clock)).1
        (Sql.named createText (levelCells (Level.fresh key) l.clock)).2).exec l = (.ok n, l₁) else l₁ = l) ∧
    (Sql.getRecord call lockText (keyArgs key) levelColumns "*model.InventoryLevel").exec l₁ = (.ok (some row), l₂) ∧
    (change (levelOf row)).exec l₂ = (.ok (written, entry), l₃) ∧
    (∃ n, (Sql.exec call (Sql.named writeText (levelCells written l.clock)).1
        (Sql.named writeText (levelCells written l.clock)).2).exec l₃ = (.ok n, l₄)) ∧
    (entry = none → l' = l₄) ∧
    ∀ a ∈ entry, ∃ answer, (Sql.query call (Sql.named appendText (entryCells a)).1
        (Sql.named appendText (entryCells a)).2).exec l₄ = (.ok answer, l') ∧ returnedSeq answer = some seq

/-- A body that succeeds went through, and answers the level it wrote with its entry
renumbered. -/
theorem transact_went_through {call : Call} {key : StockKey} {create : Bool}
    {change : Level → Run (Level × Option Adjustment)} {l l' : Ledger} {r : Level × Option Adjustment}
    (ran : (transact call key create change).exec l = (.ok r, l')) :
    ∃ entry seq, r.2 = entry.map (fun a => { a with seq }) ∧ WentThrough call key create change l l' r.1 entry seq := by
  unfold transact at ran
  obtain ⟨_, _, timed, ran⟩ := exec_bind_ok ran
  obtain ⟨rfl, rfl⟩ := exec_pure_ok timed
  dsimp only at ran
  rw [ite_bind_unit] at ran
  obtain ⟨_, l₁, created, ran⟩ := exec_bind_ok ran
  have creation : if create then ∃ n, (Sql.exec call (Sql.named createText (levelCells (Level.fresh key) l.clock)).1
      (Sql.named createText (levelCells (Level.fresh key) l.clock)).2).exec l = (.ok n, l₁) else l₁ = l := by
    cases create
    · exact (exec_pure_ok created).2.symm
    · obtain ⟨n, _, asked, closed⟩ := exec_bind_ok created
      obtain ⟨-, rfl⟩ := exec_pure_ok closed
      exact ⟨n, labelled_exec_ok _ asked⟩
  -- the locking read found a row, or the body would have failed
  obtain ⟨found, l₂, read, ran⟩ := exec_bind_ok ran
  rcases found with _ | row
  · obtain ⟨_, _, refused, -⟩ := exec_bind_ok ran
    cases refused
  obtain ⟨_, _, picked, ran⟩ := exec_bind_ok ran
  obtain ⟨rfl, rfl⟩ := exec_pure_ok picked
  obtain ⟨⟨written, entry⟩, l₃, changed, ran⟩ := exec_bind_ok ran
  obtain ⟨n, l₄, wrote, ran⟩ := exec_bind_ok ran
  rcases entry with _ | a
  · obtain ⟨rfl, rfl⟩ := exec_pure_ok ran
    exact ⟨none, 0, rfl, l₁, row, l₂, l₃, l₄, creation, read, changed, ⟨n, labelled_exec_ok _ wrote⟩,
      fun _ => rfl, fun _ absent => nomatch absent⟩
  · -- the append's answer numbers the entry
    obtain ⟨a', _, appended, ran⟩ := exec_bind_ok ran
    obtain ⟨rfl, rfl⟩ := exec_pure_ok ran
    obtain ⟨answer, queried, numbered, renumbered⟩ := (append_post call a l₄).of_ok appended
    refine ⟨some a, a'.seq, congrArg some renumbered, l₁, row, l₂, l₃, l₄, creation, read, changed,
      ⟨n, labelled_exec_ok _ wrote⟩, (fun absent => nomatch absent), fun a₀ member => ?_⟩
    obtain rfl := Option.mem_some_iff.mp member
    exact ⟨answer, queried, numbered⟩

/-- A body that went through sent all its statements. -/
theorem WentThrough.sends {call : Call} {key : StockKey} {create : Bool}
    {change : Level → Run (Level × Option Adjustment)} {l l' : Ledger} {written : Level}
    {entry : Option Adjustment} {seq : Int64} (quiet : Quiet change)
    (went : WentThrough call key create change l l' written entry seq) :
    l.Sends l' (steps key create l.clock written entry) := by
  obtain ⟨l₁, row, l₂, l₃, l₄, created, read, changed, ⟨n, wrote⟩, unlogged, logged⟩ := went
  have creating : l.Sends l₁ (creation key create l.clock) := by
    cases create
    · rw [if_neg Bool.false_ne_true] at created
      subst created
      exact Ledger.Sends.refl _
    · rw [if_pos rfl] at created
      obtain ⟨n, asked⟩ := created
      exact (transmits_named_exec call _ _).sends_of_ok asked
  have locking := (Sql.transmits_getRecord call lockText (keyArgs key) levelColumns _).sends_of_ok read
  have changing : l₂.Sends l₃ [] := by
    have aside := quiet (levelOf row) l₂
    rwa [changed] at aside
  have writing := (transmits_named_exec call writeText (levelCells written l.clock)).sends_of_ok wrote
  have body := creating.trans (locking.trans (changing.trans writing))
  rcases entry with _ | a
  · rw [unlogged rfl, steps_eq]
    simpa using body
  · obtain ⟨answer, asked, -⟩ := logged a rfl
    have appending : l₄.Sends l' [statement appendText (entryCells a)] :=
      (Sql.transmits_query call _ _).sends_of_ok asked
    rw [steps_some, steps_eq]
    simpa using body.trans appending

theorem post_onDatabase_bind {ok : α → Ledger → Prop} {err : Failure → Ledger → Prop} {l : Ledger}
    (stored : l.wiring.inventory = true) (k : Bool → Run α) :
    Post (onDatabase >>= k) l ok err ↔ Post (k true) l ok err := by
  simp [onDatabase, stored]

/-- How a change of a level kept on the database ends when it answers `r`: `BEGIN` was
accepted, the body went through with the level and the entry `r` gives, and `COMMIT` was
accepted. -/
def Committed (call : Call) (key : StockKey) (create : Bool) (change : Level → Run (Level × Option Adjustment))
    (l : Ledger) (r : Level × Option Adjustment) (l' : Ledger) : Prop :=
  ∃ l₁ l₂ entry seq, r.2 = entry.map (fun a => { a with seq }) ∧
    (Sql.step call "BEGIN").exec l = (.ok (), l₁) ∧
    WentThrough call key create change l₁ l₂ r.1 entry seq ∧
    (Sql.step call "COMMIT").exec l₂ = (.ok (), l') ∧
    l.Sends l' (⟨"BEGIN", none⟩ :: steps key create l.clock r.1 entry ++ [⟨"COMMIT", none⟩])

/-- How a change of a level kept on the database ends when it fails with `e`: at `BEGIN`;
in the body after `BEGIN`, which sent a prefix of its statements, and then `ROLLBACK`; or at
`COMMIT`, after the body went through. -/
def Abandoned (call : Call) (key : StockKey) (create : Bool) (change : Level → Run (Level × Option Adjustment))
    (l : Ledger) (e : Failure) (l' : Ledger) : Prop :=
  ((Sql.step call "BEGIN").exec l = (.error e, l') ∧ ∃ p, p <+: [⟨"BEGIN", none⟩] ∧ l.Sends l' p) ∨
  (∃ l₁ l₂, (Sql.step call "BEGIN").exec l = (.ok (), l₁) ∧
    (transact call key create change).exec l₁ = (.error e, l₂) ∧ Sql.rollback.exec l₂ = (.ok (), l') ∧
    ∃ written entry p, p <+: steps key create l.clock written entry ∧
      l.Sends l' (⟨"BEGIN", none⟩ :: p ++ [⟨"ROLLBACK", none⟩])) ∨
  (∃ l₁ l₂ written entry seq, (Sql.step call "BEGIN").exec l = (.ok (), l₁) ∧
    WentThrough call key create change l₁ l₂ written entry seq ∧
    (Sql.step call "COMMIT").exec l₂ = (.error e, l') ∧
    ∃ p, p <+: [⟨"COMMIT", none⟩] ∧ l.Sends l' (⟨"BEGIN", none⟩ :: steps key create l.clock written entry ++ p))

end LevelStore

/-- A change of a level kept on the database is one transaction, all or nothing. It sends
`BEGIN`, then a prefix of its statements: the creation when allowed, the locking read, the
write of the level and the append of its entry. It sends `COMMIT` only once every one of
them was answered without error, the locking read found the level's row and the change
succeeded, and then answers exactly when the database accepts the `COMMIT`: with the level
it wrote and the entry it appended, numbered by the first row the database returned for
it. Otherwise it fails, and it ends a transaction it began and did not commit with
`ROLLBACK`. The book kept in memory is never touched. -/
theorem level_change_all_or_nothing {l : Ledger} (stored : l.wiring.inventory = true) (call : Call)
    (key : StockKey) (create : Bool) {change : Level → Run (Level × Option Adjustment)}
    (quiet : LevelStore.Quiet change) :
    Run.Post (LevelStore.mutate call key create change) l
      (LevelStore.Committed call key create change l) (LevelStore.Abandoned call key create change l) := by
  unfold LevelStore.mutate
  rw [LevelStore.post_onDatabase_bind stored, if_pos rfl]
  -- `BEGIN`: refused, or not sent at all, the call ends there
  refine Run.post_bind_of (fun _ l₁ => (Sql.step call "BEGIN").exec l = (.ok (), l₁) ∧ l.Sends l₁ [⟨"BEGIN", none⟩])
    (((Run.post_outcome _ l).and (Sql.transmits_step call "BEGIN" l)).mono (fun _ _ began => began)
      fun _ _ refused => .inl refused) fun _ l₁ ⟨began, begun⟩ => ?_
  rw [Run.post_bind, Run.post_attempt]
  refine ((Run.post_outcome _ l₁).and (LevelStore.transact_stops call key create quiet l₁)).mono
    (fun r l₂ ⟨ran, _⟩ => ?_) fun e l₂ ⟨ran, abandoned⟩ => ?_
  · -- every statement went through: the call ends as its `COMMIT` does
    obtain ⟨entry, seq, numbered, went⟩ := LevelStore.transact_went_through ran
    have whole := begun.trans (went.sends quiet)
    rw [begun.clock] at whole
    rw [Run.post_bind]
    refine ((Run.post_outcome _ l₂).and (Sql.transmits_step call "COMMIT" l₂)).mono
      (fun _ l' ⟨committed, closed⟩ => (Run.post_pure _).mpr ?_) fun e' l' ⟨refused, stopped⟩ => ?_
    · exact ⟨l₁, l₂, entry, seq, numbered, began, went, committed, by simpa using whole.trans closed⟩
    · obtain ⟨p, below, closed⟩ := stopped
      exact .inr (.inr ⟨l₁, l₂, r.1, entry, seq, began, went, refused, p, below, by simpa using whole.trans closed⟩)
  · -- the body failed: the transaction is rolled back and the failure passed on
    obtain ⟨written, entry, p, below, sent⟩ := abandoned
    rw [begun.clock] at below
    have rolledBack : Sql.rollback.exec l₂ = (.ok (), (Sql.rollback.exec l₂).2) := rfl
    rw [Run.post_bind]
    refine Run.post_of_exec rolledBack ((Run.post_fail e).mpr (.inr (.inl ⟨l₁, l₂, began, ran, rolledBack,
      written, entry, p, below, ?_⟩)))
    simpa using (begun.trans sent).trans (Sql.rollback_sends l₂).2

namespace Session

/-- A fresh ledger whose levels are kept on the database. -/
def levelsOnDatabase : Ledger := { fresh with wiring := { inventory := true } }

/-- A change receiving five units, logged under entry `e1`. -/
def receiveFive (w : Level) : Run (Level × Option Adjustment) := do
  let (w', mv?) ← Run.check ((Move.receive 5).apply w)
  let logged (mv : Movement) : Change :=
    { kind := mv.kind, delta := mv.delta, previous := mv.previous, reference := none,
      reason := "received", createdBy := none }
  return (w', mv?.map fun mv => (logged mv).entry "e1" 0 w.key Instant.zero)

theorem receiveFive_quiet : LevelStore.Quiet receiveFive := by
  intro w l
  unfold receiveFive
  rcases (Move.receive 5).apply w with _ | ⟨w', mv?⟩ <;> exact Ledger.Sends.refl l

/-- Receiving five units of `p1` on the database, with the level created when missing, is
one transaction. -/
theorem receiveFive_all_or_nothing : levelsOnDatabase.wiring.inventory = true ∧ LevelStore.Quiet receiveFive ∧
    Run.Post (LevelStore.mutate {} mainStock true receiveFive) levelsOnDatabase
      (LevelStore.Committed {} mainStock true receiveFive levelsOnDatabase)
      (LevelStore.Abandoned {} mainStock true receiveFive levelsOnDatabase) :=
  ⟨rfl, receiveFive_quiet, level_change_all_or_nothing rfl {} mainStock true receiveFive_quiet⟩

end Session

end StockLedger
