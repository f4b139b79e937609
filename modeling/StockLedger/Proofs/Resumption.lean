import StockLedger.Proofs.CancelSettles
import StockLedger.Proofs.LineMerging

/-!
Resuming the transfers left in progress. `Ledger.statusOf l id` is the status of the record
stored under `id`, and `Ledger.Beside id l l'` says that `l'` stores what `l` stores under
every other id. Finishing a transfer keeps its record in progress up to its last save,
which stores it completed (`post_finish_status`); so resuming one transfer either counts it
and leaves it completed or reports its failure and leaves it in progress, touching no other
record (`post_resumeOne_outcome`). Over the list `resume` draws, `Ledger.Reported` gathers
what the run reports, and `resume_finishes_reported` states it of every reached ledger,
with a second run after a clean one finding nothing to do.
-/

namespace StockLedger

namespace TransferStatus

/-- Whether a status is one the engine gives a transfer, not an unknown stored name. -/
def isKnown : TransferStatus → Bool
  | .other _ => false
  | _ => true

theorem isKnown_of_reaches {a b : TransferStatus} (reaches : Relation.ReflTransGen Next a b)
    (known : a.isKnown = true) : b.isKnown = true := by
  induction reaches with
  | refl => exact known
  | tail _ next _ => cases next <;> rfl

theorem name_eq_inProgress {s : TransferStatus} (known : s.isKnown = true) :
    s.name = "in_progress" ↔ s = .inProgress := by
  cases s <;> simp_all [name, isKnown]

end TransferStatus

theorem Reachable.known {l : Ledger} (reached : Reachable l) : ∀ s ∈ l.transfers, s.status.isKnown = true := by
  obtain ⟨l₀, start, run⟩ := reached
  induction run with
  | refl => simp [start.transfers]
  | tail before step known =>
    have reached' : Reachable _ := ⟨l₀, start, before⟩
    have since := step.since reached'.sound reached'.journaled
    intro s' stored
    rcases since.born s' stored with ⟨s, origin, same⟩ | pending
    · exact TransferStatus.isKnown_of_reaches (since.advanced s origin s' stored same.symm).status (known s origin)
    · rw [pending]
      rfl

namespace Ledger

/-- The status of the record a ledger stores under an id, if it stores one. -/
def statusOf (l : Ledger) (id : String) : Option TransferStatus :=
  (l.transfers.find? (·.id == id)).map (·.status)

/-- The ids of the transfers a ledger stores in progress, in the order stored. -/
def movingIds (l : Ledger) : List String :=
  (l.transfers.filter (·.status == .inProgress)).map (·.id)

/-- `l'` keeps the wiring of `l` and stores what `l` stores under every id but `id`. -/
structure Beside (id : String) (l l' : Ledger) : Prop where
  wiring : l'.wiring = l.wiring
  others : l'.transfers.filter (·.id != id) = l.transfers.filter (·.id != id)

variable {l l' l'' : Ledger} {id : String}

theorem statusOf_of_mem (sound : l.Sound) {s : Transfer} (stored : s ∈ l.transfers) :
    l.statusOf s.id = some s.status := by
  simp [statusOf, sound.find?_id stored]

theorem present_of_statusOf {status : TransferStatus} (stored : l.statusOf id = some status) :
    l.transfers.any (·.id == id) = true := by
  obtain ⟨x, found, -⟩ := Option.map_eq_some_iff.mp stored
  exact List.any_eq_true.mpr ⟨x, List.mem_of_find?_eq_some found, by simpa using List.find?_some found⟩

theorem Beside.refl (id : String) (l : Ledger) : Beside id l l := ⟨rfl, rfl⟩

theorem Beside.trans (first : Beside id l l') (second : Beside id l' l'') : Beside id l l'' :=
  ⟨second.wiring.trans first.wiring, second.others.trans first.others⟩

theorem Beside.of_transfers (beside : Beside id l l') (transfers : l''.transfers = l'.transfers)
    (wiring : l''.wiring = l'.wiring) : Beside id l l'' :=
  ⟨wiring.trans beside.wiring, by rw [transfers, beside.others]⟩

theorem Beside.statusOf (beside : Beside id l l') {other : String} (apart : other ≠ id) :
    l'.statusOf other = l.statusOf other := by
  -- a record under `other` is never one that the filter drops
  have seen : ∀ ts : List Transfer, (ts.filter (·.id != id)).find? (·.id == other) = ts.find? (·.id == other) := by
    intro ts
    rw [List.find?_filter]
    congr 1
    funext x
    by_cases named : x.id = other <;> simp [named, apart]
  simp only [Ledger.statusOf]
  rw [← seen l'.transfers, ← seen l.transfers, beside.others]

theorem filter_replaced (ts : List Transfer) (t : Transfer) :
    (ts.map fun s => if s.id == t.id then t else s).filter (·.id != t.id) = ts.filter (·.id != t.id) := by
  induction ts with
  | nil => rfl
  | cons s rest ih =>
    simp only [beq_iff_eq] at ih
    by_cases same : s.id = t.id <;> simp [same, ih]

/-- While the transfer `id` is finished from `l₀`: what `l₀` stores under every other id,
and the record under `id` still in progress. -/
structure Finishing (id : String) (l₀ l : Ledger) : Prop where
  beside : Beside id l₀ l
  moving : l.statusOf id = some .inProgress

/-- What resuming the transfers `ids` in turn reports of the ledger `l` it leaves, `n`
finished and the failures `errs`: each is stored completed or still in progress, the
failures name those in progress in turn, and `n` counts the completed. -/
structure Reported (ids : List String) (l : Ledger) (n : Nat) (errs : List Failure) : Prop where
  settled : ∀ id ∈ ids, l.statusOf id = some .completed ∨ l.statusOf id = some .inProgress
  named : List.Forall₂ (fun id e => ∃ cause, e = .context ("transfer " ++ id) cause)
    (ids.filter fun id => l.statusOf id == some .inProgress) errs
  counted : n = (ids.filter fun id => l.statusOf id == some .completed).length

section Reports

variable {ids : List String} {n : Nat} {errs : List Failure}

theorem Reported.nil (l : Ledger) : Reported [] l 0 [] := ⟨by simp, by simp, rfl⟩

theorem Reported.cons_completed (reported : Reported ids l n errs) (done : l.statusOf id = some .completed) :
    Reported (id :: ids) l (n + 1) errs := by
  refine ⟨fun x member => ?_, by simpa [List.filter_cons, done] using reported.named, ?_⟩
  · rcases List.mem_cons.mp member with rfl | later
    · exact .inl done
    · exact reported.settled x later
  · simp [done, reported.counted]

theorem Reported.cons_stuck (reported : Reported ids l n errs) (stuck : l.statusOf id = some .inProgress)
    (cause : Failure) : Reported (id :: ids) l n (.context ("transfer " ++ id) cause :: errs) := by
  refine ⟨fun x member => ?_, ?_, by simp [stuck, reported.counted]⟩
  · rcases List.mem_cons.mp member with rfl | later
    · exact .inr stuck
    · exact reported.settled x later
  · rw [List.filter_cons, if_pos (by simp [stuck])]
    exact .cons ⟨cause, rfl⟩ reported.named

theorem Reported.clean (reported : Reported ids l n []) :
    n = ids.length ∧ ∀ id ∈ ids, l.statusOf id = some .completed := by
  have none : ids.filter (fun id => l.statusOf id == some .inProgress) = [] :=
    List.forall₂_nil_right_iff.mp reported.named
  have done : ∀ id ∈ ids, l.statusOf id = some .completed := fun id member =>
    (reported.settled id member).resolve_right fun stuck => by
      simpa [stuck] using List.filter_eq_nil_iff.mp none id member
  refine ⟨?_, done⟩
  rw [reported.counted, List.filter_eq_self.mpr fun id member => by simp [done id member]]

end Reports

theorem Finishing.keep {l₀ : Ledger} (finishing : Finishing id l₀ l) (transfers : l'.transfers = l.transfers)
    (wiring : l'.wiring = l.wiring) : Finishing id l₀ l' :=
  ⟨finishing.beside.of_transfers transfers wiring, by rw [Ledger.statusOf, transfers]; exact finishing.moving⟩

theorem Finishing.inMemory {l₀ : Ledger} (finishing : Finishing id l₀ l) (inventory : l₀.wiring.inventory = false) :
    l.wiring.inventory = false := by
  rw [finishing.beside.wiring]
  exact inventory

theorem Finishing.journalInMemory {l₀ : Ledger} (finishing : Finishing id l₀ l)
    (journal : l₀.wiring.transfers = false) : l.wiring.transfers = false := by
  rw [finishing.beside.wiring]
  exact journal

end Ledger

namespace Transfers

open Run Ledger

variable {l₀ l : Ledger} {call : Call} {id : String} {u t : Transfer}

theorem post_save_status (journal : l.wiring.transfers = false) (present : l.transfers.any (·.id == t.id) = true) :
    Post (save call t) l (fun _ l' => Beside t.id l l' ∧ l'.statusOf t.id = some t.status)
      (fun _ l' => l'.transfers = l.transfers ∧ l'.wiring = l.wiring) := by
  refine post_save_of ⟨rfl, rfl⟩ ?_
  rw [Post, update_exec journal, if_pos present]
  refine ⟨⟨rfl, filter_replaced l.transfers t⟩, ?_⟩
  simp only [statusOf]
  rw [find?_replaced l.transfers t present]
  rfl

section Finish

variable (inventory : l₀.wiring.inventory = false) (journal : l₀.wiring.transfers = false)

include journal

/-- Saving the transfer being finished stores it in the status it is saved with and keeps
every other record; a failed save changes neither. -/
theorem post_save_finishing (finishing : Finishing id l₀ l) (named : t.id = id) :
    Post (save call t) l (fun _ l' => Beside id l₀ l' ∧ l'.statusOf id = some t.status)
      (fun _ l' => Finishing id l₀ l') := by
  have present := present_of_statusOf finishing.moving
  rw [← named] at present
  refine (post_save_status (finishing.journalInMemory journal) present).mono ?_ ?_
  · rintro _ l' ⟨beside, stored⟩
    rw [named] at beside stored
    exact ⟨finishing.beside.trans beside, stored⟩
  · rintro _ l' ⟨transfers, wiring⟩
    exact finishing.keep transfers wiring

omit journal in
include inventory in
theorem post_run_finishing (finishing : Finishing id l₀ l) (key : StockKey) (move : Move) (note : Note) :
    Post (Stock.run call key move note) l (fun _ l' => Finishing id l₀ l') (fun _ l' => Finishing id l₀ l') :=
  Stock.post_run_cases (finishing.inMemory inventory) (fun _ => finishing)
    fun _ _ _ _ _ _ _ => finishing.keep (by simp) (by simp)

include inventory

theorem post_sideLine_finishing {progress : TransferLine → Int64} {finished : TransferLine → TransferLine}
    {location : String} {side : AdjustmentKind} {move : Int64 → Move} {reason : String}
    (finishing : Finishing id l₀ l) (named : u.id = id) (moving : u.status = .inProgress) (i : Nat) :
    Post (sideLine call progress finished location side move reason u i) l
      (fun w l' => w.id = id ∧ w.status = .inProgress ∧ Finishing id l₀ l') (fun _ l' => Finishing id l₀ l') := by
  unfold sideLine
  rcases found : u.lines[i]? with _ | line
  · exact ⟨named, moving, finishing⟩
  dsimp -zeta only
  split
  · -- the marked copy keeps the id and the status it was given
    have saving : ∀ l', Finishing id l₀ l' → Post (save call (u.setLine i (finished line))) l'
        (fun _ l'' => (u.setLine i (finished line)).id = id ∧ (u.setLine i (finished line)).status = .inProgress ∧
          Finishing id l₀ l'') (fun _ l'' => Finishing id l₀ l'') := fun l' finishing' =>
      (post_save_finishing (t := u.setLine i (finished line)) journal finishing' named).mono
        (fun _ _ ⟨beside, stored⟩ => ⟨named, moving, beside, stored.trans (congrArg some moving)⟩)
        fun _ _ kept => kept
    rw [post_bind]
    refine post_applied_of (finishing.inMemory inventory) fun done => ?_
    cases done
    · simp only [Bool.not_false, reduceIte, post_bind, post_pure]
      exact (post_run_finishing inventory finishing _ _ _).mono (fun _ l' kept => saving l' kept)
        fun _ _ kept => kept
    · simp only [Bool.not_true, Bool.false_eq_true, reduceIte, post_bind, post_pure]
      exact saving l finishing
  · exact ⟨named, moving, finishing⟩

theorem post_finishLine_finishing (finishing : Finishing id l₀ l) (named : u.id = id) (moving : u.status = .inProgress)
    (i : Nat) :
    Post (finishLine call u i) l (fun w l' => w.id = id ∧ w.status = .inProgress ∧ Finishing id l₀ l')
      (fun _ l' => Finishing id l₀ l') := by
  unfold finishLine
  refine post_bind_of _ (post_sideLine_finishing inventory journal finishing named moving i) ?_
  rintro w l' ⟨named', moving', finishing'⟩
  exact post_sideLine_finishing inventory journal finishing' named' moving' i

/-- Finishing a transfer in progress stores it completed, or fails with it still in
progress; no other record changes either way. -/
theorem post_finish_status (finishing : Finishing id l₀ l) (named : u.id = id) (moving : u.status = .inProgress) :
    Post (finish call u) l (fun _ l' => Beside id l₀ l' ∧ l'.statusOf id = some .completed)
      (fun _ l' => Finishing id l₀ l') := by
  unfold finish
  rw [post_bind]
  refine (post_foldlM _ _ (fun w l' => w.id = id ∧ w.status = .inProgress ∧ Finishing id l₀ l')
    ⟨named, moving, finishing⟩ fun i _ w l' ⟨named', moving', finishing'⟩ =>
      post_finishLine_finishing inventory journal finishing' named' moving' i).mono ?_ fun _ _ kept => kept
  rintro w l' ⟨named', -, finishing'⟩
  simp only [post_bind, post_now]
  exact post_save_finishing journal finishing' named'

/-- Resuming one transfer stored in progress never fails: it counts the transfer and
leaves it stored completed, or adds its failure, labelled with its id, and leaves it
stored in progress. No other record changes. -/
theorem post_resumeOne_outcome {p : Transfer} (stored : l₀.statusOf p.id = some .inProgress) (n : Nat)
    (errs : List Failure) :
    Post (resumeOne call (n, errs) p) l₀
      (fun acc l' => Beside p.id l₀ l' ∧
        (acc = (n + 1, errs) ∧ l'.statusOf p.id = some .completed ∨
          ∃ e, acc = (n, errs ++ [.context ("transfer " ++ p.id) e]) ∧ l'.statusOf p.id = some .inProgress))
      (fun _ _ => False) := by
  have finishing : Finishing p.id l₀ l₀ := ⟨.refl _ _, stored⟩
  simp only [resumeOne, post_bind, post_attempt, post_pure]
  refine post_withTransfer_find journal (fun _ => ⟨.refl _ _, .inr ⟨_, rfl, stored⟩⟩) fun s found => ?_
  have named : (TransferStore.copied s).id = p.id := by simpa using List.find?_some found
  have moving : s.status = .inProgress := by simpa [statusOf, found] using stored
  have due : ((TransferStore.copied s).status != .inProgress) = false := by simp [moving]
  simp only [due, Bool.false_eq_true, reduceIte]
  refine (post_finish_status inventory journal finishing named moving).mono ?_ ?_
  · rintro _ l' ⟨beside, done⟩
    exact ⟨beside, .inl ⟨trivial, done⟩⟩
  · rintro e l' ⟨beside, stuck⟩
    exact ⟨beside, .inr ⟨e, rfl, stuck⟩⟩

omit journal in
include journal inventory in
/-- Resuming transfers stored in progress under distinct ids adds to the count and the
failures gathered before what `Ledger.Reported` says of the ledger it leaves. -/
theorem post_resumeEach (ps : List Transfer) (distinct : (ps.map (·.id)).Nodup)
    (stored : ∀ p ∈ ps, l₀.statusOf p.id = some .inProgress) (n : Nat) (errs : List Failure) :
    Post (ps.foldlM (resumeOne call) (n, errs)) l₀
      (fun acc l' => l'.wiring = l₀.wiring ∧ (∃ k es, acc = (n + k, errs ++ es) ∧ Reported (ps.map (·.id)) l' k es) ∧
        ∀ id ∉ ps.map (·.id), l'.statusOf id = l₀.statusOf id)
      (fun _ _ => False) := by
  induction ps generalizing l₀ n errs with
  | nil => exact ⟨rfl, ⟨0, [], by simp, Reported.nil _⟩, fun _ _ => rfl⟩
  | cons p rest ih =>
    have fresh : p.id ∉ rest.map (·.id) := (List.nodup_cons.mp distinct).1
    rw [List.foldlM_cons, post_bind]
    refine (post_resumeOne_outcome inventory journal (stored p (by simp)) n errs).mono ?_ fun _ _ never => never
    rintro ⟨n₁, errs₁⟩ l₁ ⟨beside, outcome⟩
    -- this transfer's run leaves the later ones in progress
    have later : ∀ q ∈ rest, l₁.statusOf q.id = some .inProgress := fun q member => by
      have apart : q.id ≠ p.id := fun same => fresh (same ▸ List.mem_map_of_mem member)
      rw [beside.statusOf apart]
      exact stored q (List.mem_cons_of_mem p member)
    have inventory₁ : l₁.wiring.inventory = false := by rw [beside.wiring]; exact inventory
    have journal₁ : l₁.wiring.transfers = false := by rw [beside.wiring]; exact journal
    refine (ih inventory₁ journal₁ (List.nodup_cons.mp distinct).2 later n₁ errs₁).mono ?_ fun _ _ never => never
    rintro acc l' ⟨wiring, ⟨k, es, rfl, reported⟩, frame⟩
    have kept : l'.statusOf p.id = l₁.statusOf p.id := frame p.id fresh
    refine ⟨wiring.trans beside.wiring, ?_, fun id absent => ?_⟩
    · rcases outcome with ⟨same, done⟩ | ⟨e, same, stuck⟩
      · obtain ⟨rfl, rfl⟩ := Prod.mk.inj same
        exact ⟨k + 1, es, by simp [Nat.add_assoc, Nat.add_comm 1 k], reported.cons_completed (kept.trans done)⟩
      · obtain ⟨rfl, rfl⟩ := Prod.mk.inj same
        exact ⟨k, _ :: es, by simp, reported.cons_stuck (kept.trans stuck) e⟩
    · simp only [List.map_cons, List.mem_cons, not_or] at absent
      rw [frame id absent.2, beside.statusOf absent.1]

end Finish

theorem listed_moving (known : ∀ s ∈ l.transfers, s.status.isKnown = true) :
    l.transfers.filter ({ status := "in_progress" } : TransferQuery).admits =
      l.transfers.filter (·.status == .inProgress) := by
  refine List.filter_congr fun s stored => ?_
  have named := TransferStatus.name_eq_inProgress (known s stored)
  simp [TransferQuery.admits, named]

theorem post_resume_reported (sound : l.Sound) (known : ∀ s ∈ l.transfers, s.status.isKnown = true) :
    Post (resume call) l
      (fun acc l' => Reported l.movingIds l' acc.1 acc.2 ∧ ∀ id ∉ l.movingIds, l'.statusOf id = l.statusOf id)
      (fun _ _ => False) := by
  unfold resume
  rw [post_bind]
  refine post_of_exec (all_exec sound.journalInMemory _) ?_
  rw [listed_moving known]
  have ids : ((l.transfers.filter (·.status == .inProgress)).map TransferStore.copied).map (·.id) = l.movingIds := by
    simp [movingIds, Function.comp_def]
  have distinct : (((l.transfers.filter (·.status == .inProgress)).map TransferStore.copied).map (·.id)).Nodup := by
    rw [ids]
    exact (List.filter_sublist.map _).nodup sound.distinct
  have stored : ∀ p ∈ (l.transfers.filter (·.status == .inProgress)).map TransferStore.copied,
      l.statusOf p.id = some .inProgress := by
    intro p listed
    obtain ⟨s, moving, rfl⟩ := List.mem_map.mp listed
    obtain ⟨stored, moving⟩ := List.mem_filter.mp moving
    rw [Transfer.copied_id, statusOf_of_mem sound stored]
    simpa using moving
  refine (post_resumeEach sound.inMemory sound.journalInMemory _ distinct stored 0 []).mono ?_
    fun _ _ never => never
  rintro acc l' ⟨-, ⟨k, es, rfl, reported⟩, frame⟩
  rw [ids] at reported frame
  simpa using ⟨reported, frame⟩

theorem resume_exec_idle (journal : l.wiring.transfers = false) (known : ∀ s ∈ l.transfers, s.status.isKnown = true)
    (idle : ∀ s ∈ l.transfers, s.status ≠ .inProgress) : (resume call).exec l = (.ok (0, []), l) := by
  have none : l.transfers.filter ({ status := "in_progress" } : TransferQuery).admits = [] := by
    rw [listed_moving known, List.filter_eq_nil_iff]
    simpa using idle
  simp [resume, all_exec journal, none]

theorem idle_of_finished {l' : Ledger} (since : l.Since l') (sound' : l'.Sound)
    (done : ∀ id ∈ l.movingIds, l'.statusOf id = some .completed)
    (others : ∀ s ∈ l.transfers, s.status ≠ .inProgress → l'.statusOf s.id = some s.status) :
    ∀ s' ∈ l'.transfers, s'.status ≠ .inProgress := by
  intro s' stored' moving'
  have found := statusOf_of_mem sound' stored'
  -- a record stored anew is pending; one stored before was finished or kept its status
  rcases since.born s' stored' with ⟨s, stored, same⟩ | pending
  · rw [← same] at found
    by_cases moving : s.status = .inProgress
    · have listed : s.id ∈ l.movingIds := List.mem_map.mpr ⟨s, List.mem_filter.mpr ⟨stored, by simp [moving]⟩, rfl⟩
      rw [done s.id listed, moving'] at found
      cases found
    · rw [others s stored moving, moving'] at found
      exact moving (Option.some.inj found)
  · rw [pending] at moving'
    cases moving'

end Transfers

open Transfers Ledger

/-- Resuming the transfers left in progress never fails, from any reached ledger. Each
transfer stored in progress is then stored completed, or still stored in progress with
its failure reported under its id, in the order stored; the count reported is the number
completed, and every other transfer keeps its status. A run that reports no failure has
completed every transfer that was in progress and counted them all, and a second run
right after it reports nothing and changes nothing. -/
theorem resume_finishes_reported {l : Ledger} (reached : Reachable l) (call : Call) :
    ∃ n errs l', (resume call).exec l = (.ok (n, errs), l') ∧ Reported l.movingIds l' n errs ∧
      (∀ s ∈ l.transfers, s.status ≠ .inProgress → l'.statusOf s.id = some s.status) ∧
      (errs = [] → n = l.movingIds.length ∧ (∀ id ∈ l.movingIds, l'.statusOf id = some .completed) ∧
        (resume call).exec l' = (.ok (0, []), l')) := by
  have sound := reached.sound
  obtain ⟨⟨n, errs⟩, l', ran, reported, frame⟩ :=
    (post_resume_reported sound reached.known : Run.Post (resume call) l _ _).succeeds
  -- a transfer not in progress has an id no transfer in progress has
  have others : ∀ s ∈ l.transfers, s.status ≠ .inProgress → l'.statusOf s.id = some s.status := by
    intro s stored idle
    have absent : s.id ∉ l.movingIds := by
      intro listed
      obtain ⟨x, moving, same⟩ := List.mem_map.mp listed
      obtain ⟨member, moving⟩ := List.mem_filter.mp moving
      rw [sound.unique stored member same] at moving
      exact idle (by simpa using moving)
    rw [frame s.id absent, statusOf_of_mem sound stored]
  refine ⟨n, errs, l', ran, reported, others, fun clean => ?_⟩
  subst clean
  obtain ⟨counted, done⟩ := reported.clean
  have reached' : Reachable l' := reached.later (.single (by simpa [ran] using Step.resume l call))
  have since : l.Since l' := by
    simpa [ran] using (post_resume_since sound reached.journaled : Run.Post (resume call) l _ _).final
  exact ⟨counted, done,
    resume_exec_idle reached'.sound.journalInMemory reached'.known (idle_of_finished since reached'.sound done others)⟩

namespace Session

theorem started_resume_reported : Reachable started ∧
    ∃ n errs l', (resume {}).exec started = (.ok (n, errs), l') ∧ Reported started.movingIds l' n errs ∧
      (∀ s ∈ started.transfers, s.status ≠ .inProgress → l'.statusOf s.id = some s.status) ∧
      (errs = [] → n = started.movingIds.length ∧ (∀ id ∈ started.movingIds, l'.statusOf id = some .completed) ∧
        (resume {}).exec l' = (.ok (0, []), l')) :=
  ⟨started_reachable, resume_finishes_reported started_reachable {}⟩

end Session

end StockLedger
