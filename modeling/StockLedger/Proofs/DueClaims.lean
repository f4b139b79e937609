import StockLedger.Proofs.SyncBatches
import StockLedger.Proofs.TransferRuns

/-!
Claiming the sources that are due. A sync session registers sources, claims the due ones
at instants of its choosing and applies batches from them (`Feeds.Step`), on sources kept
in memory. Every ledger it reaches keeps one source per id, each with a positive interval
(`Ledger.Registered`). On such a ledger a claim at `now` never fails: it returns the due
sources sorted by id, stores each synced at `now` and in progress, and announces each in
turn (`Feeds.claimDue_exec`). So, until a batch from a source or a registration carrying
its last sync, a source claimed once is claimed again only after its interval.
-/

namespace StockLedger

namespace Source

/-- A source as a claim at `now` stores it: synced at `now`, in progress. -/
def claimedAt (s : Source) (now : Instant) : Source :=
  { s with lastSyncAt := some now, lastSyncStatus := some "in_progress" }

@[simp] theorem claimedAt_id (s : Source) (now : Instant) : (s.claimedAt now).id = s.id := rfl

@[simp] theorem claimedAt_interval (s : Source) (now : Instant) : (s.claimedAt now).interval = s.interval := rfl

@[simp] theorem id_ite_claimedAt (c : Prop) [Decidable c] (o : Source) (now : Instant) :
    (if c then o.claimedAt now else o).id = o.id := by
  split <;> rfl

@[simp] theorem claimedAt_lastSyncAt (s : Source) (now : Instant) : (s.claimedAt now).lastSyncAt = some now := rfl

/-- The record that registering `r` again stores over `old`: `r`, keeping the last sync of
`old` when `r` carries none. -/
def replacing (r old : Source) : Source :=
  if r.lastSyncAt.isNone then { r with lastSyncAt := old.lastSyncAt, lastSyncStatus := old.lastSyncStatus } else r

@[simp] theorem replacing_id (r old : Source) : (r.replacing old).id = r.id := by
  unfold replacing; split <;> rfl

@[simp] theorem replacing_interval (r old : Source) : (r.replacing old).interval = r.interval := by
  unfold replacing; split <;> rfl

theorem replacing_lastSyncAt {r : Source} (old : Source) (carried : r.lastSyncAt = none) :
    (r.replacing old).lastSyncAt = old.lastSyncAt := by
  simp [replacing, carried]

@[simp] theorem id_ite_replacing (r old o : Source) : (if o.id == r.id then r.replacing old else o).id = o.id := by
  by_cases same : o.id = r.id <;> simp [same]

theorem due_iff {s : Source} {now : Instant} :
    s.due now = true ↔ s.syncEnabled = true ∧ ∀ last ∈ s.lastSyncAt, last.addDuration s.interval ≤ now := by
  unfold due
  cases s.lastSyncAt with
  | none => simp
  | some last =>
    simp only [Bool.and_eq_true, Bool.not_eq_true', decide_eq_false_iff_not, Option.mem_def,
      Option.some.injEq, forall_eq']
    exact and_congr_right fun _ => Int.not_lt

end Source

namespace Feeds

/-- The events announcing the sources `claimed`, as a broadcast keeps them: none when
nothing is published, and marked undelivered when the broker refuses them. -/
def requested : Broadcast → List Source → List SyncEvent
  | .off, _ => []
  | .on, claimed => claimed.map fun s => ⟨.requested, s.id, none, false⟩
  | .refusing, claimed => claimed.map fun s => ⟨.requested, s.id, none, true⟩

theorem requested_append (b : Broadcast) (xs ys : List Source) :
    requested b (xs ++ ys) = requested b xs ++ requested b ys := by
  cases b <;> simp [requested]

@[simp] theorem requested_nil (b : Broadcast) : requested b [] = [] := by
  cases b <;> rfl

theorem requested_claimedAt (b : Broadcast) (s : Source) (now : Instant) :
    requested b [s.claimedAt now] = requested b [s] := by
  cases b <;> rfl

end Feeds

namespace Ledger

/-- `l` with the sources listed in `claimed` claimed at `now`, and their claims announced. -/
def claiming (l : Ledger) (now : Instant) (claimed : List Source) : Ledger :=
  { l with
    sources := l.sources.map fun o => if claimed.any (·.id == o.id) then o.claimedAt now else o
    published := l.published ++ Feeds.requested l.broadcast claimed }

/-- What every ledger a sync session reaches keeps: its sources, stock and catalog in
memory, one source per id, and a positive interval on each. -/
structure Registered (l : Ledger) : Prop where
  inMemory : l.wiring.sources = false
  stockInMemory : l.wiring.inventory = false
  catalogInMemory : l.wiring.products = false
  distinct : (l.sources.map (·.id)).Nodup
  spaced : ∀ s ∈ l.sources, 0 < s.interval

theorem Registered.unique {l : Ledger} (registered : l.Registered) {s o : Source} (stored : s ∈ l.sources)
    (other : o ∈ l.sources) (same : s.id = o.id) : s = o :=
  List.inj_on_of_nodup_map registered.distinct stored other same

/-- The last sync of the source a ledger stores under an id, if it stores one. -/
def lastSyncOf (l : Ledger) (x : String) : Option (Option Instant) :=
  (l.sources.find? (·.id == x)).map (·.lastSyncAt)

/-- `l'` keeps the wiring of `l` and every source's id and interval, and changes only the
sources that `touched` holds of. -/
structure Restamps (touched : Source → Prop) (l l' : Ledger) : Prop where
  wiring : l'.wiring = l.wiring
  stamped : ∃ f : Source → Source, (∀ o, (f o).id = o.id ∧ (f o).interval = o.interval) ∧
    (∀ o, ¬ touched o → f o = o) ∧ l'.sources = l.sources.map f

theorem Restamps.refl {touched : Source → Prop} (l : Ledger) : Restamps touched l l :=
  ⟨rfl, id, fun _ => ⟨rfl, rfl⟩, fun _ _ => rfl, by simp⟩

theorem Restamps.keep {touched : Source → Prop} {l l' l'' : Ledger} (restamps : Restamps touched l l')
    (sources : l''.sources = l'.sources) (wiring : l''.wiring = l'.wiring) : Restamps touched l l'' :=
  ⟨wiring.trans restamps.wiring, restamps.stamped.imp fun _ ⟨keeps, kept, stamped⟩ => ⟨keeps, kept, sources.trans stamped⟩⟩

theorem find?_map_of_id {f : Source → Source} (keeps : ∀ o, (f o).id = o.id) (ss : List Source) (x : String) :
    (ss.map f).find? (·.id == x) = (ss.find? (·.id == x)).map f := by
  have same : ((·.id == x) ∘ f) = (·.id == x) := by
    funext o
    simp [keeps]
  rw [List.find?_map, same]

theorem Registered.find?_eq {l : Ledger} (registered : l.Registered) {s : Source} (stored : s ∈ l.sources) :
    l.sources.find? (·.id == s.id) = some s := by
  obtain ⟨o, found⟩ := Option.isSome_iff_exists.mp
    ((List.find?_isSome (p := fun o : Source => o.id == s.id)).mpr ⟨s, stored, by simp⟩)
  have named : o.id = s.id := by simpa using List.find?_some found
  rw [found, registered.unique (List.mem_of_find?_eq_some found) stored named]

theorem Registered.lastSyncOf_eq {l : Ledger} (registered : l.Registered) {s : Source} (stored : s ∈ l.sources) :
    l.lastSyncOf s.id = some s.lastSyncAt := by
  simp [lastSyncOf, registered.find?_eq stored]

theorem Registered.map {l l' : Ledger} (registered : l.Registered) {f : Source → Source}
    (keeps : ∀ o, (f o).id = o.id) (spaced : ∀ o ∈ l.sources, 0 < (f o).interval)
    (wiring : l'.wiring = l.wiring) (sources : l'.sources = l.sources.map f) : l'.Registered := by
  have ids : l'.sources.map (·.id) = l.sources.map (·.id) := by
    rw [sources, List.map_map]
    exact List.map_congr_left fun o _ => keeps o
  refine ⟨?_, ?_, ?_, ids ▸ registered.distinct, fun o stored => ?_⟩
  all_goals try rw [wiring]
  · exact registered.inMemory
  · exact registered.stockInMemory
  · exact registered.catalogInMemory
  · rw [sources] at stored
    obtain ⟨o₀, stored₀, rfl⟩ := List.mem_map.mp stored
    exact spaced o₀ stored₀

theorem lastSyncOf_of_map {l l' : Ledger} {f : Source → Source} (keeps : ∀ o, (f o).id = o.id)
    (sources : l'.sources = l.sources.map f) (x : String) :
    l'.lastSyncOf x = (l.sources.find? (·.id == x)).map fun o => (f o).lastSyncAt := by
  simp only [Ledger.lastSyncOf, sources, find?_map_of_id keeps, Option.map_map]
  rfl

theorem Restamps.registered {touched : Source → Prop} {l l' : Ledger} (restamps : Restamps touched l l')
    (registered : l.Registered) : l'.Registered := by
  obtain ⟨f, keeps, -, sources⟩ := restamps.stamped
  exact registered.map (fun o => (keeps o).1) (fun o stored => (keeps o).2 ▸ registered.spaced o stored)
    restamps.wiring sources

theorem Restamps.lastSyncOf {touched : Source → Prop} {l l' : Ledger} (restamps : Restamps touched l l') {x : String}
    (untouched : ∀ o ∈ l.sources, o.id = x → ¬ touched o) : l'.lastSyncOf x = l.lastSyncOf x := by
  obtain ⟨f, keeps, kept, sources⟩ := restamps.stamped
  rw [lastSyncOf_of_map (fun o => (keeps o).1) sources, Ledger.lastSyncOf]
  rcases found : l.sources.find? (·.id == x) with _ | o
  · simp [found]
  · have named : o.id = x := by simpa using List.find?_some found
    simp [found, kept o (untouched o (List.mem_of_find?_eq_some found) named)]

theorem claiming_nil (l : Ledger) (now : Instant) : l.claiming now [] = l := by
  simp [claiming]

theorem claiming_snoc {m : Ledger} (l : Ledger) (now : Instant) (done : List Source) {p : Source}
    (claimed : m = l.claiming now done) (fresh : done.any (·.id == p.id) = false) :
    { m with
      sources := m.sources.map fun o => if o.id == p.id then o.claimedAt now else o
      published := m.published ++ Feeds.requested m.broadcast [p.claimedAt now] } =
      l.claiming now (done ++ [p.claimedAt now]) := by
  subst claimed
  simp only [claiming, Feeds.requested_append, List.append_assoc, List.map_map]
  congr 1
  refine List.map_congr_left fun o _ => ?_
  simp only [Function.comp_apply, List.any_append, List.any_cons, List.any_nil, Bool.or_false,
    Source.claimedAt_id, Source.id_ite_claimedAt, Bool.beq_comm (a := p.id)]
  by_cases before : done.any (·.id == o.id) = true
  · -- a record claimed before has another id than the one claimed now
    have apart : (o.id == p.id) = false := by
      rw [beq_eq_false_iff_ne]
      intro same
      rw [same, fresh] at before
      cases before
    simp only [before, apart, Bool.true_or, Bool.false_eq_true, reduceIte]
  · rw [Bool.not_eq_true] at before
    simp only [before, Bool.false_or, Bool.false_eq_true, reduceIte]

end Ledger

namespace SourceStore

open Run

variable {l : Ledger} {call : Call}

theorem exec_onDatabase_bind {α : Type} (inMemory : l.wiring.sources = false) (k : Bool → Run α) :
    (onDatabase >>= k).exec l = (k false).exec l := by
  simp [onDatabase, inMemory]

theorem all_exec (inMemory : l.wiring.sources = false) :
    (all call).exec l = (.ok (l.sources.mergeSort fun a b => a.id ≤ b.id), l) := by
  simp [all, onDatabase, inMemory]

theorem recordSync_exec (inMemory : l.wiring.sources = false) (id : String) (stamp : Instant) (status : String) :
    (recordSync call id stamp status).exec l =
      if l.sources.any (·.id == id) then
        (.ok (), { l with sources := l.sources.map fun s =>
          if s.id == id then { s with lastSyncAt := some stamp, lastSyncStatus := some status } else s })
      else (.error (.withDetail .sourceNotFound id), l) := by
  by_cases found : l.sources.any (·.id == id) <;>
    simp [recordSync, onDatabase, inMemory, found, -List.any_eq_true]

theorem upsert_exec (inMemory : l.wiring.sources = false) (r : Source) :
    (upsert call r).exec l =
      (.ok (), { l with sources :=
        match l.sources.find? (·.id == r.id) with
        | some old => l.sources.map fun o => if o.id == r.id then r.replacing old else o
        | none => l.sources ++ [r] }) := by
  -- past the database branch first: simplifying inside it makes the kernel number the
  -- parameters of its statement
  unfold upsert
  rw [exec_onDatabase_bind inMemory, if_neg Bool.false_ne_true]
  rcases found : l.sources.find? (·.id == r.id) with _ | old
  · simp [found]
  · by_cases fresh : r.lastSyncAt.isNone <;> simp [found, fresh, Source.replacing]

end SourceStore

namespace Feeds

open Run

variable {l : Ledger} {call : Call} {now : Instant}

theorem publish_requested_exec (s : Source) :
    (publish { kind := .requested, source := s.id, result := none, undelivered := false }).exec l =
      (.ok (), { l with published := l.published ++ requested l.broadcast [s] }) := by
  cases l with
  | mk clock book registry transfers sources catalog broadcast =>
    cases broadcast <;> simp [publish, requested]

theorem claimOne_exec (inMemory : l.wiring.sources = false) (acc : List Source) {s : Source}
    (present : l.sources.any (·.id == s.id) = true) :
    (claimOne call now acc s).exec l =
      if s.due now then
        (.ok (acc ++ [s.claimedAt now]), { l with
          sources := l.sources.map fun o => if o.id == s.id then o.claimedAt now else o
          published := l.published ++ requested l.broadcast [s.claimedAt now] })
      else (.ok acc, l) := by
  by_cases due : s.due now
  · rw [requested_claimedAt]
    simp [claimOne, due, SourceStore.recordSync_exec inMemory, present, publish_requested_exec, Source.claimedAt]
  · simp [claimOne, due]

theorem claimOne_claiming_exec (inMemory : l.wiring.sources = false) (acc done : List Source) {s : Source}
    (present : l.sources.any (·.id == s.id) = true) (fresh : done.any (·.id == s.id) = false) :
    (claimOne call now acc s).exec (l.claiming now done) =
      if s.due now then (.ok (acc ++ [s.claimedAt now]), l.claiming now (done ++ [s.claimedAt now]))
      else (.ok acc, l.claiming now done) := by
  have inMemory' : (l.claiming now done).wiring.sources = false := inMemory
  have present' : (l.claiming now done).sources.any (·.id == s.id) = true := by
    simpa [Ledger.claiming] using present
  rw [claimOne_exec inMemory' acc present']
  split
  · rw [Ledger.claiming_snoc l now done rfl fresh]
  · rfl

/-- Claiming in turn stored sources of distinct ids, none claimed yet, claims the due ones,
in turn. -/
theorem foldClaims_exec (inMemory : l.wiring.sources = false) (ps : List Source) (distinct : (ps.map (·.id)).Nodup)
    (present : ∀ p ∈ ps, l.sources.any (·.id == p.id) = true) (acc done : List Source)
    (fresh : ∀ p ∈ ps, done.any (·.id == p.id) = false) :
    (ps.foldlM (claimOne call now) acc).exec (l.claiming now done) =
      (.ok (acc ++ (ps.filter (·.due now)).map (·.claimedAt now)),
        l.claiming now (done ++ (ps.filter (·.due now)).map (·.claimedAt now))) := by
  induction ps generalizing acc done with
  | nil => simp
  | cons p rest ih =>
    have apart : ∀ q ∈ rest, q.id ≠ p.id := fun q member same => by
      have listed : q.id ∈ rest.map (·.id) := List.mem_map_of_mem member
      rw [same] at listed
      exact (List.nodup_cons.mp distinct).1 listed
    have present' : ∀ q ∈ rest, l.sources.any (·.id == q.id) = true := fun q member => present q (by simp [member])
    rw [List.foldlM_cons, Run.exec_bind, claimOne_claiming_exec inMemory acc done (present p (by simp))
      (fresh p (by simp))]
    by_cases due : p.due now
    · rw [if_pos due]
      dsimp only
      rw [ih (List.nodup_cons.mp distinct).2 present' _ _ fun q member => by
        simpa [apart q member, Ne.symm (apart q member)] using fresh q (by simp [member])]
      simp [due]
    · rw [if_neg due]
      dsimp only
      rw [ih (List.nodup_cons.mp distinct).2 present' _ _ fun q member => fresh q (by simp [member])]
      simp [due]

/-- The sources a claim draws, by id. -/
abbrev byId (l : Ledger) : List Source := l.sources.mergeSort fun a b => a.id ≤ b.id

theorem byId_strict (registered : l.Registered) : (byId l).Pairwise fun a b => a.id < b.id := by
  have sorted : (byId l).Pairwise fun a b => decide (a.id ≤ b.id) = true := by
    refine List.pairwise_mergeSort (fun a b c first second => ?_) (fun a b => ?_) _
    · simp only [decide_eq_true_eq] at first second ⊢
      exact String.le_trans first second
    · simpa using String.le_total a.id b.id
  have distinct : (byId l).Pairwise fun a b => a.id ≠ b.id :=
    List.pairwise_map.1 (((List.mergeSort_perm _ _).map _).nodup_iff.mpr registered.distinct)
  exact (sorted.and distinct).imp fun both => Std.lt_of_le_of_ne (by simpa using both.1) both.2

theorem claimed_strict (registered : l.Registered) :
    (((byId l).filter (·.due now)).map (·.claimedAt now)).Pairwise fun a b => a.id < b.id := by
  rw [List.pairwise_map]
  exact (byId_strict registered).filter _

/-- On a registered ledger a claim never fails: it claims the due sources, by id. -/
theorem claimDue_exec (registered : l.Registered) :
    (claimDue call now).exec l =
      (.ok (((byId l).filter (·.due now)).map (·.claimedAt now)),
        l.claiming now (((byId l).filter (·.due now)).map (·.claimedAt now))) := by
  have drawn := List.mergeSort_perm l.sources fun a b => a.id ≤ b.id
  have claimed : ((byId l).foldlM (claimOne call now) []).exec (l.claiming now []) = _ :=
    foldClaims_exec registered.inMemory (byId l)
    ((drawn.map _).nodup_iff.mpr registered.distinct)
    (fun p member => List.any_eq_true.mpr ⟨p, drawn.mem_iff.mp member, by simp⟩) [] [] fun _ _ => rfl
  rw [Ledger.claiming_nil] at claimed
  unfold claimDue
  rw [Run.exec_bind, all, SourceStore.all_exec registered.inMemory]
  simpa using claimed

theorem claimed_any_iff (registered : l.Registered) {o : Source} (stored : o ∈ l.sources) :
    (((byId l).filter (·.due now)).map (·.claimedAt now)).any (·.id == o.id) = o.due now := by
  have drawn := List.mergeSort_perm l.sources fun a b => a.id ≤ b.id
  rw [Bool.eq_iff_iff]
  simp only [List.any_map, List.any_filter, List.any_eq_true, Function.comp_apply, Source.claimedAt_id,
    Bool.and_eq_true, beq_iff_eq]
  constructor
  · rintro ⟨s, member, due, same⟩
    rwa [← registered.unique (drawn.mem_iff.mp member) stored same]
  · intro due
    exact ⟨o, drawn.mem_iff.mpr stored, due, rfl⟩

theorem claiming_due (registered : l.Registered) :
    l.claiming now (((byId l).filter (·.due now)).map (·.claimedAt now)) =
      { l with sources := l.sources.map fun o => if o.due now then o.claimedAt now else o,
               published := l.published ++ requested l.broadcast (((byId l).filter (·.due now)).map (·.claimedAt now)) } := by
  have sources : l.sources.map (fun o => if (((byId l).filter (·.due now)).map (·.claimedAt now)).any (·.id == o.id)
      then o.claimedAt now else o) = l.sources.map fun o => if o.due now then o.claimedAt now else o :=
    List.map_congr_left fun o stored => by rw [claimed_any_iff registered stored]
  unfold Ledger.claiming
  rw [sources]

theorem mem_claimed {c : Source} : c ∈ ((byId l).filter (·.due now)).map (·.claimedAt now) ↔
    ∃ s ∈ l.sources, s.due now = true ∧ c = s.claimedAt now := by
  simp only [List.mem_map, List.mem_filter, byId, List.mem_mergeSort]
  constructor
  · rintro ⟨s, ⟨stored, due⟩, rfl⟩
    exact ⟨s, stored, due, rfl⟩
  · rintro ⟨s, stored, due, rfl⟩
    exact ⟨s, ⟨stored, due⟩, rfl⟩

/-- A claim changes the sources due at its instant, and only their last sync. -/
theorem claimDue_restamps (registered : l.Registered) :
    Ledger.Restamps (·.due now = true) l ((claimDue call now).exec l).2 := by
  rw [claimDue_exec registered]
  refine ⟨rfl, fun o => if o.due now then o.claimedAt now else o, fun o => ⟨?_, ?_⟩, fun o idle => ?_,
    by rw [claiming_due registered]⟩
  all_goals dsimp only
  · split <;> rfl
  · split <;> rfl
  · simp [idle]

theorem claimed_lastSyncOf (registered : l.Registered) {x : String}
    (claimed : x ∈ (((byId l).filter (·.due now)).map (·.claimedAt now)).map (·.id)) :
    ((claimDue call now).exec l).2.lastSyncOf x = some (some now) := by
  obtain ⟨c, member, rfl⟩ := List.mem_map.mp claimed
  obtain ⟨s, stored, due, rfl⟩ := mem_claimed.mp member
  rw [claimDue_exec registered, claiming_due registered,
    Ledger.lastSyncOf_of_map (fun o => Source.id_ite_claimedAt _ o now) rfl, Source.claimedAt_id,
    registered.find?_eq stored]
  simp [due]

theorem claimed_due_source (registered : l.Registered) {claimed : List Source} {l' : Ledger}
    (claims : (claimDue call now).exec l = (.ok claimed, l')) {x : String} (named : x ∈ claimed.map (·.id)) :
    ∃ s ∈ l.sources, s.id = x ∧ s.due now = true := by
  rw [claimDue_exec registered, Prod.mk.injEq, Except.ok.injEq] at claims
  obtain ⟨c, member, rfl⟩ := List.mem_map.mp named
  rw [← claims.1] at member
  obtain ⟨s, stored, due, rfl⟩ := mem_claimed.mp member
  exact ⟨s, stored, rfl, due⟩

theorem post_tally_keeps (registered : l.Registered) (src : Source) (changes : List ReportedChange)
    (acc : Nat × List String) :
    Post (changes.foldlM (tallyOne call src) acc) l (fun _ l' => l'.sources = l.sources ∧ l'.wiring = l.wiring)
      (fun _ _ => False) := by
  refine post_foldlM _ _ _ ⟨rfl, rfl⟩ fun c _ acc l' ⟨sources, wiring⟩ => ?_
  obtain ⟨u, errs⟩ := acc
  have stock : l'.wiring.inventory = false := by rw [wiring]; exact registered.stockInMemory
  have catalog : l'.wiring.products = false := by rw [wiring]; exact registered.catalogInMemory
  unfold tallyOne
  rw [post_bind, post_attempt]
  refine (post_applyOne stock catalog).mono ?_ ?_
  · rintro _ l'' ⟨key, mode, w, w', mv, -, -, -, rfl⟩
    simp [sources, wiring]
  · rintro _ l'' ⟨-, rfl⟩
    simp [sources, wiring]

theorem post_publish_keeps (e : SyncEvent) {ok : Unit → Ledger → Prop} {err : Failure → Ledger → Prop}
    (holds : ∀ l', l'.sources = l.sources → l'.wiring = l.wiring → ok () l') : Post (publish e) l ok err := by
  cases broadcast : l.broadcast <;> simp [publish, broadcast, holds]

/-- A batch changes at most the last sync of its own source. -/
theorem applyBatch_restamps (registered : l.Registered) (id : String) (changes : List ReportedChange) :
    Ledger.Restamps (·.id = id) l ((applyBatch call id changes).exec l).2 := by
  refine Post.final (P := Ledger.Restamps (·.id = id) l) ?_
  unfold applyBatch
  rw [post_bind, post_find id registered.inMemory]
  rcases found : l.sources.find? (·.id == id) with _ | src
  · simp [found, Ledger.Restamps.refl]
  simp only [found]
  by_cases enabled : src.syncEnabled = false
  · simp [enabled, Ledger.Restamps.refl]
  rw [if_neg (by simpa using enabled), post_bind]
  refine (post_tally_keeps registered src changes (0, [])).mono ?_ fun _ _ never => never.elim
  rintro ⟨updated, errors⟩ l₁ ⟨sources, wiring⟩
  have memory : l₁.wiring.sources = false := by rw [wiring]; exact registered.inMemory
  have kept : Ledger.Restamps (·.id = id) l l₁ := (Ledger.Restamps.refl l).keep sources wiring
  simp only [post_bind, post_now, post_attempt]
  rw [Post, SourceStore.recordSync_exec memory]
  by_cases present : l₁.sources.any (·.id == id) = true
  · -- the sync is recorded on the source's own record
    rw [if_pos present]
    refine post_publish_keeps _ fun l₃ sources₃ wiring₃ => ?_
    refine ⟨wiring₃.trans wiring, fun o => if o.id == id then
      { o with lastSyncAt := some l₁.clock, lastSyncStatus := some (batchStatus updated errors.length) } else o,
      fun o => ⟨?_, ?_⟩, fun o other => by simp [other], by rw [sources₃, ← sources]⟩
    all_goals dsimp only
    all_goals split <;> rfl
  · rw [if_neg present]
    exact post_publish_keeps _ fun l₃ sources₃ wiring₃ => kept.keep sources₃ wiring₃

theorem upsert_registered (registered : l.Registered) {r : Source} (spaced : 0 < r.interval) :
    ((SourceStore.upsert call r).exec l).2.Registered := by
  rw [SourceStore.upsert_exec registered.inMemory]
  rcases found : l.sources.find? (·.id == r.id) with _ | old
  · -- a new id: the source joins the list
    have fresh : ∀ o ∈ l.sources, o.id ≠ r.id := fun o stored => by
      simpa using List.find?_eq_none.mp found o stored
    simp only [found]
    refine ⟨registered.inMemory, registered.stockInMemory, registered.catalogInMemory, ?_, ?_⟩
    · simpa [List.nodup_append] using ⟨registered.distinct, fresh⟩
    · simpa [or_imp, forall_and, spaced] using registered.spaced
  · -- the id is taken: its record is replaced in place
    simp only [found]
    refine registered.map (Source.id_ite_replacing r old) (fun o stored => ?_) rfl rfl
    split
    · rw [Source.replacing_interval]
      exact spaced
    · exact registered.spaced o stored

theorem upsert_lastSyncOf (inMemory : l.wiring.sources = false) (r : Source) {x : String}
    (kept : r.id ≠ x ∨ r.lastSyncAt = none ∧ (l.lastSyncOf x).isSome) :
    ((SourceStore.upsert call r).exec l).2.lastSyncOf x = l.lastSyncOf x := by
  rw [SourceStore.upsert_exec inMemory]
  rcases found : l.sources.find? (·.id == r.id) with _ | old
  · -- a new id is never `x`: `x` is either another id or already taken
    have other : r.id ≠ x := by
      rintro rfl
      simp [Ledger.lastSyncOf, found, kept.resolve_left (not_not.mpr rfl)] at kept
    simp only [found]
    simp [Ledger.lastSyncOf, List.find?_append, other]
  · -- the id is taken: its record is replaced in place
    simp only [found]
    refine (Ledger.lastSyncOf_of_map (l := l) (Source.id_ite_replacing r old) rfl x).trans ?_
    rcases named : l.sources.find? (·.id == x) with _ | o
    · simp [Ledger.lastSyncOf, named]
    have named' : o.id = x := by simpa using List.find?_some named
    by_cases same : r.id = x
    · -- re-registering `x` itself: the request carries no last sync, so the stored one stays
      subst same
      have carried := (kept.resolve_left (not_not.mpr rfl)).1
      have : old = o := Option.some.inj (found.symm.trans named)
      simp [Ledger.lastSyncOf, named, this, named', Source.replacing_lastSyncAt o carried]
    · simp [Ledger.lastSyncOf, named, named', Ne.symm same]

/-- A registration without an id changes nothing; any other stores the request with the
default kind and interval filled in. -/
theorem register_stores (inMemory : l.wiring.sources = false) (s : Source) :
    s.id = "" ∧ ((register call s).exec l).2 = l ∨
      ∃ r : Source, r.id = s.id ∧ r.lastSyncAt = s.lastSyncAt ∧ 0 < r.interval ∧
        ((register call s).exec l).2 = ((SourceStore.upsert call r).exec l).2 := by
  by_cases blank : s.id = ""
  · exact .inl ⟨blank, by simp [register, blank]⟩
  refine .inr ⟨s.withDefaults, s.withDefaults_id, s.withDefaults_lastSyncAt, s.withDefaults_interval_pos, ?_⟩
  simp [register, blank, SourceStore.upsert_exec inMemory]

theorem register_registered (registered : l.Registered) (s : Source) : ((register call s).exec l).2.Registered := by
  rcases register_stores registered.inMemory s with ⟨-, same⟩ | ⟨r, -, -, spaced, stores⟩
  · rw [same]
    exact registered
  · rw [stores]
    exact upsert_registered registered spaced

theorem register_lastSyncOf (inMemory : l.wiring.sources = false) (s : Source) {x : String}
    (kept : s.id ≠ x ∨ s.lastSyncAt = none ∧ (l.lastSyncOf x).isSome) :
    ((register call s).exec l).2.lastSyncOf x = l.lastSyncOf x := by
  rcases register_stores inMemory s with ⟨-, same⟩ | ⟨r, named, carried, -, stores⟩
  · rw [same]
  · rw [stores]
    exact upsert_lastSyncOf inMemory r (by rwa [named, carried])

/-- What a sync session does to the sources: register one, claim the due ones at an
instant, or apply a batch from one. -/
inductive Op where
  | register (s : Source)
  | claim (now : Instant)
  | apply (sourceId : String) (changes : List ReportedChange)

/-- The ledger after an operation, whether it succeeds or fails. -/
def Op.after (call : Call) : Op → Ledger → Ledger
  | .register s, l => ((Feeds.register call s).exec l).2
  | .claim now, l => ((claimDue call now).exec l).2
  | .apply sourceId changes, l => ((applyBatch call sourceId changes).exec l).2

/-- The operations that leave the last sync of source `x` alone: registering another source,
or `x` with no last sync; a claim while `x` is not due; a batch from another source. -/
def Op.Keeps (x : String) (l : Ledger) : Op → Prop
  | .register s => s.id ≠ x ∨ s.lastSyncAt = none
  | .claim now => ∀ s ∈ l.sources, s.id = x → s.due now = false
  | .apply sourceId _ => sourceId ≠ x

/-- One step of a session: an operation that `admits` allows, or anything else the ledger
does (stock, orders, transfers), which leaves the sources and the wiring alone. -/
inductive Step (admits : Ledger → Op → Prop) : Ledger → Ledger → Prop
  | call (l : Ledger) (call : Call) (op : Op) (admitted : admits l op) : Step admits l (op.after call l)
  | outside {l l' : Ledger} (sources : l'.sources = l.sources) (wiring : l'.wiring = l.wiring) : Step admits l l'

/-- The ledgers a session reaches from one with no sources, kept in memory. -/
def Reachable (l : Ledger) : Prop :=
  ∃ l₀ : Ledger, l₀.sources = [] ∧ l₀.wiring.sources = false ∧ l₀.wiring.inventory = false ∧
    l₀.wiring.products = false ∧ Relation.ReflTransGen (Step fun _ _ => True) l₀ l

theorem Step.registered {admits : Ledger → Op → Prop} {l l' : Ledger} (step : Step admits l l')
    (registered : l.Registered) : l'.Registered := by
  cases step with
  | call call op _ =>
    cases op with
    | register s => exact register_registered registered s
    | claim now => exact (claimDue_restamps registered).registered registered
    | apply id changes => exact (applyBatch_restamps registered id changes).registered registered
  | outside sources wiring => exact registered.map (fun _ => rfl) registered.spaced wiring (by simp [sources])

theorem Reachable.registered (reached : Reachable l) : l.Registered := by
  obtain ⟨l₀, empty, inMemory, stockInMemory, catalogInMemory, run⟩ := reached
  induction run with
  | refl => exact ⟨inMemory, stockInMemory, catalogInMemory, by simp [empty], by simp [empty]⟩
  | tail _ step registered => exact step.registered registered

theorem Step.lastSyncOf {x : String} {l l' : Ledger} (step : Step (Op.Keeps x) l l') (registered : l.Registered)
    (known : (l.lastSyncOf x).isSome) : l'.lastSyncOf x = l.lastSyncOf x := by
  cases step with
  | call call op keeps =>
    cases op with
    | register s => exact register_lastSyncOf registered.inMemory s (keeps.imp_right fun carried => ⟨carried, known⟩)
    | claim now => exact (claimDue_restamps registered).lastSyncOf fun o stored named => by simp [keeps o stored named]
    | apply id changes =>
      exact (applyBatch_restamps registered id changes).lastSyncOf fun o _ named same => keeps (same.symm.trans named)
  | outside sources _ => simp [Ledger.lastSyncOf, sources]

theorem Step.run_lastSyncOf {x : String} {stamp : Option Instant} {l l' : Ledger}
    (run : Relation.ReflTransGen (Step (Op.Keeps x)) l l') (registered : l.Registered)
    (stamped : l.lastSyncOf x = some stamp) : l'.Registered ∧ l'.lastSyncOf x = some stamp := by
  induction run with
  | refl => exact ⟨registered, stamped⟩
  | tail _ step holds =>
    obtain ⟨registered', stamped'⟩ := holds
    exact ⟨step.registered registered', (step.lastSyncOf registered' (by simp [stamped'])).trans stamped'⟩

end Feeds

/-- On every ledger a sync session reaches, a claim at `now` returns the due sources (the
enabled ones never synced, or synced an interval or more before `now`) in strictly
increasing id order, stores each as synced at `now` and in progress, and announces each as
the broadcast does. A source it returns, claimed again at `t₂` after steps that apply no
batch from it, carry no last sync for it and claim nothing while it is not due, has a
positive interval and `t₂` is at least that interval after `now`. -/
theorem due_sources_claimed_once_per_interval {l : Ledger} (reached : Feeds.Reachable l) (call : Call)
    (now : Instant) :
    ∃ claimed, (Feeds.claimDue call now).exec l =
        (.ok claimed, { l with sources := l.sources.map fun s => if s.due now then s.claimedAt now else s,
                               published := l.published ++ Feeds.requested l.broadcast claimed }) ∧
      claimed.Pairwise (fun a b => a.id < b.id) ∧
      (∀ c, c ∈ claimed ↔ ∃ s ∈ l.sources, s.syncEnabled = true ∧
        (∀ last ∈ s.lastSyncAt, last.addDuration s.interval ≤ now) ∧ c = s.claimedAt now) ∧
      ∀ x ∈ claimed.map (·.id), ∀ l₂ call₂ t₂ claimed₂ l₂',
        Relation.ReflTransGen (Feeds.Step (Feeds.Op.Keeps x)) ((Feeds.claimDue call now).exec l).2 l₂ →
        (Feeds.claimDue call₂ t₂).exec l₂ = (.ok claimed₂, l₂') → x ∈ claimed₂.map (·.id) →
        ∃ s ∈ l₂.sources, s.id = x ∧ 0 < s.interval ∧ now.addDuration s.interval ≤ t₂ := by
  have registered := reached.registered
  refine ⟨((Feeds.byId l).filter (·.due now)).map (·.claimedAt now),
    by rw [Feeds.claimDue_exec registered, Feeds.claiming_due registered],
    Feeds.claimed_strict registered,
    fun c => Feeds.mem_claimed.trans (by simp only [Source.due_iff, and_assoc]), ?_⟩
  intro x claimedX l₂ call₂ t₂ claimed₂ l₂' run claims₂ claimedX₂
  -- the claim stores `x` synced at `now`, and the run keeps that stamp
  obtain ⟨registered₂, stamped₂⟩ := Feeds.Step.run_lastSyncOf run
    ((Feeds.claimDue_restamps registered).registered registered) (Feeds.claimed_lastSyncOf registered claimedX)
  obtain ⟨s, stored, named, due⟩ := Feeds.claimed_due_source registered₂ claims₂ claimedX₂
  have last : s.lastSyncAt = some now := by
    have known := registered₂.lastSyncOf_eq stored
    rw [named, stamped₂] at known
    exact (Option.some.inj known).symm
  exact ⟨s, stored, named, registered₂.spaced s stored, (Source.due_iff.mp due).2 now last⟩

namespace Session

/-- A fresh ledger that publishes its events, with `erpSource` registered. -/
def erpRegistered : Ledger := (Feeds.Op.register erpSource).after {} { fresh with broadcast := .on }

theorem erpRegistered_reachable : Feeds.Reachable erpRegistered :=
  ⟨{ fresh with broadcast := .on }, rfl, rfl, rfl, rfl, .single (.call _ {} (.register erpSource) trivial)⟩

theorem erp_claimed_once_per_interval : Feeds.Reachable erpRegistered ∧
    ∃ claimed, (Feeds.claimDue {} Instant.zero).exec erpRegistered =
        (.ok claimed, { erpRegistered with
          sources := erpRegistered.sources.map fun s => if s.due Instant.zero then s.claimedAt Instant.zero else s,
          published := erpRegistered.published ++ Feeds.requested erpRegistered.broadcast claimed }) ∧
      claimed.Pairwise (fun a b => a.id < b.id) ∧
      (∀ c, c ∈ claimed ↔ ∃ s ∈ erpRegistered.sources, s.syncEnabled = true ∧
        (∀ last ∈ s.lastSyncAt, last.addDuration s.interval ≤ Instant.zero) ∧ c = s.claimedAt Instant.zero) ∧
      ∀ x ∈ claimed.map (·.id), ∀ l₂ call₂ t₂ claimed₂ l₂',
        Relation.ReflTransGen (Feeds.Step (Feeds.Op.Keeps x))
          ((Feeds.claimDue {} Instant.zero).exec erpRegistered).2 l₂ →
        (Feeds.claimDue call₂ t₂).exec l₂ = (.ok claimed₂, l₂') → x ∈ claimed₂.map (·.id) →
        ∃ s ∈ l₂.sources, s.id = x ∧ 0 < s.interval ∧ Instant.zero.addDuration s.interval ≤ t₂ :=
  ⟨erpRegistered_reachable, due_sources_claimed_once_per_interval erpRegistered_reachable {} Instant.zero⟩

end Session

end StockLedger
