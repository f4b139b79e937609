import StockLedger.Proofs.LevelTransaction
import StockLedger.Proofs.Listings
import StockLedger.Console.Answer

/-!
The location registry kept in memory, over any run of its calls. A run interleaves
additions, switches of the active flag and registrations of the main warehouse, with
changes of the rest of the ledger between them (`Places.Runs`).

What a run leaves under an id is read off its calls alone (`Places.registered`): nothing
until the first call that adds a location under the id, then that location as stored,
whose active flag only later switches of that id change (`Places.Runs.get?_eq`). So no
addition overwrites, and an addition under a taken id or a switch of an unknown id is
refused and changes nothing. The registry holds one location per id
(`Places.Runs.keyed`), so listing the active ones by fulfilment priority, then id, is a
strict order, and the list is the one answer the database's
`ORDER BY fulfillment_priority, id` may give over the same locations
(`registry_keeps_first_and_lists_in_order`).
-/

namespace StockLedger

namespace Location

/-- The location an addition stores: the kind defaults to a warehouse and an unset
creation time to `now`. -/
def stamped (l : Location) (now : Instant) : Location :=
  let l := if l.kind = "" then { l with kind := "warehouse" } else l
  if l.createdAt.isZero then { l with createdAt := now } else l

@[simp] theorem stamped_id (l : Location) (now : Instant) : (l.stamped now).id = l.id := by
  unfold stamped
  by_cases kind : l.kind = "" <;> by_cases unset : l.createdAt.isZero <;> simp [kind, unset]

/-- Whether a location comes before another by fulfilment priority, then by id, each
compared by value: `ORDER BY fulfillment_priority, id`. -/
def Precedes (a b : Location) : Prop :=
  a.priority < b.priority ∨ a.priority = b.priority ∧ a.id < b.id

instance : DecidableRel Precedes := fun _ _ => inferInstanceAs (Decidable (_ ∨ _))

theorem before_eq_decide (a b : Location) : before a b = decide (a.Precedes b) := by
  unfold before Precedes
  by_cases same : a.priority = b.priority <;> simp [same]

variable {a b c : Location}

theorem Precedes.asymm (first : a.Precedes b) : ¬ b.Precedes a := by
  unfold Precedes at *
  simp only [Int64.lt_iff_toInt_lt, ← Int64.toInt_inj] at *
  rcases first with below | ⟨same, lower⟩
  · omega
  · rintro (above | ⟨-, higher⟩)
    · omega
    · exact String.lt_asymm lower higher

/-- Locations neither of which comes before the other share priority and id. -/
theorem same_of_not_precedes (below : ¬ a.Precedes b) (above : ¬ b.Precedes a) :
    a.priority = b.priority ∧ a.id = b.id := by
  unfold Precedes at below above
  simp only [Int64.lt_iff_toInt_lt, ← Int64.toInt_inj, not_or, not_and] at below above
  have same : a.priority.toInt = b.priority.toInt := by omega
  refine ⟨Int64.toInt_inj.mp same, String.le_antisymm ?_ ?_⟩
  · exact String.not_lt.mp (above.2 same.symm)
  · exact String.not_lt.mp (below.2 same)

theorem not_precedes_trans (ab : ¬ b.Precedes a) (bc : ¬ c.Precedes b) : ¬ c.Precedes a := by
  unfold Precedes at *
  simp only [Int64.lt_iff_toInt_lt, ← Int64.toInt_inj, not_or, not_and] at *
  refine ⟨by omega, fun same => ?_⟩
  have first : b.priority.toInt = a.priority.toInt := by omega
  have second : c.priority.toInt = b.priority.toInt := by omega
  exact String.not_lt.mpr (String.le_trans (String.not_lt.mp (ab.2 first)) (String.not_lt.mp (bc.2 second)))

end Location

namespace Registry

/-- The location stored under an id: the first one, should several be. -/
def get? (r : Registry) (id : String) : Option Location := r.entries.find? (·.id == id)

/-- One location per id. -/
def Keyed (r : Registry) : Prop := (r.entries.map (·.id)).Nodup

/-- What a switch of `id` makes of each location. -/
def switched (id : String) (on : Bool) (l : Location) : Location :=
  if l.id == id then { l with isActive := on } else l

@[simp] theorem switched_id (id : String) (on : Bool) (l : Location) : (switched id on l).id = l.id := by
  unfold switched
  split <;> rfl

variable {r : Registry}

/-- A lookup answers with the location `get?` finds, and refuses an id without one. -/
theorem find_eq (r : Registry) (id : String) :
    r.find id = match r.get? id with
      | some l => .ok l
      | none => .error (.withDetail .locationNotFound id) := rfl

theorem id_of_get? {id : String} {loc : Location} (found : r.get? id = some loc) : loc.id = id := by
  simpa using List.find?_some found

theorem any_id_eq (r : Registry) (id : String) : r.entries.any (·.id == id) = (r.get? id).isSome := by
  rw [Bool.eq_iff_iff, List.any_eq_true, get?, List.find?_isSome]

theorem add_eq (r : Registry) (l : Location) :
    r.add l = if (r.get? l.id).isSome then .error (.withDetail .locationExists l.id)
      else .ok ⟨r.entries ++ [l]⟩ := by
  rw [add, any_id_eq]

theorem setActive_eq (r : Registry) (id : String) (on : Bool) :
    r.setActive id on = if (r.get? id).isSome then .ok ⟨r.entries.map (switched id on)⟩
      else .error (.withDetail .locationNotFound id) := by
  rw [setActive, any_id_eq]
  rfl

theorem get?_append (r : Registry) (l : Location) (id : String) :
    (⟨r.entries ++ [l]⟩ : Registry).get? id = (r.get? id).or (if l.id = id then some l else none) := by
  simp [get?, List.find?_append, List.find?_singleton]

theorem get?_switched (r : Registry) (id : String) (on : Bool) (target : String) :
    (⟨r.entries.map (switched id on)⟩ : Registry).get? target = (r.get? target).map (switched id on) := by
  have sameId : (fun l : Location => l.id == target) ∘ switched id on = fun l => l.id == target := by
    funext l
    simp
  simp only [get?, List.find?_map, sameId]

/-- Adding a location unless its id is taken keeps every stored location, and a free id
takes the location only when it is the location's own. -/
theorem get?_admit (r : Registry) (a : Location) (id : String) :
    (if (r.get? a.id).isSome then r else ⟨r.entries ++ [a]⟩ : Registry).get? id =
      match r.get? id with
      | some loc => some loc
      | none => if a.id = id then some a else none := by
  by_cases taken : (r.get? a.id).isSome
  · rw [if_pos taken]
    rcases stored : r.get? id with _ | loc
    · -- the location's own id is taken, so a free id is another one
      have other : a.id ≠ id := fun same => by
        rw [same, stored] at taken
        cases taken
      simp [other]
    · rfl
  · rw [if_neg taken, get?_append]
    rcases r.get? id with _ | loc <;> rfl

theorem Keyed.append (keyed : r.Keyed) {l : Location} (absent : r.get? l.id = none) :
    (⟨r.entries ++ [l]⟩ : Registry).Keyed := by
  have fresh : l.id ∉ r.entries.map (·.id) := by
    intro taken
    obtain ⟨m, member, same⟩ := List.mem_map.mp taken
    have found : (r.get? l.id).isSome := by
      rw [← any_id_eq]
      exact List.any_eq_true.mpr ⟨m, member, by simp [same]⟩
    simp [absent] at found
  unfold Keyed at *
  rw [List.map_append, List.map_singleton]
  exact keyed.append (List.nodup_singleton _) (List.disjoint_singleton.mpr fresh)

theorem Keyed.switch (keyed : r.Keyed) (id : String) (on : Bool) :
    (⟨r.entries.map (switched id on)⟩ : Registry).Keyed := by
  have sameIds : (r.entries.map (switched id on)).map (·.id) = r.entries.map (·.id) := by
    rw [List.map_map]
    exact List.map_congr_left fun l _ => switched_id id on l
  unfold Keyed
  rw [sameIds]
  exact keyed

/-- Two locations of a keyed registry that share an id are one location. -/
theorem Keyed.eq_of_id (keyed : r.Keyed) {a b : Location} (first : a ∈ r.entries) (second : b ∈ r.entries)
    (same : a.id = b.id) : a = b :=
  List.inj_on_of_nodup_map keyed first second same

theorem active_perm (r : Registry) : r.active.Perm (r.entries.filter (·.isActive)) :=
  List.mergeSort_perm _ _

/-- No listed location comes after one it precedes. -/
theorem active_sorted (r : Registry) : r.active.Pairwise (fun a b => ¬ b.Precedes a) := by
  have sorted : (r.entries.filter (·.isActive) |>.mergeSort fun a b => !Location.before b a).Pairwise
      (fun a b => (!Location.before b a) = true) := List.pairwise_mergeSort
    (fun a b c ab bc => by
      simp only [Location.before_eq_decide, Bool.not_eq_eq_eq_not, Bool.not_true, decide_eq_false_iff_not] at *
      exact Location.not_precedes_trans ab bc)
    (fun a b => by
      simp only [Location.before_eq_decide, Bool.or_eq_true, Bool.not_eq_eq_eq_not, Bool.not_true,
        decide_eq_false_iff_not]
      by_cases first : a.Precedes b
      · exact .inl first.asymm
      · exact .inr first)
    (r.entries.filter (·.isActive))
  refine sorted.imp fun {a b} le => ?_
  simpa [Location.before_eq_decide] using le

theorem Keyed.active_ids (keyed : r.Keyed) : (r.active.map (·.id)).Nodup :=
  ((r.active_perm).map _).nodup_iff.mpr (keyed.sublist (List.filter_sublist.map _))

/-- Listed by fulfilment priority, then id, the locations of a keyed registry come in
strictly ascending order. -/
theorem Keyed.active_strict (keyed : r.Keyed) : r.active.Pairwise Location.Precedes := by
  have distinct : r.active.Pairwise (fun a b => a.id ≠ b.id) := List.pairwise_map.mp keyed.active_ids
  refine (r.active_sorted.and distinct).imp fun {a b} ⟨after, other⟩ => ?_
  by_contra below
  exact other (Location.same_of_not_precedes below after).2

/-- Whatever order a statement selecting the active locations of a keyed registry by
fulfilment priority, then id, gives, it is the listing. -/
theorem Keyed.selects_active (keyed : r.Keyed) {rows : List Location}
    (selects : Where.Selects (·.isActive) Location.Precedes none r.entries rows) : rows = r.active := by
  have listed : Where.Selects (·.isActive) Location.Precedes none r.entries r.active :=
    ⟨r.active, r.active_perm, r.active_sorted, rfl⟩
  refine Where.Selects.unique (fun a first b second below above => ?_) selects listed
  exact keyed.eq_of_id first second (Location.same_of_not_precedes below above).2

end Registry

namespace LocationStore

open Run

variable {s : Ledger} (call : Call)

theorem exec_onDatabase_bind {α : Type} (k : Bool → Run α) :
    (onDatabase >>= k).exec s = (k s.wiring.locations).exec s := rfl

theorem create_exec (l : Location) (inMemory : s.wiring.locations = false) :
    (create call l).exec s = match s.registry.add l with
      | .ok r => (.ok (), { s with registry := r })
      | .error e => (.error e, s) := by
  -- past the database branch first: simplifying inside it makes the kernel number the
  -- parameters of the insert statement
  unfold create
  rw [exec_onDatabase_bind, inMemory, if_neg Bool.false_ne_true]
  rcases added : s.registry.add l with e | r <;> simp [added]

theorem setActive_exec (id : String) (on : Bool) (inMemory : s.wiring.locations = false) :
    (setActive call id on).exec s = match s.registry.setActive id on with
      | .ok r => (.ok (), { s with registry := r })
      | .error e => (.error e, s) := by
  unfold setActive
  rw [exec_onDatabase_bind, inMemory, if_neg Bool.false_ne_true]
  rcases switched : s.registry.setActive id on with e | r <;> simp [switched]

end LocationStore

namespace Places

open Run

variable {s : Ledger} (call : Call)

theorem add_eq (l : Location) :
    add call l = if l.id = "" then fail (.plain "location id is required") else do
      let now ← Run.now
      LocationStore.create call (l.stamped now)
      return l.stamped now := by
  unfold add
  by_cases unnamed : l.id = "" <;> simp only [unnamed, reduceIte]
  · rfl
  · rfl

/-- In memory, an addition without an id is refused; one under a taken id is refused
as a duplicate and changes nothing; any other stores the location stamped by the clock
after the others, and answers with it. -/
theorem add_exec (l : Location) (inMemory : s.wiring.locations = false) :
    (add call l).exec s =
      if l.id = "" then (.error (.plain "location id is required"), s)
      else if (s.registry.get? l.id).isSome then (.error (.withDetail .locationExists l.id), s)
      else (.ok (l.stamped s.clock), { s with registry := ⟨s.registry.entries ++ [l.stamped s.clock]⟩ }) := by
  rw [add_eq]
  by_cases unnamed : l.id = ""
  · simp [unnamed]
  · simp only [unnamed, reduceIte, exec_bind, exec_now, LocationStore.create_exec call _ inMemory,
      Registry.add_eq, Location.stamped_id]
    by_cases taken : (s.registry.get? l.id).isSome
    · simp only [taken, reduceIte]
    · simp only [taken, Bool.false_eq_true, reduceIte]
      rfl

/-- In memory, a switch of an unknown id is refused and changes nothing; a switch of a
known one sets the flag of the location under it. -/
theorem setActive_exec (id : String) (on : Bool) (inMemory : s.wiring.locations = false) :
    (setActive call id on).exec s =
      if (s.registry.get? id).isSome then
        (.ok (), { s with registry := ⟨s.registry.entries.map (Registry.switched id on)⟩ })
      else (.error (.withDetail .locationNotFound id), s) := by
  rw [setActive, LocationStore.setActive_exec call id on inMemory, Registry.setActive_eq]
  by_cases found : (s.registry.get? id).isSome
  · simp only [found, reduceIte]
  · simp only [found, Bool.false_eq_true, reduceIte]

/-- In memory, registering the main warehouse adds it stamped by the clock unless its id
is taken, and succeeds either way. -/
theorem ensureMain_exec (inMemory : s.wiring.locations = false) :
    (ensureMain call).exec s =
      (.ok (), if (s.registry.get? Location.mainId).isSome then s
        else { s with registry := ⟨s.registry.entries ++ [Location.main.stamped s.clock]⟩ }) := by
  have mainId : Location.main.id = Location.mainId := rfl
  have named : Location.mainId ≠ "" := by decide
  have duplicate : (Failure.withDetail .locationExists Location.mainId).carries .locationExists = true := rfl
  unfold ensureMain
  simp only [exec_bind, exec_attempt, add_exec call _ inMemory, named, reduceIte, mainId]
  by_cases taken : (s.registry.get? Location.mainId).isSome
  · simp only [taken, reduceIte, duplicate, exec_pure]
  · simp only [taken, Bool.false_eq_true, reduceIte, exec_pure]

/-- In memory, the active locations are listed from the registry, which stays as it was. -/
theorem active_exec (inMemory : s.wiring.locations = false) :
    (active call).exec s = (.ok s.registry.active, s) := by
  rw [active, exec_bind, LocationStore.all, LocationStore.exec_onDatabase_bind, inMemory,
    if_neg Bool.false_ne_true]
  rfl

/-- A call that changes the location registry: an addition, a switch of a location's
active flag, or a registration of the main warehouse. -/
inductive Op where
  | add (l : Location)
  | setActive (id : String) (on : Bool)
  | ensureMain

namespace Op

/-- Runs a call, leaving aside what it answers. -/
def exec (call : Call) : Op → Run Unit
  | add l => (fun _ => ()) <$> Places.add call l
  | setActive id on => Places.setActive call id on
  | ensureMain => Places.ensureMain call

/-- The location a call asks to register: an addition's own when it has an id, and the
main warehouse for `ensureMain`. -/
def addition : Op → Option Location
  | add l => if l.id = "" then none else some l
  | setActive _ _ => none
  | ensureMain => some Location.main

/-- The location a call made at `now` stores under `id` when no location has that id. -/
def adds (op : Op) (now : Instant) (id : String) : Option Location :=
  match op.addition with
  | some l => if l.id = id then some (l.stamped now) else none
  | none => none

/-- The active flag a call leaves on the location under `id` that had `on`: a switch of
`id` sets it, and every other call keeps it. -/
def flag (id : String) (on : Bool) : Op → Bool
  | setActive id' on' => if id' = id then on' else on
  | _ => on

/-- What a call made at `now` leaves under `id`, from what was there: a stored location
keeps all but its active flag, and a free id takes what the call adds. -/
def settle (op : Op) (now : Instant) (id : String) : Option Location → Option Location
  | some loc => some { loc with isActive := op.flag id loc.isActive }
  | none => op.adds now id

end Op

/-- What a run of calls, each with the clock it was made at, leaves under `id` when it
started with `start` there. -/
def registered (id : String) (start : Option Location) (calls : List (Instant × Op)) : Option Location :=
  calls.foldl (fun held c => c.2.settle c.1 id held) start

/-- The active flag the calls leave on the location under `id` that had `on`: that of
the last switch of `id`, or `on` when there is none. -/
def flagAfter (id : String) (on : Bool) (calls : List (Instant × Op)) : Bool :=
  calls.foldl (fun on c => c.2.flag id on) on

namespace Op

variable {op : Op} {now : Instant} {id : String}

/-- No call adds a location without an id. -/
theorem adds_unnamed (op : Op) (now : Instant) : op.adds now "" = none := by
  cases op with
  | add l => by_cases unnamed : l.id = "" <;> simp [adds, addition, unnamed]
  | setActive id on => rfl
  | ensureMain => simp [adds, addition]; decide

/-- A call that adds keeps a stored location whole, and stores its location, stamped at
`now`, under that location's id when it is free. -/
theorem settle_of_addition {a : Location} (addition : op.addition = some a) (held : Option Location) :
    op.settle now id held = match held with
      | some loc => some loc
      | none => if a.id = id then some (a.stamped now) else none := by
  cases held with
  | none => simp [settle, adds, addition]
  | some loc =>
    cases op with
    | setActive => cases addition
    | _ => rfl

/-- A call that neither adds under `id` nor switches it leaves what is there. -/
theorem settle_self {held : Option Location} (none_added : held = none → op.adds now id = none)
    (kept : ∀ loc, held = some loc → op.flag id loc.isActive = loc.isActive) : op.settle now id held = held := by
  cases held with
  | none => exact none_added rfl
  | some loc => simp [settle, kept loc rfl]

end Op

variable {s : Ledger} (call : Call)

/-- An addition that has an id no location has stores it, stamped by the clock; any
other addition leaves the registry as it was. -/
theorem get?_added (l : Location) (id : String) (inMemory : s.wiring.locations = false) :
    ((add call l).exec s).2.registry.get? id = (Op.add l).settle s.clock id (s.registry.get? id) := by
  rw [add_exec call l inMemory]
  by_cases unnamed : l.id = ""
  · simp only [unnamed, reduceIte]
    exact (Op.settle_self (fun _ => by simp [Op.adds, Op.addition, unnamed]) fun _ _ => rfl).symm
  · have admitted := s.registry.get?_admit (l.stamped s.clock) id
    rw [Location.stamped_id] at admitted
    rw [Op.settle_of_addition (show (Op.add l).addition = some l from if_neg unnamed), ← admitted,
      if_neg unnamed]
    split <;> rfl

/-- The main warehouse is stored, stamped by the clock, when its id is free. -/
theorem get?_ensured (id : String) (inMemory : s.wiring.locations = false) :
    ((ensureMain call).exec s).2.registry.get? id = Op.ensureMain.settle s.clock id (s.registry.get? id) := by
  have admitted := s.registry.get?_admit (Location.main.stamped s.clock) id
  rw [Location.stamped_id, show Location.main.id = Location.mainId from rfl] at admitted
  rw [ensureMain_exec call inMemory, Op.settle_of_addition rfl, show Location.main.id = Location.mainId from rfl,
    ← admitted]
  split <;> rfl

/-- A switch of a known id sets the flag of the location under it and of no other; a
switch of an unknown id leaves the registry as it was. -/
theorem get?_switched (id target : String) (on : Bool) (inMemory : s.wiring.locations = false) :
    ((setActive call id on).exec s).2.registry.get? target =
      (Op.setActive id on).settle s.clock target (s.registry.get? target) := by
  rw [setActive_exec call id on inMemory]
  by_cases found : (s.registry.get? id).isSome
  · simp only [found, reduceIte, Registry.get?_switched]
    rcases stored : s.registry.get? target with _ | loc
    · rfl
    · obtain rfl := Registry.id_of_get? stored
      by_cases same : id = loc.id
      · simp [Op.settle, Op.flag, Registry.switched, same]
      · simp only [Option.map_some, Op.settle, Op.flag, Registry.switched, same, reduceIte, beq_iff_eq,
          if_neg (Ne.symm same)]
  · simp only [found, Bool.false_eq_true, reduceIte]
    refine (Op.settle_self (fun _ => rfl) fun loc stored => ?_).symm
    simp only [Op.flag]
    split
    · rename_i same
      rw [same, stored] at found
      simp at found
    · rfl

namespace Op

/-- An addition leaves the ledger that registering its location leaves. -/
theorem exec_add_ledger (l : Location) : (((add l).exec call).exec s).2 = ((Places.add call l).exec s).2 := by
  rw [exec, exec_map]
  rcases (Places.add call l).exec s with ⟨_ | _, _⟩ <;> rfl

/-- In memory, what a call leaves under each id is what `settle` says. -/
theorem get?_exec (op : Op) (id : String) (inMemory : s.wiring.locations = false) :
    ((op.exec call).exec s).2.registry.get? id = op.settle s.clock id (s.registry.get? id) := by
  cases op with
  | add l =>
    rw [exec_add_ledger]
    exact get?_added call l id inMemory
  | setActive target on => exact get?_switched call target id on inMemory
  | ensureMain => exact get?_ensured call id inMemory

/-- In memory, a call changes nothing but the registry. -/
theorem exec_frame (op : Op) (inMemory : s.wiring.locations = false) :
    ((op.exec call).exec s).2 = { s with registry := ((op.exec call).exec s).2.registry } := by
  cases op with
  | add l =>
    rw [exec_add_ledger, add_exec call l inMemory]
    split_ifs <;> rfl
  | setActive id on =>
    rw [exec, setActive_exec call id on inMemory]
    split <;> rfl
  | ensureMain =>
    rw [exec, ensureMain_exec call inMemory]
    split <;> rfl

/-- In memory, a call keeps one location per id. -/
theorem keyed_exec (op : Op) (inMemory : s.wiring.locations = false) (keyed : s.registry.Keyed) :
    ((op.exec call).exec s).2.registry.Keyed := by
  cases op with
  | add l =>
    rw [exec_add_ledger, add_exec call l inMemory]
    split_ifs with unnamed taken
    · exact keyed
    · exact keyed
    · exact keyed.append (by simpa using taken)
  | setActive id on =>
    rw [exec, setActive_exec call id on inMemory]
    split
    · exact keyed.switch id on
    · exact keyed
  | ensureMain =>
    rw [exec, ensureMain_exec call inMemory]
    split
    · exact keyed
    · rename_i taken
      have free : s.registry.get? (Location.main.stamped s.clock).id = none := by
        rw [Location.stamped_id]
        exact Option.not_isSome_iff_eq_none.mp taken
      exact keyed.append free

theorem inMemory_exec (op : Op) (inMemory : s.wiring.locations = false) :
    ((op.exec call).exec s).2.wiring.locations = false := by
  rw [exec_frame call op inMemory]
  exact inMemory

theorem clock_exec (op : Op) (inMemory : s.wiring.locations = false) :
    ((op.exec call).exec s).2.clock = s.clock := by
  rw [exec_frame call op inMemory]

end Op

@[simp] theorem registered_nil (id : String) (start : Option Location) : registered id start [] = start := rfl

@[simp] theorem registered_cons (id : String) (start : Option Location) (c : Instant × Op)
    (calls : List (Instant × Op)) :
    registered id start (c :: calls) = registered id (c.2.settle c.1 id start) calls := rfl

@[simp] theorem flagAfter_nil (id : String) (on : Bool) : flagAfter id on [] = on := rfl

@[simp] theorem flagAfter_cons (id : String) (on : Bool) (c : Instant × Op) (calls : List (Instant × Op)) :
    flagAfter id on (c :: calls) = flagAfter id (c.2.flag id on) calls := rfl

/-- Once a location is stored under `id`, the calls change only its active flag, to that
of the last switch of `id`. -/
theorem registered_some (id : String) (loc : Location) (calls : List (Instant × Op)) :
    registered id (some loc) calls = some { loc with isActive := flagAfter id loc.isActive calls } := by
  induction calls generalizing loc with
  | nil => rfl
  | cons c calls ih => simp only [registered_cons, Op.settle, ih, flagAfter_cons]

/-- Nothing is ever stored under the empty id. -/
theorem registered_unnamed (calls : List (Instant × Op)) : registered "" none calls = none := by
  induction calls with
  | nil => rfl
  | cons c calls ih => simp only [registered_cons, Op.settle, Op.adds_unnamed, ih]

/-- From a free id, the calls store under it the location the first call adding one
there adds, with the active flag of the last switch of the id after that call. -/
theorem registered_none_eq_some {id : String} {loc : Location} {calls : List (Instant × Op)} :
    registered id none calls = some loc ↔
      ∃ pre now op post first, calls = pre ++ (now, op) :: post ∧ (∀ c ∈ pre, c.2.adds c.1 id = none) ∧
        op.adds now id = some first ∧ loc = { first with isActive := flagAfter id first.isActive post } := by
  induction calls with
  | nil => simp
  | cons c calls ih =>
    obtain ⟨now, op⟩ := c
    rcases added : op.adds now id with _ | first
    · -- the first call adds nothing here, so the first addition is among the rest
      simp only [registered_cons, Op.settle, added, ih]
      constructor
      · rintro ⟨pre, now', op', post, first, rfl, before, adds, rfl⟩
        refine ⟨(now, op) :: pre, now', op', post, first, rfl, ?_, adds, rfl⟩
        rintro c (_ | ⟨_, member⟩)
        · exact added
        · exact before c member
      · rintro ⟨_ | ⟨c, pre⟩, now', op', post, first, split, before, adds, rfl⟩
        · obtain ⟨rfl, rfl⟩ := Prod.mk.inj (List.cons.inj split).1
          rw [added] at adds
          cases adds
        · obtain ⟨rfl, rest⟩ := List.cons.inj split
          exact ⟨pre, now', op', post, first, rest, fun c member => before c (.tail _ member), adds, rfl⟩
    · -- the first call adds here, and every later one only switches the flag
      simp only [registered_cons, Op.settle, added, registered_some, Option.some.injEq]
      constructor
      · rintro rfl
        exact ⟨[], now, op, calls, first, rfl, by simp, added, rfl⟩
      · rintro ⟨_ | ⟨c, pre⟩, now', op', post, first', split, before, adds, rfl⟩
        · obtain ⟨⟨rfl, rfl⟩, rfl⟩ := List.cons.inj split |>.imp_left Prod.mk.inj
          rw [added] at adds
          cases adds
          rfl
        · obtain ⟨rfl, -⟩ := List.cons.inj split
          have none_here := before (now, op) (.head _)
          rw [added] at none_here
          cases none_here

/-- A run of registry calls, each listed with the clock it was made at. Between calls
the ledger may change in anything but its registry and where the registry is kept: the
clock moves and the other stores are written. -/
inductive Runs : Ledger → List (Instant × Op) → Ledger → Prop
  | done (l : Ledger) : Runs l [] l
  | call {l l' : Ledger} {calls : List (Instant × Op)} (call : Call) (op : Op)
      (rest : Runs ((op.exec call).exec l).2 calls l') : Runs l ((l.clock, op) :: calls) l'
  | outside {l l₁ l' : Ledger} {calls : List (Instant × Op)} (registry : l₁.registry = l.registry)
      (wiring : l₁.wiring.locations = l.wiring.locations) (rest : Runs l₁ calls l') : Runs l calls l'

namespace Runs

variable {l l' : Ledger} {calls : List (Instant × Op)}

theorem inMemory (run : Runs l calls l') (start : l.wiring.locations = false) : l'.wiring.locations = false := by
  induction run with
  | done => exact start
  | call call op _ ih => exact ih (Op.inMemory_exec call op start)
  | outside _ wiring _ ih => exact ih (wiring.trans start)

/-- What a run leaves under an id is read off its calls alone. -/
theorem get?_eq (run : Runs l calls l') (start : l.wiring.locations = false) (id : String) :
    l'.registry.get? id = registered id (l.registry.get? id) calls := by
  induction run with
  | done => rfl
  | call call op _ ih => rw [ih (Op.inMemory_exec call op start), Op.get?_exec call op id start, registered_cons]
  | outside registry wiring _ ih => rw [ih (wiring.trans start), registry]

/-- A run keeps one location per id. -/
theorem keyed (run : Runs l calls l') (start : l.wiring.locations = false) (keyed : l.registry.Keyed) :
    l'.registry.Keyed := by
  induction run with
  | done => exact keyed
  | call call op _ ih => exact ih (Op.inMemory_exec call op start) (Op.keyed_exec call op start keyed)
  | outside registry wiring _ ih => exact ih (wiring.trans start) (registry ▸ keyed)

end Runs

/-- Makes calls one after another, with no change of the ledger between them. -/
def replay (call : Call) (l : Ledger) (ops : List Op) : Ledger :=
  ops.foldl (fun l op => ((op.exec call).exec l).2) l

/-- Calls made one after another are a run, each made at the clock of the start. -/
theorem Runs.of_replay (ops : List Op) {l : Ledger} (start : l.wiring.locations = false) :
    Runs l (ops.map (l.clock, ·)) (replay call l ops) := by
  induction ops generalizing l with
  | nil => exact .done l
  | cons op ops ih =>
    have rest := ih (Op.inMemory_exec call op start)
    rw [Op.clock_exec call op start] at rest
    exact .call call op rest

end Places

namespace Sql

open Run

theorem transmits_mapM_plainly {β γ : Type} (rows : List γ) (f : γ → Except String β) :
    Transmits (rows.mapM fun row => plainly (f row)) [] := by
  induction rows with
  | nil => exact transmits_pure _
  | cons row rows ih =>
    rw [List.mapM_cons]
    show Transmits _ ([] ++ ([] ++ []))
    exact transmits_bind (transmits_plainly _) fun _ => transmits_bind ih fun _ => transmits_pure _

theorem transmits_selectRecords (call : Call) (text : String) (args : List Cell) (fields : List (String × Slot))
    (dest : String) : Transmits (selectRecords call text args fields dest) [⟨text, some args⟩] := by
  show Transmits _ ([⟨text, some args⟩] ++ ([] ++ ([] ++ [])))
  unfold selectRecords
  refine transmits_bind (transmits_query call text args) fun a => transmits_bind (transmits_plainly _) fun _ =>
    transmits_bind (transmits_mapM_plainly _ _) fun records => ?_
  split
  · exact transmits_fail _ _
  · exact transmits_pure _

end Sql

namespace LocationStore

/-- The statement the database store lists the active locations with. -/
def activeQuery : Statement :=
  ⟨"SELECT * FROM locations WHERE is_active = TRUE ORDER BY fulfillment_priority, id", some []⟩

/-- On the database, the active locations are asked for by fulfilment priority, then id:
a listing sends `activeQuery` when it succeeds, and at most that when it fails. -/
theorem all_active_sends (call : Call) {d : Ledger} (stored : d.wiring.locations = true) :
    Run.Post (all call true) d (fun _ d' => d.Sends d' [activeQuery])
      (fun _ d' => ∃ p, p <+: [activeQuery] ∧ d.Sends d' p) := by
  have sends : Run.Transmits (Sql.selectRecords call activeQuery.text [] columns "*[]model.Location" >>=
      fun rs => pure (rs.map locationOf)) ([activeQuery] ++ []) :=
    Run.transmits_bind (Sql.transmits_selectRecords call _ [] columns _) fun _ => Run.transmits_pure _
  unfold Run.Post
  rw [all, exec_onDatabase_bind, stored, if_pos rfl]
  exact sends d

end LocationStore

/-- The location registry kept in memory, over any run of additions, switches and
registrations of the main warehouse from an empty registry. Under each id it holds the
location the first call adding one there stored, with the active flag of the last switch
of the id after that call. An addition under a taken id is refused as a duplicate, and a
switch of an unknown id as not found, and either leaves the ledger as it was. The active
locations are listed each once, in strictly ascending fulfilment priority, then id. The
database store asks for them `ORDER BY fulfillment_priority, id`, and every answer that
order allows over the same locations is the listing. -/
theorem registry_keeps_first_and_lists_in_order {l l' : Ledger} {calls : List (Instant × Places.Op)}
    (run : Places.Runs l calls l') (inMemory : l.wiring.locations = false) (empty : l.registry = Registry.empty)
    (call : Call) :
    (∀ id loc, l'.registry.get? id = some loc ↔
      ∃ pre now op post first, calls = pre ++ (now, op) :: post ∧ (∀ c ∈ pre, c.2.adds c.1 id = none) ∧
        op.adds now id = some first ∧ loc = { first with isActive := Places.flagAfter id first.isActive post }) ∧
    (∀ loc, (l'.registry.get? loc.id).isSome →
      (Places.add call loc).exec l' = (.error (.withDetail .locationExists loc.id), l')) ∧
    (∀ id on, l'.registry.get? id = none →
      (Places.setActive call id on).exec l' = (.error (.withDetail .locationNotFound id), l')) ∧
    (∃ listed, (Places.active call).exec l' = (.ok listed, l') ∧
      listed.Perm (l'.registry.entries.filter (·.isActive)) ∧ (listed.map (·.id)).Nodup ∧
      listed.Pairwise Location.Precedes ∧
      ∀ rows, Where.Selects (·.isActive) Location.Precedes none l'.registry.entries rows → rows = listed) ∧
    ∀ d : Ledger, d.wiring.locations = true →
      Run.Post (LocationStore.all call true) d (fun _ d' => d.Sends d' [LocationStore.activeQuery])
        (fun _ d' => ∃ p, p <+: [LocationStore.activeQuery] ∧ d.Sends d' p) := by
  have kept := run.inMemory inMemory
  have stored (id : String) : l'.registry.get? id = Places.registered id none calls := by
    rw [run.get?_eq inMemory id, empty]
    rfl
  have keyed : l'.registry.Keyed := run.keyed inMemory (by rw [empty]; exact List.nodup_nil)
  refine ⟨fun id loc => ?_, fun loc taken => ?_, fun id on free => ?_,
    ⟨l'.registry.active, Places.active_exec call kept, l'.registry.active_perm, keyed.active_ids,
      keyed.active_strict, fun rows selects => keyed.selects_active selects⟩,
    fun d onDatabase => LocationStore.all_active_sends call onDatabase⟩
  · rw [stored]
    exact Places.registered_none_eq_some
  · -- no run stores a location without an id, so a taken id is a named one
    have named : loc.id ≠ "" := by
      intro unnamed
      rw [unnamed, stored, Places.registered_unnamed] at taken
      cases taken
    rw [Places.add_exec call loc kept, if_neg named, if_pos taken]
  · rw [Places.setActive_exec call id on kept, free]
    rfl

namespace Session

/-- A ledger with every store empty and kept in memory, before the main warehouse is
registered. -/
def unregistered : Ledger := Console.emptyLedger Instant.zero .off none ⟨none, []⟩ (Database.ofRules []) {}

/-- The main warehouse, the stores `store-b`, `store-a` and `store-closed`, the last one
switched off, and `store-a` added again. -/
def openingCalls : List Places.Op :=
  [.ensureMain, .add (Location.store "store-b" "B"), .add (Location.store "store-a" "A"),
   .add (Location.store "store-closed" "Closed"), .setActive "store-closed" false,
   .add (Location.store "store-a" "A again")]

def placesOpened : Ledger := Places.replay {} unregistered openingCalls

theorem placesOpened_keeps_first_and_lists_in_order :
    Places.Runs unregistered (openingCalls.map (Instant.zero, ·)) placesOpened ∧ unregistered.wiring.locations = false ∧
      unregistered.registry = Registry.empty ∧
      ((∀ id loc, placesOpened.registry.get? id = some loc ↔
        ∃ pre now op post first, openingCalls.map (Instant.zero, ·) = pre ++ (now, op) :: post ∧
          (∀ c ∈ pre, c.2.adds c.1 id = none) ∧ op.adds now id = some first ∧
          loc = { first with isActive := Places.flagAfter id first.isActive post }) ∧
      (∀ loc, (placesOpened.registry.get? loc.id).isSome →
        (Places.add {} loc).exec placesOpened = (.error (.withDetail .locationExists loc.id), placesOpened)) ∧
      (∀ id on, placesOpened.registry.get? id = none →
        (Places.setActive {} id on).exec placesOpened = (.error (.withDetail .locationNotFound id), placesOpened)) ∧
      (∃ listed, (Places.active {}).exec placesOpened = (.ok listed, placesOpened) ∧
        listed.Perm (placesOpened.registry.entries.filter (·.isActive)) ∧ (listed.map (·.id)).Nodup ∧
        listed.Pairwise Location.Precedes ∧
        ∀ rows, Where.Selects (·.isActive) Location.Precedes none placesOpened.registry.entries rows → rows = listed) ∧
      ∀ d : Ledger, d.wiring.locations = true →
        Run.Post (LocationStore.all {} true) d (fun _ d' => d.Sends d' [LocationStore.activeQuery])
          (fun _ d' => ∃ p, p <+: [LocationStore.activeQuery] ∧ d.Sends d' p)) :=
  have run : Places.Runs unregistered (openingCalls.map (Instant.zero, ·)) placesOpened :=
    Places.Runs.of_replay {} openingCalls (show unregistered.wiring.locations = false from rfl)
  ⟨run, rfl, rfl, registry_keeps_first_and_lists_in_order run rfl rfl {}⟩

end Session

end StockLedger
