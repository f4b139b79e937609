import StockLedger.Ledger.State

/-!
What a ledger operation leaves behind. `Run.exec` runs an operation from a ledger and
gives its outcome and the final ledger; `Run.Post m l ok err` says that `ok` holds of the
result and final ledger when `m` succeeds from `l`, and `err` of the failure and final
ledger when it fails. The rules below take `Post` through the monad's operations, so a
property of a composite operation is proved from properties of its parts, and a loop
from one step of it.
-/

namespace StockLedger

theorem Except.eq_ok_unit {ε : Type} {x : Except ε Unit} (passed : x.isOk = true) : x = .ok () := by
  cases x with
  | error e => simp [Except.isOk, Except.toBool] at passed
  | ok u => rfl

namespace Run

/-- The outcome of an operation started on a ledger, and the ledger it leaves. -/
def exec (m : Run α) (l : Ledger) : Except Failure α × Ledger := m.run.run l

@[simp] theorem exec_pure (a : α) (l : Ledger) : (pure a : Run α).exec l = (.ok a, l) := rfl

@[simp] theorem exec_bind (m : Run α) (f : α → Run β) (l : Ledger) :
    (m >>= f).exec l = match m.exec l with
      | (.ok a, l') => (f a).exec l'
      | (.error e, l') => (.error e, l') := by
  show StateT.bind m (ExceptT.bindCont f) l = _
  simp only [StateT.bind, exec, ExceptT.run, StateT.run]
  rcases m l with ⟨_ | _, _⟩ <;> rfl

@[simp] theorem exec_map (f : α → β) (m : Run α) (l : Ledger) :
    (f <$> m).exec l = match m.exec l with
      | (.ok a, l') => (.ok (f a), l')
      | (.error e, l') => (.error e, l') := by
  show ((m >>= fun a => pure (f a)) : Run β).exec l = _
  rw [exec_bind]
  rcases m.exec l with ⟨_ | _, _⟩ <;> rfl

@[simp] theorem exec_get (l : Ledger) : (get : Run Ledger).exec l = (.ok l, l) := rfl

@[simp] theorem exec_set (l l' : Ledger) : (set l' : Run PUnit).exec l = (.ok ⟨⟩, l') := rfl

@[simp] theorem exec_modify (f : Ledger → Ledger) (l : Ledger) :
    (modify f : Run PUnit).exec l = (.ok ⟨⟩, f l) := rfl

@[simp] theorem exec_throw (e : Failure) (l : Ledger) : (throw e : Run α).exec l = (.error e, l) := rfl

@[simp] theorem exec_fail (e : Failure) (l : Ledger) : (fail e : Run α).exec l = (.error e, l) := rfl

@[simp] theorem exec_check (r : Except Failure α) (l : Ledger) : (check r).exec l = (r, l) := by
  cases r <;> rfl

@[simp] theorem exec_attempt (m : Run α) (l : Ledger) :
    (attempt m).exec l = (.ok (m.exec l).1, (m.exec l).2) := rfl

@[simp] theorem exec_now (l : Ledger) : Run.now.exec l = (.ok l.clock, l) := rfl

@[simp] theorem exec_freshId (l : Ledger) :
    freshId.exec l =
      (.ok ("00000000-0000-4000-8000-" ++ hex 12 (l.nextId + 1)), { l with nextId := l.nextId + 1 }) :=
  rfl

@[simp] theorem exec_lock (call : Call) (key : String) (l : Ledger) :
    (lock call key).exec l = (l.locker.acquire call key, l) := by
  simp only [lock, exec_bind, exec_get, exec_check]

/-- What holds after `m` runs from `l`: `ok` of its result and final ledger when it
succeeds, `err` of its failure and final ledger when it fails. -/
def Post (m : Run α) (l : Ledger) (ok : α → Ledger → Prop) (err : Failure → Ledger → Prop) : Prop :=
  match m.exec l with
  | (.ok a, l') => ok a l'
  | (.error e, l') => err e l'

section Rules

variable {ok : α → Ledger → Prop} {err : Failure → Ledger → Prop} {l : Ledger}

theorem post_of_exec {m : Run α} {a : α} {l' : Ledger} (run : m.exec l = (.ok a, l'))
    (holds : ok a l') : Post m l ok err := by
  simp only [Post, run, holds]

theorem post_of_exec_error {m : Run α} {e : Failure} {l' : Ledger} (run : m.exec l = (.error e, l'))
    (holds : err e l') : Post m l ok err := by
  simp only [Post, run, holds]

@[simp] theorem post_pure (a : α) : Post (pure a) l ok err ↔ ok a l := Iff.rfl

@[simp] theorem post_bind (m : Run β) (f : β → Run α) :
    Post (m >>= f) l ok err ↔ Post m l (fun b l' => Post (f b) l' ok err) err := by
  simp only [Post, exec_bind]
  rcases m.exec l with ⟨_ | _, _⟩ <;> rfl

@[simp] theorem post_map (f : β → α) (m : Run β) :
    Post (f <$> m) l ok err ↔ Post m l (fun b => ok (f b)) err := by
  simp only [Post, exec_map]
  rcases m.exec l with ⟨_ | _, _⟩ <;> rfl

@[simp] theorem post_get {ok : Ledger → Ledger → Prop} : Post get l ok err ↔ ok l l := Iff.rfl

@[simp] theorem post_set {ok : PUnit → Ledger → Prop} (l' : Ledger) :
    Post (set l') l ok err ↔ ok ⟨⟩ l' := Iff.rfl

@[simp] theorem post_modify {ok : PUnit → Ledger → Prop} (f : Ledger → Ledger) :
    Post (modify f) l ok err ↔ ok ⟨⟩ (f l) := Iff.rfl

@[simp] theorem post_throw (e : Failure) : Post (throw e) l ok err ↔ err e l := Iff.rfl

@[simp] theorem post_fail (e : Failure) : Post (fail e) l ok err ↔ err e l := Iff.rfl

@[simp] theorem post_check (r : Except Failure α) :
    Post (check r) l ok err ↔ match r with
      | .ok a => ok a l
      | .error e => err e l := by
  cases r <;> rfl

@[simp] theorem post_attempt {ok : Except Failure β → Ledger → Prop} (m : Run β) :
    Post (attempt m) l ok err ↔ Post m l (fun b => ok (.ok b)) (fun e => ok (.error e)) := by
  simp only [Post, exec_attempt]
  rcases m.exec l with ⟨_ | _, _⟩ <;> rfl

@[simp] theorem post_now {ok : Instant → Ledger → Prop} : Post Run.now l ok err ↔ ok l.clock l :=
  Iff.rfl

@[simp] theorem post_freshId {ok : String → Ledger → Prop} :
    Post freshId l ok err ↔
      ok ("00000000-0000-4000-8000-" ++ hex 12 (l.nextId + 1)) { l with nextId := l.nextId + 1 } :=
  Iff.rfl

@[simp] theorem post_lock {ok : Unit → Ledger → Prop} (call : Call) (key : String) :
    Post (lock call key) l ok err ↔ match l.locker.acquire call key with
      | .ok u => ok u l
      | .error e => err e l := by
  simp only [Post, exec_lock]
  cases l.locker.acquire call key <;> rfl

/-- A composite establishes what its rest does from any predicate `R` its first part
leaves. -/
theorem post_bind_of {m : Run β} {f : β → Run α} (R : β → Ledger → Prop) (first : Post m l R err)
    (rest : ∀ b l', R b l' → Post (f b) l' ok err) : Post (m >>= f) l ok err := by
  rw [post_bind]
  unfold Post at *
  rcases h : m.exec l with ⟨_ | _, _⟩ <;> rw [h] at first
  · exact first
  · exact rest _ _ first

theorem Post.mono {m : Run α} {ok' : α → Ledger → Prop} {err' : Failure → Ledger → Prop}
    (holds : Post m l ok err) (onOk : ∀ a l', ok a l' → ok' a l')
    (onErr : ∀ e l', err e l' → err' e l') : Post m l ok' err' := by
  unfold Post at *
  rcases h : m.exec l with ⟨_ | _, _⟩ <;> rw [h] at holds
  · exact onErr _ _ holds
  · exact onOk _ _ holds

/-- Two properties of one operation's outcome hold together. -/
theorem Post.and {m : Run α} {ok' : α → Ledger → Prop} {err' : Failure → Ledger → Prop}
    (first : Post m l ok err) (second : Post m l ok' err') :
    Post m l (fun a l' => ok a l' ∧ ok' a l') (fun e l' => err e l' ∧ err' e l') := by
  unfold Post at *
  rcases h : m.exec l with ⟨_ | _, _⟩ <;> rw [h] at first second
  · exact ⟨first, second⟩
  · exact ⟨first, second⟩

/-- An operation that succeeds leaves what its success promises. -/
theorem Post.of_isOk {m : Run α} (holds : Post m l ok err) (succeeded : (m.exec l).1.isOk = true) :
    ∃ a, ok a (m.exec l).2 := by
  unfold Post at holds
  rcases h : m.exec l with ⟨_ | a, l'⟩ <;> rw [h] at holds succeeded
  · simp [Except.isOk, Except.toBool] at succeeded
  · exact ⟨a, holds⟩

/-- An operation with no failure left to it succeeds, leaving what its success promises. -/
theorem Post.succeeds {m : Run α} (holds : Post m l ok fun _ _ => False) :
    ∃ a l', m.exec l = (.ok a, l') ∧ ok a l' := by
  unfold Post at holds
  rcases h : m.exec l with ⟨_ | a, l'⟩ <;> rw [h] at holds
  · exact holds.elim
  · exact ⟨a, l', rfl, holds⟩

/-- What holds after an operation both when it succeeds and when it fails holds of the
ledger it leaves. -/
theorem Post.final {m : Run α} {P : Ledger → Prop} (holds : Post m l (fun _ => P) (fun _ => P)) :
    P (m.exec l).2 := by
  unfold Post at holds
  rcases h : m.exec l with ⟨_ | _, l'⟩ <;> rw [h] at holds <;> exact holds

/-- A loop over `xs` keeps an invariant of its accumulator and ledger when each step
does, whatever the failures of its steps leave. -/
theorem post_foldlM (xs : List γ) (f : β → γ → Run β) (inv : β → Ledger → Prop) {b : β}
    (start : inv b l) (step : ∀ x ∈ xs, ∀ b l, inv b l → Post (f b x) l inv err) :
    Post (xs.foldlM f b) l inv err := by
  induction xs generalizing b l with
  | nil => simpa using start
  | cons x rest ih =>
    rw [List.foldlM_cons, post_bind]
    exact (step x (by simp) b l start).mono
      (fun b' l' kept => ih kept (fun y member => step y (by simp [member]))) (fun _ _ h => h)

/-- A loop over the first `n` indices keeps an invariant that knows how many indices
it has passed. -/
theorem post_foldlM_range (n : Nat) (f : β → Nat → Run β) (inv : Nat → β → Ledger → Prop) {b : β}
    (start : inv 0 b l) (step : ∀ i < n, ∀ b l, inv i b l → Post (f b i) l (inv (i + 1)) err) :
    Post ((List.range n).foldlM f b) l (inv n) err := by
  induction n generalizing b l with
  | zero => simpa using start
  | succ n ih =>
    rw [List.range_succ, List.foldlM_append, post_bind]
    refine (ih start (fun i below => step i (by omega))).mono (fun b' l' kept => ?_) (fun _ _ h => h)
    simpa using step n (by omega) b' l' kept

/-- `xs.forM f` keeps an invariant of the ledger that each step keeps. -/
theorem post_forM (xs : List γ) (f : γ → Run PUnit) (inv : Ledger → Prop)
    (start : inv l) (step : ∀ x ∈ xs, ∀ l, inv l → Post (f x) l (fun _ => inv) err) :
    Post (xs.forM f) l (fun _ => inv) err := by
  induction xs generalizing l with
  | nil => simpa using start
  | cons x rest ih =>
    show Post (f x >>= fun _ => rest.forM f) l _ err
    rw [post_bind]
    exact (step x (by simp) l start).mono
      (fun _ l' kept => ih kept (fun y member => step y (by simp [member]))) (fun _ _ h => h)

end Rules

end Run

end StockLedger
