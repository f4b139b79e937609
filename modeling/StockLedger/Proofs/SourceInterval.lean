import StockLedger.Proofs.DueClaims
import StockLedger.Rpc.Sync

/-!
The sync interval of a source through its conversions. The service takes the interval in
whole seconds and multiplies it into 64-bit nanoseconds, which is exact while the seconds
are at most `9223372036` and wraps past them (`Source.toInt_mul_second_iff`).
Registration keeps a positive interval and memory stores the record as it is
(`Feeds.register_find`). The database keeps whole seconds, and reading a row multiplies
them back, so a reloaded interval is the stored one cut down to whole seconds
(`SourceStore.reload_interval`). An answer reports the whole seconds of the interval it
holds (`SyncService.sourceReply_reports`). Main statement: `sync_interval_round_trip`.
-/

namespace StockLedger

namespace Source

theorem toInt_second : (1000000000 : Int64).toInt = 1000000000 := rfl

/-- Whole seconds turned into nanoseconds read back exactly while the product fits in 64
bits. -/
theorem toInt_mul_second_iff {s : Int64} (positive : 0 < s) :
    (s * 1000000000).toInt = s.toInt * 1000000000 ↔ s ≤ 9223372036 := by
  rw [Int64.le_iff_toInt_le, show (9223372036 : Int64).toInt = 9223372036 from rfl]
  have above : 0 < s.toInt := by simpa using Int64.lt_iff_toInt_lt.mp positive
  constructor
  · intro exact
    -- a 64-bit figure stays below `2^63`
    have below := Int64.toInt_lt (s * 1000000000)
    omega
  · intro fits
    rw [Int64.toInt_mul, toInt_second]
    exact Int.bmod_eq_of_le (by omega) (by omega)

theorem mul_second_div {s : Int64} (positive : 0 < s) (fits : s ≤ 9223372036) :
    s * 1000000000 / 1000000000 = s := by
  have exact := (toInt_mul_second_iff positive).mpr fits
  have above : 0 < s.toInt := by simpa using Int64.lt_iff_toInt_lt.mp positive
  apply Int64.toInt_inj.mp
  rw [Int64.toInt_div_of_ne_left, exact, toInt_second, Int.mul_tdiv_cancel _ (by decide)]
  intro least
  rw [least] at exact
  simp at exact
  omega

theorem toInt_div_second {d : Int64} (nonneg : 0 ≤ d.toInt) :
    (d / 1000000000).toInt = d.toInt / 1000000000 := by
  rw [Int64.toInt_div_of_ne_left, toInt_second, Int.tdiv_eq_ediv_of_nonneg nonneg]
  intro least
  rw [least] at nonneg
  simp at nonneg

/-- A non-negative interval cut down to whole seconds. -/
theorem toInt_div_second_mul {d : Int64} (nonneg : 0 ≤ d.toInt) :
    (d / 1000000000 * 1000000000).toInt = d.toInt / 1000000000 * 1000000000 := by
  have := Int64.toInt_lt d
  rw [Int64.toInt_mul, toInt_div_second nonneg, toInt_second]
  exact Int.bmod_eq_of_le (by omega) (by omega)

theorem div_second_mul_eq_iff {d : Int64} (nonneg : 0 ≤ d.toInt) :
    d / 1000000000 * 1000000000 = d ↔ 1000000000 ∣ d.toInt := by
  rw [← Int64.toInt_inj, toInt_div_second_mul nonneg]
  omega

/-- Cut down to whole seconds, an interval still counts the same whole seconds. -/
theorem div_second_mul_div {d : Int64} (nonneg : 0 ≤ d.toInt) :
    d / 1000000000 * 1000000000 / 1000000000 = d / 1000000000 := by
  have cut := toInt_div_second_mul nonneg
  apply Int64.toInt_inj.mp
  rw [toInt_div_second (by omega), cut, toInt_div_second nonneg]
  omega

end Source

namespace SourceStore

variable {l : Ledger} {call : Call}

theorem find_exec (inMemory : l.wiring.sources = false) {id : String} {s : Source}
    (found : l.sources.find? (·.id == id) = some s) : (find call id).exec l = (.ok s, l) := by
  unfold find
  rw [exec_onDatabase_bind inMemory, if_neg Bool.false_ne_true]
  simp [found]

/-- In memory a stored source is found again under its id, with its interval. -/
theorem upsert_find? (inMemory : l.wiring.sources = false) (call : Call) (r : Source) :
    ∃ stored, ((upsert call r).exec l).2.sources.find? (·.id == r.id) = some stored ∧
      stored.interval = r.interval := by
  rw [upsert_exec inMemory]
  rcases found : l.sources.find? (·.id == r.id) with _ | old
  · -- a new id: the source joins the list after every other id
    exact ⟨r, by simp [List.find?_append, found], rfl⟩
  · -- the id is taken: its record is replaced in place
    have named : old.id = r.id := by simpa using List.find?_some found
    refine ⟨r.replacing old, ?_, Source.replacing_interval r old⟩
    simp only [found]
    rw [Ledger.find?_map_of_id (Source.id_ite_replacing r old), found]
    simp [named]

/-- A source's description written to the database and read back: its cells, read into
the fields of a stored source and decoded. -/
def reload (s : Source) : Except Failure Source := do
  let r ← (Scan.record columns ((cells s).map (·.1)) ((cells s).map (·.2))).mapError .plain
  sourceOf r

/-- Every cell of a description reads back into its field; the last sync is not part of
it. -/
theorem record_cells (s : Source) :
    Scan.record columns ((cells s).map (·.1)) ((cells s).map (·.2)) = .ok
      [("id", .text s.id), ("name", .text s.name), ("kind", .text s.kind), ("endpoint_url", .text s.endpoint),
       ("sync_enabled", .flag s.syncEnabled), ("sync_interval_seconds", .int (s.interval / second)),
       ("location_map", .bytes (mapText s.locationMap)), ("last_sync_at", .absent),
       ("last_sync_status", .absent)] := by
  simp [Scan.record, cells, columns, Scan.cells, Scan.convert, Scan.convert.integer, Scan.asText, Cell.display,
    Scan.zero]

theorem sourceOf_interval {r : List (String × Scanned)} {s : Source} (read : sourceOf r = .ok s) :
    s.interval = (Scanned.field r "sync_interval_seconds").asInt * second := by
  unfold sourceOf at read
  dsimp only at read
  split at read
  · cases read
  · cases read
    rfl

theorem reload_interval {s s' : Source} (reloaded : reload s = .ok s') : s'.interval = s.interval / second * second := by
  simp only [reload, record_cells, Except.mapError, bind, Except.bind] at reloaded
  rw [sourceOf_interval reloaded]
  simp [Scanned.field, Scanned.asInt]

theorem mapOf_empty : mapOf (mapText none) = .ok (some []) := by
  have written : mapText none = "\x7b\x7d" := by simp [mapText]
  have parsed : Json.parse "\x7b\x7d" = .ok (.object []) := by rfl
  -- the binder runs by well-founded recursion, so it is unfolded rather than evaluated
  have bound : (Shape.dict .text "map[string]string").bind (.object []) = .ok (.dict (some [])) := by
    simp only [Shape.bind, Json.weight, Json.weightMembers, Shape.depth, Shape.zero]
    simp [Bind.read, Bind.readEntries]
    rfl
  simp [mapOf, written, parsed, bound, bind, Except.bind, pure, Except.pure, Held.asDict?]

/-- A source without a location map reloads with its interval cut down to whole seconds,
an empty map and no last sync. -/
theorem reload_unmapped {s : Source} (unmapped : s.locationMap = none) :
    reload s = .ok { s with
      interval := s.interval / second * second, locationMap := some [], lastSyncAt := none, lastSyncStatus := none } := by
  simp [reload, record_cells, Except.mapError, bind, Except.bind, sourceOf, unmapped, mapOf_empty,
    Scanned.field, Scanned.asText, Scanned.asInt, Scanned.asFlag, Scanned.asTime?, Scanned.asText?]

end SourceStore

namespace Feeds

variable {l : Ledger} {call : Call}

/-- Registering a source with an id and a positive interval in memory stores it with its
kind defaulted and its interval kept, and a lookup by its id finds that interval. -/
theorem register_find (inMemory : l.wiring.sources = false) (call : Call) {s : Source} (named : s.id ≠ "")
    (spaced : 0 < s.interval) :
    ∃ r l', (register call s).exec l = (.ok r, l') ∧ r.interval = s.interval ∧ r.lastSyncAt = s.lastSyncAt ∧
      ∃ stored, (find call s.id).exec l' = (.ok stored, l') ∧ stored.interval = s.interval := by
  -- registration keeps a positive interval among the defaults it fills in
  have kept := Source.withDefaults_interval_of_pos spaced
  have registered : (register call s).exec l =
      (.ok s.withDefaults, ((SourceStore.upsert call s.withDefaults).exec l).2) := by
    simp [register, named, SourceStore.upsert_exec inMemory]
  obtain ⟨stored, found, interval⟩ := SourceStore.upsert_find? inMemory call s.withDefaults
  refine ⟨s.withDefaults, _, registered, kept, s.withDefaults_lastSyncAt, stored, ?_, interval.trans kept⟩
  have stillInMemory : ((SourceStore.upsert call s.withDefaults).exec l).2.wiring.sources = false := by
    rw [SourceStore.upsert_exec inMemory]
    exact inMemory
  rw [← s.withDefaults_id]
  exact SourceStore.find_exec stillInMemory found

end Feeds

namespace SyncService

theorem registerSource_eq {doc : Option Json} {h : Held} (decoded : Method.decode registration doc = .ok h)
    (named : (requested h).id ≠ "") (call : Call) :
    registerSource call doc = .ok (do sourceReply (← Feeds.register call (requested h))) := by
  simp [registerSource, decoded, Method.require, named, bind, Except.bind, pure, Except.pure]

theorem sourceReply_exec (s : Source) (l : Ledger) (unsynced : s.lastSyncAt = none) :
    (sourceReply s).exec l = (.ok (.object [("source", Render.source l.clock s),
      ("sync_interval_seconds", Render.figure (s.interval / second))]), l) := by
  simp [sourceReply, Method.writable, Render.sourceTimes, unsynced]

/-- A registration request with an id answers as its source is registered: with the whole
seconds of the interval registration kept. -/
theorem registerSource_reports {doc : Option Json} {h : Held} (decoded : Method.decode registration doc = .ok h)
    (named : (requested h).id ≠ "") (call : Call) {l l' : Ledger} {r : Source}
    (registered : (Feeds.register call (requested h)).exec l = (.ok r, l')) (unsynced : r.lastSyncAt = none) :
    ∃ work answer, registerSource call doc = .ok work ∧ work.exec l = (.ok answer, l') ∧
      answer.field? "sync_interval_seconds" = some (Render.figure (r.interval / second)) := by
  refine ⟨_, .object [("source", Render.source l'.clock r), ("sync_interval_seconds",
    Render.figure (r.interval / second))], registerSource_eq decoded named call, ?_, rfl⟩
  rw [Run.exec_bind, registered]
  exact sourceReply_exec r l' unsynced

/-- An answer holding a source reports its interval in whole seconds. -/
theorem sourceReply_reports {s : Source} {l l' : Ledger} {j : Json} (answered : (sourceReply s).exec l = (.ok j, l')) :
    j.field? "sync_interval_seconds" = some (Render.figure (s.interval / second)) := by
  unfold sourceReply Method.writable at answered
  split at answered
  · simp at answered
  · simp at answered
    rw [← answered.1]
    simp [Json.field?]

end SyncService

/-- A positive sync interval through registration, storage and answers. Seconds sent to
the service become nanoseconds exactly when they are at most `9223372036`; then the
registration's answer, the record found again in memory and its answer all carry those
seconds, and the database row keeps them. An interval in nanoseconds given to registration
is kept as it is in memory; the database keeps its whole seconds, so it comes back
unchanged exactly when it is a whole number of seconds; every answer reports its whole
seconds. -/
theorem sync_interval_round_trip {l : Ledger} (inMemory : l.wiring.sources = false) (call : Call) :
    (∀ h, 0 < SyncService.seconds h →
      ((SyncService.requested h).interval.toInt = (SyncService.seconds h).toInt * 1000000000 ↔
        SyncService.seconds h ≤ 9223372036)) ∧
    (∀ doc h, Method.decode SyncService.registration doc = .ok h → (SyncService.requested h).id ≠ "" →
      0 < SyncService.seconds h → SyncService.seconds h ≤ 9223372036 →
      ∃ work answer l', SyncService.registerSource call doc = .ok work ∧ work.exec l = (.ok answer, l') ∧
        answer.field? "sync_interval_seconds" = some (Render.figure (SyncService.seconds h)) ∧
        ∃ stored, (Feeds.find call (SyncService.requested h).id).exec l' = (.ok stored, l') ∧
          stored.interval.toInt = (SyncService.seconds h).toInt * 1000000000 ∧
          (∀ j l'', (SyncService.sourceReply stored).exec l' = (.ok j, l'') →
            j.field? "sync_interval_seconds" = some (Render.figure (SyncService.seconds h))) ∧
          ∀ reloaded, SourceStore.reload stored = .ok reloaded → reloaded.interval = stored.interval) ∧
    (∀ src : Source, src.id ≠ "" → 0 < src.interval →
      ∃ registered l', (Feeds.register call src).exec l = (.ok registered, l') ∧
        registered.interval = src.interval ∧
        ∃ stored, (Feeds.find call src.id).exec l' = (.ok stored, l') ∧ stored.interval = src.interval ∧
          (∀ j l'', (SyncService.sourceReply stored).exec l' = (.ok j, l'') →
            j.field? "sync_interval_seconds" = some (Render.figure (src.interval / SyncService.second))) ∧
          ∀ reloaded, SourceStore.reload stored = .ok reloaded →
            reloaded.interval = src.interval / SourceStore.second * SourceStore.second ∧
            (reloaded.interval = src.interval ↔ 1000000000 ∣ src.interval.toInt) ∧
            reloaded.interval / SyncService.second = src.interval / SyncService.second) := by
  refine ⟨fun h positive => Source.toInt_mul_second_iff positive, ?_, ?_⟩
  · intro doc h decoded named positive fits
    have exact := (Source.toInt_mul_second_iff positive).mpr fits
    have whole : (SyncService.requested h).interval / SyncService.second = SyncService.seconds h :=
      Source.mul_second_div positive fits
    have spaced : 0 < (SyncService.requested h).interval := by
      have above : 0 < (SyncService.seconds h).toInt := by simpa using Int64.lt_iff_toInt_lt.mp positive
      rw [Int64.lt_iff_toInt_lt, Int64.toInt_zero]
      change 0 < (SyncService.seconds h * 1000000000).toInt
      omega
    obtain ⟨r, l', registered, interval, unsynced, stored, found, storedInterval⟩ :=
      Feeds.register_find inMemory call named spaced
    obtain ⟨work, answer, accepted, answered, reported⟩ :=
      SyncService.registerSource_reports decoded named call registered unsynced
    refine ⟨work, answer, l', accepted, answered, ?_, stored, found, ?_, ?_, ?_⟩
    · rw [reported, interval, whole]
    · rw [storedInterval]
      exact exact
    · intro j l'' answered
      rw [SyncService.sourceReply_reports answered, storedInterval, whole]
    · intro reloaded reloads
      rw [SourceStore.reload_interval reloads, storedInterval]
      exact congrArg (· * 1000000000) whole
  · intro src named spaced
    have nonneg : 0 ≤ src.interval.toInt := Int.le_of_lt (by simpa using Int64.lt_iff_toInt_lt.mp spaced)
    obtain ⟨r, l', registered, interval, -, stored, found, storedInterval⟩ :=
      Feeds.register_find inMemory call named spaced
    refine ⟨r, l', registered, interval, stored, found, storedInterval, ?_, ?_⟩
    · intro j l'' answered
      rw [SyncService.sourceReply_reports answered, storedInterval]
    · intro reloaded reloads
      have cut : reloaded.interval = src.interval / SourceStore.second * SourceStore.second := by
        rw [SourceStore.reload_interval reloads, storedInterval]
      refine ⟨cut, ?_, ?_⟩
      · rw [cut]
        exact Source.div_second_mul_eq_iff nonneg
      · rw [cut]
        exact Source.div_second_mul_div nonneg

namespace Session

/-- On a fresh ledger every positive interval makes its way as the round trip says. -/
theorem fresh_interval_round_trip : fresh.wiring.sources = false ∧
    (∀ h, 0 < SyncService.seconds h →
      ((SyncService.requested h).interval.toInt = (SyncService.seconds h).toInt * 1000000000 ↔
        SyncService.seconds h ≤ 9223372036)) ∧
    (∀ doc h, Method.decode SyncService.registration doc = .ok h → (SyncService.requested h).id ≠ "" →
      0 < SyncService.seconds h → SyncService.seconds h ≤ 9223372036 →
      ∃ work answer l', SyncService.registerSource {} doc = .ok work ∧ work.exec fresh = (.ok answer, l') ∧
        answer.field? "sync_interval_seconds" = some (Render.figure (SyncService.seconds h)) ∧
        ∃ stored, (Feeds.find {} (SyncService.requested h).id).exec l' = (.ok stored, l') ∧
          stored.interval.toInt = (SyncService.seconds h).toInt * 1000000000 ∧
          (∀ j l'', (SyncService.sourceReply stored).exec l' = (.ok j, l'') →
            j.field? "sync_interval_seconds" = some (Render.figure (SyncService.seconds h))) ∧
          ∀ reloaded, SourceStore.reload stored = .ok reloaded → reloaded.interval = stored.interval) ∧
    (∀ src : Source, src.id ≠ "" → 0 < src.interval →
      ∃ registered l', (Feeds.register {} src).exec fresh = (.ok registered, l') ∧
        registered.interval = src.interval ∧
        ∃ stored, (Feeds.find {} src.id).exec l' = (.ok stored, l') ∧ stored.interval = src.interval ∧
          (∀ j l'', (SyncService.sourceReply stored).exec l' = (.ok j, l'') →
            j.field? "sync_interval_seconds" = some (Render.figure (src.interval / SyncService.second))) ∧
          ∀ reloaded, SourceStore.reload stored = .ok reloaded →
            reloaded.interval = src.interval / SourceStore.second * SourceStore.second ∧
            (reloaded.interval = src.interval ↔ 1000000000 ∣ src.interval.toInt) ∧
            reloaded.interval / SyncService.second = src.interval / SyncService.second) :=
  ⟨rfl, sync_interval_round_trip rfl {}⟩

/-- A registration asking for `18446744074` seconds, past what 64-bit nanoseconds hold. -/
def oversizedRequest : Json :=
  .object [("id", .string "s1"), ("sync_interval_seconds", .number "18446744074")]

theorem decode_oversizedRequest :
    Method.decode SyncService.registration (some oversizedRequest) =
      .ok (.record [.text "s1", .text "", .text "", .text "", .flag false, .integer 18446744074, .dict none]) := by
  simp only [oversizedRequest, Method.decode, SyncService.registration, Shape.bind, Json.weight,
    Json.weightMembers, Shape.depth, Shape.depthFields, Shape.zero, Shape.zeros, Method.textField,
    Method.intField]
  simp [Bind.read, Bind.readMembers, Bind.pick, Bind.itemAt, Bind.putAt, Bind.integerOf?, Bind.firstOf,
    List.findIdx?_cons]
  rfl

/-- A source of one and a half seconds' interval. -/
def halfPastSecond : Source :=
  { erpSource with interval := 1500000000, locationMap := none }

/-- Two intervals the round trip does not keep. `18446744074` seconds sent to the service
wrap to `290448384` nanoseconds, which registration keeps as positive: the answer reports
`0` seconds and the stored source falls due every `0.29` seconds. One and a half seconds
stored on the database come back as one second. -/
theorem oversized_and_fractional_intervals :
    (∃ work answer l', SyncService.registerSource {} (some oversizedRequest) = .ok work ∧
      work.exec fresh = (.ok answer, l') ∧ answer.field? "sync_interval_seconds" = some (Render.figure 0) ∧
      ∃ stored, (Feeds.find {} "s1").exec l' = (.ok stored, l') ∧ stored.interval = 290448384) ∧
    (SourceStore.reload halfPastSecond).toOption.map (·.interval) = some 1000000000 := by
  let h : Held := .record [.text "s1", .text "", .text "", .text "", .flag false, .integer 18446744074, .dict none]
  have wrapped : (SyncService.requested h).interval = 290448384 := by decide
  obtain ⟨r, l', registered, interval, unsynced, stored, found, storedInterval⟩ :=
    Feeds.register_find (l := fresh) rfl {} (s := SyncService.requested h) (by decide) (by rw [wrapped]; decide)
  obtain ⟨work, answer, accepted, answered, reported⟩ :=
    SyncService.registerSource_reports decode_oversizedRequest (by decide) {} registered unsynced
  refine ⟨⟨work, answer, l', accepted, answered, ?_, stored, found, storedInterval.trans wrapped⟩, ?_⟩
  · rw [reported, interval, wrapped]
    rfl
  · rw [SourceStore.reload_unmapped rfl]
    rfl

end Session

end StockLedger
