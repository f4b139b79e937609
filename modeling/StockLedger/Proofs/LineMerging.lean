import Mathlib
import StockLedger.Proofs.OrderCreated
import StockLedger.Proofs.TransferLifecycle

/-!
Transfer lines merge requests by product variant. Folding requests into lines with
`TransferLine.merge` gives one line per product variant requested, in the order each was
first requested, whose quantity is the sum of the quantities requested for it taken as a
64-bit figure (`shapes_foldl_merge`). That sum is the exact one, and then positive, exactly
when the exact sum of the positive quantities does not pass the top figure.

`Transfers.Grown` follows a stored transfer from its creation through the items accepted
for it; along it the stored lines are the fold of every request accepted
(`merged_transfer_lines`). One more unit on a line of the top figure wraps it below zero
(`Session.grown_line_wraps`).
-/

namespace StockLedger

namespace LineRequest

abbrev pair (r : LineRequest) : String × String := (r.product, r.variant)

/-- The product variants requested, each once, in the order first requested. -/
def variants (rs : List LineRequest) : List (String × String) := (rs.map pair).eraseDups

/-- The quantities requested for a product variant, summed as a figure. -/
def total (rs : List LineRequest) (p : String × String) : Int64 :=
  ((rs.filter (·.pair == p)).map (·.quantity)).sum

/-- The quantities requested for a product variant, summed as integers. -/
def exactTotal (rs : List LineRequest) (p : String × String) : Int :=
  ((rs.filter (·.pair == p)).map (·.quantity.toInt)).sum

/-- The lines requests ask for: a product variant and the total requested of it. -/
def merged (rs : List LineRequest) : List (String × String × Int64) :=
  (variants rs).map fun p => (p.1, p.2, total rs p)

theorem mem_variants {rs : List LineRequest} {p : String × String} : p ∈ variants rs ↔ p ∈ rs.map pair :=
  List.mem_eraseDups

theorem variants_append_single (rs : List LineRequest) (r : LineRequest) :
    variants (rs ++ [r]) = if r.pair ∈ rs.map pair then variants rs else variants rs ++ [r.pair] := by
  unfold variants
  rw [List.map_append, List.map_singleton, List.eraseDups_append]
  generalize rs.map pair = ps
  split
  · rename_i listed
    simp [List.removeAll, listed]
  · rename_i fresh
    simp [List.removeAll, fresh, List.eraseDups_cons]

theorem total_append_single (rs : List LineRequest) (r : LineRequest) (p : String × String) :
    total rs p + (if r.pair = p then r.quantity else 0) = total (rs ++ [r]) p := by
  by_cases same : r.pair = p <;> simp [total, same]

theorem total_eq_zero {rs : List LineRequest} {p : String × String} (absent : p ∉ rs.map pair) : total rs p = 0 := by
  have none : rs.filter (·.pair == p) = [] := by
    apply List.filter_eq_nil_iff.mpr
    intro r member same
    exact absent (List.mem_map.mpr ⟨r, member, by simpa using same⟩)
  simp [total, none]

theorem positive_of_check {r : LineRequest} (checked : r.check = .ok ()) : 0 < r.quantity := by
  unfold check at checked
  split at checked
  · cases checked
  · split at checked
    · cases checked
    · rename_i notPositive
      exact Int64.not_le.mp notPositive

variable {rs : List LineRequest} (positive : ∀ r ∈ rs, 0 < r.quantity)
include positive

theorem exactTotal_pos {p : String × String} (requested : p ∈ variants rs) : 0 < exactTotal rs p := by
  obtain ⟨r, member, same⟩ := List.mem_map.mp (mem_variants.mp requested)
  have kept : r ∈ rs.filter (·.pair == p) := List.mem_filter.mpr ⟨member, by simp [same]⟩
  have rPos : 0 < r.quantity.toInt := by simpa using Int64.lt_iff_toInt_lt.mp (positive r member)
  have nonneg : ∀ x ∈ (rs.filter (·.pair == p)).map (·.quantity.toInt), 0 ≤ x := by
    intro x listed
    obtain ⟨y, filtered, rfl⟩ := List.mem_map.mp listed
    have := Int64.lt_iff_toInt_lt.mp (positive y (List.mem_filter.mp filtered).1)
    simp only [Int64.toInt_zero] at this
    omega
  have single := List.single_le_sum nonneg _ (List.mem_map_of_mem kept)
  unfold exactTotal
  omega

theorem toInt_total_iff (p : String × String) :
    (total rs p).toInt = exactTotal rs p ↔ exactTotal rs p ≤ Quantity.top.toInt := by
  have filtered : ∀ q ∈ (rs.filter (·.pair == p)).map (·.quantity), 0 < q := by
    intro q listed
    obtain ⟨r, member, rfl⟩ := List.mem_map.mp listed
    exact positive r (List.mem_filter.mp member).1
  have exact : ((rs.filter (·.pair == p)).map (·.quantity)).map Int64.toInt =
      (rs.filter (·.pair == p)).map (·.quantity.toInt) := by
    rw [List.map_map]
    rfl
  constructor
  · intro same
    rw [← same]
    exact (Quantity.toInt_bounds _).2
  · intro fits
    unfold total exactTotal
    rw [Quantity.toInt_sum_of_pos filtered (by rw [exact]; exact fits), exact]

end LineRequest

namespace TransferLine

open LineRequest

/-- Merging adds the request's quantity to the line of its product variant, when the lines
name each product variant once, or adds its line last. -/
theorem shapes_merge (ls : List TransferLine) (r : LineRequest) (distinct : (ls.map pair).Nodup) :
    (merge ls r).map shape =
      if r.pair ∈ ls.map pair then
        (ls.map shape).map fun s => (s.1, s.2.1, s.2.2 + if (s.1, s.2.1) = r.pair then r.quantity else 0)
      else ls.map shape ++ [(r.product, r.variant, r.quantity)] := by
  induction ls with
  | nil => simp [merge, shape]
  | cons x rest ih =>
    obtain ⟨apart, distinct⟩ := List.nodup_cons.mp distinct
    by_cases same : x.product = r.product ∧ x.variant = r.variant
    · -- the first line is the request's; no later line names its product variant
      have others : ∀ y ∈ rest, ¬ (y.product = r.product ∧ y.variant = r.variant) := by
        intro y member named
        exact apart (List.mem_map.mpr ⟨y, member, by simp_all [pair]⟩)
      have listed : r.pair ∈ (x :: rest).map pair := by simp [pair, same]
      rw [if_pos listed, merge, if_pos same]
      simp only [List.map_cons, List.map_map]
      refine congrArg₂ List.cons (by simp [shape, same]) (List.map_congr_left fun y member => ?_)
      simp [shape, others y member]
    · have other : (x.product, x.variant) ≠ r.pair := fun named => same (by simpa using named)
      rw [merge, if_neg same, List.map_cons, ih distinct]
      by_cases listed : r.pair ∈ rest.map pair
      · have listed' : r.pair ∈ (x :: rest).map pair := by
          simp only [List.map_cons, List.mem_cons]
          exact .inr listed
        rw [if_pos listed, if_pos listed']
        simp [shape, same]
      · have fresh : r.pair ∉ (x :: rest).map pair := by
          simp only [List.map_cons, List.mem_cons, not_or]
          exact ⟨Ne.symm other, listed⟩
        rw [if_neg listed, if_neg fresh]
        simp

/-- Folding requests into no lines gives one line per product variant requested, in the
order first requested, with the total requested of it. -/
theorem shapes_foldl_merge (rs : List LineRequest) :
    (rs.foldl merge []).map shape = merged rs ∧ ((rs.foldl merge []).map pair).Nodup := by
  induction rs using List.reverseRecOn with
  | nil => simp [merged, variants]
  | append_singleton rs r ih =>
    obtain ⟨shapes, distinct⟩ := ih
    rw [List.foldl_append, List.foldl_cons, List.foldl_nil]
    refine ⟨?_, nodup_merge r distinct⟩
    have pairs : (rs.foldl merge []).map pair = variants rs := by
      have projected := congrArg (List.map fun s : String × String × Int64 => (s.1, s.2.1)) shapes
      simpa [List.map_map, Function.comp_def, shape, merged] using projected
    have listedIff : r.pair ∈ (rs.foldl merge []).map pair ↔ r.pair ∈ rs.map LineRequest.pair := by
      rw [pairs, mem_variants]
    rw [shapes_merge _ r distinct, shapes]
    unfold merged
    rw [variants_append_single]
    by_cases listed : r.pair ∈ rs.map LineRequest.pair
    · rw [if_pos (listedIff.mpr listed), if_pos listed, List.map_map]
      refine List.map_congr_left fun p _ => ?_
      simp only [Function.comp_apply]
      rw [← total_append_single]
      by_cases here : p = r.pair
      · simp [here]
      · simp [here, Ne.symm here]
    · rw [if_neg (fun inside => listed (listedIff.mp inside)), if_neg listed, List.map_append]
      have earlier : ∀ p ∈ variants rs, total (rs ++ [r]) p = total rs p := by
        intro p member
        have other : r.pair ≠ p := fun same => listed (mem_variants.mp (same ▸ member))
        rw [← total_append_single, if_neg other, Int64.add_zero]
      have kept : (variants rs).map (fun p => (p.1, p.2, total (rs ++ [r]) p)) =
          (variants rs).map (fun p => (p.1, p.2, total rs p)) :=
        List.map_congr_left fun p member => by rw [earlier p member]
      rw [kept]
      simp [← total_append_single, total_eq_zero listed]

end TransferLine

namespace Transfers

open Run

variable {call : Call} {l : Ledger}

theorem post_mergeRequests (requests : List LineRequest) (acc : List TransferLine) :
    Post (requests.foldlM (fun acc r => do check r.check; return TransferLine.merge acc r) acc) l
      (fun lines l' => l' = l ∧ lines = requests.foldl TransferLine.merge acc ∧ ∀ r ∈ requests, 0 < r.quantity)
      (fun _ _ => True) := by
  induction requests generalizing acc with
  | nil => exact ⟨rfl, rfl, by simp⟩
  | cons r rest ih =>
    simp only [List.foldlM_cons, post_bind, post_check]
    rcases checked : r.check with e | ⟨⟩
    · trivial
    · refine (ih (TransferLine.merge acc r)).mono ?_ fun _ _ _ => trivial
      rintro lines l' ⟨same, folded, positive⟩
      exact ⟨same, folded, List.forall_mem_cons.mpr ⟨LineRequest.positive_of_check checked, positive⟩⟩

theorem find?_replaced (ts : List Transfer) (t : Transfer) (present : ts.any (·.id == t.id) = true) :
    (ts.map fun s => if s.id == t.id then t else s).find? (·.id == t.id) = some t := by
  induction ts with
  | nil => cases present
  | cons s rest ih =>
    by_cases same : s.id = t.id
    · simp [same]
    · have later : rest.any (·.id == t.id) = true := by simpa [same] using present
      have kept : (s.id == t.id) = false := by simpa using same
      simp only [List.map_cons, kept, Bool.false_eq_true, reduceIte, List.find?_cons]
      exact ih later

theorem post_insert_stored (journal : l.wiring.transfers = false) (t : Transfer) :
    Post (TransferStore.create call t) l (fun _ l' => l'.transfers.find? (·.id == t.id) = some t)
      (fun _ _ => True) := by
  rw [Post, create_exec journal]
  cases taken : l.transfers.any (·.id == t.id)
  · simp only [Bool.false_eq_true, reduceIte]
    rw [List.find?_append, List.find?_eq_none.mpr (by simpa using taken)]
    simp
  · trivial

theorem post_update_stored (journal : l.wiring.transfers = false) (t : Transfer)
    (present : l.transfers.any (·.id == t.id) = true) :
    Post (TransferStore.update call t) l (fun _ l' => l'.transfers.find? (·.id == t.id) = some t)
      (fun _ _ => True) := by
  rw [Post, update_exec journal, if_pos present]
  exact find?_replaced l.transfers t present

/-- Creating a transfer in memory stores it under the id drawn next, with its requests
merged into lines, each request of a positive quantity. -/
theorem post_create_stored (places : l.wiring.locations = false) (journal : l.wiring.transfers = false)
    (req : TransferRequest) :
    Post (create call req) l
      (fun t l' => t.id = l.nextIdText ∧ l'.transfers.find? (·.id == t.id) = some t ∧
        t.lines = req.lines.foldl TransferLine.merge [] ∧ ∀ r ∈ req.lines, 0 < r.quantity)
      (fun _ _ => True) := by
  unfold create
  extract_lets body guarded
  by_cases unplaced : req.source = "" ∨ req.destination = ""
  · rw [if_pos unplaced, post_bind, post_fail]
    trivial
  rw [if_neg unplaced]
  simp only [guarded]
  by_cases same : req.source = req.destination
  · rw [if_pos same, post_bind, post_fail]
    trivial
  rw [if_neg same]
  simp only [body, post_bind, post_places_find places]
  split
  · split
    · simp only [post_freshId, post_now]
      refine (post_mergeRequests req.lines []).mono ?_ fun _ _ _ => trivial
      rintro lines l' ⟨rfl, rfl, positive⟩
      exact (post_insert_stored (l := { l with nextId := l.nextId + 1 }) journal _).mono
        (fun _ _ stored => ⟨rfl, stored, rfl, positive⟩) fun _ _ _ => trivial
    · trivial
  · trivial

/-- An accepted item is of a positive quantity and stores the transfer it was added to with
the item merged into its lines. -/
theorem post_addLine_stored (journal : l.wiring.transfers = false) (id : String) (r : LineRequest) :
    Post (addLine call id r) l
      (fun _ l' => 0 < r.quantity ∧ ∃ s, l.transfers.find? (·.id == id) = some s ∧
        l'.transfers.find? (·.id == id) = some { TransferStore.copied s with lines := TransferLine.merge s.lines r })
      (fun _ _ => True) := by
  unfold addLine
  rw [post_bind, post_check]
  rcases checked : r.check with e | ⟨⟩
  · trivial
  refine post_withTransfer_find journal (fun _ => trivial) fun s found => ?_
  have named : s.id = id := by simpa using List.find?_some found
  by_cases pending : s.status = .pending
  · have allowed : (s.status != .pending) = false := by simp [pending]
    simp only [Transfer.copied_status, allowed, Bool.false_eq_true, reduceIte, post_bind, post_pure]
    have present : l.transfers.any (·.id == s.id) = true :=
      List.any_eq_true.mpr ⟨s, List.mem_of_find?_eq_some found, by simp⟩
    refine post_save_of trivial ((post_update_stored journal _ ?_).mono ?_ fun _ _ _ => trivial)
    · exact present
    intro _ l' stored
    refine ⟨LineRequest.positive_of_check checked, s, found, ?_⟩
    simp only [Transfer.copied_id, Transfer.copied_lines, named] at stored ⊢
    exact stored
  · have refused : (s.status != .pending) = true := by simp [pending]
    simp only [Transfer.copied_status, refused, reduceIte, post_bind, post_fail]

/-- A stored transfer with every line requested for it, oldest first: created on a ledger
keeping its locations and transfers in memory, then grown by accepted items, with any
change between them that leaves its stored record alone. -/
inductive Grown : String → List LineRequest → Ledger → Prop
  | created {l : Ledger} (call : Call) (req : TransferRequest) (places : l.wiring.locations = false)
      (journal : l.wiring.transfers = false) (accepted : ((create call req).exec l).1.isOk = true) :
      Grown l.nextIdText req.lines ((create call req).exec l).2
  | added {l : Ledger} {id : String} {rs : List LineRequest} (call : Call) (r : LineRequest) (grown : Grown id rs l)
      (journal : l.wiring.transfers = false) (accepted : ((addLine call id r).exec l).1.isOk = true) :
      Grown id (rs ++ [r]) ((addLine call id r).exec l).2
  | kept {l l' : Ledger} {id : String} {rs : List LineRequest} (grown : Grown id rs l)
      (record : l'.transfers.find? (·.id == id) = l.transfers.find? (·.id == id)) : Grown id rs l'

/-- Along a grown transfer every request was of a positive quantity, and the stored lines
are the requests merged in turn. -/
theorem Grown.stored {id : String} {rs : List LineRequest} {l : Ledger} (grown : Grown id rs l) :
    (∀ r ∈ rs, 0 < r.quantity) ∧
      ∃ t, l.transfers.find? (·.id == id) = some t ∧ t.lines = rs.foldl TransferLine.merge [] := by
  induction grown with
  | created call req places journal accepted =>
    obtain ⟨t, named, stored, lines, positive⟩ := (post_create_stored places journal req).of_isOk accepted
    rw [← named]
    exact ⟨positive, t, stored, lines⟩
  | added call r _ journal accepted ih =>
    obtain ⟨positive, s, stored, lines⟩ := ih
    obtain ⟨-, rPos, s', found, grown⟩ := (post_addLine_stored journal _ r).of_isOk accepted
    rw [stored, Option.some.injEq] at found
    subst found
    refine ⟨fun x member => ?_, _, grown, ?_⟩
    · rcases List.mem_append.mp member with old | new
      · exact positive x old
      · rw [List.mem_singleton.mp new]
        exact rPos
    · show TransferLine.merge s.lines r = _
      rw [lines, List.foldl_append, List.foldl_cons, List.foldl_nil]
  | kept _ record ih =>
    obtain ⟨positive, t, stored, lines⟩ := ih
    exact ⟨positive, t, record.trans stored, lines⟩

end Transfers

/-- Transfer lines merge requests without loss of a product variant. However a transfer is
created and grown by accepted items, its stored record has one line per product variant
requested, in the order each was first requested, with the total requested of it as a
figure. That total is positive and is the exact integer sum of the quantities requested
exactly when that sum does not pass the top figure. -/
theorem merged_transfer_lines {id : String} {rs : List LineRequest} {l : Ledger} (grown : Transfers.Grown id rs l) :
    ∃ t, l.transfers.find? (·.id == id) = some t ∧ t.lines.map TransferLine.shape = LineRequest.merged rs ∧
      ∀ p ∈ LineRequest.variants rs, 0 < LineRequest.exactTotal rs p ∧
        ((LineRequest.total rs p).toInt = LineRequest.exactTotal rs p ↔
          LineRequest.exactTotal rs p ≤ Quantity.top.toInt) := by
  obtain ⟨positive, t, stored, lines⟩ := grown.stored
  refine ⟨t, stored, by rw [lines]; exact (TransferLine.shapes_foldl_merge rs).1, fun p requested => ?_⟩
  exact ⟨LineRequest.exactTotal_pos positive requested, LineRequest.toInt_total_iff positive p⟩

namespace Session

/-- The opened transfer grown by an item of the top figure of `p1`. -/
def grownPastTop : Ledger := ((Transfers.addLine {} firstId ⟨"p1", "", 9223372036854775807⟩).exec opened).2

theorem opened_grown : Transfers.Grown firstId [⟨"p1", "", 3⟩] opened := by
  have created := Transfers.Grown.created {}
    { source := Location.mainId, destination := "B", notes := "", expectedArrival := none,
      lines := [⟨"p1", "", 3⟩] }
    (l := ((Stock.run {} ⟨"p1", "", Location.mainId⟩ (.set 10) {}).exec
      ((Places.add {} (Location.store "B" "B")).exec fresh).2).2) rfl rfl (by decide +kernel)
  have drawn : Ledger.nextIdText ((Stock.run {} ⟨"p1", "", Location.mainId⟩ (.set 10) {}).exec
      ((Places.add {} (Location.store "B" "B")).exec fresh).2).2 = firstId := by decide +kernel
  rw [drawn] at created
  exact created

theorem grownPastTop_grown :
    Transfers.Grown firstId [⟨"p1", "", 3⟩, ⟨"p1", "", 9223372036854775807⟩] grownPastTop :=
  .added {} ⟨"p1", "", 9223372036854775807⟩ opened_grown (by decide +kernel) (by decide +kernel)

theorem grownPastTop_merged :
    Transfers.Grown firstId [⟨"p1", "", 3⟩, ⟨"p1", "", 9223372036854775807⟩] grownPastTop ∧
      ∃ t, grownPastTop.transfers.find? (·.id == firstId) = some t ∧
        t.lines.map TransferLine.shape = LineRequest.merged [⟨"p1", "", 3⟩, ⟨"p1", "", 9223372036854775807⟩] ∧
        ∀ p ∈ LineRequest.variants [⟨"p1", "", 3⟩, ⟨"p1", "", 9223372036854775807⟩],
          0 < LineRequest.exactTotal [⟨"p1", "", 3⟩, ⟨"p1", "", 9223372036854775807⟩] p ∧
          ((LineRequest.total [⟨"p1", "", 3⟩, ⟨"p1", "", 9223372036854775807⟩] p).toInt =
              LineRequest.exactTotal [⟨"p1", "", 3⟩, ⟨"p1", "", 9223372036854775807⟩] p ↔
            LineRequest.exactTotal [⟨"p1", "", 3⟩, ⟨"p1", "", 9223372036854775807⟩] p ≤ Quantity.top.toInt) :=
  ⟨grownPastTop_grown, merged_transfer_lines grownPastTop_grown⟩

/-- Three units of `p1` grown by the top figure: the stored line wraps to `-2^63 + 2`
where the exact sum requested is `2^63 + 2`. -/
theorem grown_line_wraps :
    Reachable grownPastTop ∧
      (grownPastTop.transfers.find? (·.id == firstId)).map (·.lines.map TransferLine.shape) =
        some [("p1", "", -9223372036854775806)] ∧
      LineRequest.exactTotal [⟨"p1", "", 3⟩, ⟨"p1", "", 9223372036854775807⟩] ("p1", "") = 9223372036854775810 :=
  ⟨opened_reachable.later (.single (.addLine _ _ _ _)), by decide +kernel, by decide +kernel⟩

end Session

end StockLedger
