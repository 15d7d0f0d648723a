/-
StripeTransfer/Proofs/Regions.lean

The regions of the shared buffer.  Regions that are as long as the spans of a
plan, put together in plan order, have every byte at its place in the extent
(`Buffer.octet_join`); this holds of the regions that a buffer is split into, and
it stays true when some of them are given other contents, as long as they keep
their sizes.  So what a worker writes to its region is found in its span, and
nowhere else (`Buffer.splits_losslessly`).

All of it is carried by the spans being adjacent.  How many of them are empty,
and where, does not matter.  Spans that words could not hold are not adjacent, and
there are no regions for them (`Buffer.splits_beyond`).
-/
import StripeTransfer.Proofs.Buffer
import StripeTransfer.Proofs.Extent.Pages
import Mathlib

namespace StripeTransfer.Buffer

variable {start stop : Nat} {spans : List Span} {regions : List ByteArray}

/-! ### Putting regions together -/

theorem foldl_append (front : ByteArray) (regions : List ByteArray) :
    regions.foldl (· ++ ·) front = front ++ join regions := by
  induction regions generalizing front with
  | nil => exact (ByteArray.append_empty (b := front)).symm
  | cons region rest ih =>
    have hjoin : join (region :: rest) = region ++ join rest := by
      rw [join, List.foldl_cons, ih, ByteArray.empty_append]
    rw [List.foldl_cons, ih, hjoin, ByteArray.append_assoc]

theorem join_cons (region : ByteArray) (rest : List ByteArray) :
    join (region :: rest) = region ++ join rest := by
  rw [join, List.foldl_cons, foldl_append, ByteArray.empty_append]

/-- The bytes of the regions follow one another in the order in which the regions are given. -/
theorem toList_join (regions : List ByteArray) :
    (join regions).toList = regions.flatMap ByteArray.toList := by
  induction regions with
  | nil => exact toList_eq_data _
  | cons region rest ih =>
    rw [toList_eq_data] at ih
    rw [join_cons, List.flatMap_cons, ← ih, toList_eq_data, toList_eq_data, ByteArray.data_append,
      Array.toList_append]

/-! ### Regions that fit -/

/-- Regions that are as long as the spans of a list, one for each. -/
def Fit (spans : List Span) (regions : List ByteArray) : Prop :=
  List.Forall₂ (fun s region => region.size = s.length) spans regions

theorem size_join (h : Contiguous start spans stop) (hfit : Fit spans regions) :
    start + (join regions).size = stop := by
  induction h generalizing regions with
  | nil start =>
    cases hfit
    rfl
  | @cons s rest stop _ ih =>
    cases hfit with
    | cons hsize hrest =>
      rw [join_cons, ByteArray.size_append, hsize, ← ih hrest, Span.stop, Nat.add_assoc]

/-- **The bytes of regions put together in plan order are at the places of their spans.** -/
theorem octet_join (h : Contiguous start spans stop) (hfit : Fit spans regions) {i j : Nat}
    {s : Span} {region : ByteArray} (hs : spans[i]? = some s) (hregion : regions[i]? = some region)
    (hj : j < s.length) : octet (join regions) (s.offset - start + j) = octet region j := by
  induction h generalizing regions i with
  | nil start => cases hs
  | @cons t rest stop hrest ih =>
    cases hfit with
    | @cons _ first _ others hsize hothers =>
      rw [join_cons, octet_append]
      cases i with
      | zero =>
        obtain rfl : t = s := by simpa using hs
        obtain rfl : first = region := by simpa using hregion
        rw [Nat.sub_self, Nat.zero_add, if_pos (hsize ▸ hj)]
      | succ i =>
        have hs' : rest[i]? = some s := by simpa using hs
        have hregion' : others[i]? = some region := by simpa using hregion
        -- the spans behind the first one start where it stops
        have hstart := (hrest.bounds (List.mem_of_getElem? hs')).1
        have hstop : t.stop = t.offset + t.length := rfl
        rw [if_neg (by omega), ← ih hothers hs' hregion']
        congr 1
        omega

theorem Fit.size_eq (h : Fit spans regions) {i : Nat} {s : Span} {region : ByteArray}
    (hs : spans[i]? = some s) (hregion : regions[i]? = some region) : region.size = s.length := by
  induction h generalizing i with
  | nil => cases hs
  | cons hsize _ ih =>
    cases i with
    | zero =>
      cases hs
      cases hregion
      exact hsize
    | succ i => exact ih hs hregion

/-- The same for spans that start with the buffer. -/
theorem getElem?_join (h : Contiguous 0 spans stop) (hfit : Fit spans regions) {i j : Nat}
    {s : Span} {region : ByteArray} (hs : spans[i]? = some s) (hregion : regions[i]? = some region)
    (hj : j < s.length) : (join regions)[s.offset + j]? = region[j]? := by
  have hstop := (h.bounds (List.mem_of_getElem? hs)).2
  have hsize := size_join h hfit
  have hin : s.offset + j < (join regions).size := by
    rw [Span.stop] at hstop
    omega
  have hbyte := octet_join h hfit hs hregion hj
  rw [Nat.sub_zero] at hbyte
  rw [getElem?_eq_octet hin, hbyte]
  apply Eq.symm
  apply getElem?_eq_octet
  rwa [hfit.size_eq hs hregion]

/-! ### Slices -/

variable {buffer : ByteArray}

theorem getElem?_slice {s : Span} (hs : s.stop ≤ buffer.size) {j : Nat} (hj : j < s.length) :
    (s.slice buffer)[j]? = buffer[s.offset + j]? := by
  have hin : s.offset + j < buffer.size := (Nat.add_lt_add_left hj _).trans_le hs
  rw [getElem?_eq_octet (by rwa [size_slice hs]), octet_slice, if_pos hj, getElem?_eq_octet hin]

/-- The bytes of a span are a run of the bytes of the buffer. -/
theorem toList_slice (s : Span) (buffer : ByteArray) :
    (s.slice buffer).toList = (buffer.toList.drop s.offset).take s.length := by
  have hlength : s.stop - s.offset = s.length := Nat.add_sub_cancel_left _ _
  rw [toList_eq_data, toList_eq_data, Span.slice, ByteArray.data_extract, Array.toList_extract,
    List.extract_eq_take_drop, hlength]

theorem fit_slices (h : ∀ s ∈ spans, s.stop ≤ buffer.size) :
    Fit spans (spans.map fun s => s.slice buffer) := by
  rw [Fit, List.forall₂_map_right_iff, List.forall₂_same]
  intro s hs
  exact size_slice (h s hs)

/-! ### Other contents -/

/-- The regions after some of them were given other contents. -/
def changed (regions : List ByteArray) (contents : Nat → Option ByteArray) : List ByteArray :=
  regions.mapIdx fun i region => (contents i).getD region

theorem getElem?_changed {i : Nat} {region : ByteArray} (h : regions[i]? = some region)
    (contents : Nat → Option ByteArray) :
    (changed regions contents)[i]? = some ((contents i).getD region) := by
  rw [changed, List.getElem?_mapIdx, h]
  rfl

/-- Contents that are as long as the spans of the regions to which they are given. -/
def FitContents (spans : List Span) (contents : Nat → Option ByteArray) : Prop :=
  ∀ i s data, spans[i]? = some s → contents i = some data → data.size = s.length

/-- Regions fit as before if their new contents do. -/
theorem Fit.changed (h : Fit spans regions) {contents : Nat → Option ByteArray}
    (hcontents : FitContents spans contents) : Fit spans (changed regions contents) := by
  induction h generalizing contents with
  | nil => exact List.Forall₂.nil
  | @cons s region _ _ hsize _ ih =>
    rw [Buffer.changed, List.mapIdx_cons]
    apply List.Forall₂.cons
    · cases hfirst : contents 0 with
      | none => exact hsize
      | some data => exact hcontents 0 s data rfl hfirst
    · apply ih
      intro i t data ht hdata
      exact hcontents (i + 1) t data ht hdata

/-! ### Regions of a plan -/

/-- **Splitting and joining the shared buffer is lossless, and the regions are apart from one
another.**  On the spans of a plan that was made in words that hold its numbers, splitting by lengths
and slicing by offsets both succeed, and give for every span just the bytes that it covers; every byte
is in one of the spans only.  Put together in plan order, the regions are the buffer again; after some
of them were given other contents, they are the buffer with other bytes in the spans of these, and the
same bytes elsewhere; in any other order, the bytes of the spans follow one another in that order. -/
theorem splits_losslessly {plan : Plan} (hmade : plan.Made) (hsize : buffer.size = plan.extent) :
    let regions := plan.spans.map fun s => s.slice buffer
    split buffer plan = some regions ∧ slices buffer plan = some regions ∧
    (∀ s ∈ plan.spans, (s.slice buffer).size = s.length ∧
      ∀ j < s.length, (s.slice buffer)[j]? = buffer[s.offset + j]?) ∧
    (∀ p < buffer.size, ∃! i : Nat, ∃ s : Span, plan.spans[i]? = some s ∧ p ∈ s) ∧
    join regions = buffer ∧
    (∀ contents, FitContents plan.spans contents →
      (join (changed regions contents)).size = buffer.size ∧
      ∀ i s, plan.spans[i]? = some s → ∀ j < s.length,
        (join (changed regions contents))[s.offset + j]? =
          match contents i with
          | some data => data[j]?
          | none => buffer[s.offset + j]?) ∧
    ∀ order : List Span, order.Perm plan.spans →
      (join (order.map fun s => s.slice buffer)).toList =
        order.flatMap fun s => (buffer.toList.drop s.offset).take s.length := by
  intro regions
  have hcomplete := hmade.complete
  have hcontiguous := hcomplete.contiguous
  have hstop : ∀ s ∈ plan.spans, s.stop ≤ buffer.size := by
    intro s hs
    rw [hsize]
    exact (hcontiguous.bounds hs).2
  have hfit : Fit plan.spans regions := fit_slices hstop
  refine ⟨split_eq hcomplete hsize, slices_eq hcomplete hsize, ?_, ?_, join_eq hcomplete hsize,
    ?_, ?_⟩
  · intro s hs
    exact ⟨size_slice (hstop s hs), fun j hj => getElem?_slice (hstop s hs) hj⟩
  · intro p hp
    exact hcontiguous.existsUnique (Nat.zero_le p) (hsize ▸ hp)
  · intro contents hcontents
    have hchanged := hfit.changed hcontents
    constructor
    · rw [hsize, ← size_join hcontiguous hchanged, Nat.zero_add]
    · intro i s hs j hj
      have hregion : regions[i]? = some (s.slice buffer) := by
        rw [List.getElem?_map, hs]
        rfl
      rw [getElem?_join hcontiguous hchanged hs (getElem?_changed hregion contents) hj]
      cases contents i with
      | some data => rfl
      | none => exact getElem?_slice (hstop s (List.mem_of_getElem? hs)) hj
  · intro order _
    rw [toList_join, List.flatMap_map]
    apply List.flatMap_congr
    intro s _
    exact toList_slice s buffer

/-- Three bytes among five workers: the first four have no bytes, and the last one replaces all. -/
theorem splits_losslessly_leading_empty :
    let plan : Plan := ⟨3, 1, [⟨0, 0⟩, ⟨0, 0⟩, ⟨0, 0⟩, ⟨0, 0⟩, ⟨0, 3⟩]⟩
    let buffer : ByteArray := ⟨#[7, 8, 9]⟩
    let contents (i : Nat) : Option ByteArray := if i = 4 then some ⟨#[4, 5, 6]⟩ else none
    Plan.even 3 5 1 = .ok plan ∧ buffer.size = plan.extent ∧ FitContents plan.spans contents ∧
    split buffer plan = slices buffer plan ∧
    join (plan.spans.map fun s => s.slice buffer) = buffer ∧
    ∀ j < 3, (join (changed (plan.spans.map fun s => s.slice buffer) contents))[j]? =
      (⟨#[4, 5, 6]⟩ : ByteArray)[j]? := by
  intro plan buffer contents
  have hmade : Plan.even 3 5 1 = .ok plan := by rfl
  have hfit : FitContents plan.spans contents := by
    intro i s data hs hdata
    obtain ⟨rfl, rfl⟩ : i = 4 ∧ (⟨#[4, 5, 6]⟩ : ByteArray) = data := by simpa [contents] using hdata
    obtain rfl : (⟨0, 3⟩ : Span) = s := by simpa [plan] using hs
    rfl
  have hsize : buffer.size = plan.extent := rfl
  obtain ⟨hsplit, hslices, -, -, hjoin, hchanged, -⟩ := splits_losslessly (.even hmade) hsize
  refine ⟨hmade, hsize, hfit, hsplit.trans hslices.symm, hjoin, ?_⟩
  intro j hj
  have hbyte := (hchanged contents hfit).2 4 ⟨0, 3⟩ rfl j hj
  rwa [Nat.zero_add] at hbyte

/-- Ten bytes for two workers with pages of half a word.  Both regions would be longer than the
buffer, so it can neither be split nor sliced. -/
theorem splits_beyond : ∃ plan, Plan.aligned 10 2 1 (2 ^ 63) = .ok plan ∧
    (zeros 10).size = plan.extent ∧ split (zeros 10) plan = none ∧ slices (zeros 10) plan = none := by
  exact ⟨⟨10, 1, [⟨0, 2 ^ 63⟩, ⟨2 ^ 63, 2 ^ 63 + 10⟩]⟩, rfl, rfl, rfl, rfl⟩

end StripeTransfer.Buffer
