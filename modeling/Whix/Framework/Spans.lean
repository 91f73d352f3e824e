import Mathlib.Algebra.Order.Field.Basic
import Mathlib.Algebra.Order.Group.MinMax
import Mathlib.Tactic.Linarith
import Mathlib.Tactic.Ring

/-!
# Dragging the ends of a span

A span of a line lies within another one, its bounds, and is dragged by one of its ends.  `dragged`
is what a drag should come to: the end goes where it is dragged to, but not beyond the bounds, and
not closer to the other end than the least length.

`resized` and `capped` go there in two steps, and the first looks at the span as it is now: a span
that would be too short is put before the *present* upper end.  `capped_resized_eq_dragged_iff`
says when this makes no difference.
-/

/-- The two ends of a span. -/
@[ext]
structure Span (K : Type*) where
  low : K
  high : K

namespace Span

/-- The end that is dragged, if any. -/
inductive End where
  | neither
  | low
  | high

variable {K : Type*} [Field K] [LinearOrder K] [IsStrictOrderedRing K]

/-- The span from one point over a length, which may be negative. -/
def of (origin length : K) : Span K := ⟨min origin (origin + length), max origin (origin + length)⟩

/-- The length of a span. -/
def length (s : Span K) : K := s.high - s.low

/-- A span lies within another one. -/
structure Within (s t : Span K) : Prop where
  low : t.low ≤ s.low
  high : s.high ≤ t.high

/-- Two spans have a point in common. -/
structure Meets (s t : Span K) : Prop where
  low : s.low ≤ t.high
  high : t.low ≤ s.high

/-- What two spans have in common. -/
def capped (s t : Span K) : Span K := ⟨max s.low t.low, min s.high t.high⟩

/-- Where the span begins when an end is pulled. -/
def pulledOrigin (s : Span K) (e : End) (t : K) : K :=
  match e with
  | .neither => s.low
  | .low => s.low + t
  | .high => s.low

/-- How long the span is when an end is pulled; negative beyond the other end. -/
def pulledLength (s : Span K) (e : End) (t : K) : K :=
  match e with
  | .neither => s.length
  | .low => s.length - t
  | .high => s.length + t

/-- The span after a pull, seen from the span that it is now. -/
def resized (least : K) (s now : Span K) (e : End) (t : K) : Span K :=
  if |s.pulledLength e t| < least then ⟨now.high - least, now.high⟩
  else of (s.pulledOrigin e t) (s.pulledLength e t)

/-- What a drag should come to. -/
def dragged (least : K) (s bounds : Span K) (e : End) (t : K) : Span K :=
  match e with
  | .neither => s
  | .low => ⟨max bounds.low (min (s.low + t) (s.high - least)), s.high⟩
  | .high => ⟨s.low, min bounds.high (max (s.high + t) (s.low + least))⟩

/-- A pull leaves room: the lower end is not pulled far beyond the upper one; the upper end is not
pulled to less than the least length, unless the span is no longer than that already. -/
def Room (least : K) (s now : Span K) (e : End) (t : K) : Prop :=
  match e with
  | .neither => True
  | .low => -least < s.length - t
  | .high => least ≤ s.length + t ∨ -least < s.length + t ∧ now.high = s.low + least

variable {least : K} {s now bounds : Span K} {e : End} {t : K}

lemma of_of_nonneg {origin length : K} (h : 0 ≤ length) :
    of origin length = ⟨origin, origin + length⟩ := by
  simp [of, h]

lemma of_of_nonpos {origin length : K} (h : length ≤ 0) :
    of origin length = ⟨origin + length, origin⟩ := by
  simp [of, h]

/-- A span from one of two points, over one of two lengths -/
lemma of_ite {c : Prop} [Decidable c] {origin length high : K} (h : 0 ≤ least) :
    of (if c then high - least else origin) (if c then least else length) =
      if c then ⟨high - least, high⟩ else of origin length := by
  split
  · rw [of_of_nonneg h, sub_add_cancel]
  · rfl

omit [Field K] [IsStrictOrderedRing K] in
lemma capped_within (h : s.Meets bounds) (hs : s.low ≤ s.high) (hb : bounds.low ≤ bounds.high) :
    (s.capped bounds).Within bounds ∧ (s.capped bounds).low ≤ (s.capped bounds).high :=
  ⟨⟨le_max_right _ _, min_le_right _ _⟩,
    max_le (le_min hs h.low) (le_min h.high hb)⟩

/-- A span is capped by moving its lower end up, and then by shortening it from there. -/
lemma of_eq_capped (hs : s.low ≤ s.high) (hb : bounds.low ≤ bounds.high) (h : s.Meets bounds)
    {origin length : K} (horigin : origin = if s.low < bounds.low then bounds.low else s.low)
    (hlength : length = if s.low < bounds.low then s.high - bounds.low else s.high - s.low) :
    of origin
        (if bounds.high < s.high then bounds.high - min origin (origin + length) else length) =
      s.capped bounds := by
  have hmax : origin = max s.low bounds.low := by
    rw [horigin]
    split
    · next hlt => exact (max_eq_right hlt.le).symm
    · next hlt => exact (max_eq_left (not_lt.mp hlt)).symm
  have hend : length = s.high - origin := by
    rw [hlength, horigin]
    split <;> rfl
  have hle : origin ≤ s.high := hmax ▸ max_le hs h.high
  have hle' : origin ≤ bounds.high := hmax ▸ max_le h.low hb
  rw [hend, add_sub_cancel, min_eq_left hle]
  split
  · next hlt =>
      rw [of_of_nonneg (sub_nonneg.mpr hle'), add_sub_cancel, capped, ← hmax, min_eq_right hlt.le]
  · next hlt =>
      rw [of_of_nonneg (sub_nonneg.mpr hle), add_sub_cancel, capped, ← hmax,
        min_eq_left (not_lt.mp hlt)]

lemma resized_le (h : 0 ≤ least) :
    (resized least s now e t).low ≤ (resized least s now e t).high := by
  unfold resized
  split
  · exact sub_le_self _ h
  · exact min_le_max

/-- However it is pulled, a span within its bounds does not leave them altogether. -/
lemma resized_meets (hleast : 0 ≤ least) (hs : s.Within bounds) (hle : s.low ≤ s.high)
    (hnow : now.Within bounds) (hnowle : now.low ≤ now.high) :
    (resized least s now e t).Meets bounds := by
  have hslow := hs.low
  have hshigh := hs.high
  have hlow := hnow.low
  have hhigh := hnow.high
  unfold resized
  split
  · exact ⟨by simp only; linarith, by simp only; linarith⟩
  · cases e with
    | neither =>
        refine ⟨(min_le_left _ _).trans ?_, le_trans ?_ (le_max_left _ _)⟩ <;>
          simp only [pulledOrigin] <;> linarith
    | low =>
        have hend : s.pulledOrigin .low t + s.pulledLength .low t = s.high := by
          simp only [pulledOrigin, pulledLength, length]
          ring
        refine ⟨(min_le_right _ _).trans ?_, le_trans ?_ (le_max_right _ _)⟩ <;> rw [hend] <;>
          linarith
    | high =>
        refine ⟨(min_le_left _ _).trans ?_, le_trans ?_ (le_max_left _ _)⟩ <;>
          simp only [pulledOrigin] <;> linarith

/-- Nothing is dragged by nothing. -/
lemma dragged_zero (hs : s.Within bounds) (hlength : least ≤ s.length) :
    dragged least s bounds e 0 = s := by
  have hroom : s.low ≤ s.high - least := by
    unfold length at hlength
    linarith
  cases e with
  | neither => rfl
  | low =>
      ext
      · simp only [dragged, add_zero]
        rw [min_eq_left hroom, max_eq_right hs.low]
      · rfl
  | high =>
      ext
      · rfl
      · simp only [dragged, add_zero]
        rw [max_eq_left (by linarith), min_eq_right hs.high]

/-! ### What a pull does to the length -/

/-- A pull leaves the span long enough. -/
lemma resized_of_long (hleast : 0 ≤ least) (h : least ≤ s.pulledLength e t) :
    resized least s now e t =
      ⟨s.pulledOrigin e t, s.pulledOrigin e t + s.pulledLength e t⟩ := by
  have hlong : ¬ |s.pulledLength e t| < least := not_lt.mpr (h.trans (le_abs_self _))
  rw [resized, if_neg hlong, of_of_nonneg (hleast.trans h)]

omit [IsStrictOrderedRing K] in
/-- A pull makes the span too short. -/
lemma resized_of_short (h : |s.pulledLength e t| < least) :
    resized least s now e t = ⟨now.high - least, now.high⟩ :=
  if_pos h

/-- A pull turns the span over. -/
lemma resized_of_flipped (hleast : 0 ≤ least) (h : s.pulledLength e t ≤ -least) :
    resized least s now e t =
      ⟨s.pulledOrigin e t + s.pulledLength e t, s.pulledOrigin e t⟩ := by
  have hnonpos : s.pulledLength e t ≤ 0 := h.trans (neg_nonpos.mpr hleast)
  have hlong : ¬ |s.pulledLength e t| < least := by
    rw [abs_of_nonpos hnonpos]
    exact not_lt.mpr (le_neg_of_le_neg h)
  rw [resized, if_neg hlong, of_of_nonpos hnonpos]

/-- Long enough, too short, or turned over. -/
lemma pulled_cases (least length : K) :
    least ≤ length ∨ |length| < least ∨ length ≤ -least := by
  rcases le_or_gt least length with h | h
  · exact .inl h
  · rcases le_or_gt length (-least) with h' | h'
    · exact .inr (.inr h')
    · exact .inr (.inl (abs_lt.mpr ⟨h', h⟩))

/-! ### The ends -/

lemma capped_resized_neither (hleast : 0 ≤ least) (hs : s.Within bounds)
    (hlength : least ≤ s.length) :
    (resized least s now .neither t).capped bounds = dragged least s bounds .neither t := by
  have hlong : least ≤ s.pulledLength .neither t := hlength
  rw [resized_of_long hleast hlong]
  ext
  · exact max_eq_left hs.low
  · simp only [pulledOrigin, pulledLength, length, capped, dragged, add_sub_cancel]
    exact min_eq_left hs.high

lemma capped_resized_low_iff (hleast : 0 < least) (hs : s.Within bounds)
    (hlength : least ≤ s.length) (hnow : now.high = s.high) :
    (resized least s now .low t).capped bounds = dragged least s bounds .low t ↔
      Room least s now .low t := by
  have hlow := hs.low
  have hend : s.pulledOrigin .low t + s.pulledLength .low t = s.high := by
    simp only [pulledOrigin, pulledLength, length]
    ring
  rcases pulled_cases least (s.pulledLength .low t) with hlong | hshort | hflipped
  · have hfree : s.low + t ≤ s.high - least := by
      simp only [pulledLength, length] at hlong
      linarith
    refine iff_of_true ?_ ((neg_lt_zero.mpr hleast).trans (hleast.trans_le hlong))
    rw [resized_of_long hleast.le hlong, hend]
    ext
    · simp only [pulledOrigin, capped, dragged, min_eq_left hfree, max_comm]
    · exact min_eq_left hs.high
  · have hclose : s.high - least ≤ s.low + t := by
      have := (abs_lt.mp hshort).2
      simp only [pulledLength, length] at this
      linarith
    refine iff_of_true ?_ (abs_lt.mp hshort).1
    rw [resized_of_short hshort, hnow]
    ext
    · simp only [capped, dragged, min_eq_right hclose, max_comm]
    · exact min_eq_left hs.high
  · refine iff_of_false (fun heq => ?_) (not_lt.mpr hflipped)
    rw [resized_of_flipped hleast.le hflipped, hend] at heq
    -- the span now begins where it should end
    have hlows : max s.high bounds.low = max bounds.low (min (s.low + t) (s.high - least)) :=
      congrArg Span.low heq
    have hroom : s.low + least ≤ s.high := by
      unfold length at hlength
      linarith
    have hle : max bounds.low (min (s.low + t) (s.high - least)) ≤ s.high - least :=
      max_le (by linarith) (min_le_right _ _)
    have hge := le_max_left s.high bounds.low
    linarith

lemma capped_resized_high_iff (hleast : 0 < least) (hs : s.Within bounds)
    (hlength : least ≤ s.length) (hnow : now.high ≤ bounds.high) :
    (resized least s now .high t).capped bounds = dragged least s bounds .high t ↔
      Room least s now .high t := by
  have hhigh := hs.high
  have hroom : s.low + least ≤ s.high := by
    unfold length at hlength
    linarith
  -- a pull to less than the least length should leave the least length
  have hleastDragged (h : s.pulledLength .high t < least) :
      dragged least s bounds .high t = ⟨s.low, s.low + least⟩ := by
    have hclose : s.high + t ≤ s.low + least := by
      simp only [pulledLength, length] at h
      linarith
    simp only [dragged, max_eq_right hclose, min_eq_right (hroom.trans hhigh)]
  rcases pulled_cases least (s.pulledLength .high t) with hlong | hshort | hflipped
  · have hend : s.pulledOrigin .high t + s.pulledLength .high t = s.high + t := by
      simp only [pulledOrigin, pulledLength, length]
      ring
    have hfree : s.low + least ≤ s.high + t := by
      simp only [pulledLength, length] at hlong
      linarith
    refine iff_of_true ?_ (.inl hlong)
    rw [resized_of_long hleast.le hlong, hend]
    ext
    · exact max_eq_left hs.low
    · simp only [capped, dragged, max_eq_left hfree, min_comm]
  · obtain ⟨hfar, hlt⟩ := abs_lt.mp hshort
    rw [hleastDragged hlt, resized_of_short hshort]
    constructor
    · intro heq
      have hhighs : min now.high bounds.high = s.low + least := congrArg Span.high heq
      rw [min_eq_left hnow] at hhighs
      exact .inr ⟨hfar, hhighs⟩
    · intro h
      have hnowEq : now.high = s.low + least := (h.resolve_left (not_le.mpr hlt)).2
      rw [hnowEq, add_sub_cancel_right]
      ext
      · exact max_eq_left hs.low
      · exact min_eq_left (hroom.trans hhigh)
  · have hlt : s.pulledLength .high t < least := by linarith
    refine iff_of_false (fun heq => ?_) fun h => ?_
    · rw [hleastDragged hlt, resized_of_flipped hleast.le hflipped] at heq
      -- the span now ends where it should begin
      have hhighs : min s.low bounds.high = s.low + least := congrArg Span.high heq
      have := min_le_left s.low bounds.high
      linarith
    · exact (not_lt.mpr hflipped) (h.resolve_left (not_le.mpr hlt)).1

/-- **Exactness.**  A pull from where the drag should be leads to where it should be exactly if it
leaves room. -/
theorem capped_resized_eq_dragged_iff (hleast : 0 < least) (hs : s.Within bounds)
    (hlength : least ≤ s.length) {t₀ : K} (hnow : now = dragged least s bounds e t₀) :
    (resized least s now e t).capped bounds = dragged least s bounds e t ↔
      Room least s now e t := by
  cases e with
  | neither => exact iff_of_true (capped_resized_neither hleast.le hs hlength) trivial
  | low =>
      have hhigh : now.high = s.high := by rw [hnow, dragged]
      exact capped_resized_low_iff hleast hs hlength hhigh
  | high =>
      have hhigh : now.high ≤ bounds.high := (congrArg Span.high hnow).trans_le (min_le_left _ _)
      exact capped_resized_high_iff hleast hs hlength hhigh

end Span
