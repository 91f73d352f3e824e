import Mathlib.Algebra.Field.Rat
import Mathlib.Algebra.Order.Ring.Rat
import Mathlib.Tactic.Ring
import Mathlib.Tactic.Linarith

/-!
# Points, rectangles and transforms

What the photo editor uses of Core Graphics.  A `CGFloat` is a rational number, so there is no
rounding.  The size of a `CGRect` may be negative; its edges and its width and height are those of
the standardized rectangle.
-/

namespace Whix

/-- `CGFloat`, without rounding -/
abbrev CGFloat := ℚ

/-- `CGPoint` -/
structure CGPoint where
  x : CGFloat
  y : CGFloat
  deriving DecidableEq

/-- `CGSize` -/
structure CGSize where
  width : CGFloat
  height : CGFloat
  deriving DecidableEq

/-- `CGRect` -/
structure CGRect where
  origin : CGPoint
  size : CGSize
  deriving DecidableEq

namespace CGRect

variable (r : CGRect)

/-- `minX` -/
def minX : CGFloat := min r.origin.x (r.origin.x + r.size.width)

/-- `maxX` -/
def maxX : CGFloat := max r.origin.x (r.origin.x + r.size.width)

/-- `minY` -/
def minY : CGFloat := min r.origin.y (r.origin.y + r.size.height)

/-- `maxY` -/
def maxY : CGFloat := max r.origin.y (r.origin.y + r.size.height)

/-- `width` -/
def width : CGFloat := |r.size.width|

/-- `height` -/
def height : CGFloat := |r.size.height|

/-- `contains(_:)` -/
def contains (p : CGPoint) : Bool :=
  r.minX ≤ p.x ∧ p.x < r.maxX ∧ r.minY ≤ p.y ∧ p.y < r.maxY

/-- `standardized` -/
def standardized : CGRect := ⟨⟨r.minX, r.minY⟩, ⟨r.width, r.height⟩⟩

/-- `insetBy(dx:dy:)`, as long as there is something left -/
def insetBy (dx dy : CGFloat) : CGRect :=
  ⟨⟨r.minX + dx, r.minY + dy⟩, ⟨r.width - 2 * dx, r.height - 2 * dy⟩⟩

/-- The rectangle lies within another one. -/
structure Within (s : CGRect) : Prop where
  minX : s.minX ≤ r.minX
  maxX : r.maxX ≤ s.maxX
  minY : s.minY ≤ r.minY
  maxY : r.maxY ≤ s.maxY

lemma minX_add_width : r.minX + r.width = r.maxX := by
  unfold minX width maxX
  rcases le_total 0 r.size.width with h | h
  · rw [abs_of_nonneg h, min_eq_left (by linarith), max_eq_right (by linarith)]
  · rw [abs_of_nonpos h, min_eq_right (by linarith), max_eq_left (by linarith)]
    ring

lemma minY_add_height : r.minY + r.height = r.maxY := by
  unfold minY height maxY
  rcases le_total 0 r.size.height with h | h
  · rw [abs_of_nonneg h, min_eq_left (by linarith), max_eq_right (by linarith)]
  · rw [abs_of_nonpos h, min_eq_right (by linarith), max_eq_left (by linarith)]
    ring

@[simp] lemma width_nonneg : 0 ≤ r.width := abs_nonneg _

@[simp] lemma height_nonneg : 0 ≤ r.height := abs_nonneg _

/-- A rectangle of nonnegative size is standardized. -/
lemma standardized_of_nonneg (hw : 0 ≤ r.size.width) (hh : 0 ≤ r.size.height) :
    r.standardized = r := by
  obtain ⟨⟨x, y⟩, ⟨w, h⟩⟩ := r
  simp only [standardized, minX, minY, width, height, mk.injEq, CGPoint.mk.injEq, CGSize.mk.injEq]
  exact ⟨⟨min_eq_left (by linarith), min_eq_left (by linarith)⟩, abs_of_nonneg hw, abs_of_nonneg hh⟩

end CGRect

/-- `CGAffineTransform` -/
structure CGAffineTransform where
  a : CGFloat
  b : CGFloat
  c : CGFloat
  d : CGFloat
  tx : CGFloat
  ty : CGFloat
  deriving DecidableEq

namespace CGAffineTransform

variable (t : CGAffineTransform)

/-- `identity` -/
def identity : CGAffineTransform := ⟨1, 0, 0, 1, 0, 0⟩

/-- `scaledBy(x:y:)` with one factor -/
def scaledBy (s : CGFloat) : CGAffineTransform :=
  { t with a := s * t.a, b := s * t.b, c := s * t.c, d := s * t.d }

/-- `rotated(by:)`, by the cosine and the sine of the angle -/
def rotated (cos sin : CGFloat) : CGAffineTransform :=
  { t with
    a := cos * t.a + sin * t.c
    b := cos * t.b + sin * t.d
    c := cos * t.c - sin * t.a
    d := cos * t.d - sin * t.b }

@[simp] lemma scaledBy_one : t.scaledBy 1 = t := by
  simp [scaledBy]

/-- Factors multiply. -/
lemma scaledBy_scaledBy (s s' : CGFloat) : (t.scaledBy s).scaledBy s' = t.scaledBy (s * s') := by
  simp only [scaledBy, mk.injEq, and_self, and_true]
  refine ⟨?_, ?_, ?_, ?_⟩ <;> ring

/-- Scaling and rotating commute. -/
lemma rotated_scaledBy (s cos sin : CGFloat) :
    (t.scaledBy s).rotated cos sin = (t.rotated cos sin).scaledBy s := by
  simp only [scaledBy, rotated, mk.injEq, and_self, and_true]
  refine ⟨?_, ?_, ?_, ?_⟩ <;> ring

end CGAffineTransform

end Whix
