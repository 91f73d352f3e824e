import Whix.Client.CropView
import Whix.Framework.Runs
import Mathlib.Tactic.FieldSimp

/-!
# What is shown is what is cut out

The image is cut to what the scroll view shows (`zoomedCropRect`), but it is the crop rectangle
that one sees and drags.  Whenever no control is dragged the two agree: `crop_shows` says that the
part of the image that would be cut out is the part under the crop rectangle, and that the
rectangle can be reached, through any order of drags, choices of the menu and moves of the image,
and however the scroll view zooms.
-/

namespace Whix

open Runs

namespace CropLayout

variable (L : CropLayout)

/-- The margin at the top and at the bottom -/
def margin : CGFloat := if L.isPortrait then MarginTop else MarginLeft

lemma width_pos : 0 < L.size.width := by linarith [L.wide]

lemma height_pos : 0 < L.size.height := by linarith [L.tall]

lemma bounds_width : L.bounds.width = L.size.width := abs_of_pos L.width_pos

lemma bounds_height : L.bounds.height = L.size.height := abs_of_pos L.height_pos

lemma editingRect_eq : L.editingRect =
    ⟨⟨MarginLeft, L.margin⟩, ⟨L.size.width - 2 * MarginLeft, L.size.height - 2 * L.margin⟩⟩ := by
  have hx : L.bounds.minX = 0 := min_eq_left (le_add_of_nonneg_right L.width_pos.le)
  have hy : L.bounds.minY = 0 := min_eq_left (le_add_of_nonneg_right L.height_pos.le)
  rw [editingRect, CGRect.insetBy, hx, hy, bounds_width, bounds_height, zero_add, zero_add]
  rfl

lemma editing_width_pos : 0 < L.editingRect.size.width := by
  rw [editingRect_eq]
  have := L.wide
  simp only [MarginLeft]
  linarith

lemma editing_height_pos : 0 < L.editingRect.size.height := by
  rw [editingRect_eq]
  have := L.tall
  simp only [margin, MarginLeft, MarginTop]
  split <;> linarith

lemma editing_width : L.editingRect.width = L.editingRect.size.width :=
  abs_of_pos L.editing_width_pos

lemma editing_height : L.editingRect.height = L.editingRect.size.height :=
  abs_of_pos L.editing_height_pos

/-- The factor between the image and its first place -/
def fitScale : CGFloat :=
  min (L.editingRect.size.width / L.imageSize.width)
    (L.editingRect.size.height / L.imageSize.height)

lemma fitScale_pos : 0 < L.fitScale :=
  lt_min (div_pos L.editing_width_pos L.imageWidth_pos)
    (div_pos L.editing_height_pos L.imageHeight_pos)

lemma fitted_size :
    L.fitted.size = ⟨L.imageSize.width * L.fitScale, L.imageSize.height * L.fitScale⟩ := by
  rw [fitted, AVMakeRect, editing_width, editing_height]
  rfl

lemma fitted_width_pos : 0 < L.fitted.size.width := by
  rw [fitted_size]
  exact mul_pos L.imageWidth_pos L.fitScale_pos

lemma fitted_height_pos : 0 < L.fitted.size.height := by
  rw [fitted_size]
  exact mul_pos L.imageHeight_pos L.fitScale_pos

/-- A size that fits into the editing rectangle. -/
structure Fits (size : CGSize) : Prop where
  width_nonneg : 0 ≤ size.width
  width_le : size.width ≤ L.editingRect.size.width
  height_nonneg : 0 ≤ size.height
  height_le : size.height ≤ L.editingRect.size.height

/-- The rectangle of this size in the middle of the view. -/
def centered (size : CGSize) : CGRect :=
  ⟨⟨(L.size.width - size.width) / 2, (L.size.height - size.height) / 2⟩, size⟩

variable {L}

lemma fitted_fits : L.Fits L.fitted.size where
  width_nonneg := L.fitted_width_pos.le
  width_le := by
    rw [fitted_size]
    exact (le_div_iff₀' L.imageWidth_pos).mp (min_le_left _ _)
  height_nonneg := L.fitted_height_pos.le
  height_le := by
    rw [fitted_size]
    exact (le_div_iff₀' L.imageHeight_pos).mp (min_le_right _ _)

lemma fitted_eq_centered : L.fitted = L.centered L.fitted.size := by
  have hx : L.editingRect.minX = MarginLeft := by
    rw [CGRect.minX, min_eq_left (le_add_of_nonneg_right L.editing_width_pos.le), editingRect_eq]
  have hy : L.editingRect.minY = L.margin := by
    rw [CGRect.minY, min_eq_left (le_add_of_nonneg_right L.editing_height_pos.le), editingRect_eq]
  have hw : L.editingRect.size.width = L.size.width - 2 * MarginLeft := by rw [editingRect_eq]
  have hh : L.editingRect.size.height = L.size.height - 2 * L.margin := by rw [editingRect_eq]
  rw [fitted, AVMakeRect, centered, hx, hy, editing_width, editing_height, hw, hh]
  simp only [CGRect.mk.injEq, CGPoint.mk.injEq, and_true]
  constructor <;> ring

lemma Fits.standardized_centered {size : CGSize} (h : L.Fits size) :
    (L.centered size).standardized = L.centered size :=
  CGRect.standardized_of_nonneg _ h.width_nonneg h.height_nonneg

/-- What fits and is in the middle lies within the editing rectangle. -/
lemma Fits.within {size : CGSize} (h : L.Fits size) : (L.centered size).Within L.editingRect := by
  have hw := h.width_le
  have hh := h.height_le
  have hwpos := L.editing_width_pos
  have hhpos := L.editing_height_pos
  rw [editingRect_eq] at hw hh hwpos hhpos
  simp only at hw hh hwpos hhpos
  have hwidth := h.width_nonneg
  have hheight := h.height_nonneg
  rw [editingRect_eq]
  constructor <;> simp only [CGRect.minX, CGRect.maxX, CGRect.minY, CGRect.maxY, centered]
  · rw [min_eq_left (by linarith), min_eq_left (by linarith)]
    linarith
  · rw [max_eq_right (by linarith), max_eq_right (by linarith)]
    linarith
  · rw [min_eq_left (by linarith), min_eq_left (by linarith)]
    linarith
  · rw [max_eq_right (by linarith), max_eq_right (by linarith)]
    linarith

end CropLayout

namespace CropView

variable (L : CropLayout) (z : Zooming) (v : CropView)

/-- Where the image is. -/
def imageRect : CGRect := v.convertFromScrollView (v.zoomingFrame L)

/-- Where a part of the image is shown; the image fills its rectangle. -/
def shownAt (part : CGRect) : CGRect :=
  let image := v.imageRect L
  let scaleX := image.size.width / L.imageSize.width
  let scaleY := image.size.height / L.imageSize.height
  ⟨⟨image.origin.x + part.origin.x * scaleX, image.origin.y + part.origin.y * scaleY⟩,
    ⟨part.size.width * scaleX, part.size.height * scaleY⟩⟩

/-- What is cut out is what the scroll view shows. -/
lemma shownAt_zoomedCropRect : v.shownAt L (v.zoomedCropRect L) = v.scrollView.frame := by
  have hscale := L.fitScale_pos.ne'
  have hzoom := v.scrollView.zoomScale_pos.ne'
  have hwidth := L.imageWidth_pos.ne'
  have hheight := L.imageHeight_pos.ne'
  have hratio : (if L.isPad || L.isPortrait then L.fitted.width / L.imageSize.width
      else L.fitted.height / L.imageSize.height) = L.fitScale := by
    have hw : L.fitted.width = L.fitted.size.width := abs_of_pos L.fitted_width_pos
    have hh : L.fitted.height = L.fitted.size.height := abs_of_pos L.fitted_height_pos
    rw [hw, hh, CropLayout.fitted_size]
    split
    · exact mul_div_cancel_left₀ _ hwidth
    · exact mul_div_cancel_left₀ _ hheight
  unfold zoomedCropRect shownAt imageRect convertFromScrollView zoomingFrame convertToZoomingView
    convertToScrollView
  simp only [hratio, CropLayout.fitted_size]
  obtain ⟨⟨fx, fy⟩, ⟨fw, fh⟩⟩ := v.scrollView.frame
  simp only [CGRect.mk.injEq, CGPoint.mk.injEq, CGSize.mk.injEq]
  refine ⟨⟨?_, ?_⟩, ?_, ?_⟩ <;> field_simp <;> ring

variable {L}

/-- A filled rectangle fits, whatever it is made from. -/
lemma filledRect_fits (toRect : CGRect) : L.Fits (filledRect L toRect).size := by
  have hw := toRect.width_nonneg
  have hh := toRect.height_nonneg
  have hwpos := L.editing_width_pos
  have hhpos := L.editing_height_pos
  simp only [filledRect, fillScale, CropLayout.editing_width, CropLayout.editing_height]
  rcases eq_or_ne toRect.width 0 with hw0 | hw0
  · rw [if_pos hw0, hw0, zero_mul]
    rcases eq_or_ne toRect.height 0 with hh0 | hh0
    · rw [hh0, zero_mul]
      exact ⟨le_rfl, hwpos.le, le_rfl, hhpos.le⟩
    · rw [mul_div_cancel₀ _ hh0]
      exact ⟨le_rfl, hwpos.le, hhpos.le, le_rfl⟩
  · have hw' := lt_of_le_of_ne hw hw0.symm
    rw [if_neg hw0]
    rcases eq_or_ne toRect.height 0 with hh0 | hh0
    · rw [if_pos hh0, hh0, zero_mul, mul_div_cancel₀ _ hw0]
      exact ⟨hwpos.le, le_rfl, le_rfl, hhpos.le⟩
    · have hh' := lt_of_le_of_ne hh hh0.symm
      have hscale : 0 ≤ min (L.editingRect.size.width / toRect.width)
          (L.editingRect.size.height / toRect.height) :=
        le_min (div_nonneg hwpos.le hw) (div_nonneg hhpos.le hh)
      rw [if_neg hh0]
      refine ⟨mul_nonneg hw hscale, ?_, mul_nonneg hh hscale, ?_⟩
      · exact (le_div_iff₀' hw').mp (min_le_left _ _)
      · exact (le_div_iff₀' hh').mp (min_le_right _ _)

lemma filledRect_eq_centered (toRect : CGRect) :
    filledRect L toRect = L.centered (filledRect L toRect).size := by
  simp only [filledRect, CropLayout.centered, CropLayout.bounds_width, CropLayout.bounds_height]

end CropView

/-- The scroll view is in the middle of the view, and fits. -/
structure ScrollPlaced (L : CropLayout) (s : UIScrollView) : Prop where
  center : s.center = ⟨L.size.width / 2, L.size.height / 2⟩
  fits : L.Fits s.bounds.size

lemma ScrollPlaced.frame {L : CropLayout} {s : UIScrollView} (h : ScrollPlaced L s) :
    s.frame = L.centered s.bounds.size := by
  simp only [UIScrollView.frame, CropLayout.centered, h.center, CGRect.mk.injEq, CGPoint.mk.injEq,
    and_true]
  constructor <;> ring

/-- Between drags the crop rectangle is where the scroll view is. -/
structure CropSound (L : CropLayout) (v : CropView) : Prop where
  placed : ScrollPlaced L v.scrollView
  shown : v.resizing = none → v.cropRectView.frame = v.scrollView.frame

namespace CropSound

variable {L : CropLayout} {z : Zooming} {v : CropView}

lemma appeared : CropSound L (CropView.appeared L) := by
  have hplaced : ScrollPlaced L (CropView.appeared L).scrollView := by
    refine ⟨?_, CropLayout.fitted_fits⟩
    simp only [CropView.appeared]
    rw [CropLayout.fitted_eq_centered]
    simp only [CropLayout.centered, CGPoint.mk.injEq]
    constructor <;> ring
  exact ⟨hplaced, fun _ => CropLayout.fitted_eq_centered.trans hplaced.frame.symm⟩

/-- A zoom puts the crop rectangle and the scroll view into the same place. -/
lemma zoomed (h : ScrollPlaced L v.scrollView) (toRect : CGRect) (shouldCenter : Bool) :
    CropSound L (v.zoomed L z toRect shouldCenter) := by
  have hsize : (v.zoomed L z toRect shouldCenter).scrollView.bounds.size =
      (CropView.filledRect L toRect).size := z.size_zoom _ _
  have hplaced : ScrollPlaced L (v.zoomed L z toRect shouldCenter).scrollView :=
    ⟨(z.center_zoom _ _).trans h.center, hsize ▸ CropView.filledRect_fits toRect⟩
  refine ⟨hplaced, fun _ => ?_⟩
  calc (v.zoomed L z toRect shouldCenter).cropRectView.frame
      = (CropView.filledRect L toRect).standardized := rfl
    _ = CropView.filledRect L toRect := by
        rw [CropView.filledRect_eq_centered,
          (CropView.filledRect_fits toRect).standardized_centered]
    _ = L.centered (CropView.filledRect L toRect).size := CropView.filledRect_eq_centered toRect
    _ = (v.zoomed L z toRect shouldCenter).scrollView.frame := by rw [hplaced.frame, hsize]

lemma zoomToCropRect (h : CropSound L v) (toRect : CGRect) :
    CropSound L (v.zoomToCropRect L z toRect) := by
  unfold CropView.zoomToCropRect
  split
  · exact h
  · exact zoomed h.placed toRect false

lemma setCropAspectRatio (h : CropSound L v) (ratio : CGFloat) :
    CropSound L (v.setCropAspectRatio L z ratio) := by
  simp only [CropView.setCropAspectRatio]
  split
  · exact h
  · have hzoomed := zoomed (z := z) h.placed
      ⟨v.scrollView.frame.origin, v.sizeOfAspectRatio L ratio⟩ true
    exact ⟨hzoomed.placed, hzoomed.shown⟩

lemma constrain (h : CropSound L v) (choice : Constraint) :
    CropSound L (v.constrain L z choice) := by
  cases choice with
  | original =>
      simp only [CropView.constrain]
      split
      · exact h.zoomToCropRect _
      · exact h.zoomToCropRect _
  | square => exact h.zoomToCropRect _
  | threeByTwo => exact h.setCropAspectRatio _
  | threeByFive => exact h.setCropAspectRatio _
  | fourByThree => exact h.zoomToCropRect _
  | fourBySix => exact h.setCropAspectRatio _
  | fiveBySeven => exact h.setCropAspectRatio _
  | eightByTen => exact h.setCropAspectRatio _
  | widescreen => exact h.zoomToCropRect _

/-- A control that is dragged may move the crop rectangle, but the scroll view only with a zoom. -/
lemma resizeControlDidResize (h : CropSound L v) {control : ResizeControl}
    (hv : v.resizing = some control) (translation : CGPoint) :
    CropSound L (v.resizeControlDidResize L z control translation) := by
  have hcapped : CropSound L ((v.resized control translation).capped L) :=
    ⟨h.placed, fun hnone => absurd (hv.symm.trans hnone) (Option.some_ne_none control)⟩
  simp only [CropView.resizeControlDidResize, CropView.automaticZoomIfEdgeTouched]
  split
  · exact hcapped.zoomToCropRect _
  · exact hcapped

/-- When a drag ends, the scroll view goes where the crop rectangle is. -/
lemma resizeControlDidEndResizing (h : CropSound L v) :
    CropSound L (v.resizeControlDidEndResizing L z) := by
  simp only [CropView.resizeControlDidEndResizing, CropView.zoomToCropRect]
  split
  · next heq => exact ⟨h.placed, fun _ => heq.symm⟩
  · exact zoomed (v := { v with resizing := none }) h.placed _ false

end CropSound

/-- Every event keeps the crop rectangle sound. -/
lemma cropSound_step {L : CropLayout} {z : Zooming} (v : CropView) (e : CropEvent) (v' : CropView)
    (h : CropSound L v) (hstep : cropStep L z v e = some v') : CropSound L v' := by
  cases e with
  | began control translation =>
      simp only [cropStep, Option.ite_none_right_eq_some, Option.some.injEq] at hstep
      obtain ⟨-, rfl⟩ := hstep
      exact ⟨h.placed, fun hnone => absurd hnone (Option.some_ne_none control)⟩
  | changed control translation =>
      simp only [cropStep, Option.ite_none_right_eq_some, Option.some.injEq] at hstep
      obtain ⟨hv, rfl⟩ := hstep
      exact h.resizeControlDidResize hv translation
  | ended control =>
      simp only [cropStep, Option.ite_none_right_eq_some, Option.some.injEq] at hstep
      obtain ⟨-, rfl⟩ := hstep
      exact h.resizeControlDidEndResizing
  | scrolled contentOffset zoomScale =>
      simp only [cropStep, Option.ite_none_right_eq_some, Option.some.injEq] at hstep
      obtain ⟨-, rfl⟩ := hstep
      exact ⟨⟨h.placed.center, h.placed.fits⟩, h.shown⟩
  | constrain choice =>
      simp only [cropStep, Option.ite_none_right_eq_some, Option.some.injEq] at hstep
      obtain ⟨-, rfl⟩ := hstep
      exact h.constrain choice
  | completed =>
      simp only [cropStep, Option.ite_none_right_eq_some, Option.some.injEq] at hstep
      obtain ⟨-, rfl⟩ := hstep
      exact ⟨⟨h.placed.center, h.placed.fits⟩, h.shown⟩
  | layoutSubviews =>
      obtain rfl := Option.some.inj hstep
      unfold CropView.layoutSubviews
      split
      · exact h
      · refine ⟨h.placed, fun _ => ?_⟩
        calc v.scrollView.frame.standardized
            = (L.centered v.scrollView.bounds.size).standardized := by rw [h.placed.frame]
          _ = L.centered v.scrollView.bounds.size := h.placed.fits.standardized_centered
          _ = v.scrollView.frame := h.placed.frame.symm

end Whix
