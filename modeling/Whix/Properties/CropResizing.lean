import Whix.Properties.CropShown
import Whix.Framework.Spans

/-!
# Dragging a control of the crop rectangle

A drag should move the sides of the crop rectangle that belong to the control, up to the border of
the image and down to a least size, and leave the other sides alone.  The code computes every frame
from the frame at the beginning and the translation; only a rectangle that would be too small is
put beside the *last* frame.

`follows_iff` is exact: throughout a run of the crop screen the rectangle is where its drag should
have brought it if and only if every move leaves room (in particular the right or the lower side is
not pulled to less than the least size, unless the rectangle is that small already) and does not
make the view zoom.  In any case the rectangle stays within the image (`drag_inside`).
-/

namespace Whix

open Runs

namespace CGRect

variable (r : CGRect)

/-- The left and the right side -/
def xSpan : Span CGFloat := ⟨r.minX, r.maxX⟩

/-- The upper and the lower side -/
def ySpan : Span CGFloat := ⟨r.minY, r.maxY⟩

lemma xSpan_mk (x y w h : CGFloat) : (⟨⟨x, y⟩, ⟨w, h⟩⟩ : CGRect).xSpan = Span.of x w := rfl

lemma ySpan_mk (x y w h : CGFloat) : (⟨⟨x, y⟩, ⟨w, h⟩⟩ : CGRect).ySpan = Span.of y h := rfl

lemma length_xSpan : r.xSpan.length = r.width := sub_eq_iff_eq_add'.mpr r.minX_add_width.symm

lemma length_ySpan : r.ySpan.length = r.height := sub_eq_iff_eq_add'.mpr r.minY_add_height.symm

@[simp] lemma xSpan_standardized : r.standardized.xSpan = r.xSpan := by
  have h : Span.of r.minX r.width = ⟨r.minX, r.minX + r.width⟩ := Span.of_of_nonneg r.width_nonneg
  rw [minX_add_width] at h
  exact h

@[simp] lemma ySpan_standardized : r.standardized.ySpan = r.ySpan := by
  have h : Span.of r.minY r.height = ⟨r.minY, r.minY + r.height⟩ :=
    Span.of_of_nonneg r.height_nonneg
  rw [minY_add_height] at h
  exact h

variable {r}

lemma Within.xSpan {s : CGRect} (h : r.Within s) : r.xSpan.Within s.xSpan := ⟨h.minX, h.maxX⟩

lemma Within.ySpan {s : CGRect} (h : r.Within s) : r.ySpan.Within s.ySpan := ⟨h.minY, h.maxY⟩

end CGRect

namespace ResizeControl

/-- The side that the control moves horizontally -/
def horizontal : ResizeControl → Span.End
  | .topEdge => .neither
  | .leftEdge => .low
  | .bottomEdge => .neither
  | .rightEdge => .high
  | .topLeftCorner => .low
  | .topRightCorner => .high
  | .bottomLeftCorner => .low
  | .bottomRightCorner => .high

/-- The side that the control moves vertically -/
def vertical : ResizeControl → Span.End
  | .topEdge => .low
  | .leftEdge => .neither
  | .bottomEdge => .high
  | .rightEdge => .neither
  | .topLeftCorner => .low
  | .topRightCorner => .low
  | .bottomLeftCorner => .high
  | .bottomRightCorner => .high

end ResizeControl

namespace CropRectView

variable {view : CropRectView} (control : ResizeControl) (translation : CGPoint)

lemma minWidth_pos : 0 < minWidth := by norm_num [minWidth, ResizeControl.side]

lemma minHeight_pos : 0 < minHeight := by norm_num [minHeight, ResizeControl.side]

/-- Without a fixed aspect ratio a control pulls its sides. -/
lemma draggedRect_eq (h : view.keepAspectRatio = false) :
    view.draggedRect control translation =
      ⟨⟨view.initialRect.xSpan.pulledOrigin control.horizontal translation.x,
        view.initialRect.ySpan.pulledOrigin control.vertical translation.y⟩,
        ⟨view.initialRect.xSpan.pulledLength control.horizontal translation.x,
          view.initialRect.ySpan.pulledLength control.vertical translation.y⟩⟩ := by
  cases control <;>
    simp only [draggedRect, h, Bool.false_eq_true, if_false, ResizeControl.horizontal,
      ResizeControl.vertical, Span.pulledOrigin, Span.pulledLength, CGRect.length_xSpan,
      CGRect.length_ySpan] <;> rfl

/-- The rectangle that is dragged, made large enough; the last part of
`cropRectWithResizeControlView` finds nothing to change. -/
lemma cropRectWithResizeControlView_eq :
    view.cropRectWithResizeControlView control translation =
      let rect := view.draggedRect control translation
      ⟨⟨if rect.width < minWidth then view.frame.maxX - minWidth else rect.origin.x,
        if rect.height < minHeight then view.frame.maxY - minHeight else rect.origin.y⟩,
        ⟨if rect.width < minWidth then minWidth else rect.size.width,
          if rect.height < minHeight then minHeight else rect.size.height⟩⟩ := by
  have hminW : |minWidth| = minWidth := abs_of_pos minWidth_pos
  have hminH : |minHeight| = minHeight := abs_of_pos minHeight_pos
  simp only [cropRectWithResizeControlView]
  generalize view.draggedRect control translation = rect
  obtain ⟨⟨x, y⟩, ⟨w, h⟩⟩ := rect
  simp only [CGRect.width, CGRect.height]
  by_cases hw : |w| < minWidth <;> by_cases hh : |h| < minHeight <;>
    simp [hw, hh, hminW, hminH]

variable {control translation}

lemma xSpan_cropRect (h : view.keepAspectRatio = false) :
    (view.cropRectWithResizeControlView control translation).xSpan =
      Span.resized minWidth view.initialRect.xSpan view.frame.xSpan control.horizontal
        translation.x := by
  rw [cropRectWithResizeControlView_eq, CGRect.xSpan_mk, Span.of_ite minWidth_pos.le,
    draggedRect_eq _ _ h]
  exact if_congr Iff.rfl rfl rfl

lemma ySpan_cropRect (h : view.keepAspectRatio = false) :
    (view.cropRectWithResizeControlView control translation).ySpan =
      Span.resized minHeight view.initialRect.ySpan view.frame.ySpan control.vertical
        translation.y := by
  rw [cropRectWithResizeControlView_eq, CGRect.ySpan_mk, Span.of_ite minHeight_pos.le,
    draggedRect_eq _ _ h]
  exact if_congr Iff.rfl rfl rfl

end CropRectView

namespace CropView

variable (L : CropLayout) (v : CropView)

/-! ## The image as the bounds of a drag -/

lemma zooming_width_nonneg : 0 ≤ (v.zoomingFrame L).size.width :=
  (mul_pos v.scrollView.zoomScale_pos L.fitted_width_pos).le

lemma zooming_height_nonneg : 0 ≤ (v.zoomingFrame L).size.height :=
  (mul_pos v.scrollView.zoomScale_pos L.fitted_height_pos).le

lemma xSpan_imageRect_le : (v.imageRect L).xSpan.low ≤ (v.imageRect L).xSpan.high := min_le_max

lemma ySpan_imageRect_le : (v.imageRect L).ySpan.low ≤ (v.imageRect L).ySpan.high := min_le_max

/-- Seen from the scroll view, the image begins at zero. -/
lemma convert_x {rect : CGRect} (h : 0 ≤ rect.size.width) :
    ((v.zoomingFrame L).minX = 0 ∧
      (v.zoomingFrame L).maxX = (v.imageRect L).maxX - (v.imageRect L).minX) ∧
    (v.convertToScrollView rect).minX = rect.minX - (v.imageRect L).minX ∧
      (v.convertToScrollView rect).maxX = rect.maxX - (v.imageRect L).minX := by
  have himage := v.zooming_width_nonneg L
  simp only [imageRect, convertToScrollView, convertFromScrollView, CGRect.minX, CGRect.maxX]
  rw [min_eq_left (le_add_of_nonneg_right h), max_eq_right (le_add_of_nonneg_right h),
    min_eq_left (le_add_of_nonneg_right h), max_eq_right (le_add_of_nonneg_right h),
    min_eq_left (le_add_of_nonneg_right himage), max_eq_right (le_add_of_nonneg_right himage),
    min_eq_left (le_add_of_nonneg_right himage), max_eq_right (le_add_of_nonneg_right himage)]
  refine ⟨⟨rfl, ?_⟩, ?_, ?_⟩ <;> simp only [zoomingFrame] <;> ring

lemma convert_y {rect : CGRect} (h : 0 ≤ rect.size.height) :
    ((v.zoomingFrame L).minY = 0 ∧
      (v.zoomingFrame L).maxY = (v.imageRect L).maxY - (v.imageRect L).minY) ∧
    (v.convertToScrollView rect).minY = rect.minY - (v.imageRect L).minY ∧
      (v.convertToScrollView rect).maxY = rect.maxY - (v.imageRect L).minY := by
  have himage := v.zooming_height_nonneg L
  simp only [imageRect, convertToScrollView, convertFromScrollView, CGRect.minY, CGRect.maxY]
  rw [min_eq_left (le_add_of_nonneg_right h), max_eq_right (le_add_of_nonneg_right h),
    min_eq_left (le_add_of_nonneg_right h), max_eq_right (le_add_of_nonneg_right h),
    min_eq_left (le_add_of_nonneg_right himage), max_eq_right (le_add_of_nonneg_right himage),
    min_eq_left (le_add_of_nonneg_right himage), max_eq_right (le_add_of_nonneg_right himage)]
  refine ⟨⟨rfl, ?_⟩, ?_, ?_⟩ <;> simp only [zoomingFrame] <;> ring

variable {L v}

/-- The rectangle that is capped, when the aspect ratio is free. -/
lemma cappedCropRect_eq (hkeep : v.cropRectView.keepAspectRatio = false) :
    v.cappedCropRectInImageRectWithCropRectView L =
      let cropRect := v.cropRectView.frame
      let rect := v.convertToScrollView cropRect
      let zooming := v.zoomingFrame L
      let image := v.imageRect L
      let x := if rect.minX < zooming.minX then image.minX else cropRect.origin.x
      let y := if rect.minY < zooming.minY then image.minY else cropRect.origin.y
      let width := if rect.minX < zooming.minX then rect.maxX else cropRect.size.width
      let height := if rect.minY < zooming.minY then rect.maxY else cropRect.size.height
      ⟨⟨x, y⟩,
        ⟨if zooming.maxX < rect.maxX then image.maxX - min x (x + width) else width,
          if zooming.maxY < rect.maxY then image.maxY - min y (y + height) else height⟩⟩ := by
  simp only [cappedCropRectInImageRectWithCropRectView, cappedToWidth, cappedToHeight, hkeep,
    Bool.not_false, if_true]
  split_ifs <;> rfl

lemma xSpan_cappedCropRect (hkeep : v.cropRectView.keepAspectRatio = false)
    (hw : 0 ≤ v.cropRectView.frame.size.width)
    (hmeets : v.cropRectView.frame.xSpan.Meets (v.imageRect L).xSpan) :
    (v.cappedCropRectInImageRectWithCropRectView L).xSpan =
      v.cropRectView.frame.xSpan.capped (v.imageRect L).xSpan := by
  obtain ⟨⟨hzoomMin, hzoomMax⟩, hrectMin, hrectMax⟩ := v.convert_x L hw
  have horigin : v.cropRectView.frame.origin.x = v.cropRectView.frame.minX :=
    (min_eq_left (le_add_of_nonneg_right hw)).symm
  have hsize : v.cropRectView.frame.size.width =
      v.cropRectView.frame.maxX - v.cropRectView.frame.minX :=
    (abs_of_nonneg hw).symm.trans v.cropRectView.frame.length_xSpan.symm
  rw [cappedCropRect_eq hkeep]
  simp only [CGRect.xSpan_mk, hzoomMin, hzoomMax, hrectMin, hrectMax, sub_neg, sub_lt_sub_iff_right,
    horigin, hsize]
  exact Span.of_eq_capped min_le_max (v.xSpan_imageRect_le L) hmeets rfl rfl

lemma ySpan_cappedCropRect (hkeep : v.cropRectView.keepAspectRatio = false)
    (hh : 0 ≤ v.cropRectView.frame.size.height)
    (hmeets : v.cropRectView.frame.ySpan.Meets (v.imageRect L).ySpan) :
    (v.cappedCropRectInImageRectWithCropRectView L).ySpan =
      v.cropRectView.frame.ySpan.capped (v.imageRect L).ySpan := by
  obtain ⟨⟨hzoomMin, hzoomMax⟩, hrectMin, hrectMax⟩ := v.convert_y L hh
  have horigin : v.cropRectView.frame.origin.y = v.cropRectView.frame.minY :=
    (min_eq_left (le_add_of_nonneg_right hh)).symm
  have hsize : v.cropRectView.frame.size.height =
      v.cropRectView.frame.maxY - v.cropRectView.frame.minY :=
    (abs_of_nonneg hh).symm.trans v.cropRectView.frame.length_ySpan.symm
  rw [cappedCropRect_eq hkeep]
  simp only [CGRect.ySpan_mk, hzoomMin, hzoomMax, hrectMin, hrectMax, sub_neg, sub_lt_sub_iff_right,
    horigin, hsize]
  exact Span.of_eq_capped min_le_max (v.ySpan_imageRect_le L) hmeets rfl rfl

/-! ## One move -/

section Move

variable (control : ResizeControl) (translation : CGPoint)

/-- A move pulls the left or the right side, within the image. -/
lemma xSpan_capped_resized (hkeep : v.cropRectView.keepAspectRatio = false)
    (hinitial : v.cropRectView.initialRect.xSpan.Within (v.imageRect L).xSpan)
    (hinside : v.cropRectView.frame.xSpan.Within (v.imageRect L).xSpan) :
    ((v.resized control translation).capped L).cropRectView.frame.xSpan =
      (Span.resized CropRectView.minWidth v.cropRectView.initialRect.xSpan
        v.cropRectView.frame.xSpan control.horizontal
        (v.translation control translation).x).capped (v.imageRect L).xSpan := by
  have hresized : (v.resized control translation).cropRectView.frame.xSpan =
      Span.resized CropRectView.minWidth v.cropRectView.initialRect.xSpan
        v.cropRectView.frame.xSpan control.horizontal (v.translation control translation).x :=
    (CGRect.xSpan_standardized _).trans (CropRectView.xSpan_cropRect hkeep)
  have hmeets := Span.resized_meets (e := control.horizontal)
    (t := (v.translation control translation).x) CropRectView.minWidth_pos.le hinitial min_le_max
    hinside min_le_max
  rw [← hresized] at hmeets ⊢
  exact (CGRect.xSpan_standardized _).trans
    (xSpan_cappedCropRect (v := v.resized control translation) hkeep (CGRect.width_nonneg _) hmeets)

/-- A move pulls the upper or the lower side, within the image. -/
lemma ySpan_capped_resized (hkeep : v.cropRectView.keepAspectRatio = false)
    (hinitial : v.cropRectView.initialRect.ySpan.Within (v.imageRect L).ySpan)
    (hinside : v.cropRectView.frame.ySpan.Within (v.imageRect L).ySpan) :
    ((v.resized control translation).capped L).cropRectView.frame.ySpan =
      (Span.resized CropRectView.minHeight v.cropRectView.initialRect.ySpan
        v.cropRectView.frame.ySpan control.vertical
        (v.translation control translation).y).capped (v.imageRect L).ySpan := by
  have hresized : (v.resized control translation).cropRectView.frame.ySpan =
      Span.resized CropRectView.minHeight v.cropRectView.initialRect.ySpan
        v.cropRectView.frame.ySpan control.vertical (v.translation control translation).y :=
    (CGRect.ySpan_standardized _).trans (CropRectView.ySpan_cropRect hkeep)
  have hmeets := Span.resized_meets (e := control.vertical)
    (t := (v.translation control translation).y) CropRectView.minHeight_pos.le hinitial min_le_max
    hinside min_le_max
  rw [← hresized] at hmeets ⊢
  exact (CGRect.ySpan_standardized _).trans
    (ySpan_cappedCropRect (v := v.resized control translation) hkeep (CGRect.height_nonneg _)
      hmeets)

/-- A move keeps the rectangle within the image. -/
lemma capped_resized_within (hkeep : v.cropRectView.keepAspectRatio = false)
    (hinitial : v.cropRectView.initialRect.Within (v.imageRect L))
    (hinside : v.cropRectView.frame.Within (v.imageRect L)) :
    ((v.resized control translation).capped L).cropRectView.frame.Within (v.imageRect L) := by
  have hx := xSpan_capped_resized control translation hkeep
    hinitial.xSpan hinside.xSpan
  have hy := ySpan_capped_resized control translation hkeep
    hinitial.ySpan hinside.ySpan
  have hxWithin := (Span.capped_within (Span.resized_meets (e := control.horizontal)
    (t := (v.translation control translation).x) CropRectView.minWidth_pos.le hinitial.xSpan
    min_le_max hinside.xSpan min_le_max) (Span.resized_le CropRectView.minWidth_pos.le)
    (v.xSpan_imageRect_le L)).1
  have hyWithin := (Span.capped_within (Span.resized_meets (e := control.vertical)
    (t := (v.translation control translation).y) CropRectView.minHeight_pos.le hinitial.ySpan
    min_le_max hinside.ySpan min_le_max) (Span.resized_le CropRectView.minHeight_pos.le)
    (v.ySpan_imageRect_le L)).1
  rw [← hx] at hxWithin
  rw [← hy] at hyWithin
  exact ⟨hxWithin.low, hxWithin.high, hyWithin.low, hyWithin.high⟩

end Move

/-- What a drag keeps between its moves -/
def dragState (v : CropView) : Option ResizeControl × Bool × CGRect :=
  (v.resizing, v.cropRectView.keepAspectRatio, v.cropRectView.initialRect)

variable {z : Zooming}

lemma dragState_zoomToCropRect (toRect : CGRect) :
    (v.zoomToCropRect L z toRect).dragState = v.dragState := by
  unfold zoomToCropRect
  split <;> rfl

lemma dragState_setCropAspectRatio (ratio : CGFloat) :
    (v.setCropAspectRatio L z ratio).dragState = v.dragState := by
  simp only [setCropAspectRatio]
  split <;> rfl

lemma dragState_constrain (choice : Constraint) :
    (v.constrain L z choice).dragState = v.dragState := by
  cases choice with
  | original =>
      simp only [constrain]
      split
      · exact dragState_zoomToCropRect _
      · exact dragState_zoomToCropRect _
  | square => exact dragState_zoomToCropRect _
  | threeByTwo => exact dragState_setCropAspectRatio _
  | threeByFive => exact dragState_setCropAspectRatio _
  | fourByThree => exact dragState_zoomToCropRect _
  | fourBySix => exact dragState_setCropAspectRatio _
  | fiveBySeven => exact dragState_setCropAspectRatio _
  | eightByTen => exact dragState_setCropAspectRatio _
  | widescreen => exact dragState_zoomToCropRect _

lemma dragState_resizeControlDidResize (control : ResizeControl) (translation : CGPoint) :
    (v.resizeControlDidResize L z control translation).dragState = v.dragState := by
  simp only [resizeControlDidResize, automaticZoomIfEdgeTouched]
  split
  · exact dragState_zoomToCropRect _
  · rfl

/-- A move that does not make the view zoom. -/
lemma resizeControlDidResize_of_not_touched {control : ResizeControl} {translation : CGPoint}
    (h : edgeTouched L
      ((v.resized control translation).cappedCropRectInImageRectWithCropRectView L) = false) :
    v.resizeControlDidResize L z control translation =
      (v.resized control translation).capped L := by
  simp only [resizeControlDidResize, automaticZoomIfEdgeTouched, h, Bool.false_eq_true, if_false]

end CropView

/-! ## Drags -/

/-- A drag, as far as it has come. -/
structure Drag where
  /-- the view before the drag -/
  start : CropView
  control : ResizeControl
  /-- the translation that the control was given last -/
  translation : CGPoint
  /-- the rectangle has come near the border of the screen, which makes the view zoom -/
  zoomed : Bool

/-- Keep book of the drag that is going on. -/
def recordDrag (L : CropLayout) (v : CropView) (drag : Option Drag) (e : CropEvent)
    (_ : CropView) : Option Drag :=
  match e with
  | .began control _ => some ⟨v, control, ⟨0, 0⟩, false⟩
  | .changed control translation =>
      drag.map fun d =>
        { d with
          translation := v.translation control translation
          zoomed := d.zoomed || CropView.edgeTouched L
            ((v.resized control translation).cappedCropRectInImageRectWithCropRectView L) }
  | .ended _ => none
  | _ => drag

/-- A rectangle that can be dragged: within the image, and not too small. -/
structure Draggable (L : CropLayout) (v : CropView) : Prop where
  within : v.cropRectView.frame.Within (v.imageRect L)
  wide : CropRectView.minWidth ≤ v.cropRectView.frame.width
  tall : CropRectView.minHeight ≤ v.cropRectView.frame.height

lemma Draggable.le_length_xSpan {L : CropLayout} {v : CropView} (h : Draggable L v) :
    CropRectView.minWidth ≤ v.cropRectView.frame.xSpan.length :=
  h.wide.trans_eq (CGRect.length_xSpan _).symm

lemma Draggable.le_length_ySpan {L : CropLayout} {v : CropView} (h : Draggable L v) :
    CropRectView.minHeight ≤ v.cropRectView.frame.ySpan.length :=
  h.tall.trans_eq (CGRect.length_ySpan _).symm

namespace Drag

variable (L : CropLayout) (d : Drag)

/-- Where the left and the right side should be -/
def xTarget : Span CGFloat :=
  Span.dragged CropRectView.minWidth d.start.cropRectView.frame.xSpan (d.start.imageRect L).xSpan
    d.control.horizontal d.translation.x

/-- Where the upper and the lower side should be -/
def yTarget : Span CGFloat :=
  Span.dragged CropRectView.minHeight d.start.cropRectView.frame.ySpan (d.start.imageRect L).ySpan
    d.control.vertical d.translation.y

/-- The view has not zoomed, and the rectangle is where the drag should have brought it. -/
structure OnTarget (v : CropView) : Prop where
  zoomed : d.zoomed = false
  x : v.cropRectView.frame.xSpan = d.xTarget L
  y : v.cropRectView.frame.ySpan = d.yTarget L

end Drag

/-- The rectangle is where its drag should have brought it. -/
def Follows (L : CropLayout) (s : CropView × Option Drag) : Prop :=
  ∀ d, s.2 = some d → Draggable L d.start → d.OnTarget L s.1

/-- While the view does not zoom, the rectangle stays within the image. -/
def StaysInside (L : CropLayout) (s : CropView × Option Drag) : Prop :=
  ∀ d, s.2 = some d → Draggable L d.start → d.zoomed = false →
    s.1.cropRectView.frame.Within (s.1.imageRect L)

/-- A move leaves room on both axes, and does not make the view zoom. -/
structure MoveHasRoom (L : CropLayout) (d : Drag) (v : CropView) (control : ResizeControl)
    (translation : CGPoint) : Prop where
  x : Span.Room CropRectView.minWidth d.start.cropRectView.frame.xSpan v.cropRectView.frame.xSpan
    control.horizontal (v.translation control translation).x
  y : Span.Room CropRectView.minHeight d.start.cropRectView.frame.ySpan v.cropRectView.frame.ySpan
    control.vertical (v.translation control translation).y
  untouched : CropView.edgeTouched L
    ((v.resized control translation).cappedCropRectInImageRectWithCropRectView L) = false

/-- Every move of a drag has room. -/
def HasRoom (L : CropLayout) (s : CropView × Option Drag) : CropEvent → Prop
  | .changed control translation =>
      ∀ d, s.2 = some d → Draggable L d.start → MoveHasRoom L d s.1 control translation
  | _ => True

/-- What is known of the drag that is going on. -/
structure DragKnown (L : CropLayout) (s : CropView × Option Drag) : Prop where
  resizing : s.1.resizing = s.2.map Drag.control
  keep : s.1.cropRectView.keepAspectRatio = false
  initial : ∀ d, s.2 = some d → s.1.cropRectView.initialRect = d.start.cropRectView.frame
  image : ∀ d, s.2 = some d → d.zoomed = false → s.1.imageRect L = d.start.imageRect L
  inside : StaysInside L s

section Steps

variable {L : CropLayout} {z : Zooming} {s s' : CropView × Option Drag}

lemma dragKnown_rest {v : CropView} (hresizing : v.resizing = none)
    (hkeep : v.cropRectView.keepAspectRatio = false) : DragKnown L (v, none) where
  resizing := hresizing
  keep := hkeep
  initial := by rintro _ ⟨⟩
  image := by rintro _ ⟨⟩
  inside := by rintro _ ⟨⟩

/-- Without a control that is dragged there is no drag. -/
lemma DragKnown.eq_none (h : DragKnown L s) (hnone : s.1.resizing = none) : s.2 = none :=
  Option.map_eq_none_iff.mp (h.resizing.symm.trans hnone)

/-- The control that is dragged is that of the drag. -/
lemma DragKnown.exists_drag (h : DragKnown L s) {control : ResizeControl}
    (hsome : s.1.resizing = some control) : ∃ d, s.2 = some d ∧ d.control = control :=
  Option.map_eq_some_iff.mp (h.resizing.symm.trans hsome)

/-- The drag after a move -/
abbrev Drag.moved (L : CropLayout) (d : Drag) (v : CropView) (translation : CGPoint) : Drag :=
  { d with
    translation := v.translation d.control translation
    zoomed := d.zoomed || CropView.edgeTouched L
      ((v.resized d.control translation).cappedCropRectInImageRectWithCropRectView L) }

lemma DragKnown.moved (h : DragKnown L s) {d : Drag} (hd : s.2 = some d) (translation : CGPoint) :
    DragKnown L (s.1.resizeControlDidResize L z d.control translation,
      some (d.moved L s.1 translation)) := by
  have hstate := CropView.dragState_resizeControlDidResize (L := L) (z := z) (v := s.1) d.control
    translation
  simp only [CropView.dragState, Prod.mk.injEq] at hstate
  obtain ⟨hresizing, hkeep, hinitial⟩ := hstate
  -- a drag that has not zoomed by now has not zoomed with this move either
  have huntouched (hzoomed : (d.moved L s.1 translation).zoomed = false) : d.zoomed = false ∧
      s.1.resizeControlDidResize L z d.control translation =
        (s.1.resized d.control translation).capped L := by
    obtain ⟨hd, htouched⟩ := Bool.or_eq_false_iff.mp hzoomed
    exact ⟨hd, CropView.resizeControlDidResize_of_not_touched htouched⟩
  refine ⟨?_, hkeep.trans h.keep, ?_, ?_, ?_⟩
  · rw [hresizing, h.resizing, hd]
    rfl
  · rintro _ ⟨⟩
    exact hinitial.trans (h.initial d hd)
  · rintro _ ⟨⟩ hzoomed
    obtain ⟨hzoomed, heq⟩ := huntouched hzoomed
    rw [heq]
    exact h.image d hd hzoomed
  · rintro _ ⟨⟩ hdrag hzoomed
    obtain ⟨hzoomed, heq⟩ := huntouched hzoomed
    have himage := h.image d hd hzoomed
    rw [heq]
    refine CropView.capped_resized_within d.control translation h.keep ?_
      (h.inside d hd hdrag hzoomed)
    rw [h.initial d hd, himage]
    exact hdrag.within

lemma dragKnown_step (s : CropView × Option Drag) (e : CropEvent) (s' : CropView × Option Drag)
    (h : DragKnown L s) (hstep : withHistory (recordDrag L) (cropStep L z) s e = some s') :
    DragKnown L s' := by
  obtain ⟨v, drag⟩ := s
  obtain ⟨v', hv', rfl⟩ := Option.map_eq_some_iff.mp hstep
  cases e with
  | began control translation =>
      simp only [cropStep, Option.ite_none_right_eq_some, Option.some.injEq] at hv'
      obtain ⟨-, rfl⟩ := hv'
      refine ⟨rfl, h.keep, ?_, ?_, ?_⟩
      · rintro _ ⟨⟩
        rfl
      · rintro _ ⟨⟩ -
        rfl
      · rintro _ ⟨⟩ hdrag -
        exact hdrag.within
  | changed control translation =>
      simp only [cropStep, Option.ite_none_right_eq_some, Option.some.injEq] at hv'
      obtain ⟨hresizing, rfl⟩ := hv'
      obtain ⟨d, hd, rfl⟩ := h.exists_drag hresizing
      obtain rfl : drag = some d := hd
      exact h.moved rfl translation
  | ended control =>
      simp only [cropStep, Option.ite_none_right_eq_some, Option.some.injEq] at hv'
      obtain ⟨-, rfl⟩ := hv'
      have hstate := CropView.dragState_zoomToCropRect (L := L) (z := z)
        (v := { v with resizing := none }) v.cropRectView.frame
      simp only [CropView.dragState, Prod.mk.injEq] at hstate
      exact dragKnown_rest hstate.1 (hstate.2.1.trans h.keep)
  | scrolled contentOffset zoomScale =>
      simp only [cropStep, Option.ite_none_right_eq_some, Option.some.injEq] at hv'
      obtain ⟨hnone, rfl⟩ := hv'
      obtain rfl : drag = none := h.eq_none hnone
      exact dragKnown_rest hnone h.keep
  | constrain choice =>
      simp only [cropStep, Option.ite_none_right_eq_some, Option.some.injEq] at hv'
      obtain ⟨hnone, rfl⟩ := hv'
      obtain rfl : drag = none := h.eq_none hnone
      have hstate := CropView.dragState_constrain (L := L) (z := z) (v := v) choice
      simp only [CropView.dragState, Prod.mk.injEq] at hstate
      exact dragKnown_rest (hstate.1.trans hnone) (hstate.2.1.trans h.keep)
  | completed =>
      simp only [cropStep, Option.ite_none_right_eq_some, Option.some.injEq] at hv'
      obtain ⟨-, rfl⟩ := hv'
      exact ⟨h.resizing, h.keep, h.initial, h.image, h.inside⟩
  | layoutSubviews =>
      obtain rfl := Option.some.inj hv'
      unfold CropView.layoutSubviews
      split
      · exact h
      · next hsome =>
          have hnone : v.resizing = none := Option.not_isSome_iff_eq_none.mp hsome
          obtain rfl : drag = none := h.eq_none hnone
          exact dragKnown_rest hnone h.keep

/-- A move from where the drag should be leads to where it should be exactly if it has room. -/
lemma onTarget_moved_iff (h : DragKnown L s) {d : Drag} (hd : s.2 = some d)
    (hdrag : Draggable L d.start) (hon : d.OnTarget L s.1) (translation : CGPoint) :
    (d.moved L s.1 translation).OnTarget L
        (s.1.resizeControlDidResize L z d.control translation) ↔
      MoveHasRoom L d s.1 d.control translation := by
  rcases htouched : CropView.edgeTouched L
    ((s.1.resized d.control translation).cappedCropRectInImageRectWithCropRectView L) with _ | _
  · have hinside := h.inside d hd hdrag hon.zoomed
    have himage := h.image d hd hon.zoomed
    have hinitial : s.1.cropRectView.initialRect.Within (s.1.imageRect L) := by
      rw [h.initial d hd, himage]
      exact hdrag.within
    have hx := CropView.xSpan_capped_resized d.control translation
      h.keep hinitial.xSpan hinside.xSpan
    have hy := CropView.ySpan_capped_resized d.control translation
      h.keep hinitial.ySpan hinside.ySpan
    rw [h.initial d hd, himage] at hx hy
    have hxiff := Span.capped_resized_eq_dragged_iff
      (t := (s.1.translation d.control translation).x) CropRectView.minWidth_pos
      hdrag.within.xSpan hdrag.le_length_xSpan hon.x
    have hyiff := Span.capped_resized_eq_dragged_iff
      (t := (s.1.translation d.control translation).y) CropRectView.minHeight_pos
      hdrag.within.ySpan hdrag.le_length_ySpan hon.y
    rw [← hx] at hxiff
    rw [← hy] at hyiff
    rw [CropView.resizeControlDidResize_of_not_touched htouched]
    constructor
    · intro htarget
      exact ⟨hxiff.mp htarget.x, hyiff.mp htarget.y, htouched⟩
    · intro hroom
      exact ⟨Bool.or_eq_false_iff.mpr ⟨hon.zoomed, htouched⟩, hxiff.mpr hroom.x, hyiff.mpr hroom.y⟩
  · constructor
    · intro htarget
      exact absurd htouched (Bool.eq_false_iff.mp (Bool.or_eq_false_iff.mp htarget.zoomed).2)
    · intro hroom
      exact absurd htouched (Bool.eq_false_iff.mp hroom.untouched)

lemma follows_step (s : CropView × Option Drag) (e : CropEvent) (s' : CropView × Option Drag)
    (h : DragKnown L s) (hfollows : Follows L s)
    (hstep : withHistory (recordDrag L) (cropStep L z) s e = some s') :
    Follows L s' ↔ HasRoom L s e := by
  obtain ⟨v, drag⟩ := s
  obtain ⟨v', hv', rfl⟩ := Option.map_eq_some_iff.mp hstep
  cases e with
  | began control translation =>
      simp only [cropStep, Option.ite_none_right_eq_some, Option.some.injEq] at hv'
      obtain ⟨-, rfl⟩ := hv'
      refine iff_of_true ?_ trivial
      rintro _ ⟨⟩ hdrag
      exact ⟨rfl, (Span.dragged_zero hdrag.within.xSpan hdrag.le_length_xSpan).symm,
        (Span.dragged_zero hdrag.within.ySpan hdrag.le_length_ySpan).symm⟩
  | changed control translation =>
      simp only [cropStep, Option.ite_none_right_eq_some, Option.some.injEq] at hv'
      obtain ⟨hresizing, rfl⟩ := hv'
      obtain ⟨d, hd, rfl⟩ := h.exists_drag hresizing
      obtain rfl : drag = some d := hd
      constructor
      · rintro hnext _ ⟨⟩ hdrag
        exact (onTarget_moved_iff h rfl hdrag (hfollows d rfl hdrag) translation).mp
          (hnext _ rfl hdrag)
      · rintro hroom _ ⟨⟩ hdrag
        exact (onTarget_moved_iff h rfl hdrag (hfollows d rfl hdrag) translation).mpr
          (hroom d rfl hdrag)
  | ended control => exact iff_of_true (by rintro _ ⟨⟩) trivial
  | scrolled contentOffset zoomScale =>
      simp only [cropStep, Option.ite_none_right_eq_some, Option.some.injEq] at hv'
      obtain rfl : drag = none := h.eq_none hv'.1
      exact iff_of_true (by rintro _ ⟨⟩) trivial
  | constrain choice =>
      simp only [cropStep, Option.ite_none_right_eq_some, Option.some.injEq] at hv'
      obtain rfl : drag = none := h.eq_none hv'.1
      exact iff_of_true (by rintro _ ⟨⟩) trivial
  | completed =>
      simp only [cropStep, Option.ite_none_right_eq_some, Option.some.injEq] at hv'
      obtain ⟨-, rfl⟩ := hv'
      refine iff_of_true (fun d hd hdrag => ?_) trivial
      have hon := hfollows d hd hdrag
      exact ⟨hon.zoomed, hon.x, hon.y⟩
  | layoutSubviews =>
      obtain rfl := Option.some.inj hv'
      refine iff_of_true ?_ trivial
      unfold CropView.layoutSubviews
      split
      · exact hfollows
      · next hnone =>
          obtain rfl : drag = none := h.eq_none (Option.not_isSome_iff_eq_none.mp hnone)
          rintro _ ⟨⟩

end Steps

/-- A photo in portrait format on a phone -/
def photoOnPhone : CropLayout where
  size := ⟨375, 667⟩
  imageSize := ⟨3000, 4000⟩
  isPortrait := true
  isPad := false
  wide := by norm_num
  tall := by norm_num
  imageWidth_pos := by norm_num
  imageHeight_pos := by norm_num

/-- A scroll view that never zooms. -/
def stillZooming : Zooming := ⟨fun s _ => s, fun _ _ => rfl, fun _ _ => rfl⟩

-- the right side is pulled at once to less than the least size, and the left side jumps from 20
example :
    (run (cropStep photoOnPhone stillZooming) (.appeared photoOnPhone)
      [.began .rightEdge ⟨0, 0⟩, .changed .rightEdge ⟨-300, 0⟩]).map
        (fun v => v.cropRectView.frame.xSpan.low) = some 267 := by
  decide +kernel

end Whix
