import Whix.Client.CoreGraphics
import Mathlib.Data.Rat.Floor

/-!
# The crop screen

`CropView` with its scroll view and the crop rectangle, the eight controls at the border of the
rectangle, and the menu of `CropViewController`.  The rectangle is dragged by its controls while
the scroll view stays as it is; when a drag ends, or the rectangle comes near the border of the
screen, the view zooms so that the rectangle fills the screen.

A control is dragged by one recognizer at a time, since the controls are exclusive: the drag
begins, changes and ends in this order, and nothing else is touched meanwhile.  How a scroll view
zooms is a parameter.
-/

namespace Whix

/-- `round`: halves go away from zero. -/
def CGFloat.round (x : CGFloat) : CGFloat := if 0 ≤ x then ⌊x + 1 / 2⌋ else ⌈x - 1 / 2⌉

/-- `AVMakeRect(aspectRatio:insideRect:)`: the largest rectangle of this aspect ratio, centered. -/
def AVMakeRect (aspectRatio : CGSize) (insideRect : CGRect) : CGRect :=
  let scale := min (insideRect.width / aspectRatio.width) (insideRect.height / aspectRatio.height)
  let width := aspectRatio.width * scale
  let height := aspectRatio.height * scale
  ⟨⟨insideRect.minX + (insideRect.width - width) / 2,
    insideRect.minY + (insideRect.height - height) / 2⟩, ⟨width, height⟩⟩

/-- The controls at the border of the crop rectangle. -/
inductive ResizeControl where
  | topEdge
  | leftEdge
  | bottomEdge
  | rightEdge
  | topLeftCorner
  | topRightCorner
  | bottomLeftCorner
  | bottomRightCorner
  deriving DecidableEq

/-- The width and height that a control is made with. -/
def ResizeControl.side : CGFloat := 44

/-! ## The crop rectangle -/

/-- A `CropRectView`. -/
structure CropRectView where
  frame : CGRect
  /-- the frame when the drag began -/
  initialRect : CGRect
  keepAspectRatio : Bool
  fixedAspectRatio : CGFloat
  /-- `startPoint` of every control -/
  startPoint : ResizeControl → CGPoint

namespace CropRectView

variable (view : CropRectView)

/-- Set the `frame`. -/
def setFrame (rect : CGRect) : CropRectView := { view with frame := rect.standardized }

/-- `minWidth`, the bounds of the left and the right control -/
def minWidth : CGFloat := ResizeControl.side + ResizeControl.side

/-- `minHeight`, the bounds of the top and the bottom control -/
def minHeight : CGFloat := ResizeControl.side + ResizeControl.side

/-- `constrainedRectWithRectBasisOfWidth` -/
def constrainedRectWithRectBasisOfWidth (frame : CGRect) : CGRect :=
  let width := frame.width
  let height := frame.height
  ⟨frame.origin, ⟨width,
    if width < height then width / view.fixedAspectRatio else width * view.fixedAspectRatio⟩⟩

/-- `constrainedRectWithRectBasisOfHeight` -/
def constrainedRectWithRectBasisOfHeight (frame : CGRect) : CGRect :=
  let width := frame.width
  let height := frame.height
  ⟨frame.origin, ⟨
    if width < height then height * view.fixedAspectRatio else height / view.fixedAspectRatio,
    height⟩⟩

/-- The constraint of the corners: the side that is dragged less follows the other one. -/
def constrainedCorner (rect : CGRect) (translation : CGPoint) : CGRect :=
  if |translation.x| < |translation.y| then view.constrainedRectWithRectBasisOfHeight rect
  else view.constrainedRectWithRectBasisOfWidth rect

/-- The first part of `cropRectWithResizeControlView`: the rectangle that the control asks for. -/
def draggedRect (control : ResizeControl) (translation : CGPoint) : CGRect :=
  let initialRect := view.initialRect
  match control with
  | .topEdge =>
      let rect : CGRect := ⟨⟨initialRect.minX, initialRect.minY + translation.y⟩,
        ⟨initialRect.width, initialRect.height - translation.y⟩⟩
      if view.keepAspectRatio then view.constrainedRectWithRectBasisOfHeight rect else rect
  | .leftEdge =>
      let rect : CGRect := ⟨⟨initialRect.minX + translation.x, initialRect.minY⟩,
        ⟨initialRect.width - translation.x, initialRect.height⟩⟩
      if view.keepAspectRatio then view.constrainedRectWithRectBasisOfWidth rect else rect
  | .bottomEdge =>
      let rect : CGRect := ⟨⟨initialRect.minX, initialRect.minY⟩,
        ⟨initialRect.width, initialRect.height + translation.y⟩⟩
      if view.keepAspectRatio then view.constrainedRectWithRectBasisOfHeight rect else rect
  | .rightEdge =>
      let rect : CGRect := ⟨⟨initialRect.minX, initialRect.minY⟩,
        ⟨initialRect.width + translation.x, initialRect.height⟩⟩
      if view.keepAspectRatio then view.constrainedRectWithRectBasisOfWidth rect else rect
  | .topLeftCorner =>
      let rect : CGRect := ⟨⟨initialRect.minX + translation.x, initialRect.minY + translation.y⟩,
        ⟨initialRect.width - translation.x, initialRect.height - translation.y⟩⟩
      if view.keepAspectRatio then
        let constrainedFrame := view.constrainedCorner rect translation
        ⟨⟨constrainedFrame.origin.x - (constrainedFrame.width - rect.width),
          constrainedFrame.origin.y - (constrainedFrame.height - rect.height)⟩,
          constrainedFrame.size⟩
      else rect
  | .topRightCorner =>
      let rect : CGRect := ⟨⟨initialRect.minX, initialRect.minY + translation.y⟩,
        ⟨initialRect.width + translation.x, initialRect.height - translation.y⟩⟩
      if view.keepAspectRatio then view.constrainedCorner rect translation else rect
  | .bottomLeftCorner =>
      let rect : CGRect := ⟨⟨initialRect.minX + translation.x, initialRect.minY⟩,
        ⟨initialRect.width - translation.x, initialRect.height + translation.y⟩⟩
      if view.keepAspectRatio then
        let constrainedFrame := view.constrainedCorner rect translation
        ⟨⟨constrainedFrame.origin.x - (constrainedFrame.width - rect.width),
          constrainedFrame.origin.y⟩, constrainedFrame.size⟩
      else rect
  | .bottomRightCorner =>
      let rect : CGRect := ⟨⟨initialRect.minX, initialRect.minY⟩,
        ⟨initialRect.width + translation.x, initialRect.height + translation.y⟩⟩
      if view.keepAspectRatio then view.constrainedCorner rect translation else rect

/-- `cropRectWithResizeControlView` -/
def cropRectWithResizeControlView (control : ResizeControl) (translation : CGPoint) : CGRect :=
  let rect := view.draggedRect control translation
  -- the last frame, not the initial one, says where a rectangle that is too small is
  let rect : CGRect :=
    if rect.width < minWidth then
      ⟨⟨view.frame.maxX - minWidth, rect.origin.y⟩, ⟨minWidth, rect.size.height⟩⟩
    else rect
  let rect : CGRect :=
    if rect.height < minHeight then
      ⟨⟨rect.origin.x, view.frame.maxY - minHeight⟩, ⟨rect.size.width, minHeight⟩⟩
    else rect
  if 0 < view.fixedAspectRatio then
    ⟨rect.origin,
      ⟨if rect.width < minWidth then rect.size.height * (minWidth / rect.size.width)
        else rect.size.width,
      if rect.height < minHeight then rect.size.width * (minHeight / rect.size.height)
        else rect.size.height⟩⟩
  else rect

end CropRectView

/-! ## The crop view -/

/-- The measures of the screen and of the image. -/
structure CropLayout where
  /-- `bounds.size` of the crop view -/
  size : CGSize
  imageSize : CGSize
  isPortrait : Bool
  isPad : Bool
  wide : 40 < size.width
  tall : 74 < size.height
  imageWidth_pos : 0 < imageSize.width
  imageHeight_pos : 0 < imageSize.height

namespace CropLayout

variable (L : CropLayout)

/-- `bounds` -/
def bounds : CGRect := ⟨⟨0, 0⟩, L.size⟩

/-- `MarginTop` -/
def MarginTop : CGFloat := 37

/-- `MarginLeft` -/
def MarginLeft : CGFloat := 20

/-- `editingRect`, and `insetRect` -/
def editingRect : CGRect :=
  L.bounds.insetBy MarginLeft (if L.isPortrait then MarginTop else MarginLeft)

/-- Where the image is at first; its size is that of the zooming view's bounds. -/
def fitted : CGRect := AVMakeRect L.imageSize L.editingRect

end CropLayout

/-- The `UIScrollView` of the crop view. -/
structure UIScrollView where
  center : CGPoint
  /-- the origin is the content offset -/
  bounds : CGRect
  zoomScale : CGFloat
  minimumZoomScale : CGFloat
  zoomScale_pos : 0 < zoomScale

/-- `frame` -/
def UIScrollView.frame (s : UIScrollView) : CGRect :=
  ⟨⟨s.center.x - s.bounds.size.width / 2, s.center.y - s.bounds.size.height / 2⟩, s.bounds.size⟩

/-- `zoom(to:animated:)` of a scroll view: it changes what the view shows, not where it is. -/
structure Zooming where
  zoom : UIScrollView → CGRect → UIScrollView
  center_zoom : ∀ s rect, (zoom s rect).center = s.center
  size_zoom : ∀ s rect, (zoom s rect).bounds.size = s.bounds.size

/-- A `CropView`. -/
structure CropView where
  scrollView : UIScrollView
  cropRectView : CropRectView
  /-- the control that is dragged; `resizing` is whether there is one -/
  resizing : Option ResizeControl
  /-- the zooms to an aspect ratio whose completion is to come -/
  completions : ℕ

namespace CropView

variable (L : CropLayout) (z : Zooming) (v : CropView)

/-- `zoomingView.frame`: a scroll view keeps the view it zooms at the origin of its content. -/
def zoomingFrame : CGRect :=
  ⟨⟨0, 0⟩, ⟨v.scrollView.zoomScale * L.fitted.size.width,
    v.scrollView.zoomScale * L.fitted.size.height⟩⟩

/-- `convert(_:to: scrollView)` -/
def convertToScrollView (rect : CGRect) : CGRect :=
  ⟨⟨rect.origin.x - v.scrollView.frame.origin.x + v.scrollView.bounds.origin.x,
    rect.origin.y - v.scrollView.frame.origin.y + v.scrollView.bounds.origin.y⟩, rect.size⟩

/-- `scrollView.convert(_:to: self)` -/
def convertFromScrollView (rect : CGRect) : CGRect :=
  ⟨⟨rect.origin.x - v.scrollView.bounds.origin.x + v.scrollView.frame.origin.x,
    rect.origin.y - v.scrollView.bounds.origin.y + v.scrollView.frame.origin.y⟩, rect.size⟩

/-- `convert(_:to: zoomingView)` -/
def convertToZoomingView (rect : CGRect) : CGRect :=
  let rect := v.convertToScrollView rect
  ⟨⟨rect.origin.x / v.scrollView.zoomScale, rect.origin.y / v.scrollView.zoomScale⟩,
    ⟨rect.size.width / v.scrollView.zoomScale, rect.size.height / v.scrollView.zoomScale⟩⟩

/-- `layoutCropRectViewWithCropRect` -/
def layoutCropRectViewWithCropRect (cropRect : CGRect) : CropView :=
  { v with cropRectView := v.cropRectView.setFrame cropRect }

/-- The view when its image has been laid out. -/
def appeared : CropView where
  scrollView :=
    { center := ⟨L.fitted.origin.x + L.fitted.size.width / 2,
        L.fitted.origin.y + L.fitted.size.height / 2⟩
      bounds := ⟨⟨0, 0⟩, L.fitted.size⟩
      zoomScale := 1
      minimumZoomScale := 1
      zoomScale_pos := one_pos }
  cropRectView := ⟨L.fitted, ⟨⟨0, 0⟩, ⟨0, 0⟩⟩, false, 0, fun _ => ⟨0, 0⟩⟩
  resizing := none
  completions := 0

/-- The factor that makes a rectangle fill the editing rectangle; a quotient by zero is infinite.
No touch makes a rectangle that is neither wide nor high: the source would multiply it by infinity,
and here its factor is zero. -/
def fillScale (width height : CGFloat) : CGFloat :=
  if width = 0 then L.editingRect.height / height
  else if height = 0 then L.editingRect.width / width
  else min (L.editingRect.width / width) (L.editingRect.height / height)

/-- The `cropRect` that `zoomToCropRect` zooms to. -/
def filledRect (toRect : CGRect) : CGRect :=
  let scale := fillScale L toRect.width toRect.height
  let scaledWidth := toRect.width * scale
  let scaledHeight := toRect.height * scale
  ⟨⟨(L.bounds.width - scaledWidth) / 2, (L.bounds.height - scaledHeight) / 2⟩,
    ⟨scaledWidth, scaledHeight⟩⟩

/-- The `zoomRect` that `zoomToCropRect` passes to the scroll view. -/
def zoomRect (toRect : CGRect) (shouldCenter : Bool) : CGRect :=
  let scale := fillScale L toRect.width toRect.height
  let cropRect := filledRect L toRect
  let width := cropRect.width / (v.scrollView.zoomScale * scale)
  let height := cropRect.height / (v.scrollView.zoomScale * scale)
  if shouldCenter then
    ⟨⟨L.fitted.size.width / 2 - width / 2, L.fitted.size.height / 2 - height / 2⟩, ⟨width, height⟩⟩
  else ⟨(v.convertToZoomingView toRect).origin, ⟨width, height⟩⟩

/-- The animations of `zoomToCropRect` -/
def zoomed (toRect : CGRect) (shouldCenter : Bool) : CropView :=
  { v with
    scrollView :=
      z.zoom { v.scrollView with bounds := filledRect L toRect } (v.zoomRect L toRect shouldCenter)
    : CropView }.layoutCropRectViewWithCropRect (filledRect L toRect)

/-- `zoomToCropRect` -/
def zoomToCropRect (toRect : CGRect) : CropView :=
  if v.scrollView.frame = toRect then v else v.zoomed L z toRect false

/-- The size with another width, `cappedWidth`. -/
def cappedToWidth (cropRect : CGRect) (cappedWidth : CGFloat) : CGSize :=
  ⟨cappedWidth, if !v.cropRectView.keepAspectRatio then cropRect.size.height
    else cropRect.size.height * (cappedWidth / cropRect.size.width)⟩

/-- The size with another height, `cappedHeight`. -/
def cappedToHeight (cropRect : CGRect) (cappedHeight : CGFloat) : CGSize :=
  ⟨if !v.cropRectView.keepAspectRatio then cropRect.size.width
    else cropRect.size.width * (cappedHeight / cropRect.size.height), cappedHeight⟩

/-- `cappedCropRectInImageRectWithCropRectView` -/
def cappedCropRectInImageRectWithCropRectView : CGRect :=
  let cropRect := v.cropRectView.frame
  let rect := v.convertToScrollView cropRect
  let zooming := v.zoomingFrame L
  let image := v.convertFromScrollView zooming
  let cropRect : CGRect :=
    if rect.minX < zooming.minX then
      ⟨⟨image.minX, cropRect.origin.y⟩, v.cappedToWidth cropRect rect.maxX⟩
    else cropRect
  let cropRect : CGRect :=
    if rect.minY < zooming.minY then
      ⟨⟨cropRect.origin.x, image.minY⟩, v.cappedToHeight cropRect rect.maxY⟩
    else cropRect
  let cropRect : CGRect :=
    if zooming.maxX < rect.maxX then
      ⟨cropRect.origin, v.cappedToWidth cropRect (image.maxX - cropRect.minX)⟩
    else cropRect
  if zooming.maxY < rect.maxY then
    ⟨cropRect.origin, v.cappedToHeight cropRect (image.maxY - cropRect.minY)⟩
  else cropRect

/-- The condition of `automaticZoomIfEdgeTouched` -/
def edgeTouched (cropRect : CGRect) : Bool :=
  cropRect.minX < L.editingRect.minX - 5 || L.editingRect.maxX + 5 < cropRect.maxX ||
    cropRect.minY < L.editingRect.minY - 5 || L.editingRect.maxY + 5 < cropRect.maxY

/-- `automaticZoomIfEdgeTouched` -/
def automaticZoomIfEdgeTouched (cropRect : CGRect) : CropView :=
  if edgeTouched L cropRect then v.zoomToCropRect L z v.cropRectView.frame else v

/-! ### The controls -/

/-- `handlePan` and `resizeControlDidBeginResizing`, down to `cropRectViewDidBeginEditing` -/
def resizeControlDidBeginResizing (control : ResizeControl) (translation : CGPoint) : CropView :=
  { v with
    cropRectView := { v.cropRectView with
      startPoint := Function.update v.cropRectView.startPoint control
        ⟨.round translation.x, .round translation.y⟩
      initialRect := v.cropRectView.frame }
    resizing := some control }

/-- The `translation` that `handlePan` gives a control -/
def translation (control : ResizeControl) (translation : CGPoint) : CGPoint :=
  let startPoint := v.cropRectView.startPoint control
  ⟨.round (startPoint.x + translation.x), .round (startPoint.y + translation.y)⟩

/-- The first part of `resizeControlDidResize`: the frame is set. -/
def resized (control : ResizeControl) (translation : CGPoint) : CropView :=
  v.layoutCropRectViewWithCropRect <|
    v.cropRectView.cropRectWithResizeControlView control (v.translation control translation)

/-- The first part of `cropRectViewDidChange`: the rectangle is kept in the image. -/
def capped : CropView :=
  v.layoutCropRectViewWithCropRect (v.cappedCropRectInImageRectWithCropRectView L)

/-- `handlePan` and `resizeControlDidResize`, down to `cropRectViewDidChange` -/
def resizeControlDidResize (control : ResizeControl) (translation : CGPoint) : CropView :=
  let v := v.resized control translation
  let cropRect := v.cappedCropRectInImageRectWithCropRectView L
  (v.capped L).automaticZoomIfEdgeTouched L z cropRect

/-- `resizeControlDidEndResizing`, down to `cropRectViewDidEndEditing` -/
def resizeControlDidEndResizing : CropView :=
  { v with resizing := none : CropView }.zoomToCropRect L z v.cropRectView.frame

/-! ### The menu -/

/-- The width and the height of `setCropAspectRatio` -/
def sizeOfAspectRatio (ratio : CGFloat) : CGSize :=
  let cropRect := v.scrollView.frame
  if ratio ≤ 1 then
    let width := cropRect.height * ratio
    if L.fitted.size.width < width then ⟨cropRect.width, cropRect.width / ratio⟩
    else ⟨width, cropRect.height⟩
  else
    let height := cropRect.width / ratio
    if L.fitted.size.height < height then ⟨cropRect.height * ratio, cropRect.height⟩
    else ⟨cropRect.width, height⟩

/-- `setCropAspectRatio` with `shouldCenter`, which is `cropAspectRatio`'s setter -/
def setCropAspectRatio (ratio : CGFloat) : CropView :=
  let cropRect : CGRect := ⟨v.scrollView.frame.origin, v.sizeOfAspectRatio L ratio⟩
  if v.scrollView.frame = cropRect then v
  else { v.zoomed L z cropRect true with completions := v.completions + 1 }

/-- `cropRect`'s setter, with the size changed by the menu -/
def setCropRectSize (size : CGSize) : CropView :=
  v.zoomToCropRect L z ⟨v.scrollView.frame.origin, size⟩

end CropView

/-- The choices of the menu. -/
inductive Constraint where
  | original
  | square
  | threeByTwo
  | threeByFive
  | fourByThree
  | fourBySix
  | fiveBySeven
  | eightByTen
  | widescreen
  deriving DecidableEq

/-- `constrain` with the choice that is made -/
def CropView.constrain (L : CropLayout) (z : Zooming) (v : CropView) : Constraint → CropView
  | .original =>
      let cropRect := v.scrollView.frame
      let width := L.imageSize.width
      let height := L.imageSize.height
      if width < height then
        v.setCropRectSize L z ⟨cropRect.height * (width / height), cropRect.height⟩
      else v.setCropRectSize L z ⟨cropRect.width, cropRect.width * (height / width)⟩
  | .square => v.setCropRectSize L z ⟨v.scrollView.frame.width, v.scrollView.frame.width * 1⟩
  | .threeByTwo => v.setCropAspectRatio L z (2 / 3)
  | .threeByFive => v.setCropAspectRatio L z (3 / 5)
  | .fourByThree =>
      v.setCropRectSize L z ⟨v.scrollView.frame.width, v.scrollView.frame.width * (3 / 4)⟩
  | .fourBySix => v.setCropAspectRatio L z (4 / 6)
  | .fiveBySeven => v.setCropAspectRatio L z (5 / 7)
  | .eightByTen => v.setCropAspectRatio L z (8 / 10)
  | .widescreen =>
      v.setCropRectSize L z ⟨v.scrollView.frame.width, v.scrollView.frame.width * (9 / 16)⟩

/-- What can happen to the crop view. -/
inductive CropEvent where
  | began (control : ResizeControl) (translation : CGPoint)
  | changed (control : ResizeControl) (translation : CGPoint)
  /-- A drag ends or is cancelled. -/
  | ended (control : ResizeControl)
  /-- The image is moved or zoomed in the scroll view. -/
  | scrolled (contentOffset : CGPoint) (zoomScale : {scale : CGFloat // 0 < scale})
  | constrain (choice : Constraint)
  /-- A zoom to an aspect ratio is completed. -/
  | completed
  | layoutSubviews

namespace CropView

/-- The scroll view at another place of its content. -/
def scrolled (v : CropView) (contentOffset : CGPoint) (zoomScale : {scale : CGFloat // 0 < scale}) :
    CropView :=
  { v with
    scrollView := { v.scrollView with
      bounds := ⟨contentOffset, v.scrollView.bounds.size⟩
      zoomScale := zoomScale.1
      zoomScale_pos := zoomScale.2 } }

/-- The completion of `setCropAspectRatio` -/
def zoomCompleted (v : CropView) : CropView :=
  { v with
    scrollView := { v.scrollView with minimumZoomScale := v.scrollView.zoomScale }
    completions := v.completions - 1 }

/-- `layoutSubviews`, once the image has been laid out -/
def layoutSubviews (v : CropView) : CropView :=
  if v.resizing.isSome then v else v.layoutCropRectViewWithCropRect v.scrollView.frame

/-- `zoomedCropRect`: the part of the image that is cut out. -/
def zoomedCropRect (L : CropLayout) (v : CropView) : CGRect :=
  let cropRect := v.convertToZoomingView v.scrollView.frame
  let ratio :=
    if L.isPad || L.isPortrait then L.fitted.width / L.imageSize.width
    else L.fitted.height / L.imageSize.height
  ⟨⟨cropRect.origin.x / ratio, cropRect.origin.y / ratio⟩,
    ⟨cropRect.size.width / ratio, cropRect.size.height / ratio⟩⟩

end CropView

/-- One event on the crop screen. -/
def cropStep (L : CropLayout) (z : Zooming) (v : CropView) : CropEvent → Option CropView
  | .began control translation =>
      if v.resizing = none then some (v.resizeControlDidBeginResizing control translation) else none
  | .changed control translation =>
      if v.resizing = some control then some (v.resizeControlDidResize L z control translation)
      else none
  | .ended control =>
      if v.resizing = some control then some (v.resizeControlDidEndResizing L z) else none
  | .scrolled contentOffset zoomScale =>
      if v.resizing = none then some (v.scrolled contentOffset zoomScale) else none
  | .constrain choice => if v.resizing = none then some (v.constrain L z choice) else none
  | .completed => if 0 < v.completions then some v.zoomCompleted else none
  | .layoutSubviews => some v.layoutSubviews

end Whix
