import Whix.Client.CoreGraphics

/-!
# The photo editor

`PhotoEditorViewController`: the canvas with the drawing and the views on it, the controls that are
shown or hidden, and what the handlers keep between calls.  Handlers are called by the buttons, by
touches on the canvas, by the gesture recognizers of every view on the canvas, by text views and
the keyboard, by the stickers panel, and by animations that complete; `editorStep` allows any of
these in any order, whether the control it needs is shown or not.

An animation sets the values of a view at once, and its completion is an event of its own.  A view
that has been removed may still get events; they find nothing to change.
-/

namespace Whix

/-- `UIColor` -/
structure UIColor where
  red : CGFloat
  green : CGFloat
  blue : CGFloat
  alpha : CGFloat
  deriving DecidableEq

/-- `UIFont` -/
structure UIFont where
  fontName : String
  pointSize : CGFloat
  deriving DecidableEq

/-- The kinds of views on the canvas: stickers, emojis and texts. -/
inductive CanvasContent (Image : Type) where
  | imageView (image : Image)
  | label (text : String)
  | textView (font : UIFont) (textColor : UIColor)

/-- A view on the canvas. -/
structure CanvasView (Image : Type) where
  id : ℕ
  content : CanvasContent Image
  transform : CGAffineTransform
  center : CGPoint

namespace CanvasView

variable {Image : Type} (view : CanvasView Image)

/-- `view is UIImageView` -/
def isImageView : Bool :=
  match view.content with
  | .imageView _ => true
  | _ => false

/-- `font` of a text view -/
def font : Option UIFont :=
  match view.content with
  | .textView font _ => some font
  | _ => none

/-- Set the font of a text view. -/
def setFont (font : UIFont) : CanvasView Image :=
  match view.content with
  | .textView _ textColor => { view with content := .textView font textColor }
  | _ => view

/-- Set the colour of a text view. -/
def setTextColor (textColor : UIColor) : CanvasView Image :=
  match view.content with
  | .textView font _ => { view with content := .textView font textColor }
  | _ => view

end CanvasView

/-- A line drawn on the canvas. -/
structure Stroke where
  fromPoint : CGPoint
  toPoint : CGPoint
  color : UIColor
  deriving DecidableEq

/-- The measures of the screen that the handlers use. -/
structure EditorLayout where
  /-- `deleteView.frame` -/
  deleteView : CGRect
  /-- `canvasImageView.bounds` -/
  canvasBounds : CGRect
  /-- `canvasImageView.center` -/
  canvasCenter : CGPoint
  /-- `UIScreen.main.bounds.size` -/
  screen : CGSize

/-- A phone, with the delete view near the bottom. -/
def phone : EditorLayout where
  deleteView := ⟨⟨160, 600⟩, ⟨50, 50⟩⟩
  canvasBounds := ⟨⟨0, 0⟩, ⟨375, 667⟩⟩
  canvasCenter := ⟨375 / 2, 667 / 2⟩
  screen := ⟨375, 667⟩

/-- A `PhotoEditorViewController`. -/
structure PhotoEditor (Image : Type) where
  /-- both toolbars and their gradients -/
  toolbarHidden : Bool
  doneHidden : Bool
  colorPickerHidden : Bool
  deleteHidden : Bool
  /-- `canvasImageView.isUserInteractionEnabled` -/
  canvasEnabled : Bool
  /-- what has been drawn, the last line last -/
  strokes : List Stroke
  /-- the views on the canvas, the front one last -/
  subviews : List (CanvasView Image)
  /-- the number of the next view -/
  nextView : ℕ
  /-- the views that are image views, on the canvas or not any more -/
  imageViews : List ℕ
  stickers : List Image
  /-- the stickers that the panel offers -/
  panelStickers : List Image
  stickersVCIsVisible : Bool
  drawColor : UIColor
  textColor : UIColor
  isDrawing : Bool
  lastPoint : Option CGPoint
  swiped : Bool
  lastPanPoint : Option CGPoint
  lastTextViewTransform : Option CGAffineTransform
  lastTextViewTransCenter : Option CGPoint
  lastTextViewFont : Option UIFont
  activeTextView : Option ℕ
  imageViewToPan : Option ℕ
  isTyping : Bool
  /-- the text view that is being edited -/
  firstResponder : Option ℕ
  /-- the animations of `removeStickersView` that are running -/
  removals : ℕ
  /-- the animations of `removeBottomSheetView` that are running -/
  disappearances : ℕ
  /-- the scale effects that are running, with the transforms to return to -/
  effects : List (ℕ × CGAffineTransform)
  /-- the app has trapped -/
  trapped : Bool

/-- The state of a gesture recognizer when its handler is called. -/
inductive GestureState where
  | began
  | changed
  | ended
  | cancelled
  deriving DecidableEq

/-- What a pan recognizer tells. -/
structure Pan where
  state : GestureState
  /-- `location(in: view)` -/
  location : CGPoint
  /-- `location(in: canvasImageView)` -/
  canvasLocation : CGPoint
  /-- `translation(in: canvasImageView)`, which the handler resets each time -/
  translation : CGPoint

/-- What can happen to the editor. -/
inductive EditorEvent (Image : Type) where
  | drawButtonTapped
  | textButtonTapped
  | doneButtonTapped
  | clearButtonTapped
  | stickersButtonTapped
  | screenEdgeSwiped
  | didSelectColor (color : UIColor)
  /-- A touch begins at a point of the canvas, on the panel or beside it. -/
  | touchesBegan (point : CGPoint) (onPanel : Bool)
  | touchesMoved (point : CGPoint)
  | touchesEnded
  /-- A view is panned; `alpha` tells the image views that are not transparent there. -/
  | panGesture (view : ℕ) (alpha : ℕ → Bool) (recognizer : Pan)
  | pinchGesture (view : ℕ) (scale : CGFloat)
  | rotationGesture (view : ℕ) (cos sin : CGFloat)
  | tapGesture (view : ℕ) (alpha : ℕ → Bool)
  /-- A scale effect is over. -/
  | effectCompleted (i : ℕ)
  /-- The text of a text view changes, and its fitted height grows. -/
  | textViewDidChange (view : ℕ) (growth : CGFloat)
  /-- A text view is tapped. -/
  | editText (view : ℕ)
  /-- The editing of a text ends in another way than by Done. -/
  | endEditing
  | keyboardDidShow
  | keyboardWillHide
  /-- An emoji is chosen. -/
  | didSelectView (text : String)
  /-- A sticker is chosen. -/
  | didSelectImage (image : Image)
  /-- The panel is dragged down. -/
  | removeBottomSheetView
  | stickersViewRemoved
  | stickersViewDidDisappear

namespace PhotoEditor

variable {Image : Type} (L : EditorLayout) (e : PhotoEditor Image)

/-- The editor when its view has loaded. -/
def viewDidLoad (stickers : List Image) : PhotoEditor Image where
  toolbarHidden := false
  doneHidden := true
  colorPickerHidden := true
  deleteHidden := true
  canvasEnabled := true
  strokes := []
  subviews := []
  nextView := 0
  imageViews := []
  stickers := stickers
  panelStickers := []
  stickersVCIsVisible := false
  drawColor := ⟨0, 0, 0, 1⟩
  textColor := ⟨1, 1, 1, 1⟩
  isDrawing := false
  lastPoint := none
  swiped := false
  lastPanPoint := none
  lastTextViewTransform := none
  lastTextViewTransCenter := none
  lastTextViewFont := none
  activeTextView := none
  imageViewToPan := none
  isTyping := false
  firstResponder := none
  removals := 0
  disappearances := 0
  effects := []
  trapped := false

/-! ### The canvas -/

/-- The view with this number. -/
def subview (id : ℕ) : Option (CanvasView Image) := e.subviews.find? (·.id = id)

/-- Change a view. -/
def modify (id : ℕ) (f : CanvasView Image → CanvasView Image) : PhotoEditor Image :=
  { e with subviews := e.subviews.map fun view => if view.id = id then f view else view }

/-- `bringSubviewToFront` -/
def bringSubviewToFront (id : ℕ) : PhotoEditor Image :=
  { e with subviews := e.subviews.filter (·.id ≠ id) ++ e.subviews.filter (·.id = id) }

/-- `addSubview` for a new view -/
def addSubview (content : CanvasContent Image) (center : CGPoint) : PhotoEditor Image :=
  { e with
    subviews := e.subviews ++ [⟨e.nextView, content, .identity, center⟩]
    nextView := e.nextView + 1
    imageViews := e.imageViews ++ match content with
      | .imageView _ => [e.nextView]
      | _ => [] }

/-- `removeFromSuperview` -/
def removeFromSuperview (id : ℕ) : PhotoEditor Image :=
  { e with subviews := e.subviews.filter (·.id ≠ id) }

/-- The first image view that is not transparent at the point. -/
def visibleImageView (alpha : ℕ → Bool) : Option ℕ :=
  (e.subviews.find? fun view => view.isImageView && alpha view.id).map CanvasView.id

/-! ### Texts -/

/-- The font of a text that is edited. -/
def editingFont : UIFont := ⟨"Helvetica", 30⟩

/-- `textViewDidBeginEditing` -/
def textViewDidBeginEditing (view : CanvasView Image) : PhotoEditor Image :=
  { e with
    isTyping := true
    lastTextViewTransform := some view.transform
    lastTextViewTransCenter := some view.center
    lastTextViewFont := view.font
    activeTextView := some view.id
    : PhotoEditor Image }.bringSubviewToFront view.id |>.modify view.id fun view =>
      { view.setFont editingFont with
        transform := .identity
        center := ⟨L.screen.width / 2, L.screen.height / 5⟩ }

/-- `textViewDidEndEditing` -/
def textViewDidEndEditing (id : ℕ) : PhotoEditor Image :=
  match e.lastTextViewTransform, e.lastTextViewTransCenter, e.lastTextViewFont with
  | some transform, some center, some font =>
      { e with activeTextView := none : PhotoEditor Image }.modify id fun view =>
        { view.setFont font with transform, center }
  | _, _, _ => e

/-- The text view that is edited, if any, stops being edited. -/
def resignFirstResponder : PhotoEditor Image :=
  match e.firstResponder with
  | some id => { e.textViewDidEndEditing id with firstResponder := none }
  | none => e

/-- A view on the canvas starts being edited. -/
def beginEditing (id : ℕ) : PhotoEditor Image :=
  match e.subview id with
  | some view => { e.textViewDidBeginEditing L view with firstResponder := some id }
  | none => e

/-- `becomeFirstResponder` of a text view: the one that was edited before resigns first. -/
def becomeFirstResponder (id : ℕ) : PhotoEditor Image :=
  if e.firstResponder = some id then e else e.resignFirstResponder.beginEditing L id

/-- `textViewDidChange`: the frame grows downwards, unless the view is rotated. -/
def textViewDidChange (id : ℕ) (growth : CGFloat) : PhotoEditor Image :=
  e.modify id fun view =>
    if view.transform.b = 0 ∧ 0 ≤ view.transform.a then
      { view with center := ⟨view.center.x, view.center.y + growth / 2⟩ }
    else view

/-! ### The controls -/

/-- `hideToolbar(hide:)` -/
def hideToolbar (hide : Bool) : PhotoEditor Image := { e with toolbarHidden := hide }

/-- `drawButtonTapped` -/
def drawButtonTapped : PhotoEditor Image :=
  { e with
    isDrawing := true
    canvasEnabled := false
    doneHidden := false
    colorPickerHidden := false : PhotoEditor Image }.hideToolbar true

/-- The first part of `textButtonTapped`: a text view comes onto the canvas. -/
def addTextView : PhotoEditor Image :=
  { e with isTyping := true : PhotoEditor Image }.addSubview (.textView editingFont e.textColor)
    ⟨L.screen.width / 2, L.canvasCenter.y + 15⟩

/-- `textButtonTapped` -/
def textButtonTapped : PhotoEditor Image := (e.addTextView L).becomeFirstResponder L e.nextView

/-- `doneButtonTapped` -/
def doneButtonTapped : PhotoEditor Image :=
  { { e.resignFirstResponder with
      doneHidden := true
      colorPickerHidden := true
      canvasEnabled := true : PhotoEditor Image }.hideToolbar false with isDrawing := false }

/-- `clearButtonTapped` -/
def clearButtonTapped : PhotoEditor Image := { e with strokes := [], subviews := [] }

/-- `didSelectColor` -/
def didSelectColor (color : UIColor) : PhotoEditor Image :=
  if e.isDrawing then { e with drawColor := color }
  else
    match e.activeTextView with
    | some id => { e.modify id (·.setTextColor color) with textColor := color }
    | none => e

/-- `keyboardDidShow` -/
def keyboardDidShow : PhotoEditor Image :=
  if e.isTyping then
    { e with doneHidden := false, colorPickerHidden := false : PhotoEditor Image }.hideToolbar true
  else e

/-- `keyboardWillHide` -/
def keyboardWillHide : PhotoEditor Image :=
  { e with isTyping := false, doneHidden := true : PhotoEditor Image }.hideToolbar false

/-! ### The stickers panel -/

/-- `addStickersViewController` -/
def addStickersViewController : PhotoEditor Image :=
  { { e with stickersVCIsVisible := true : PhotoEditor Image }.hideToolbar true with
    canvasEnabled := false
    panelStickers := e.panelStickers ++ e.stickers }

/-- `screenEdgeSwiped` -/
def screenEdgeSwiped : PhotoEditor Image :=
  if e.stickersVCIsVisible then e else e.addStickersViewController

/-- `removeStickersView` -/
def removeStickersView : PhotoEditor Image :=
  { e with stickersVCIsVisible := false, canvasEnabled := true, removals := e.removals + 1 }

/-- The completion in `removeStickersView` -/
def stickersViewRemoved : PhotoEditor Image :=
  { e with removals := e.removals - 1 : PhotoEditor Image }.hideToolbar false

/-- `didSelectView` and `didSelectImage` -/
def didSelect (content : CanvasContent Image) : PhotoEditor Image :=
  e.removeStickersView.addSubview content L.canvasCenter

/-- `removeBottomSheetView` of the panel -/
def removeBottomSheetView : PhotoEditor Image := { e with disappearances := e.disappearances + 1 }

/-- The completion in `removeBottomSheetView`, with `stickersViewDidDisappear` -/
def stickersViewDidDisappear : PhotoEditor Image :=
  { e with
    disappearances := e.disappearances - 1
    stickersVCIsVisible := false : PhotoEditor Image }.hideToolbar false

/-! ### Drawing -/

/-- `drawLineFrom(_:toPoint:)`; the point it starts from is unwrapped by force. -/
def drawLineFrom (fromPoint : Option CGPoint) (toPoint : Option CGPoint) : PhotoEditor Image :=
  match fromPoint, toPoint with
  | some fromPoint, some toPoint =>
      { e with strokes := e.strokes ++ [⟨fromPoint, toPoint, e.drawColor⟩] }
  | _, _ => { e with trapped := true }

/-- `touchesBegan` -/
def touchesBegan (point : CGPoint) (onPanel : Bool) : PhotoEditor Image :=
  if e.isDrawing then { e with swiped := false, lastPoint := some point }
  else if e.stickersVCIsVisible && !onPanel then e.removeStickersView
  else e

/-- `touchesMoved` -/
def touchesMoved (point : CGPoint) : PhotoEditor Image :=
  if e.isDrawing then
    { { e with swiped := true : PhotoEditor Image }.drawLineFrom e.lastPoint (some point) with
      lastPoint := some point }
  else e

/-- `touchesEnded` -/
def touchesEnded : PhotoEditor Image :=
  if e.isDrawing && !e.swiped then e.drawLineFrom e.lastPoint e.lastPoint else e

/-! ### Gestures -/

/-- What a pan makes of the view it moves: crossing the border of the delete view scales it. -/
def panned (previousPoint : Option CGPoint) (recognizer : Pan) (view : CanvasView Image) :
    CanvasView Image :=
  let view := { view with
    center := ⟨view.center.x + recognizer.translation.x, view.center.y + recognizer.translation.y⟩ }
  match previousPoint with
  | some previousPoint =>
      if L.deleteView.contains recognizer.location && !L.deleteView.contains previousPoint then
        { view with
          transform := view.transform.scaledBy (1 / 4), center := recognizer.canvasLocation }
      else if L.deleteView.contains previousPoint && !L.deleteView.contains recognizer.location then
        { view with transform := view.transform.scaledBy 4, center := recognizer.canvasLocation }
      else view
  | none => view

/-- Back onto the canvas -/
def snapped (view : CanvasView Image) : CanvasView Image :=
  if L.canvasBounds.contains view.center then view else { view with center := L.canvasCenter }

/-- The first part of `moveView(view:recognizer:)`: the view follows the finger. -/
def dragView (id : ℕ) (recognizer : Pan) : PhotoEditor Image :=
  { ({ e.hideToolbar true with deleteHidden := false }.bringSubviewToFront id).modify id
      (panned L e.lastPanPoint recognizer) with
    lastPanPoint := some recognizer.location }

/-- The second part of `moveView(view:recognizer:)`: the pan has ended. -/
def dropView (id : ℕ) (recognizer : Pan) : PhotoEditor Image :=
  let ended := { { e with imageViewToPan := none, lastPanPoint := none }.hideToolbar e.isTyping with
    deleteHidden := true }
  if L.deleteView.contains recognizer.location then ended.removeFromSuperview id
  else ended.modify id (snapped L)

/-- `moveView(view:recognizer:)` -/
def moveView (id : ℕ) (recognizer : Pan) : PhotoEditor Image :=
  if recognizer.state = .ended then (e.dragView L id recognizer).dropView L id recognizer
  else e.dragView L id recognizer

/-- What the beginning of a pan of an image view sets. -/
def grabImageView (alpha : ℕ → Bool) (recognizer : Pan) : PhotoEditor Image :=
  if recognizer.state = .began then
    { e with imageViewToPan := (e.visibleImageView alpha).or e.imageViewToPan }
  else e

/-- `panGesture(_:)`: a pan of an image view moves the one that is visible where it begins. -/
def panGesture (id : ℕ) (alpha : ℕ → Bool) (recognizer : Pan) : PhotoEditor Image :=
  if id ∈ e.imageViews then
    match (e.grabImageView alpha recognizer).imageViewToPan with
    | some view => (e.grabImageView alpha recognizer).moveView L view recognizer
    | none => e.grabImageView alpha recognizer
  else e.moveView L id recognizer

/-- What a pinch makes of a view: of a text the font is scaled, as long as it stays below 90. -/
def pinched (scale : CGFloat) (view : CanvasView Image) : CanvasView Image :=
  match view.content with
  | .textView font _ =>
      if font.pointSize * scale < 90 then
        view.setFont { font with pointSize := font.pointSize * scale }
      else view
  | _ => { view with transform := view.transform.scaledBy scale }

/-- `pinchGesture(_:)` -/
def pinchGesture (id : ℕ) (scale : CGFloat) : PhotoEditor Image := e.modify id (pinched scale)

/-- `rotationGesture(_:)` -/
def rotationGesture (id : ℕ) (cos sin : CGFloat) : PhotoEditor Image :=
  e.modify id fun view => { view with transform := view.transform.rotated cos sin }

/-- `scaleEffect(view:)` -/
def scaleEffect (id : ℕ) : PhotoEditor Image :=
  match e.subview id with
  | some view =>
      { (e.bringSubviewToFront id).modify id fun view =>
          { view with transform := view.transform.scaledBy (6 / 5) } with
        effects := e.effects ++ [(id, view.transform)] }
  | none => e

/-- `tapGesture(_:)` -/
def tapGesture (id : ℕ) (alpha : ℕ → Bool) : PhotoEditor Image :=
  if id ∈ e.imageViews then
    match e.visibleImageView alpha with
    | some view => e.scaleEffect view
    | none => e
  else e.scaleEffect id

/-- The completion in `scaleEffect(view:)` -/
def effectCompleted (i : ℕ) : PhotoEditor Image :=
  match e.effects[i]? with
  | some (id, previousTransform) =>
      { e with effects := e.effects.eraseIdx i : PhotoEditor Image }.modify id fun view =>
        { view with transform := previousTransform }
  | none => e

/-! ### The handlers -/

/-- Can this happen now?  Completions need an animation that is running, and only a text view on
the canvas can be tapped to edit it. -/
def allows : EditorEvent Image → Bool
  | .effectCompleted i => i < e.effects.length
  | .editText view => ((e.subview view).bind CanvasView.font).isSome
  | .stickersViewRemoved => e.removals ≠ 0
  | .stickersViewDidDisappear => e.disappearances ≠ 0
  | _ => true

/-- What the handler of an event does -/
def handle : EditorEvent Image → PhotoEditor Image
  | .drawButtonTapped => e.drawButtonTapped
  | .textButtonTapped => e.textButtonTapped L
  | .doneButtonTapped => e.doneButtonTapped
  | .clearButtonTapped => e.clearButtonTapped
  | .stickersButtonTapped => e.addStickersViewController
  | .screenEdgeSwiped => e.screenEdgeSwiped
  | .didSelectColor color => e.didSelectColor color
  | .touchesBegan point onPanel => e.touchesBegan point onPanel
  | .touchesMoved point => e.touchesMoved point
  | .touchesEnded => e.touchesEnded
  | .panGesture view alpha recognizer => e.panGesture L view alpha recognizer
  | .pinchGesture view scale => e.pinchGesture view scale
  | .rotationGesture view cos sin => e.rotationGesture view cos sin
  | .tapGesture view alpha => e.tapGesture view alpha
  | .effectCompleted i => e.effectCompleted i
  | .textViewDidChange view growth => e.textViewDidChange view growth
  | .editText view => e.becomeFirstResponder L view
  | .endEditing => e.resignFirstResponder
  | .keyboardDidShow => e.keyboardDidShow
  | .keyboardWillHide => e.keyboardWillHide
  | .didSelectView text => e.didSelect L (.label text)
  | .didSelectImage image => e.didSelect L (.imageView image)
  | .removeBottomSheetView => e.removeBottomSheetView
  | .stickersViewRemoved => e.stickersViewRemoved
  | .stickersViewDidDisappear => e.stickersViewDidDisappear

end PhotoEditor

/-- One step of the editor, as long as the app has not trapped. -/
def editorStep {Image : Type} (L : EditorLayout) (e : PhotoEditor Image) (ev : EditorEvent Image) :
    Option (PhotoEditor Image) :=
  if !e.trapped && e.allows ev then some (e.handle L ev) else none

lemma editorStep_eq_some {Image : Type} {L : EditorLayout} {e e' : PhotoEditor Image}
    {ev : EditorEvent Image} :
    editorStep L e ev = some e' ↔ e.trapped = false ∧ e.allows ev ∧ e.handle L ev = e' := by
  simp only [editorStep, Option.ite_none_right_eq_some, Bool.and_eq_true, Bool.not_eq_true',
    Option.some.injEq, and_assoc]

end Whix
