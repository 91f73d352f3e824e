import Whix.Client.PhotoEditor
import Whix.Framework.Runs

/-!
# Drawing

In drawing mode a touch draws a line from the last point to the new one, and the last point is
unwrapped by force.  A touch that began before the Draw button was tapped has left none:
`drawing_safe_iff` says exactly when the app traps.  Otherwise a session draws what was touched:
the polyline of every touch in the colour chosen last, or a dot if the finger did not move
(`drawing_draws`).
-/

namespace Whix

open Runs

variable {Image : Type}

/-! ## The last point -/

/-- Has a touch begun in drawing mode by now? -/
def hasBegun (e : PhotoEditor Image) (begun : Bool) (ev : EditorEvent Image)
    (_ : PhotoEditor Image) : Bool :=
  match ev with
  | .touchesBegan .. => begun || e.isDrawing
  | _ => begun

/-- A touch that moves or ends in drawing mode comes after one that began in drawing mode. -/
def BeganBefore (s : PhotoEditor Image × Bool) : EditorEvent Image → Prop
  | .touchesMoved _ => s.1.isDrawing → s.2
  | .touchesEnded => s.1.isDrawing → s.2
  | _ => True

/-- The last point is known once a touch has begun in drawing mode, and nothing is swiped
before. -/
structure PointKnown (s : PhotoEditor Image × Bool) : Prop where
  lastPoint : s.1.lastPoint.isSome = s.2
  swiped : s.2 = false → s.1.swiped = false

/-- Is it a touch on the canvas? -/
def EditorEvent.isTouch : EditorEvent Image → Bool
  | .touchesBegan .. => true
  | .touchesMoved _ => true
  | .touchesEnded => true
  | _ => false

namespace PhotoEditor

variable (L : EditorLayout) (e : PhotoEditor Image)

/-- What the touches of the drawing mode have left. -/
def pen : Option CGPoint × Bool × Bool := (e.lastPoint, e.swiped, e.trapped)

lemma pen_resignFirstResponder : e.resignFirstResponder.pen = e.pen := by
  unfold resignFirstResponder textViewDidEndEditing
  split
  · split <;> rfl
  · rfl

lemma pen_becomeFirstResponder (id : ℕ) : (e.becomeFirstResponder L id).pen = e.pen := by
  unfold becomeFirstResponder
  split
  · rfl
  · rw [← e.pen_resignFirstResponder]
    unfold beginEditing
    split <;> rfl

lemma pen_moveView (id : ℕ) (recognizer : Pan) : (e.moveView L id recognizer).pen = e.pen := by
  unfold moveView
  split
  · unfold dropView
    split <;> rfl
  · rfl

lemma pen_panGesture (id : ℕ) (alpha : ℕ → Bool) (recognizer : Pan) :
    (e.panGesture L id alpha recognizer).pen = e.pen := by
  have hgrab : (e.grabImageView alpha recognizer).pen = e.pen := by
    unfold grabImageView
    split <;> rfl
  unfold panGesture
  split
  · split
    · exact (pen_moveView L _ _ recognizer).trans hgrab
    · exact hgrab
  · exact e.pen_moveView L id recognizer

/-- Only touches use the pen. -/
lemma pen_handle {ev : EditorEvent Image} (hev : ev.isTouch = false) :
    (e.handle L ev).pen = e.pen := by
  cases ev with
  | touchesBegan => exact absurd hev.symm Bool.false_ne_true
  | touchesMoved => exact absurd hev.symm Bool.false_ne_true
  | touchesEnded => exact absurd hev.symm Bool.false_ne_true
  | textButtonTapped => exact (e.addTextView L).pen_becomeFirstResponder L e.nextView
  | doneButtonTapped => exact e.pen_resignFirstResponder
  | editText id => exact e.pen_becomeFirstResponder L id
  | endEditing => exact e.pen_resignFirstResponder
  | panGesture id alpha recognizer => exact e.pen_panGesture L id alpha recognizer
  | screenEdgeSwiped =>
      simp only [handle, screenEdgeSwiped]
      split <;> rfl
  | didSelectColor color =>
      simp only [handle, didSelectColor]
      split
      · rfl
      · split <;> rfl
  | tapGesture id alpha =>
      simp only [handle, tapGesture, scaleEffect]
      split
      · split
        · split <;> rfl
        · rfl
      · split <;> rfl
  | effectCompleted i =>
      simp only [handle, effectCompleted]
      split <;> rfl
  | keyboardDidShow =>
      simp only [handle, keyboardDidShow]
      split <;> rfl
  | _ => rfl

lemma pen_touchesBegan (point : CGPoint) (onPanel : Bool) :
    (e.touchesBegan point onPanel).pen =
      if e.isDrawing then (some point, false, e.trapped) else e.pen := by
  unfold touchesBegan
  split
  · rfl
  · split <;> rfl

lemma pen_drawLineFrom (fromPoint toPoint : Option CGPoint) :
    (e.drawLineFrom fromPoint toPoint).pen =
      (e.lastPoint, e.swiped, e.trapped || fromPoint.isNone || toPoint.isNone) := by
  cases fromPoint with
  | none => simp [drawLineFrom, pen]
  | some fromPoint => cases toPoint <;> simp [drawLineFrom, pen]

lemma pen_touchesMoved (point : CGPoint) :
    (e.touchesMoved point).pen =
      if e.isDrawing then (some point, true, e.trapped || e.lastPoint.isNone) else e.pen := by
  unfold touchesMoved
  split
  · have hdraw := pen_drawLineFrom { e with swiped := true } e.lastPoint (some point)
    simp only [pen, Prod.mk.injEq, Option.isNone_some, Bool.or_false] at hdraw ⊢
    exact ⟨trivial, hdraw.2.1, hdraw.2.2⟩
  · rfl

lemma pen_touchesEnded :
    e.touchesEnded.pen =
      if e.isDrawing && !e.swiped then (e.lastPoint, e.swiped, e.trapped || e.lastPoint.isNone)
      else e.pen := by
  unfold touchesEnded
  split
  · rw [pen_drawLineFrom, Bool.or_assoc, Bool.or_self]
  · rfl

end PhotoEditor

lemma pointKnown_viewDidLoad (stickers : List Image) :
    PointKnown (PhotoEditor.viewDidLoad stickers, false) := ⟨rfl, fun _ => rfl⟩

section Step

variable {L : EditorLayout} {s : PhotoEditor Image × Bool} {ev : EditorEvent Image}

/-- A step of the editor with its record of touches. -/
lemma drawing_step {s' : PhotoEditor Image × Bool}
    (hstep : withHistory hasBegun (editorStep L) s ev = some s') :
    s' = (s.1.handle L ev, hasBegun s.1 s.2 ev (s.1.handle L ev)) := by
  obtain ⟨e', he', rfl⟩ := Option.map_eq_some_iff.mp hstep
  obtain ⟨-, -, rfl⟩ := editorStep_eq_some.mp he'
  rfl

/-- The last point and the record after a step, by the pen. -/
lemma pointKnown_iff {begun : Bool} {e : PhotoEditor Image} :
    PointKnown (e, begun) ↔ e.pen.1.isSome = begun ∧ (begun = false → e.pen.2.1 = false) :=
  ⟨fun h => ⟨h.lastPoint, h.swiped⟩, fun h => ⟨h.1, h.2⟩⟩

/-- A step keeps track of the last point unless it traps. -/
lemma pointKnown_step (h : PointKnown s) (htrapped' : (s.1.handle L ev).trapped = false) :
    PointKnown (s.1.handle L ev, hasBegun s.1 s.2 ev (s.1.handle L ev)) := by
  obtain ⟨e, begun⟩ := s
  rw [pointKnown_iff] at h ⊢
  have htrap : (e.handle L ev).pen.2.2 = false := htrapped'
  cases ev with
  | touchesBegan point onPanel =>
      simp only [PhotoEditor.handle, PhotoEditor.pen_touchesBegan, hasBegun]
      by_cases hdrawing : e.isDrawing
      · rw [if_pos hdrawing, hdrawing, Bool.or_true]
        exact ⟨rfl, fun h => absurd h.symm Bool.false_ne_true⟩
      · rw [if_neg hdrawing, Bool.eq_false_of_not_eq_true hdrawing, Bool.or_false]
        exact h
  | touchesMoved point =>
      simp only [PhotoEditor.handle, PhotoEditor.pen_touchesMoved, hasBegun] at htrap ⊢
      by_cases hdrawing : e.isDrawing
      · rw [if_pos hdrawing, Bool.or_eq_false_iff, Option.isNone_eq_false_iff] at htrap
        have hbegun : begun = true := h.1.symm.trans htrap.2
        rw [if_pos hdrawing, hbegun]
        exact ⟨rfl, fun h => absurd h.symm Bool.false_ne_true⟩
      · rw [if_neg hdrawing]
        exact h
  | touchesEnded =>
      simp only [PhotoEditor.handle, PhotoEditor.pen_touchesEnded, hasBegun]
      split <;> exact h
  | _ =>
      rw [e.pen_handle L rfl]
      exact h

/-- A step traps exactly if a touch moves or ends that began before the drawing mode. -/
lemma trapped_step_iff (h : PointKnown s) (htrapped : s.1.trapped = false) :
    (s.1.handle L ev).trapped = false ↔ BeganBefore s ev := by
  obtain ⟨e, begun⟩ := s
  have hlast : e.lastPoint.isNone = !begun := by
    rw [← Option.not_isSome, h.lastPoint]
  show (e.handle L ev).pen.2.2 = false ↔ _
  cases ev with
  | touchesBegan point onPanel =>
      refine iff_of_true ?_ trivial
      simp only [PhotoEditor.handle, PhotoEditor.pen_touchesBegan]
      split <;> exact htrapped
  | touchesMoved point =>
      simp only [PhotoEditor.handle, PhotoEditor.pen_touchesMoved, BeganBefore]
      by_cases hdrawing : e.isDrawing
      · simp [hdrawing, hlast, show e.trapped = false from htrapped]
      · simp [hdrawing, PhotoEditor.pen, show e.trapped = false from htrapped]
  | touchesEnded =>
      simp only [PhotoEditor.handle, PhotoEditor.pen_touchesEnded, BeganBefore]
      by_cases hdrawing : e.isDrawing
      · cases hbegun : begun with
        | false =>
            have hswiped : e.swiped = false := h.swiped hbegun
            simp [hdrawing, hswiped, hlast, hbegun]
        | true =>
            refine iff_of_true ?_ fun _ => rfl
            rw [hbegun, Bool.not_true] at hlast
            split
            · rw [hlast, Bool.or_false]
              exact htrapped
            · exact htrapped
      · simp [hdrawing, PhotoEditor.pen, show e.trapped = false from htrapped]
  | _ =>
      refine iff_of_true ?_ trivial
      rw [e.pen_handle L rfl]
      exact htrapped

end Step

/-- **Drawing is safe, exactly.**  Through any order of handler calls the app never traps if and
only if every touch that moves or ends in drawing mode comes after one that began in drawing
mode. -/
theorem drawing_safe_iff (L : EditorLayout) (stickers : List Image)
    (es : List (EditorEvent Image)) :
    Always (withHistory hasBegun (editorStep L)) (fun s => s.1.trapped = false)
        (.viewDidLoad stickers, false) es ↔
      Along (withHistory hasBegun (editorStep L)) BeganBefore (.viewDidLoad stickers, false)
        es := by
  refine always_iff_along (J := PointKnown) (P := fun s => s.1.trapped = false)
    (pointKnown_viewDidLoad stickers) rfl ?_ ?_ es
  · intro s ev s' hknown hsafe hstep hsafe'
    obtain rfl := drawing_step hstep
    exact pointKnown_step hknown hsafe'
  · intro s ev s' hknown hsafe hstep
    obtain rfl := drawing_step hstep
    exact trapped_step_iff hknown hsafe

/-- A finger is on the canvas when the Draw button is tapped with another one. -/
def twoFingers (L : EditorLayout) :
    Execution (editorStep L) (PhotoEditor.viewDidLoad ([] : List Unit)) :=
  .ofEvents _ [.touchesBegan ⟨10, 10⟩ false, .drawButtonTapped, .touchesMoved ⟨20, 20⟩] rfl

/-- It moves, and the app traps. -/
example (L : EditorLayout) : (twoFingers L).final.trapped = true := rfl

/-! ## What is drawn -/

/-- A touch in drawing mode, after a colour has been chosen for it or not. -/
structure Touch where
  color : Option UIColor
  start : CGPoint
  onPanel : Bool
  moves : List CGPoint

namespace Touch

variable (t : Touch)

/-- The events of a touch. -/
def events : List (EditorEvent Image) :=
  t.color.toList.map .didSelectColor ++ .touchesBegan t.start t.onPanel ::
    (t.moves.map .touchesMoved ++ [.touchesEnded])

/-- The polyline of a touch, or a dot. -/
def strokes (color : UIColor) : List Stroke :=
  if t.moves = [] then [⟨t.start, t.start, color⟩]
  else List.zipWith (fun p q => ⟨p, q, color⟩) (t.start :: t.moves) t.moves

end Touch

/-- What the touches draw, beginning with a colour. -/
def inked (color : UIColor) : List Touch → List Stroke
  | [] => []
  | t :: touches => t.strokes (t.color.getD color) ++ inked (t.color.getD color) touches

/-- The colour after the touches. -/
def inkColor (color : UIColor) (touches : List Touch) : UIColor :=
  touches.foldl (fun color t => t.color.getD color) color

namespace PhotoEditor

variable (L : EditorLayout) (e : PhotoEditor Image)

/-- The editor after it has drawn. -/
def drawn (color : UIColor) (strokes : List Stroke) (lastPoint : Option CGPoint) (swiped : Bool) :
    PhotoEditor Image :=
  { e with
    drawColor := color
    strokes := e.strokes ++ strokes
    lastPoint := lastPoint
    swiped := swiped }

lemma drawn_drawn (color color' : UIColor) (strokes strokes' : List Stroke)
    (lastPoint lastPoint' : Option CGPoint) (swiped swiped' : Bool) :
    (e.drawn color strokes lastPoint swiped).drawn color' strokes' lastPoint' swiped' =
      e.drawn color' (strokes ++ strokes') lastPoint' swiped' := by
  simp only [drawn, List.append_assoc]

lemma drawn_nil : e.drawn e.drawColor [] e.lastPoint e.swiped = e := by
  simp only [drawn, List.append_nil]

variable {e}

lemma step_eq_handle (htrapped : e.trapped = false) {ev : EditorEvent Image}
    (hallows : e.allows ev) : editorStep L e ev = some (e.handle L ev) :=
  editorStep_eq_some.mpr ⟨htrapped, hallows, rfl⟩

lemma step_touchesMoved (hdrawing : e.isDrawing) (htrapped : e.trapped = false)
    {start : CGPoint} (hstart : e.lastPoint = some start) (point : CGPoint) :
    editorStep L e (.touchesMoved point) =
      some (e.drawn e.drawColor [⟨start, point, e.drawColor⟩] (some point) true) := by
  rw [step_eq_handle L htrapped rfl, handle, touchesMoved, if_pos hdrawing, hstart]
  rfl

/-- The moves of a touch draw its polyline. -/
lemma run_touchesMoved (hdrawing : e.isDrawing) (htrapped : e.trapped = false) {start : CGPoint}
    (hstart : e.lastPoint = some start) (moves : List CGPoint) :
    run (editorStep L) e (moves.map .touchesMoved) =
      some (e.drawn e.drawColor
        (List.zipWith (fun p q => ⟨p, q, e.drawColor⟩) (start :: moves) moves)
        (some (moves.getLastD start)) (e.swiped || !moves.isEmpty)) := by
  induction moves generalizing e start with
  | nil =>
      simp only [List.map_nil, run_nil, List.zipWith_nil_right, List.getLastD_nil,
        List.isEmpty_nil, Bool.not_true, Bool.or_false, ← hstart, drawn_nil]
  | cons point moves ih =>
      have hrest := ih (e := e.drawn e.drawColor [⟨start, point, e.drawColor⟩] (some point) true)
        hdrawing htrapped rfl
      rw [List.map_cons, run_cons, step_touchesMoved L hdrawing htrapped hstart, Option.bind_some,
        hrest, drawn_drawn, List.getLastD_cons, List.isEmpty_cons, Bool.not_false, Bool.or_true]
      rfl

/-- A touch that ends leaves a dot unless it has moved. -/
lemma step_touchesEnded (hdrawing : e.isDrawing) (htrapped : e.trapped = false) :
    editorStep L e .touchesEnded =
      some (if e.swiped then e else e.drawLineFrom e.lastPoint e.lastPoint) := by
  rw [step_eq_handle L htrapped rfl, handle, touchesEnded, hdrawing]
  cases e.swiped <;> rfl

/-- A touch, its colour apart. -/
lemma run_touch (hdrawing : e.isDrawing) (htrapped : e.trapped = false) (start : CGPoint)
    (onPanel : Bool) (moves : List CGPoint) :
    run (editorStep L) e (.touchesBegan start onPanel :: (moves.map .touchesMoved ++
        [.touchesEnded])) =
      some (e.drawn e.drawColor (Touch.strokes ⟨none, start, onPanel, moves⟩ e.drawColor)
        (some (moves.getLastD start)) (!moves.isEmpty)) := by
  have hbegan : editorStep L e (.touchesBegan start onPanel) =
      some (e.drawn e.drawColor [] (some start) false) := by
    rw [step_eq_handle L htrapped rfl, handle, touchesBegan, if_pos hdrawing, drawn,
      List.append_nil]
  have hmoved := run_touchesMoved L (e := e.drawn e.drawColor [] (some start) false) hdrawing
    htrapped rfl moves
  rw [drawn_drawn] at hmoved
  rw [run_cons, hbegan, Option.bind_some, run_append, hmoved, Option.bind_some, run_singleton,
    step_touchesEnded L (by exact hdrawing) (by exact htrapped)]
  cases moves with
  | nil => simp [drawn, drawLineFrom, Touch.strokes]
  | cons point moves => simp [drawn, Touch.strokes]

/-- A touch draws its strokes in its colour. -/
lemma run_touchEvents (hdrawing : e.isDrawing) (htrapped : e.trapped = false) (t : Touch) :
    run (editorStep L) e t.events =
      some (e.drawn (t.color.getD e.drawColor) (t.strokes (t.color.getD e.drawColor))
        (some (t.moves.getLastD t.start)) (!t.moves.isEmpty)) := by
  obtain ⟨color, start, onPanel, moves⟩ := t
  cases color with
  | none => exact run_touch L hdrawing htrapped start onPanel moves
  | some color =>
      have hcolor : editorStep L e (.didSelectColor color) =
          some (e.drawn color [] e.lastPoint e.swiped) := by
        rw [step_eq_handle L htrapped rfl, handle, didSelectColor, if_pos hdrawing, drawn,
          List.append_nil]
      have htouch := run_touch L (e := e.drawn color [] e.lastPoint e.swiped) hdrawing htrapped
        start onPanel moves
      rw [drawn_drawn] at htouch
      refine (run_cons e _ _).trans ?_
      rw [hcolor, Option.bind_some]
      exact htouch

/-- The touches of a session draw one after the other. -/
lemma run_touches (hdrawing : e.isDrawing) (htrapped : e.trapped = false) (touches : List Touch) :
    ∃ lastPoint swiped, run (editorStep L) e (touches.flatMap Touch.events) =
      some (e.drawn (inkColor e.drawColor touches) (inked e.drawColor touches) lastPoint
        swiped) := by
  induction touches generalizing e with
  | nil => exact ⟨e.lastPoint, e.swiped, congrArg some e.drawn_nil.symm⟩
  | cons t touches ih =>
      have htouch := run_touchEvents L hdrawing htrapped t
      obtain ⟨lastPoint, swiped, hrest⟩ := ih (e := e.drawn (t.color.getD e.drawColor)
        (t.strokes (t.color.getD e.drawColor)) (some (t.moves.getLastD t.start))
        (!t.moves.isEmpty)) hdrawing htrapped
      refine ⟨lastPoint, swiped, ?_⟩
      rw [List.flatMap_cons, run_append, htouch, Option.bind_some, hrest, drawn_drawn]
      rfl

end PhotoEditor

/-- **Drawing draws what was touched.**  From any state of the editor, after a tap on the Draw
button the touches of a session add the polyline of each, or a dot, in the colour chosen last; and
they change nothing but the drawing, its colour, the last point and `swiped`. -/
theorem drawing_draws (L : EditorLayout) {e : PhotoEditor Image} (htrapped : e.trapped = false)
    (touches : List Touch) :
    ∃ lastPoint swiped,
      run (editorStep L) e (.drawButtonTapped :: touches.flatMap Touch.events) =
        some (e.drawButtonTapped.drawn (inkColor e.drawColor touches) (inked e.drawColor touches)
          lastPoint swiped) := by
  rw [run_cons, PhotoEditor.step_eq_handle L htrapped rfl, Option.bind_some]
  exact PhotoEditor.run_touches L (e := e.drawButtonTapped) rfl htrapped touches

/-- A line of two segments in red, and a dot. -/
def lineAndDot : List Touch :=
  [⟨some ⟨1, 0, 0, 1⟩, ⟨10, 10⟩, false, [⟨20, 10⟩, ⟨20, 20⟩]⟩, ⟨none, ⟨30, 30⟩, false, []⟩]

theorem lineAndDot_drawn : ∃ lastPoint swiped,
    run (editorStep phone) (PhotoEditor.viewDidLoad ([] : List Unit))
        (.drawButtonTapped :: lineAndDot.flatMap Touch.events) =
      some ((PhotoEditor.viewDidLoad []).drawButtonTapped.drawn ⟨1, 0, 0, 1⟩
        [⟨⟨10, 10⟩, ⟨20, 10⟩, ⟨1, 0, 0, 1⟩⟩, ⟨⟨20, 10⟩, ⟨20, 20⟩, ⟨1, 0, 0, 1⟩⟩,
          ⟨⟨30, 30⟩, ⟨30, 30⟩, ⟨1, 0, 0, 1⟩⟩] lastPoint swiped) :=
  drawing_draws phone rfl lineAndDot

end Whix
