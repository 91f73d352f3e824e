import Whix.Framework.Runs
import Whix.Properties.CanvasViews

/-!
# The controls of the photo editor

Which controls are shown is scattered over many handlers, and the handlers are called in any
order.  The controls by themselves are a small machine: `Controls` is its state, a
`ControlChange` what a handler can do to it, and `controls_step` says that the editor follows it.

Two results stand on it.  Whenever the toolbars are hidden, one of the flags that belong to a way
back to them is set.  And the interface stays coherent exactly as long as no panel disappears, no
pan ends and no keyboard hides at the wrong moment (`coherent_iff`); the sticker panel that is
dragged down leaves a canvas that cannot be touched.
-/

namespace Whix

open Runs

variable {Image : Type}

/-- What is shown, and what decides it. -/
structure Controls where
  toolbarHidden : Bool
  doneHidden : Bool
  colorPickerHidden : Bool
  deleteHidden : Bool
  canvasEnabled : Bool
  stickersVCIsVisible : Bool
  isDrawing : Bool
  isTyping : Bool
  removals : ℕ

/-- What a handler can do to the controls. -/
inductive ControlChange where
  | keep
  | draw
  | done
  | type
  | keyboardShown
  | keyboardHidden
  | panelAdded
  | panelRemoved
  | removalCompleted
  | panelDisappeared
  | moved
  | dropped

/-- The controls after a change. -/
def Controls.after (c : Controls) : ControlChange → Controls
  | .keep => c
  | .draw =>
      { c with
        isDrawing := true
        canvasEnabled := false
        doneHidden := false
        colorPickerHidden := false
        toolbarHidden := true }
  | .done =>
      { c with
        doneHidden := true
        colorPickerHidden := true
        canvasEnabled := true
        toolbarHidden := false
        isDrawing := false }
  | .type => { c with isTyping := true }
  | .keyboardShown =>
      { c with doneHidden := false, colorPickerHidden := false, toolbarHidden := true }
  | .keyboardHidden => { c with isTyping := false, doneHidden := true, toolbarHidden := false }
  | .panelAdded =>
      { c with stickersVCIsVisible := true, toolbarHidden := true, canvasEnabled := false }
  | .panelRemoved =>
      { c with stickersVCIsVisible := false, canvasEnabled := true, removals := c.removals + 1 }
  | .removalCompleted => { c with removals := c.removals - 1, toolbarHidden := false }
  | .panelDisappeared => { c with stickersVCIsVisible := false, toolbarHidden := false }
  | .moved => { c with toolbarHidden := true, deleteHidden := false }
  | .dropped => { c with toolbarHidden := c.isTyping, deleteHidden := true }

namespace PhotoEditor

variable (L : EditorLayout) (e : PhotoEditor Image)

/-- The controls of the editor. -/
def controls : Controls where
  toolbarHidden := e.toolbarHidden
  doneHidden := e.doneHidden
  colorPickerHidden := e.colorPickerHidden
  deleteHidden := e.deleteHidden
  canvasEnabled := e.canvasEnabled
  stickersVCIsVisible := e.stickersVCIsVisible
  isDrawing := e.isDrawing
  isTyping := e.isTyping
  removals := e.removals

/-- What an event does to the controls. -/
def change : EditorEvent Image → ControlChange
  | .drawButtonTapped => .draw
  | .textButtonTapped => .type
  | .doneButtonTapped => .done
  | .stickersButtonTapped => .panelAdded
  | .screenEdgeSwiped => if e.stickersVCIsVisible then .keep else .panelAdded
  | .touchesBegan _ onPanel =>
      if e.isDrawing then .keep
      else if e.stickersVCIsVisible && !onPanel then .panelRemoved
      else .keep
  | .panGesture id alpha recognizer =>
      match e.panTarget id alpha recognizer with
      | some _ => if recognizer.state = .ended then .dropped else .moved
      | none => .keep
  | .editText id => if e.firstResponder = some id then .keep else .type
  | .keyboardDidShow => if e.isTyping then .keyboardShown else .keep
  | .keyboardWillHide => .keyboardHidden
  | .didSelectView _ => .panelRemoved
  | .didSelectImage _ => .panelRemoved
  | .stickersViewRemoved => .removalCompleted
  | .stickersViewDidDisappear => .panelDisappeared
  | _ => .keep

/-! ## The editor follows the machine -/

@[simp] lemma controls_textViewDidEndEditing (id : ℕ) :
    (e.textViewDidEndEditing id).controls = e.controls := by
  unfold textViewDidEndEditing
  split <;> rfl

@[simp] lemma controls_resignFirstResponder : e.resignFirstResponder.controls = e.controls := by
  unfold resignFirstResponder
  cases e.firstResponder with
  | none => rfl
  | some id => exact e.controls_textViewDidEndEditing id

/-- A view does not go when the text that was edited resigns. -/
lemma isSome_subview_resignFirstResponder (id : ℕ) :
    (e.resignFirstResponder.subview id).isSome = (e.subview id).isSome := by
  cases hfirst : e.firstResponder with
  | none => rw [resignFirstResponder, hfirst]
  | some editedId =>
      have hresign : (e.resignFirstResponder.subview id).isSome =
          ((e.textViewDidEndEditing editedId).subview id).isSome := by
        rw [resignFirstResponder, hfirst]
        rfl
      rw [hresign]
      unfold textViewDidEndEditing
      split
      · rw [subview_modify _ _ _ (by simp), Option.isSome_map]
        rfl
      · rfl

lemma becomeFirstResponder_of_some {id : ℕ} {view : CanvasView Image}
    (hfirst : e.firstResponder ≠ some id) (hview : e.resignFirstResponder.subview id = some view) :
    e.becomeFirstResponder L id =
      { e.resignFirstResponder.textViewDidBeginEditing L view with firstResponder := some id } := by
  rw [becomeFirstResponder, if_neg hfirst]
  unfold beginEditing
  rw [hview]

/-- A text view on the canvas becomes the one that is edited. -/
lemma controls_becomeFirstResponder {id : ℕ} (hview : (e.subview id).isSome) :
    (e.becomeFirstResponder L id).controls =
      e.controls.after (if e.firstResponder = some id then .keep else .type) := by
  by_cases hfirst : e.firstResponder = some id
  · rw [becomeFirstResponder, if_pos hfirst, if_pos hfirst]
    rfl
  · rw [← isSome_subview_resignFirstResponder] at hview
    obtain ⟨view, hview⟩ := Option.isSome_iff_exists.mp hview
    rw [becomeFirstResponder_of_some L e hfirst hview, if_neg hfirst]
    show { e.resignFirstResponder.controls with isTyping := true } = _
    rw [controls_resignFirstResponder]
    rfl

lemma controls_textButtonTapped : (e.textButtonTapped L).controls = e.controls.after .type := by
  have hview : ((e.addTextView L).subview e.nextView).isSome := isSome_subview_addSubview ..
  rw [textButtonTapped, controls_becomeFirstResponder _ _ hview]
  split <;> rfl

lemma controls_moveView (id : ℕ) (recognizer : Pan) :
    (e.moveView L id recognizer).controls =
      e.controls.after (if recognizer.state = .ended then .dropped else .moved) := by
  unfold moveView
  split
  · unfold dropView
    split <;> rfl
  · rfl

lemma controls_grabImageView (alpha : ℕ → Bool) (recognizer : Pan) :
    (e.grabImageView alpha recognizer).controls = e.controls := by
  unfold grabImageView
  split <;> rfl

/-- A pan moves its target. -/
lemma controls_panGesture (id : ℕ) (alpha : ℕ → Bool) (recognizer : Pan) :
    (e.panGesture L id alpha recognizer).controls =
      e.controls.after (e.change (.panGesture id alpha recognizer)) := by
  simp only [panGesture, change, panTarget]
  split
  · rw [← controls_grabImageView e alpha recognizer]
    cases (e.grabImageView alpha recognizer).imageViewToPan with
    | none => rfl
    | some target => exact controls_moveView ..
  · exact controls_moveView ..

lemma controls_scaleEffect (id : ℕ) : (e.scaleEffect id).controls = e.controls := by
  unfold scaleEffect
  split <;> rfl

lemma controls_tapGesture (id : ℕ) (alpha : ℕ → Bool) :
    (e.tapGesture id alpha).controls = e.controls := by
  unfold tapGesture
  split
  · cases e.visibleImageView alpha with
    | none => rfl
    | some view => exact controls_scaleEffect ..
  · exact controls_scaleEffect ..

lemma controls_touchesBegan (point : CGPoint) (onPanel : Bool) :
    (e.touchesBegan point onPanel).controls =
      e.controls.after (e.change (.touchesBegan point onPanel)) := by
  rw [touchesBegan, change]
  split
  · rfl
  · split <;> rfl

/-- Drawing leaves the controls. -/
lemma controls_drawLineFrom (fromPoint toPoint : Option CGPoint) :
    (e.drawLineFrom fromPoint toPoint).controls = e.controls := by
  unfold drawLineFrom
  split <;> rfl

/-- **The editor follows its controls.**  Every handler does to the controls what `change` says. -/
lemma controls_handle {ev : EditorEvent Image} (hallows : e.allows ev) :
    (e.handle L ev).controls = e.controls.after (e.change ev) := by
  cases ev with
  | drawButtonTapped => rfl
  | textButtonTapped => exact controls_textButtonTapped L e
  | doneButtonTapped =>
      show { e.resignFirstResponder.controls with
        doneHidden := true
        colorPickerHidden := true
        canvasEnabled := true
        toolbarHidden := false
        isDrawing := false } = _
      rw [controls_resignFirstResponder]
      rfl
  | clearButtonTapped => rfl
  | stickersButtonTapped => rfl
  | screenEdgeSwiped =>
      simp only [handle, screenEdgeSwiped, change]
      split <;> rfl
  | didSelectColor color =>
      simp only [handle, didSelectColor]
      split
      · rfl
      · split <;> rfl
  | touchesBegan point onPanel => exact controls_touchesBegan e point onPanel
  | touchesMoved point =>
      simp only [handle, touchesMoved]
      split
      · exact controls_drawLineFrom { e with swiped := true } e.lastPoint (some point)
      · rfl
  | touchesEnded =>
      simp only [handle, touchesEnded]
      split
      · exact controls_drawLineFrom e e.lastPoint e.lastPoint
      · rfl
  | panGesture id alpha recognizer => exact controls_panGesture L e id alpha recognizer
  | pinchGesture id scale => rfl
  | rotationGesture id cos sin => rfl
  | tapGesture id alpha => exact controls_tapGesture e id alpha
  | effectCompleted i =>
      simp only [handle, effectCompleted]
      split <;> rfl
  | textViewDidChange id growth => rfl
  | editText id =>
      refine controls_becomeFirstResponder L e ?_
      cases h : e.subview id with
      | none => simp [allows, h] at hallows
      | some view => rfl
  | endEditing => exact e.controls_resignFirstResponder
  | keyboardDidShow =>
      simp only [handle, keyboardDidShow, change]
      split <;> rfl
  | keyboardWillHide => rfl
  | didSelectView text => rfl
  | didSelectImage image => rfl
  | removeBottomSheetView => rfl
  | stickersViewRemoved => rfl
  | stickersViewDidDisappear => rfl

end PhotoEditor

/-- Every step of the editor is a change of the controls. -/
lemma controls_step {L : EditorLayout} {e e' : PhotoEditor Image} {ev : EditorEvent Image}
    (hstep : editorStep L e ev = some e') : e'.controls = e.controls.after (e.change ev) := by
  obtain ⟨-, hallows, rfl⟩ := editorStep_eq_some.mp hstep
  exact e.controls_handle L hallows

/-! ## A way back to the toolbars -/

/-- If the toolbars are hidden, then the Done button is shown, the panel is open or on its way out,
the delete view is shown, or `isTyping` is set.  The delete view is shown from the first move of a
pan until a pan ends, so one that is cancelled leaves it, and the toolbars hidden. -/
def Controls.HasExit (c : Controls) : Prop :=
  c.toolbarHidden → c.doneHidden = false ∨ c.stickersVCIsVisible ∨ c.removals ≠ 0 ∨
    c.deleteHidden = false ∨ c.isTyping

lemma Controls.HasExit.after {c : Controls} (h : c.HasExit) (change : ControlChange) :
    (c.after change).HasExit := by
  intro hhidden
  cases change with
  | keep => exact h hhidden
  | type => exact Or.inr (Or.inr (Or.inr (Or.inr rfl)))
  | draw => exact Or.inl rfl
  | keyboardShown => exact Or.inl rfl
  | panelAdded => exact Or.inr (Or.inl rfl)
  | panelRemoved => exact Or.inr (Or.inr (Or.inl (Nat.succ_ne_zero _)))
  | moved => exact Or.inr (Or.inr (Or.inr (Or.inl rfl)))
  | dropped => exact Or.inr (Or.inr (Or.inr (Or.inr hhidden)))
  | done => exact absurd hhidden Bool.false_ne_true
  | keyboardHidden => exact absurd hhidden Bool.false_ne_true
  | removalCompleted => exact absurd hhidden Bool.false_ne_true
  | panelDisappeared => exact absurd hhidden Bool.false_ne_true

/-- **There is a way back.**  In every state that any order of handler calls leads to, hidden
toolbars come with the Done button, with the panel or its removal, with the delete view, or with
`isTyping`. -/
theorem toolbar_returns (L : EditorLayout) (stickers : List Image)
    (r : Execution (editorStep L) (PhotoEditor.viewDidLoad stickers)) :
    r.Always fun e => e.controls.HasExit := by
  intro pre _ e he
  have hstart : (PhotoEditor.viewDidLoad stickers).controls.HasExit :=
    fun hhidden => absurd hhidden Bool.false_ne_true
  refine invariant_run (J := fun e => e.controls.HasExit) (fun e ev e' hexit hstep => ?_) hstart he
  rw [controls_step hstep]
  exact hexit.after _

/-! ## A coherent interface -/

/-- The toolbars and the Done button are not shown together, the colour picker is shown with the
Done button, and the canvas can be touched unless one draws or the panel is open. -/
structure Controls.Coherent (c : Controls) : Prop where
  bars : c.toolbarHidden ∨ c.doneHidden
  picker : c.colorPickerHidden = c.doneHidden
  canvas : c.canvasEnabled ∨ c.isDrawing ∨ c.stickersVCIsVisible

/-- What a change must find. -/
def Controls.Admits (c : Controls) : ControlChange → Prop
  | .removalCompleted => c.doneHidden
  | .panelDisappeared => c.doneHidden ∧ (c.canvasEnabled ∨ c.isDrawing)
  | .dropped => c.isTyping ∨ c.doneHidden
  | .keyboardHidden => c.doneHidden
  | _ => True

/-- A change keeps a coherent interface coherent exactly when it finds what it must. -/
lemma Controls.Coherent.after_iff {c : Controls} (h : c.Coherent) (change : ControlChange) :
    (c.after change).Coherent ↔ c.Admits change := by
  obtain ⟨hbars, hpicker, hcanvas⟩ := h
  cases change with
  | keep => exact iff_of_true ⟨hbars, hpicker, hcanvas⟩ trivial
  | type => exact iff_of_true ⟨hbars, hpicker, hcanvas⟩ trivial
  | draw => exact iff_of_true ⟨Or.inl rfl, rfl, Or.inr (Or.inl rfl)⟩ trivial
  | done => exact iff_of_true ⟨Or.inr rfl, rfl, Or.inl rfl⟩ trivial
  | keyboardShown => exact iff_of_true ⟨Or.inl rfl, rfl, hcanvas⟩ trivial
  | panelAdded => exact iff_of_true ⟨Or.inl rfl, hpicker, Or.inr (Or.inr rfl)⟩ trivial
  | panelRemoved => exact iff_of_true ⟨hbars, hpicker, Or.inl rfl⟩ trivial
  | moved => exact iff_of_true ⟨Or.inl rfl, hpicker, hcanvas⟩ trivial
  | keyboardHidden =>
      constructor
      · intro h
        exact hpicker.symm.trans h.picker
      · intro hdone
        exact ⟨Or.inr rfl, hpicker.trans hdone, hcanvas⟩
  | removalCompleted =>
      constructor
      · intro h
        exact h.bars.resolve_left Bool.false_ne_true
      · intro hdone
        exact ⟨Or.inr hdone, hpicker, hcanvas⟩
  | panelDisappeared =>
      constructor
      · intro h
        refine ⟨h.bars.resolve_left Bool.false_ne_true, ?_⟩
        exact h.canvas.imp_right fun h => h.resolve_right Bool.false_ne_true
      · rintro ⟨hdone, hcanvas⟩
        exact ⟨Or.inr hdone, hpicker, hcanvas.imp_right Or.inl⟩
  | dropped =>
      constructor
      · intro h
        exact h.bars
      · intro hbars
        exact ⟨hbars, hpicker, hcanvas⟩

/-- The event comes at a moment that suits it: the panel goes while the Done button is hidden, and
if it was dragged down, while the canvas is on or drawn on; a pan ends while the Done button is
hidden or a text is typed; and the keyboard hides after the Done button. -/
def Timely (e : PhotoEditor Image) : EditorEvent Image → Prop
  | .stickersViewRemoved => e.doneHidden
  | .stickersViewDidDisappear => e.doneHidden ∧ (e.canvasEnabled ∨ e.isDrawing)
  | .panGesture id alpha recognizer =>
      recognizer.state = .ended → (e.panTarget id alpha recognizer).isSome →
        e.isTyping ∨ e.doneHidden
  | .keyboardWillHide => e.doneHidden
  | _ => True

lemma admits_change_iff (e : PhotoEditor Image) (ev : EditorEvent Image) :
    e.controls.Admits (e.change ev) ↔ Timely e ev := by
  cases ev with
  | panGesture id alpha recognizer =>
      simp only [PhotoEditor.change, Timely]
      cases e.panTarget id alpha recognizer with
      | none => simp [Controls.Admits]
      | some target =>
          by_cases hended : recognizer.state = .ended
          · rw [if_pos hended]
            exact ⟨fun h _ _ => h, fun h => h hended rfl⟩
          · rw [if_neg hended]
            exact iff_of_true trivial fun h => absurd h hended
  | screenEdgeSwiped =>
      simp only [PhotoEditor.change, Timely, iff_true]
      split <;> trivial
  | touchesBegan point onPanel =>
      simp only [PhotoEditor.change, Timely, iff_true]
      split
      · trivial
      · split <;> trivial
  | editText id =>
      simp only [PhotoEditor.change, Timely, iff_true]
      split <;> trivial
  | keyboardDidShow =>
      simp only [PhotoEditor.change, Timely, iff_true]
      split <;> trivial
  | _ => exact Iff.rfl

/-- **A coherent interface, exactly.**  Through any order of handler calls, the toolbars and the
Done button are never shown together, the colour picker goes with the Done button, and the canvas
can be touched unless one draws or the panel is open, if and only if every event is timely: a panel
goes while the Done button is hidden, and one that was dragged down also while the canvas is on or
drawn on; a pan of a view ends while the Done button is hidden or `isTyping` is set; and the
keyboard hides while the Done button is hidden. -/
theorem coherent_iff (L : EditorLayout) (stickers : List Image) (es : List (EditorEvent Image)) :
    Always (editorStep L) (fun e => e.controls.Coherent) (.viewDidLoad stickers) es ↔
      Along (editorStep L) Timely (.viewDidLoad stickers) es := by
  refine always_iff_along (J := fun _ => True) trivial ?_ (fun _ _ _ _ _ _ _ => trivial) ?_ es
  · exact ⟨Or.inr rfl, rfl, Or.inl rfl⟩
  · intro e ev e' _ hcoherent hstep
    rw [controls_step hstep, hcoherent.after_iff, admits_change_iff]

/-- The stickers panel is opened and dragged down. -/
def panelDragged (L : EditorLayout) :
    Execution (editorStep L) (PhotoEditor.viewDidLoad ([] : List Unit)) :=
  .ofEvents _ [.stickersButtonTapped, .removeBottomSheetView, .stickersViewDidDisappear] rfl

/-- The canvas can no longer be touched. -/
example (L : EditorLayout) : (panelDragged L).final.canvasEnabled = false := rfl

end Whix
