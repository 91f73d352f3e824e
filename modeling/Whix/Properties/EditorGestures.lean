import Mathlib.Tactic.FieldSimp
import Whix.Framework.Runs
import Whix.Properties.EditorText

/-!
# A pan from beginning to end

While a view is dragged, every crossing of the border of the delete view scales it, by a quarter on
the way in and by four on the way out; pinches and rotations go on at the same time, and so does
whatever else does not need the view.  The crossings telescope, and they commute with the pinches
and rotations: what is left at the end depends on the first and the last point alone.

`pan_exact` says what a pan does as a whole, if no other pan was left unfinished before it.  A view
whose pan begins inside the delete view, where nothing is scaled down, comes out four times as
large.
-/

namespace Whix

open Runs

variable {Image : Type}

/-! ## What the events say -/

/-- The point of a pan. -/
def EditorEvent.panLocation : EditorEvent Image → Option CGPoint
  | .panGesture _ _ recognizer => some recognizer.location
  | _ => none

/-- What an event makes of the transform of the view `id`, apart from pans. -/
def EditorEvent.turn (id : ℕ) (isText : Bool) (t : CGAffineTransform) :
    EditorEvent Image → CGAffineTransform
  | .pinchGesture view scale => if view = id ∧ isText = false then t.scaledBy scale else t
  | .rotationGesture view cos sin => if view = id then t.rotated cos sin else t
  | _ => t

/-- What the pinches and rotations make of a transform. -/
def turned (id : ℕ) (isText : Bool) (t : CGAffineTransform) (events : List (EditorEvent Image)) :
    CGAffineTransform :=
  events.foldl (EditorEvent.turn id isText) t

/-- The point where a pan begins. -/
def firstPan (events : List (EditorEvent Image)) : Option CGPoint :=
  events.findSome? EditorEvent.panLocation

/-- The point of the last pan. -/
def lastPan (events : List (EditorEvent Image)) : Option CGPoint :=
  events.reverse.findSome? EditorEvent.panLocation

/-- The scale of a view that is dragged at a point. -/
def level (L : EditorLayout) (point : CGPoint) : CGFloat :=
  if L.deleteView.contains point then 1 / 4 else 1

/-- What the crossings make of the scale. -/
def panScale (L : EditorLayout) (events : List (EditorEvent Image)) : CGFloat :=
  ((lastPan events).elim 1 (level L)) / ((firstPan events).elim 1 (level L))

section History

variable (L : EditorLayout) (events : List (EditorEvent Image)) (ev : EditorEvent Image)

lemma level_ne_zero (point : CGPoint) : level L point ≠ 0 := by
  unfold level
  split <;> norm_num

lemma turned_snoc (id : ℕ) (isText : Bool) (t : CGAffineTransform) :
    turned id isText t (events ++ [ev]) = ev.turn id isText (turned id isText t events) := by
  rw [turned, turned, List.foldl_append]
  rfl

lemma lastPan_snoc : lastPan (events ++ [ev]) = ev.panLocation.or (lastPan events) := by
  rw [lastPan, lastPan, List.reverse_append, List.reverse_singleton, List.singleton_append,
    List.findSome?_cons]
  cases ev.panLocation <;> rfl

lemma firstPan_snoc : firstPan (events ++ [ev]) = (firstPan events).or ev.panLocation := by
  rw [firstPan, firstPan, List.findSome?_append, List.findSome?_singleton]

/-- A pan has a first point when it has a last one. -/
lemma firstPan_eq_none_iff : firstPan events = none ↔ lastPan events = none := by
  simp only [firstPan, lastPan, List.findSome?_eq_none_iff, List.mem_reverse]

end History

/-! ## What the events do -/

/-- The view `view'` is `view` after an event: in the same place, turned. -/
structure CanvasView.Turned (view' view : CanvasView Image) (ev : EditorEvent Image) : Prop where
  like : view'.Like view
  transform : view'.transform = ev.turn view.id view.font.isSome view.transform
  center : view'.center = view.center

/-- Does this need no view in particular, or only pinch or rotate it? -/
def EditorEvent.quiet : EditorEvent Image → Bool
  | .textButtonTapped => false
  | .doneButtonTapped => false
  | .clearButtonTapped => false
  | .panGesture .. => false
  | .tapGesture .. => false
  | .effectCompleted _ => false
  | .textViewDidChange .. => false
  | .editText _ => false
  | .endEditing => false
  | _ => true

namespace PhotoEditor

variable (L : EditorLayout) (e : PhotoEditor Image)

lemma id_of_subview {e : PhotoEditor Image} {id : ℕ} {view : CanvasView Image}
    (h : e.subview id = some view) : view.id = id := by
  simpa using List.find?_some h

lemma pinched_turned (scale : CGFloat) (view : CanvasView Image) :
    (pinched scale view).Turned view (.pinchGesture view.id scale) := by
  refine ⟨view.pinched_like scale, ?_, ?_⟩
  · unfold pinched
    split
    · next font textColor hcontent =>
        have htext : view.font.isSome = true := by
          rw [CanvasView.font, hcontent]
          rfl
        have hturn : EditorEvent.turn view.id view.font.isSome view.transform
            (.pinchGesture view.id scale : EditorEvent Image) = view.transform :=
          if_neg (by simp [htext])
        rw [hturn]
        split
        · exact view.setFont_transform _
        · rfl
    · next hcontent =>
        have htext : view.font.isSome = false := by
          unfold CanvasView.font
          split
          · next font textColor hcontent' => exact absurd hcontent' (hcontent font textColor)
          · rfl
        rw [EditorEvent.turn, htext, if_pos ⟨rfl, rfl⟩]
  · unfold pinched
    split
    · split
      · exact view.setFont_center _
      · rfl
    · rfl

lemma setTextColor_turned (color : UIColor) (view : CanvasView Image) :
    (view.setTextColor color).Turned view (.didSelectColor color) := by
  refine ⟨view.setTextColor_like color, ?_, ?_⟩ <;> unfold CanvasView.setTextColor <;> split <;> rfl

/-- Changing one view in a way that keeps it in its place. -/
lemma turned_modify {ev : EditorEvent Image} {f : CanvasView Image → CanvasView Image}
    {id changed : ℕ} {view : CanvasView Image} (hid : ∀ view, (f view).id = view.id)
    (hview : e.subview id = some view) (hself : id = changed → (f view).Turned view ev)
    (hother : id ≠ changed → view.Turned view ev) :
    ∃ view', (e.modify changed f).subview id = some view' ∧ view'.Turned view ev := by
  refine ⟨if id = changed then f view else view, ?_, ?_⟩
  · rw [subview_modify e changed id hid, hview, Option.map_some]
  · split
    · next h => exact hself h
    · next h => exact hother h

/-- A quiet event only turns the views that are there. -/
lemma subview_handle_of_quiet {ev : EditorEvent Image} (hev : ev.quiet) {id : ℕ}
    {view : CanvasView Image} (hlt : id < e.nextView) (hview : e.subview id = some view) :
    ∃ view', (e.handle L ev).subview id = some view' ∧ view'.Turned view ev := by
  have hid : view.id = id := id_of_subview hview
  have hsame : ev.turn view.id view.font.isSome view.transform = view.transform →
      view.Turned view ev := fun hturn => ⟨.refl view, hturn.symm, rfl⟩
  cases ev with
  | pinchGesture pinched scale =>
      refine e.turned_modify (fun view => (view.pinched_like scale).id) hview (fun h => ?_)
        fun h => hsame (if_neg ?_)
      · rw [← h, ← hid]
        exact pinched_turned scale view
      · rintro ⟨rfl, -⟩
        exact h hid.symm
  | rotationGesture rotated cos sin =>
      refine e.turned_modify (fun view => ?_) hview (fun h => ?_) fun h => hsame (if_neg ?_)
      · rfl
      · exact ⟨⟨rfl, rfl⟩, (if_pos (h.symm.trans hid.symm)).symm, rfl⟩
      · rintro rfl
        exact h hid.symm
  | didSelectColor color =>
      simp only [handle, didSelectColor]
      split
      · exact ⟨view, hview, hsame rfl⟩
      · split
        · exact e.turned_modify (fun view => view.setTextColor_id color) hview
            (fun _ => setTextColor_turned color view) fun _ => hsame rfl
        · exact ⟨view, hview, hsame rfl⟩
  | didSelectView text =>
      exact ⟨view, (subview_addSubview_of_ne _ id _ _ hlt.ne).trans hview, hsame rfl⟩
  | didSelectImage image =>
      exact ⟨view, (subview_addSubview_of_ne _ id _ _ hlt.ne).trans hview, hsame rfl⟩
  | screenEdgeSwiped =>
      simp only [handle, screenEdgeSwiped]
      split <;> exact ⟨view, hview, hsame rfl⟩
  | touchesBegan point onPanel =>
      simp only [handle, touchesBegan]
      split
      · exact ⟨view, hview, hsame rfl⟩
      · split <;> exact ⟨view, hview, hsame rfl⟩
  | touchesMoved point =>
      simp only [handle, touchesMoved, drawLineFrom]
      split
      · split <;> exact ⟨view, hview, hsame rfl⟩
      · exact ⟨view, hview, hsame rfl⟩
  | touchesEnded =>
      simp only [handle, touchesEnded, drawLineFrom]
      split
      · split <;> exact ⟨view, hview, hsame rfl⟩
      · exact ⟨view, hview, hsame rfl⟩
  | keyboardDidShow =>
      simp only [handle, keyboardDidShow]
      split <;> exact ⟨view, hview, hsame rfl⟩
  | textButtonTapped => exact absurd hev Bool.false_ne_true
  | doneButtonTapped => exact absurd hev Bool.false_ne_true
  | clearButtonTapped => exact absurd hev Bool.false_ne_true
  | panGesture => exact absurd hev Bool.false_ne_true
  | tapGesture => exact absurd hev Bool.false_ne_true
  | effectCompleted => exact absurd hev Bool.false_ne_true
  | textViewDidChange => exact absurd hev Bool.false_ne_true
  | editText => exact absurd hev Bool.false_ne_true
  | endEditing => exact absurd hev Bool.false_ne_true
  | _ => exact ⟨view, hview, hsame rfl⟩

lemma lastPanPoint_handle_of_quiet {ev : EditorEvent Image} (hev : ev.quiet) :
    (e.handle L ev).lastPanPoint = e.lastPanPoint := by
  cases ev with
  | didSelectColor color =>
      simp only [handle, didSelectColor]
      split
      · rfl
      · split <;> rfl
  | screenEdgeSwiped =>
      simp only [handle, screenEdgeSwiped]
      split <;> rfl
  | touchesBegan point onPanel =>
      simp only [handle, touchesBegan]
      split
      · rfl
      · split <;> rfl
  | touchesMoved point =>
      simp only [handle, touchesMoved, drawLineFrom]
      split
      · split <;> rfl
      · rfl
  | touchesEnded =>
      simp only [handle, touchesEnded, drawLineFrom]
      split
      · split <;> rfl
      · rfl
  | keyboardDidShow =>
      simp only [handle, keyboardDidShow]
      split <;> rfl
  | textButtonTapped => exact absurd hev Bool.false_ne_true
  | doneButtonTapped => exact absurd hev Bool.false_ne_true
  | panGesture => exact absurd hev Bool.false_ne_true
  | tapGesture => exact absurd hev Bool.false_ne_true
  | effectCompleted => exact absurd hev Bool.false_ne_true
  | editText => exact absurd hev Bool.false_ne_true
  | endEditing => exact absurd hev Bool.false_ne_true
  | _ => rfl

lemma panLocation_of_quiet {ev : EditorEvent Image} (hev : ev.quiet) : ev.panLocation = none := by
  cases ev with
  | panGesture => exact absurd hev Bool.false_ne_true
  | _ => rfl

/-- Where a pan moves its target. -/
lemma subview_dragView (id id' : ℕ) (recognizer : Pan) :
    (e.dragView L id recognizer).subview id' = (e.subview id').map fun view =>
      if id' = id then panned L e.lastPanPoint recognizer view else view := by
  refine (subview_modify _ id id' fun view => (view.panned_like L _ recognizer).id).trans ?_
  exact congrArg _ (subview_bringSubviewToFront ..)

lemma subview_dropView_of_ne {id id' : ℕ} (recognizer : Pan) (h : id' ≠ id) :
    (e.dropView L id recognizer).subview id' = e.subview id' := by
  unfold dropView
  split
  · exact subview_removeFromSuperview_of_ne _ id id' h
  · exact subview_modify_of_ne _ id id' (fun view => (view.snapped_like L).id) h

/-- What a pan makes of the transform of the view it moves. -/
lemma panned_transform (previousPoint : Option CGPoint) (recognizer : Pan)
    (view : CanvasView Image) :
    (panned L previousPoint recognizer view).transform = view.transform.scaledBy
      (previousPoint.elim 1 fun point => level L recognizer.location / level L point) := by
  unfold panned level
  cases previousPoint with
  | none => exact view.transform.scaledBy_one.symm
  | some previousPoint =>
      simp only [Option.elim_some]
      cases hnew : L.deleteView.contains recognizer.location <;>
        cases hold : L.deleteView.contains previousPoint <;>
        simp

lemma snapped_center (view : CanvasView Image) :
    L.canvasBounds.contains (snapped L view).center ∨ (snapped L view).center = L.canvasCenter := by
  unfold snapped
  split
  · next h => exact Or.inl h
  · exact Or.inr rfl

lemma snapped_transform (view : CanvasView Image) :
    (snapped L view).transform = view.transform := by
  unfold snapped
  split <;> rfl

/-- A pan that has a target moves it, with the same views and the same last point. -/
lemma panGesture_of_target {id target : ℕ} {alpha : ℕ → Bool} {recognizer : Pan}
    (h : e.panTarget id alpha recognizer = some target) :
    ∃ e₀ : PhotoEditor Image, e₀.subviews = e.subviews ∧ e₀.nextView = e.nextView ∧
      e₀.lastPanPoint = e.lastPanPoint ∧
      e.panGesture L id alpha recognizer = e₀.moveView L target recognizer := by
  unfold panTarget at h
  unfold panGesture
  split at h
  · next himage =>
      rw [if_pos himage, h]
      refine ⟨e.grabImageView alpha recognizer, ?_, ?_, ?_, rfl⟩ <;> unfold grabImageView <;>
        split <;> rfl
  · next himage =>
      rw [Option.some.injEq] at h
      rw [if_neg himage, h]
      exact ⟨e, rfl, rfl, rfl, rfl⟩

end PhotoEditor

/-! ## During the pan -/

lemma EditorEvent.turn_scaledBy (id : ℕ) (isText : Bool) (t : CGAffineTransform) (s : CGFloat)
    (ev : EditorEvent Image) :
    ev.turn id isText (t.scaledBy s) = (ev.turn id isText t).scaledBy s := by
  cases ev with
  | pinchGesture view scale =>
      simp only [EditorEvent.turn]
      split
      · rw [CGAffineTransform.scaledBy_scaledBy, CGAffineTransform.scaledBy_scaledBy, mul_comm]
      · rfl
  | rotationGesture view cos sin =>
      simp only [EditorEvent.turn]
      split
      · exact t.rotated_scaledBy s cos sin
      · rfl
  | _ => rfl

section Scale

variable (L : EditorLayout) (events : List (EditorEvent Image)) {ev : EditorEvent Image}

lemma panScale_snoc_of_none (h : ev.panLocation = none) :
    panScale L (events ++ [ev]) = panScale L events := by
  rw [panScale, lastPan_snoc, firstPan_snoc, h, Option.none_or, Option.or_none, panScale]

/-- The crossings telescope. -/
lemma panScale_snoc_of_some {point : CGPoint} (h : ev.panLocation = some point) :
    panScale L (events ++ [ev]) = panScale L events *
      (lastPan events).elim 1 fun previousPoint => level L point / level L previousPoint := by
  rw [panScale, lastPan_snoc, firstPan_snoc, h, panScale]
  cases hlast : lastPan events with
  | none =>
      have hpoint : level L point ≠ 0 := level_ne_zero L point
      rw [(firstPan_eq_none_iff events).mpr hlast]
      simp [hpoint]
  | some previousPoint =>
      have hprevious : level L previousPoint ≠ 0 := level_ne_zero L previousPoint
      cases hfirst : firstPan events with
      | none =>
          rw [firstPan_eq_none_iff, hlast] at hfirst
          exact absurd hfirst (Option.some_ne_none previousPoint)
      | some first =>
          show level L point / level L first =
            level L previousPoint / level L first * (level L point / level L previousPoint)
          field_simp

end Scale

/-- What can happen while `id` is panned: the pan goes on, or something quiet happens. -/
def duringPan (id : ℕ) (e : PhotoEditor Image) : EditorEvent Image → Bool
  | .panGesture view alpha recognizer =>
      e.panTarget view alpha recognizer = some id ∧ recognizer.state ≠ .ended
  | ev => ev.quiet

/-- The editor while the view `id` is panned, against the editor before and what has happened. -/
structure Dragged (L : EditorLayout) (id : ℕ) (start : PhotoEditor Image)
    (events : List (EditorEvent Image)) (e : PhotoEditor Image) : Prop where
  lastPanPoint : e.lastPanPoint = lastPan events
  nextView : start.nextView ≤ e.nextView
  views : ∀ v view, start.subview v = some view → ∃ view', e.subview v = some view' ∧
    view'.Like view ∧
    view'.transform = (turned v view.font.isSome view.transform events).scaledBy
      (if v = id then panScale L events else 1) ∧
    (v ≠ id → view'.center = view.center)

namespace Dragged

variable {L : EditorLayout} {id : ℕ} {start e : PhotoEditor Image}
  {events : List (EditorEvent Image)}

lemma init (h : start.lastPanPoint = none) : Dragged L id start [] start where
  lastPanPoint := h
  nextView := le_rfl
  views v view hview := by
    refine ⟨view, hview, .refl view, ?_, fun _ => rfl⟩
    simp [turned, panScale, lastPan, firstPan]

/-- A quiet event. -/
lemma quiet (h : Dragged L id start events e) (hfresh : start.Fresh) {ev : EditorEvent Image}
    (hev : ev.quiet) : Dragged L id start (events ++ [ev]) (e.handle L ev) where
  lastPanPoint := by
    rw [e.lastPanPoint_handle_of_quiet L hev, lastPan_snoc, PhotoEditor.panLocation_of_quiet hev,
      Option.none_or]
    exact h.lastPanPoint
  nextView := h.nextView.trans (e.continues_handle L ev).nextView
  views v view hview := by
    obtain ⟨view', hview', hlike, htransform, hcenter⟩ := h.views v view hview
    have hlt : v < e.nextView := (hfresh v view hview).trans_le h.nextView
    have hid : view'.id = v := PhotoEditor.id_of_subview hview'
    obtain ⟨view'', hview'', hturned⟩ := e.subview_handle_of_quiet L hev hlt hview'
    refine ⟨view'', hview'', hturned.like.trans _ hlike, ?_, fun hne =>
      hturned.center.trans (hcenter hne)⟩
    rw [hturned.transform, hid, hlike.font, htransform, EditorEvent.turn_scaledBy, turned_snoc,
      panScale_snoc_of_none L events (PhotoEditor.panLocation_of_quiet hev)]

/-- The pan goes on. -/
lemma drag (h : Dragged L id start events e) {e₀ : PhotoEditor Image} (v : ℕ) (alpha : ℕ → Bool)
    (recognizer : Pan) (hsubviews : e₀.subviews = e.subviews) (hnextView : e₀.nextView = e.nextView)
    (hlast : e₀.lastPanPoint = e.lastPanPoint) :
    Dragged L id start (events ++ [.panGesture v alpha recognizer])
      (e₀.dragView L id recognizer) where
  lastPanPoint := by
    rw [lastPan_snoc]
    rfl
  nextView := h.nextView.trans hnextView.ge
  views v view hview := by
    obtain ⟨view', hview', hlike, htransform, hcenter⟩ := h.views v view hview
    have hview₀ : e₀.subview v = some view' := by
      rw [PhotoEditor.subview, hsubviews]
      exact hview'
    by_cases hv : v = id
    · refine ⟨PhotoEditor.panned L e₀.lastPanPoint recognizer view', ?_,
        (view'.panned_like L _ recognizer).trans _ hlike, ?_, fun hne => absurd hv hne⟩
      · rw [PhotoEditor.subview_dragView, hview₀, Option.map_some, if_pos hv]
      · rw [if_pos hv] at htransform ⊢
        rw [PhotoEditor.panned_transform, htransform, turned_snoc,
          CGAffineTransform.scaledBy_scaledBy, panScale_snoc_of_some L events rfl, hlast,
          h.lastPanPoint]
        rfl
    · refine ⟨view', ?_, hlike, ?_, hcenter⟩
      · rw [PhotoEditor.subview_dragView, hview₀, Option.map_some, if_neg hv]
      · rw [if_neg hv] at htransform ⊢
        rw [htransform, turned_snoc]
        rfl

/-- One step of the pan. -/
lemma step (h : Dragged L id start events e) (hfresh : start.Fresh) {ev : EditorEvent Image}
    {e' : PhotoEditor Image} (hpan : duringPan id e ev) (hstep : editorStep L e ev = some e') :
    Dragged L id start (events ++ [ev]) e' := by
  obtain ⟨-, -, rfl⟩ := editorStep_eq_some.mp hstep
  cases ev with
  | panGesture view alpha recognizer =>
      obtain ⟨htarget, hstate⟩ := of_decide_eq_true hpan
      obtain ⟨e₀, hsubviews, hnextView, hlast, heq⟩ := e.panGesture_of_target L htarget
      have hdrag : e.handle L (.panGesture view alpha recognizer) =
          e₀.dragView L id recognizer := by
        refine heq.trans ?_
        rw [PhotoEditor.moveView, if_neg hstate]
      rw [hdrag]
      exact h.drag view alpha recognizer hsubviews hnextView hlast
  | _ => exact h.quiet hfresh hpan

end Dragged

/-! ## The whole pan -/

/-- A pan of the view `id` from beginning to end, after a run that left no other pan unfinished;
meanwhile the pan goes on and quiet things happen. -/
structure ViewPan (L : EditorLayout) (stickers : List Image) (id : ℕ) where
  before : Execution (editorStep L) (PhotoEditor.viewDidLoad stickers)
  meanwhile : Execution (editorStep L) before.final
  /-- the view whose recognizer tells the end -/
  view : ℕ
  alpha : ℕ → Bool
  recognizer : Pan
  ended : PhotoEditor Image
  lastPanPoint_before : before.final.lastPanPoint = none
  along_meanwhile :
    Along (editorStep L) (fun e ev => duringPan id e ev) before.final meanwhile.events
  target_end : meanwhile.final.panTarget view alpha recognizer = some id
  state_end : recognizer.state = .ended
  step_end : editorStep L meanwhile.final (.panGesture view alpha recognizer) = some ended

namespace ViewPan

variable {L : EditorLayout} {stickers : List Image} {id : ℕ} (p : ViewPan L stickers id)

/-- The point where the pan begins. -/
def start : CGPoint := (firstPan p.meanwhile.events).getD p.recognizer.location

/-- What a view was before, turned by the pinches and rotations meanwhile. -/
def turned (view : CanvasView Image) : CGAffineTransform :=
  Whix.turned view.id view.font.isSome view.transform p.meanwhile.events

lemma fresh_before : p.before.final.Fresh := fresh_of_run p.before.ran

lemma dragged_meanwhile : Dragged L id p.before.final p.meanwhile.events p.meanwhile.final := by
  have hboth : run (editorStep L) p.before.final p.meanwhile.events = some p.meanwhile.final ∧
      Dragged L id p.before.final p.meanwhile.events p.meanwhile.final := by
    refine history_run (J := fun events e => run (editorStep L) p.before.final events = some e ∧
      Dragged L id p.before.final events e) ⟨rfl, .init p.lastPanPoint_before⟩ ?_ p.meanwhile.ran
    rintro pre ev e e' hpre ⟨hrun, hdragged⟩ hstep
    refine ⟨run_snoc_eq_some.mpr ⟨e, hrun, hstep⟩, ?_⟩
    exact hdragged.step p.fresh_before (p.along_meanwhile pre ev hpre e e' hrun hstep) hstep
  exact hboth.2

/-- The last step: the view is dragged once more, and dropped. -/
lemma ended_eq : ∃ e : PhotoEditor Image, p.ended = e.dropView L id p.recognizer ∧
    Dragged L id p.before.final
      (p.meanwhile.events ++ [.panGesture p.view p.alpha p.recognizer]) e := by
  obtain ⟨-, -, hended⟩ := editorStep_eq_some.mp p.step_end
  obtain ⟨e₀, hsubviews, hnextView, hlast, heq⟩ :=
    p.meanwhile.final.panGesture_of_target L p.target_end
  refine ⟨e₀.dragView L id p.recognizer, ?_, ?_⟩
  · rw [← hended]
    refine heq.trans ?_
    rw [PhotoEditor.moveView, if_pos p.state_end]
  · exact p.dragged_meanwhile.drag p.view p.alpha p.recognizer hsubviews hnextView hlast

/-- The scale that is left when the last point is outside the delete view. -/
lemma panScale_all (hout : L.deleteView.contains p.recognizer.location = false) :
    panScale L (p.meanwhile.events ++ [.panGesture p.view p.alpha p.recognizer]) =
      if L.deleteView.contains p.start then 4 else 1 := by
  have hlast : lastPan (p.meanwhile.events ++ [.panGesture p.view p.alpha p.recognizer]) =
      some p.recognizer.location := by
    rw [lastPan_snoc]
    rfl
  have hfirst : firstPan (p.meanwhile.events ++ [.panGesture p.view p.alpha p.recognizer]) =
      some p.start := by
    rw [firstPan_snoc, start]
    cases firstPan p.meanwhile.events <;> rfl
  have hlevel : level L p.recognizer.location = 1 := by
    rw [level, hout]
    rfl
  rw [panScale, hlast, hfirst, Option.elim_some, Option.elim_some, hlevel, level]
  split <;> norm_num

end ViewPan

/-- **A pan, exactly.**  Take a pan before which no other was left unfinished.  If it ends in the
delete view, it deletes its view.  Otherwise it leaves the view on the canvas, turned by the pinches
and rotations meanwhile and by nothing else, unless the pan began inside the delete view: then it is
four times as large.  No other view is moved. -/
theorem pan_exact {L : EditorLayout} {stickers : List Image} {id : ℕ} (p : ViewPan L stickers id) :
    (∀ view, p.before.final.subview id = some view →
      if L.deleteView.contains p.recognizer.location then p.ended.subview id = none
      else ∃ view', p.ended.subview id = some view' ∧
        view'.transform =
          (p.turned view).scaledBy (if L.deleteView.contains p.start then 4 else 1) ∧
        (L.canvasBounds.contains view'.center ∨ view'.center = L.canvasCenter)) ∧
      ∀ other ≠ id, ∀ view, p.before.final.subview other = some view →
        ∃ view', p.ended.subview other = some view' ∧ view'.transform = p.turned view ∧
          view'.center = view.center := by
  obtain ⟨e, hended, hdragged⟩ := p.ended_eq
  have hturned : ∀ v (view : CanvasView Image), view.id = v →
      turned v view.font.isSome view.transform
        (p.meanwhile.events ++ [.panGesture p.view p.alpha p.recognizer]) = p.turned view := by
    rintro - view rfl
    exact turned_snoc ..
  rw [hended]
  constructor
  · intro view hview
    obtain ⟨view', hview', -, htransform, -⟩ := hdragged.views id view hview
    rw [if_pos rfl, hturned id view (PhotoEditor.id_of_subview hview)] at htransform
    unfold PhotoEditor.dropView
    dsimp only
    cases hout : L.deleteView.contains p.recognizer.location with
    | true => exact PhotoEditor.subview_removeFromSuperview_self _ id
    | false =>
        refine ⟨PhotoEditor.snapped L view', ?_, ?_, PhotoEditor.snapped_center L view'⟩
        · refine
            (PhotoEditor.subview_modify_self _ id fun view => (view.snapped_like L).id).trans ?_
          exact congrArg (Option.map _) hview'
        · rw [PhotoEditor.snapped_transform, htransform, p.panScale_all hout]
  · intro other hother view hview
    obtain ⟨view', hview', -, htransform, hcenter⟩ := hdragged.views other view hview
    rw [if_neg hother, CGAffineTransform.scaledBy_one,
      hturned other view (PhotoEditor.id_of_subview hview)] at htransform
    refine ⟨view', ?_, htransform, hcenter hother⟩
    rw [PhotoEditor.subview_dropView_of_ne L e p.recognizer hother, hview']

/-! ## A sticker that grows -/

/-- A sticker is dragged down until it covers the place of the delete view. -/
def stickerDown : Execution (editorStep phone) (PhotoEditor.viewDidLoad ([] : List Unit)) :=
  .ofEvents _ [.didSelectImage (), .panGesture 0 (fun _ => true) ⟨.began, ⟨187, 333⟩, ⟨187, 333⟩,
    ⟨0, 0⟩⟩, .panGesture 0 (fun _ => true) ⟨.ended, ⟨187, 580⟩, ⟨187, 580⟩, ⟨0, 247⟩⟩]
    (by decide +kernel)

/-- It is taken up again by a point inside the delete view. -/
def stickerTaken : Execution (editorStep phone) stickerDown.final :=
  .ofEvents _ [.panGesture 0 (fun _ => true) ⟨.began, ⟨187, 620⟩, ⟨187, 620⟩, ⟨0, 0⟩⟩]
    (by decide +kernel)

/-- It is dropped in the middle of the canvas. -/
def stickerPan : ViewPan phone ([] : List Unit) 0 where
  before := stickerDown
  meanwhile := stickerTaken
  view := 0
  alpha := fun _ => true
  recognizer := ⟨.ended, ⟨187, 400⟩, ⟨187, 400⟩, ⟨0, -220⟩⟩
  ended := stickerTaken.final.panGesture phone 0 (fun _ => true)
    ⟨.ended, ⟨187, 400⟩, ⟨187, 400⟩, ⟨0, -220⟩⟩
  lastPanPoint_before := by decide +kernel
  along_meanwhile := along_of_checks (c := duringPan 0) (fun _ _ h => h) (by decide +kernel)
  target_end := by decide +kernel
  state_end := rfl
  step_end := editorStep_eq_some.mpr ⟨by decide +kernel, rfl, rfl⟩

/-- It is four times as large. -/
theorem stickerPan_grown :
    ∃ view, stickerPan.ended.subview 0 = some view ∧ view.transform = ⟨4, 0, 0, 4, 0, 0⟩ := by
  have hbefore : (stickerPan.before.final.subview 0).map stickerPan.turned = some .identity := by
    decide +kernel
  obtain ⟨sticker, hsticker, hturned⟩ := Option.map_eq_some_iff.mp hbefore
  have hout : phone.deleteView.contains stickerPan.recognizer.location = false := by
    decide +kernel
  have hin : phone.deleteView.contains stickerPan.start = true := by decide +kernel
  have hpan := (pan_exact stickerPan).1 sticker hsticker
  rw [hout, if_neg Bool.false_ne_true, if_pos hin, hturned] at hpan
  obtain ⟨view, hview, htransform, -⟩ := hpan
  exact ⟨view, hview, htransform.trans (by decide +kernel)⟩

end Whix
