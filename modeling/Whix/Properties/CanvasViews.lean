import Whix.Client.PhotoEditor

/-!
# The views of the canvas

What the operations on the canvas make of the view with a given number, one lemma for each, and
which of the other fields they leave alone.
-/

namespace Whix

variable {Image : Type}

section Find

variable {α : Type} {p q : α → Bool}

lemma find?_filter_of_imp (h : ∀ a, q a → p a) (l : List α) :
    (l.filter p).find? q = l.find? q := by
  rw [List.find?_filter]
  congr 1
  funext a
  cases hq : q a with
  | false => simp
  | true => simp [h a hq]

lemma find?_filter_of_not (h : ∀ a, q a → p a = false) (l : List α) :
    (l.filter p).find? q = none := by
  rw [List.find?_eq_none]
  intro a ha hq
  rw [List.mem_filter, h a hq] at ha
  exact absurd ha.2 Bool.false_ne_true

end Find

namespace CanvasView

variable (view : CanvasView Image)

@[simp] lemma setFont_id (font : UIFont) : (view.setFont font).id = view.id := by
  unfold setFont
  split <;> rfl

@[simp] lemma setFont_transform (font : UIFont) :
    (view.setFont font).transform = view.transform := by
  unfold setFont
  split <;> rfl

@[simp] lemma setFont_center (font : UIFont) : (view.setFont font).center = view.center := by
  unfold setFont
  split <;> rfl

@[simp] lemma setTextColor_id (color : UIColor) : (view.setTextColor color).id = view.id := by
  unfold setTextColor
  split <;> rfl

/-- The same view, changed: a text stays a text. -/
structure Like (view' view : CanvasView Image) : Prop where
  id : view'.id = view.id
  font : view'.font.isSome = view.font.isSome

lemma Like.refl : view.Like view := ⟨rfl, rfl⟩

lemma Like.trans {view'' view' : CanvasView Image} (h : view''.Like view') (h' : view'.Like view) :
    view''.Like view :=
  ⟨h.id.trans h'.id, h.font.trans h'.font⟩

lemma setFont_like (font : UIFont) : (view.setFont font).Like view := by
  refine ⟨view.setFont_id font, ?_⟩
  unfold setFont
  split
  · simp_all [CanvasView.font]
  · rfl

lemma setTextColor_like (color : UIColor) : (view.setTextColor color).Like view := by
  refine ⟨view.setTextColor_id color, ?_⟩
  unfold setTextColor
  split
  · simp_all [CanvasView.font]
  · rfl

lemma panned_like (L : EditorLayout) (previousPoint : Option CGPoint) (recognizer : Pan) :
    (PhotoEditor.panned L previousPoint recognizer view).Like view := by
  unfold PhotoEditor.panned
  dsimp only
  split
  · split
    · exact ⟨rfl, rfl⟩
    · split <;> exact ⟨rfl, rfl⟩
  · exact ⟨rfl, rfl⟩

lemma snapped_like (L : EditorLayout) : (PhotoEditor.snapped L view).Like view := by
  unfold PhotoEditor.snapped
  split <;> exact ⟨rfl, rfl⟩

lemma pinched_like (scale : CGFloat) : (PhotoEditor.pinched scale view).Like view := by
  unfold PhotoEditor.pinched
  split
  · split
    · exact view.setFont_like _
    · exact .refl view
  · exact ⟨rfl, rfl⟩

/-- A text has the font that was set. -/
lemma font_setFont (font : UIFont) (h : view.font.isSome) :
    (view.setFont font).font = some font := by
  unfold setFont
  split
  · rfl
  · next hcontent =>
      unfold CanvasView.font at h
      split at h
      · next hcontent' => exact absurd hcontent' (hcontent _ _)
      · exact absurd h Bool.false_ne_true

end CanvasView

namespace PhotoEditor

variable (e : PhotoEditor Image) (id id' : ℕ)

/-- Changing a view that keeps its number. -/
lemma subview_modify {f : CanvasView Image → CanvasView Image}
    (hf : ∀ view, (f view).id = view.id) :
    (e.modify id f).subview id' =
      (e.subview id').map fun view => if id' = id then f view else view := by
  have hid : ∀ view : CanvasView Image, (if view.id = id then f view else view).id = view.id := by
    intro view
    split
    · exact hf view
    · rfl
  rw [subview, modify, List.find?_map, subview]
  simp only [Function.comp_def, hid]
  cases h : e.subviews.find? (·.id = id') with
  | none => rfl
  | some view =>
      have hview : view.id = id' := by simpa using List.find?_some h
      rw [Option.map_some, Option.map_some, hview]

lemma subview_modify_of_ne {f : CanvasView Image → CanvasView Image}
    (hf : ∀ view, (f view).id = view.id) (h : id' ≠ id) :
    (e.modify id f).subview id' = e.subview id' := by
  rw [subview_modify e id id' hf]
  simp only [if_neg h, Option.map_id_fun', id_eq]

lemma subview_modify_self {f : CanvasView Image → CanvasView Image}
    (hf : ∀ view, (f view).id = view.id) : (e.modify id f).subview id = (e.subview id).map f := by
  rw [subview_modify e id id hf]
  simp only [if_true]

/-- Bringing a view to the front changes no view. -/
lemma subview_bringSubviewToFront : (e.bringSubviewToFront id).subview id' = e.subview id' := by
  rw [subview, bringSubviewToFront, List.find?_append, subview]
  by_cases hid : id' = id
  · subst hid
    rw [find?_filter_of_not (by simp), find?_filter_of_imp (by simp), Option.none_or]
  · have hne : ∀ view : CanvasView Image, view.id = id' → view.id ≠ id := fun _ h => h ▸ hid
    rw [find?_filter_of_imp (by simpa using hne), find?_filter_of_not (by simpa using hne),
      Option.or_none]

lemma subview_removeFromSuperview_of_ne (h : id' ≠ id) :
    (e.removeFromSuperview id).subview id' = e.subview id' := by
  have hne : ∀ view : CanvasView Image, view.id = id' → view.id ≠ id := fun _ hview => hview ▸ h
  exact find?_filter_of_imp (by simpa using hne) e.subviews

lemma subview_removeFromSuperview_self : (e.removeFromSuperview id).subview id = none := by
  exact find?_filter_of_not (by simp) e.subviews

lemma subviews_addSubview (content : CanvasContent Image) (center : CGPoint) :
    (e.addSubview content center).subviews =
      e.subviews ++ [⟨e.nextView, content, .identity, center⟩] := rfl

/-- Adding a view leaves the others. -/
lemma subview_addSubview_of_ne (content : CanvasContent Image) (center : CGPoint)
    (h : id' ≠ e.nextView) : (e.addSubview content center).subview id' = e.subview id' := by
  rw [subview, subviews_addSubview, List.find?_append, List.find?_singleton,
    if_neg (by simpa using h.symm), Option.or_none, subview]

/-- The new view is there. -/
lemma isSome_subview_addSubview (content : CanvasContent Image) (center : CGPoint) :
    ((e.addSubview content center).subview e.nextView).isSome := by
  rw [subview, subviews_addSubview, List.find?_isSome]
  exact ⟨_, List.mem_append_right _ (List.mem_singleton_self _), decide_eq_true rfl⟩

lemma subview_addSubview_self (content : CanvasContent Image) (center : CGPoint)
    (h : e.subview e.nextView = none) :
    (e.addSubview content center).subview e.nextView =
      some ⟨e.nextView, content, .identity, center⟩ := by
  rw [subview] at h
  rw [subview, subviews_addSubview, List.find?_append, h, List.find?_singleton,
    if_pos (decide_eq_true rfl), Option.none_or]

/-- The view that a pan moves, if any. -/
def panTarget (id : ℕ) (alpha : ℕ → Bool) (recognizer : Pan) : Option ℕ :=
  if id ∈ e.imageViews then (e.grabImageView alpha recognizer).imageViewToPan else some id

/-! ## How the views go on -/

/-- The views of `e'` are views of `e`, changed, or new ones. -/
structure Continues (e e' : PhotoEditor Image) : Prop where
  nextView : e.nextView ≤ e'.nextView
  views : ∀ id view', e'.subview id = some view' →
    (∃ view, e.subview id = some view ∧ view'.Like view) ∨ e.nextView ≤ id ∧ id < e'.nextView

namespace Continues

variable {e} {e' e'' : PhotoEditor Image}

lemma refl : Continues e e where
  nextView := le_rfl
  views _ view hview := Or.inl ⟨view, hview, .refl view⟩

/-- Nothing but the views matters. -/
lemma congr (h : Continues e e') (hnextView : e''.nextView = e'.nextView)
    (hsubviews : e''.subviews = e'.subviews) : Continues e e'' where
  nextView := hnextView ▸ h.nextView
  views id view'' hview'' := by
    rw [subview, hsubviews] at hview''
    rw [hnextView]
    exact h.views id view'' hview''

lemma trans (h : Continues e e') (h' : Continues e' e'') : Continues e e'' where
  nextView := h.nextView.trans h'.nextView
  views id view'' hview'' := by
    rcases h'.views id view'' hview'' with ⟨view', hview', hlike'⟩ | ⟨hle, hlt⟩
    · rcases h.views id view' hview' with ⟨view, hview, hlike⟩ | ⟨hle, hlt⟩
      · exact Or.inl ⟨view, hview, hlike'.trans _ hlike⟩
      · exact Or.inr ⟨hle, hlt.trans_le h'.nextView⟩
    · exact Or.inr ⟨h.nextView.trans hle, hlt⟩

end Continues

lemma continues_modify {f : CanvasView Image → CanvasView Image}
    (hf : ∀ view, (f view).Like view) : e.Continues (e.modify id f) where
  nextView := le_rfl
  views id' view' hview' := by
    rw [subview_modify e id id' fun view => (hf view).id] at hview'
    obtain ⟨view, hview, rfl⟩ := Option.map_eq_some_iff.mp hview'
    refine Or.inl ⟨view, hview, ?_⟩
    split
    · exact hf view
    · exact .refl view

lemma continues_bringSubviewToFront : e.Continues (e.bringSubviewToFront id) where
  nextView := le_rfl
  views id' view' hview' := by
    rw [subview_bringSubviewToFront] at hview'
    exact Continues.refl.views id' view' hview'

lemma continues_removeFromSuperview : e.Continues (e.removeFromSuperview id) where
  nextView := le_rfl
  views id' view' hview' := by
    by_cases hid : id' = id
    · rw [hid, subview_removeFromSuperview_self] at hview'
      exact absurd hview' (Option.some_ne_none view').symm
    · rw [subview_removeFromSuperview_of_ne e id id' hid] at hview'
      exact Continues.refl.views id' view' hview'

lemma continues_addSubview (content : CanvasContent Image) (center : CGPoint) :
    e.Continues (e.addSubview content center) where
  nextView := e.nextView.le_succ
  views id' view' hview' := by
    by_cases hid : id' = e.nextView
    · exact Or.inr ⟨hid.ge, hid ▸ Nat.lt_succ_self _⟩
    · rw [subview_addSubview_of_ne e id' content center hid] at hview'
      exact Or.inl ⟨view', hview', .refl view'⟩

lemma continues_clearButtonTapped : e.Continues e.clearButtonTapped where
  nextView := le_rfl
  views _ view' hview' := absurd hview' (Option.some_ne_none view').symm

lemma continues_textViewDidEndEditing : e.Continues (e.textViewDidEndEditing id) := by
  unfold textViewDidEndEditing
  split
  · next font _ _ _ =>
      refine (e.continues_modify id fun view => ?_).congr rfl rfl
      exact ⟨view.setFont_id font, (view.setFont_like font).font⟩
  · exact .refl

lemma continues_resignFirstResponder : e.Continues e.resignFirstResponder := by
  unfold resignFirstResponder
  split
  · next id _ => exact (e.continues_textViewDidEndEditing id).congr rfl rfl
  · exact .refl

variable (L : EditorLayout)

lemma continues_textViewDidBeginEditing (view : CanvasView Image) :
    e.Continues (e.textViewDidBeginEditing L view) := by
  refine (e.continues_bringSubviewToFront view.id).trans ?_
  refine (continues_modify _ view.id fun view => ?_).congr rfl rfl
  exact ⟨view.setFont_id editingFont, (view.setFont_like editingFont).font⟩

lemma continues_becomeFirstResponder : e.Continues (e.becomeFirstResponder L id) := by
  rw [becomeFirstResponder]
  split
  · exact .refl
  · refine e.continues_resignFirstResponder.trans ?_
    unfold beginEditing
    split
    · next view _ => exact (continues_textViewDidBeginEditing _ L view).congr rfl rfl
    · exact .refl

lemma continues_dragView (recognizer : Pan) : e.Continues (e.dragView L id recognizer) := by
  refine (e.continues_bringSubviewToFront id).trans ?_
  exact (continues_modify _ id fun view => view.panned_like L _ recognizer).congr rfl rfl

lemma continues_dropView (recognizer : Pan) : e.Continues (e.dropView L id recognizer) := by
  unfold dropView
  split
  · exact (e.continues_removeFromSuperview id).congr rfl rfl
  · exact (e.continues_modify id fun view => view.snapped_like L).congr rfl rfl

/-- Moving keeps the views, apart from the one it may delete. -/
lemma continues_moveView (recognizer : Pan) : e.Continues (e.moveView L id recognizer) := by
  unfold moveView
  split
  · exact (e.continues_dragView id L recognizer).trans (continues_dropView _ id L recognizer)
  · exact e.continues_dragView id L recognizer

lemma continues_panGesture (alpha : ℕ → Bool) (recognizer : Pan) :
    e.Continues (e.panGesture L id alpha recognizer) := by
  have hgrab : e.Continues (e.grabImageView alpha recognizer) := by
    unfold grabImageView
    split
    · exact Continues.refl.congr rfl rfl
    · exact .refl
  unfold panGesture
  split
  · split
    · exact hgrab.trans (continues_moveView _ _ L recognizer)
    · exact hgrab
  · exact e.continues_moveView id L recognizer

lemma continues_scaleEffect : e.Continues (e.scaleEffect id) := by
  unfold scaleEffect
  split
  · refine (e.continues_bringSubviewToFront id).trans ?_
    refine (continues_modify _ id fun view => ?_).congr rfl rfl
    exact ⟨rfl, rfl⟩
  · exact .refl

lemma continues_tapGesture (alpha : ℕ → Bool) : e.Continues (e.tapGesture id alpha) := by
  unfold tapGesture
  split
  · split
    · exact e.continues_scaleEffect _
    · exact .refl
  · exact e.continues_scaleEffect id

/-- **Views go on.**  No handler makes another view out of one, or uses a number twice. -/
lemma continues_handle (ev : EditorEvent Image) : e.Continues (e.handle L ev) := by
  cases ev with
  | textButtonTapped =>
      refine Continues.trans ?_ (continues_becomeFirstResponder (e.addTextView L) _ L)
      exact (e.continues_addSubview _ _).congr rfl rfl
  | doneButtonTapped => exact e.continues_resignFirstResponder.congr rfl rfl
  | clearButtonTapped => exact e.continues_clearButtonTapped
  | screenEdgeSwiped =>
      simp only [handle, screenEdgeSwiped]
      split
      · exact .refl
      · exact Continues.refl.congr rfl rfl
  | didSelectColor color =>
      simp only [handle, didSelectColor]
      split
      · exact Continues.refl.congr rfl rfl
      · split
        · exact (e.continues_modify _ fun view => view.setTextColor_like color).congr rfl rfl
        · exact .refl
  | touchesBegan point onPanel =>
      simp only [handle, touchesBegan]
      split
      · exact Continues.refl.congr rfl rfl
      · split
        · exact Continues.refl.congr rfl rfl
        · exact .refl
  | touchesMoved point =>
      simp only [handle, touchesMoved, drawLineFrom]
      split
      · split <;> exact Continues.refl.congr rfl rfl
      · exact .refl
  | touchesEnded =>
      simp only [handle, touchesEnded, drawLineFrom]
      split
      · split <;> exact Continues.refl.congr rfl rfl
      · exact .refl
  | panGesture id alpha recognizer => exact e.continues_panGesture id L alpha recognizer
  | pinchGesture id scale => exact e.continues_modify id fun view => view.pinched_like scale
  | rotationGesture id cos sin => exact e.continues_modify id fun view => ⟨rfl, rfl⟩
  | tapGesture id alpha => exact e.continues_tapGesture id alpha
  | effectCompleted i =>
      simp only [handle, effectCompleted]
      split
      · next id _ _ =>
          refine (e.continues_modify id fun view => ?_).congr rfl rfl
          exact ⟨rfl, rfl⟩
      · exact .refl
  | textViewDidChange id growth =>
      refine e.continues_modify id fun view => ?_
      split <;> exact ⟨rfl, rfl⟩
  | editText id => exact e.continues_becomeFirstResponder id L
  | endEditing => exact e.continues_resignFirstResponder
  | keyboardDidShow =>
      simp only [handle, keyboardDidShow]
      split
      · exact Continues.refl.congr rfl rfl
      · exact .refl
  | didSelectView text => exact (e.continues_addSubview _ _).congr rfl rfl
  | didSelectImage image => exact (e.continues_addSubview _ _).congr rfl rfl
  | _ => exact Continues.refl.congr rfl rfl

end PhotoEditor

end Whix
