import Whix.Framework.Runs
import Whix.Properties.CanvasViews

/-!
# Texts that are edited

While a text is edited it stands straight, in a font of its own, at the top of the screen, and the
editor keeps what it was before.  Meanwhile the text can still be dragged, pinched and turned, its
colour can be chosen, and other views and other modes come and go.  When the editing ends, in
whatever way, the text is back where it was (`text_returns`).
-/

namespace Whix

open Runs

variable {Image : Type}

/-- Can this begin or end the editing of a text? -/
def EditorEvent.edits : EditorEvent Image → Bool
  | .textButtonTapped => true
  | .doneButtonTapped => true
  | .editText _ => true
  | .endEditing => true
  | _ => false

namespace PhotoEditor

variable (L : EditorLayout) (e : PhotoEditor Image)

/-- What is kept of the text that is edited. -/
def session : Option CGAffineTransform × Option CGPoint × Option UIFont :=
  (e.lastTextViewTransform, e.lastTextViewTransCenter, e.lastTextViewFont)

/-- The text view that the text button makes. -/
def newText : CanvasView Image where
  id := e.nextView
  content := .textView editingFont e.textColor
  transform := .identity
  center := ⟨L.screen.width / 2, L.canvasCenter.y + 15⟩

/-- The view under a number, or else the text view that would come next. -/
def text (id : ℕ) : CanvasView Image := (e.subview id).getD (e.newText L)

/-! ## What keeps the session -/

lemma session_textViewDidEndEditing (id : ℕ) :
    (e.textViewDidEndEditing id).session = e.session := by
  unfold textViewDidEndEditing
  split <;> rfl

lemma session_resignFirstResponder : e.resignFirstResponder.session = e.session := by
  unfold resignFirstResponder
  split
  · exact e.session_textViewDidEndEditing _
  · rfl

lemma firstResponder_resignFirstResponder : e.resignFirstResponder.firstResponder = none := by
  unfold resignFirstResponder
  split
  · rfl
  · assumption

lemma subview_textViewDidEndEditing_of_ne {id id' : ℕ} (h : id' ≠ id) :
    (e.textViewDidEndEditing id).subview id' = e.subview id' := by
  unfold textViewDidEndEditing
  split
  · next font _ _ _ =>
      refine subview_modify_of_ne { e with activeTextView := none } id id' (fun view => ?_) h
      exact view.setFont_id font
  · rfl

/-- The views that are not edited stay when a text stops being edited. -/
lemma subview_resignFirstResponder_of_ne {id : ℕ} (h : e.firstResponder ≠ some id) :
    e.resignFirstResponder.subview id = e.subview id := by
  unfold resignFirstResponder
  split
  · next edited hfirst =>
      exact e.subview_textViewDidEndEditing_of_ne fun hid => h (hid ▸ hfirst)
  · rfl

/-- A text back as it was: what the end of its editing makes of it. -/
def restore (transform : CGAffineTransform) (center : CGPoint) (font : UIFont)
    (view : CanvasView Image) : CanvasView Image :=
  { view.setFont font with transform, center }

lemma subview_resignFirstResponder_self {id : ℕ} {transform : CGAffineTransform}
    {center : CGPoint} {font : UIFont} (hfirst : e.firstResponder = some id)
    (hsession : e.session = (some transform, some center, some font)) :
    e.resignFirstResponder.subview id = (e.subview id).map (restore transform center font) := by
  simp only [session, Prod.mk.injEq] at hsession
  have hresign : e.resignFirstResponder.subview id =
      (e.modify id (restore transform center font)).subview id := by
    simp only [resignFirstResponder, hfirst, textViewDidEndEditing, hsession]
    rfl
  rw [hresign]
  refine subview_modify_self e id fun view => ?_
  exact view.setFont_id font

/-- The other views stay when a text starts being edited. -/
lemma subview_beginEditing_of_ne {id id' : ℕ} (h : id' ≠ id) :
    (e.beginEditing L id).subview id' = e.subview id' := by
  unfold beginEditing
  split
  · next view hview =>
      have hid : view.id = id := by simpa using List.find?_some hview
      refine (subview_modify_of_ne _ view.id id' (fun view => ?_) (hid ▸ h)).trans ?_
      · exact view.setFont_id editingFont
      · exact subview_bringSubviewToFront ..
  · rfl

/-- Starting the editing of a text keeps what the text was. -/
lemma session_beginEditing {id : ℕ} {view : CanvasView Image} (hview : e.subview id = some view) :
    (e.beginEditing L id).session = (some view.transform, some view.center, view.font) := by
  unfold beginEditing
  rw [hview]
  rfl

lemma firstResponder_beginEditing {id : ℕ} {view : CanvasView Image}
    (hview : e.subview id = some view) : (e.beginEditing L id).firstResponder = some id := by
  unfold beginEditing
  rw [hview]

lemma beginEditing_of_none {id : ℕ} (hview : e.subview id = none) : e.beginEditing L id = e := by
  unfold beginEditing
  rw [hview]

/-! ## The handlers -/

lemma editing_moveView (id : ℕ) (recognizer : Pan) :
    (e.moveView L id recognizer).firstResponder = e.firstResponder ∧
      (e.moveView L id recognizer).session = e.session := by
  unfold moveView
  split
  · unfold dropView
    split <;> exact ⟨rfl, rfl⟩
  · exact ⟨rfl, rfl⟩

lemma editing_panGesture (id : ℕ) (alpha : ℕ → Bool) (recognizer : Pan) :
    (e.panGesture L id alpha recognizer).firstResponder = e.firstResponder ∧
      (e.panGesture L id alpha recognizer).session = e.session := by
  have hgrab : (e.grabImageView alpha recognizer).firstResponder = e.firstResponder ∧
      (e.grabImageView alpha recognizer).session = e.session := by
    unfold grabImageView
    split <;> exact ⟨rfl, rfl⟩
  unfold panGesture
  split
  · split
    · obtain ⟨hfirst, hsession⟩ :=
        editing_moveView L (e.grabImageView alpha recognizer) _ recognizer
      exact ⟨hfirst.trans hgrab.1, hsession.trans hgrab.2⟩
    · exact hgrab
  · exact e.editing_moveView L id recognizer

/-- The other handlers neither begin nor end the editing of a text. -/
lemma editing_handle {ev : EditorEvent Image} (hev : ev.edits = false) :
    (e.handle L ev).firstResponder = e.firstResponder ∧ (e.handle L ev).session = e.session := by
  cases ev with
  | textButtonTapped => exact absurd hev.symm Bool.false_ne_true
  | doneButtonTapped => exact absurd hev.symm Bool.false_ne_true
  | editText id => exact absurd hev.symm Bool.false_ne_true
  | endEditing => exact absurd hev.symm Bool.false_ne_true
  | screenEdgeSwiped =>
      simp only [handle, screenEdgeSwiped]
      split <;> exact ⟨rfl, rfl⟩
  | didSelectColor color =>
      simp only [handle, didSelectColor]
      split
      · exact ⟨rfl, rfl⟩
      · split <;> exact ⟨rfl, rfl⟩
  | touchesBegan point onPanel =>
      simp only [handle, touchesBegan]
      split
      · exact ⟨rfl, rfl⟩
      · split <;> exact ⟨rfl, rfl⟩
  | touchesMoved point =>
      simp only [handle, touchesMoved, drawLineFrom]
      split
      · split <;> exact ⟨rfl, rfl⟩
      · exact ⟨rfl, rfl⟩
  | touchesEnded =>
      simp only [handle, touchesEnded, drawLineFrom]
      split
      · split <;> exact ⟨rfl, rfl⟩
      · exact ⟨rfl, rfl⟩
  | panGesture id alpha recognizer => exact e.editing_panGesture L id alpha recognizer
  | tapGesture id alpha =>
      simp only [handle, tapGesture, scaleEffect]
      split
      · split
        · split <;> exact ⟨rfl, rfl⟩
        · exact ⟨rfl, rfl⟩
      · split <;> exact ⟨rfl, rfl⟩
  | effectCompleted i =>
      simp only [handle, effectCompleted]
      split <;> exact ⟨rfl, rfl⟩
  | keyboardDidShow =>
      simp only [handle, keyboardDidShow]
      split <;> exact ⟨rfl, rfl⟩
  | _ => exact ⟨rfl, rfl⟩

/-- Asking to edit a text changes the session only together with the text that is edited. -/
lemma session_becomeFirstResponder {id : ℕ}
    (h : (e.becomeFirstResponder L id).firstResponder = e.firstResponder) :
    (e.becomeFirstResponder L id).session = e.session := by
  by_cases hfirst : e.firstResponder = some id
  · rw [becomeFirstResponder, if_pos hfirst]
  · rw [becomeFirstResponder, if_neg hfirst] at h ⊢
    cases hview : e.resignFirstResponder.subview id with
    | none =>
        rw [beginEditing_of_none _ _ hview]
        exact e.session_resignFirstResponder
    | some view =>
        rw [firstResponder_beginEditing _ _ hview] at h
        exact absurd h.symm hfirst

/-- As long as the same text is edited, the session stays. -/
lemma session_handle {ev : EditorEvent Image}
    (h : (e.handle L ev).firstResponder = e.firstResponder) :
    (e.handle L ev).session = e.session := by
  cases ev with
  | textButtonTapped => exact (e.addTextView L).session_becomeFirstResponder L h
  | doneButtonTapped => exact e.session_resignFirstResponder
  | editText id => exact e.session_becomeFirstResponder L h
  | endEditing => exact e.session_resignFirstResponder
  | _ => exact (e.editing_handle L rfl).2

/-- A text that is no longer edited once another one is asked for is back as it was. -/
lemma subview_becomeFirstResponder_of_ended {id v : ℕ} {transform : CGAffineTransform}
    {center : CGPoint} {font : UIFont} (hfirst : e.firstResponder = some v)
    (hsession : e.session = (some transform, some center, some font))
    (hended : (e.becomeFirstResponder L id).firstResponder ≠ some v) :
    (e.becomeFirstResponder L id).subview v =
      (e.subview v).map (restore transform center font) := by
  by_cases hid : e.firstResponder = some id
  · rw [becomeFirstResponder, if_pos hid] at hended
    exact absurd hfirst hended
  · have hne : v ≠ id := fun h => hid (h ▸ hfirst)
    rw [becomeFirstResponder, if_neg hid, subview_beginEditing_of_ne L _ hne,
      subview_resignFirstResponder_self e hfirst hsession]

/-- The end of the editing of a text, in whatever way. -/
lemma subview_handle_of_ended {v : ℕ} {transform : CGAffineTransform} {center : CGPoint}
    {font : UIFont} {ev : EditorEvent Image} (hfirst : e.firstResponder = some v)
    (hsession : e.session = (some transform, some center, some font)) (hlt : v < e.nextView)
    (hended : (e.handle L ev).firstResponder ≠ some v) :
    (e.handle L ev).subview v = (e.subview v).map (restore transform center font) := by
  cases ev with
  | textButtonTapped =>
      have hview : (e.addTextView L).subview v = e.subview v :=
        subview_addSubview_of_ne _ v _ _ hlt.ne
      rw [← hview]
      exact (e.addTextView L).subview_becomeFirstResponder_of_ended L hfirst hsession hended
  | doneButtonTapped => exact e.subview_resignFirstResponder_self hfirst hsession
  | editText id => exact e.subview_becomeFirstResponder_of_ended L hfirst hsession hended
  | endEditing => exact e.subview_resignFirstResponder_self hfirst hsession
  | _ => exact absurd ((e.editing_handle L rfl).1.trans hfirst) hended

/-! ## While a text is edited -/

/-- The numbers of the views have been given out. -/
def Fresh : Prop := ∀ id view, e.subview id = some view → id < e.nextView

/-- What is known while the text `v` is edited that was `view` before. -/
structure Editing (v : ℕ) (view : CanvasView Image) : Prop where
  session : e.session = (some view.transform, some view.center, view.font)
  lt : v < e.nextView
  isText : ∀ view', e.subview v = some view' → view'.font.isSome
  font : view.font.isSome

variable {e}

lemma fresh_viewDidLoad (stickers : List Image) : (viewDidLoad stickers).Fresh :=
  fun _ view hview => absurd hview (Option.some_ne_none view).symm

lemma Fresh.continues {e' : PhotoEditor Image} (h : e.Fresh) (hcontinues : e.Continues e') :
    e'.Fresh := by
  intro id view' hview'
  rcases hcontinues.views id view' hview' with ⟨view, hview, -⟩ | ⟨-, hlt⟩
  · exact (h id view hview).trans_le hcontinues.nextView
  · exact hlt

lemma Fresh.subview_nextView (h : e.Fresh) : e.subview e.nextView = none := by
  cases hview : e.subview e.nextView with
  | none => rfl
  | some view => exact absurd (h _ view hview) (lt_irrefl _)

/-- A text that is there stays a text. -/
lemma Continues.isText {e' : PhotoEditor Image} {v : ℕ} (h : e.Continues e') (hlt : v < e.nextView)
    (htext : ∀ view, e.subview v = some view → view.font.isSome) (view' : CanvasView Image)
    (hview' : e'.subview v = some view') : view'.font.isSome := by
  rcases h.views v view' hview' with ⟨view, hview, hlike⟩ | ⟨hle, -⟩
  · rw [hlike.font]
    exact htext view hview
  · exact absurd hlt hle.not_gt

lemma Editing.handle {v : ℕ} {view : CanvasView Image} {ev : EditorEvent Image}
    (h : e.Editing v view) (hfirst : (e.handle L ev).firstResponder = e.firstResponder) :
    (e.handle L ev).Editing v view where
  session := (e.session_handle L hfirst).trans h.session
  lt := h.lt.trans_le (e.continues_handle L ev).nextView
  isText := (e.continues_handle L ev).isText h.lt h.isText
  font := h.font

/-- Asking to edit a text that is there. -/
lemma editing_becomeFirstResponder {id v : ℕ} {view : CanvasView Image} (hfresh : e.Fresh)
    (hview : e.subview id = some view) (hfont : view.font.isSome)
    (hnot : e.firstResponder ≠ some v)
    (hfirst : (e.becomeFirstResponder L id).firstResponder = some v) :
    v = id ∧ (e.becomeFirstResponder L id).Editing v view := by
  have hid : e.firstResponder ≠ some id := by
    intro hid
    rw [becomeFirstResponder, if_pos hid] at hfirst
    exact hnot hfirst
  have hcontinues : e.Continues (e.becomeFirstResponder L id) :=
    e.continues_becomeFirstResponder id L
  have hresign : e.resignFirstResponder.subview id = some view := by
    rw [subview_resignFirstResponder_of_ne e hid, hview]
  have hbecome : e.becomeFirstResponder L id = e.resignFirstResponder.beginEditing L id := by
    rw [becomeFirstResponder, if_neg hid]
  rw [hbecome, firstResponder_beginEditing L _ hresign, Option.some.injEq] at hfirst
  subst hfirst
  refine ⟨rfl, ?_, (hfresh id view hview).trans_le hcontinues.nextView, ?_, hfont⟩
  · rw [hbecome]
    exact session_beginEditing L _ hresign
  · refine hcontinues.isText (hfresh id view hview) fun view' hview' => ?_
    rw [hview, Option.some.injEq] at hview'
    exact hview' ▸ hfont

/-- The beginning of the editing of a text. -/
lemma editing_handle_of_begun {v : ℕ} {ev : EditorEvent Image} (hfresh : e.Fresh)
    (hallows : e.allows ev) (hnot : e.firstResponder ≠ some v)
    (hfirst : (e.handle L ev).firstResponder = some v) :
    (e.handle L ev).Editing v (e.text L v) := by
  cases ev with
  | textButtonTapped =>
      have hview : (e.addTextView L).subview e.nextView = some (e.newText L) :=
        subview_addSubview_self _ _ _ hfresh.subview_nextView
      have hadded : (e.addTextView L).Fresh :=
        hfresh.continues ((e.continues_addSubview _ _).congr rfl rfl)
      obtain ⟨rfl, hediting⟩ :=
        editing_becomeFirstResponder L hadded hview rfl hnot hfirst
      rw [text, hfresh.subview_nextView]
      exact hediting
  | doneButtonTapped =>
      rw [show (e.handle L .doneButtonTapped).firstResponder = none from
        e.firstResponder_resignFirstResponder] at hfirst
      exact absurd hfirst (Option.some_ne_none v).symm
  | editText id =>
      cases hview : e.subview id with
      | none => simp [allows, hview] at hallows
      | some view =>
          have hfont : view.font.isSome := by simpa [allows, hview] using hallows
          obtain ⟨rfl, hediting⟩ :=
            editing_becomeFirstResponder L hfresh hview hfont hnot hfirst
          rw [text, hview]
          exact hediting
  | endEditing =>
      rw [show (e.handle L .endEditing).firstResponder = none from
        e.firstResponder_resignFirstResponder] at hfirst
      exact absurd hfirst (Option.some_ne_none v).symm
  | _ => exact absurd ((e.editing_handle L rfl).1.symm.trans hfirst) hnot

end PhotoEditor

/-! ## The round trip -/

/-- A text view is edited: a run of the editor, the event that begins it, what happens meanwhile,
and the event that ends it. -/
structure TextEdit (L : EditorLayout) (stickers : List Image) (v : ℕ) where
  before : Execution (editorStep L) (PhotoEditor.viewDidLoad stickers)
  begins : EditorEvent Image
  begun : PhotoEditor Image
  meanwhile : Execution (editorStep L) begun
  ends : EditorEvent Image
  ended : PhotoEditor Image
  step_begins : editorStep L before.final begins = some begun
  step_ends : editorStep L meanwhile.final ends = some ended
  firstResponder_before : before.final.firstResponder ≠ some v
  firstResponder_meanwhile : meanwhile.Always fun e => e.firstResponder = some v
  firstResponder_ended : ended.firstResponder ≠ some v

lemma fresh_of_run {L : EditorLayout} {stickers : List Image} {es : List (EditorEvent Image)}
    {e : PhotoEditor Image} (h : run (editorStep L) (.viewDidLoad stickers) es = some e) :
    e.Fresh := by
  refine invariant_run (fun e ev e' hfresh hstep => ?_) (PhotoEditor.fresh_viewDidLoad stickers) h
  obtain ⟨-, -, rfl⟩ := editorStep_eq_some.mp hstep
  exact hfresh.continues (e.continues_handle L ev)

namespace TextEdit

variable {L : EditorLayout} {stickers : List Image} {v : ℕ} (t : TextEdit L stickers v)

/-- What the text was before. -/
def original : CanvasView Image := t.before.final.text L v

lemma editing_begun : t.begun.Editing v t.original := by
  obtain ⟨-, hallows, hbegun⟩ := editorStep_eq_some.mp t.step_begins
  have hfirst : t.begun.firstResponder = some v :=
    t.firstResponder_meanwhile [] (List.nil_prefix) t.begun rfl
  rw [← hbegun] at hfirst ⊢
  exact PhotoEditor.editing_handle_of_begun L (fresh_of_run t.before.ran) hallows
    t.firstResponder_before hfirst

lemma editing_meanwhile : t.meanwhile.final.Editing v t.original := by
  refine t.firstResponder_meanwhile.invariant (J := fun e => e.Editing v t.original) ?_
    t.editing_begun t.meanwhile.ran
  intro e ev e' hediting hfirst hstep hfirst'
  obtain ⟨-, -, rfl⟩ := editorStep_eq_some.mp hstep
  exact hediting.handle L (hfirst'.trans hfirst.symm)

end TextEdit

/-- **A text returns.**  Whatever happens while a text is edited, when the editing ends, in
whatever way, the text is on the canvas if it still was, and its transform, its center and its font
are those it had before. -/
theorem text_returns {L : EditorLayout} {stickers : List Image} {v : ℕ}
    (t : TextEdit L stickers v) :
    (t.ended.subview v).isSome = (t.meanwhile.final.subview v).isSome ∧
      ∀ view, t.ended.subview v = some view → view.transform = t.original.transform ∧
        view.center = t.original.center ∧ view.font = t.original.font := by
  have hediting : t.meanwhile.final.Editing v t.original := t.editing_meanwhile
  obtain ⟨font, hfont⟩ := Option.isSome_iff_exists.mp hediting.font
  have hsession := hediting.session
  rw [hfont] at hsession
  have hended : t.ended.subview v = (t.meanwhile.final.subview v).map
      (PhotoEditor.restore t.original.transform t.original.center font) := by
    obtain ⟨-, -, hended⟩ := editorStep_eq_some.mp t.step_ends
    have hnot := t.firstResponder_ended
    rw [← hended] at hnot ⊢
    exact PhotoEditor.subview_handle_of_ended L _
      (t.firstResponder_meanwhile.last t.meanwhile.ran) hsession hediting.lt hnot
  refine ⟨by rw [hended, Option.isSome_map], fun view hview => ?_⟩
  rw [hended, Option.map_eq_some_iff] at hview
  obtain ⟨view', hview', rfl⟩ := hview
  refine ⟨rfl, rfl, ?_⟩
  rw [hfont]
  exact view'.font_setFont font (hediting.isText view' hview')

/-- A run without handlers that begin or end the editing of a text. -/
lemma always_firstResponder {L : EditorLayout} {e : PhotoEditor Image} {v : ℕ}
    {es : List (EditorEvent Image)} (hfirst : e.firstResponder = some v)
    (hes : checks (editorStep L) (fun _ (ev : EditorEvent Image) => !ev.edits) e es) :
    Always (editorStep L) (fun e => e.firstResponder = some v) e es := by
  have hedits : Along (editorStep L) (fun _ ev => ev.edits = false) e es :=
    along_of_checks (fun _ ev hev => by simpa using hev) hes
  refine always_of_along (J := fun e => e.firstResponder = some v) ?_ hfirst hedits
  intro e ev e' hfirst hev hstep
  obtain ⟨-, -, rfl⟩ := editorStep_eq_some.mp hstep
  exact (e.editing_handle L hev).1.trans hfirst

/-- A text is added, turned and coloured while it is typed, and done. -/
def textTurned (L : EditorLayout) : TextEdit L ([] : List Unit) 0 where
  before := .ofEvents _ [] rfl
  begins := .textButtonTapped
  begun := (PhotoEditor.viewDidLoad []).textButtonTapped L
  meanwhile := .ofEvents _ [.keyboardDidShow, .rotationGesture 0 (3 / 5) (4 / 5),
    .didSelectColor ⟨1, 0, 0, 1⟩] rfl
  ends := .doneButtonTapped
  ended := _
  step_begins := rfl
  step_ends := rfl
  firstResponder_before := nofun
  firstResponder_meanwhile := always_firstResponder rfl rfl
  firstResponder_ended := nofun

/-- It stands straight again, where it was. -/
theorem textTurned_returns :
    ∃ view, (textTurned phone).ended.subview 0 = some view ∧ view.transform = .identity ∧
      view.center = ⟨phone.screen.width / 2, phone.canvasCenter.y + 15⟩ ∧
      view.font = some PhotoEditor.editingFont := by
  obtain ⟨hsome, hsame⟩ := text_returns (textTurned phone)
  obtain ⟨view, hview⟩ := Option.isSome_iff_exists.mp (hsome.trans (by rfl))
  exact ⟨view, hview, hsame view hview⟩

end Whix
