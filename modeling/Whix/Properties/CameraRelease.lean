import Whix.Client.Recorder
import Whix.Framework.Runs

/-!
# A released button

When the record button is released, or the maximum duration is reached, the camera should not
record, nor be about to; the light should be off, and the screen should go back to what it was.
The recording is started on another queue than it is stopped on, and `stopVideoRecording` does
nothing before `isVideoRecording` is set: a press that ends too early leaves a recording that
nobody stops.

`released_iff` is exact: through any interleaving of the main thread and the session queue, a
released button means a camera at rest if and only if every press that ends or times out does so
after its recording has been started, and what it has to stop can be stopped.  The torch is a case
of its own: the screen toggles it by what it remembers, so when the system has turned it off
meanwhile, the end of the press turns it on.
-/

namespace Whix

open Runs

/-- Is this part of starting a recording? -/
def SessionBlock.starts : SessionBlock → Bool
  | .startRecording => true
  | .setVideoRecording => true
  | .callDidBegin => true
  | _ => false

/-- What a delegate call makes of the screen. -/
def MainBlock.shows (shown : Bool) : MainBlock → Bool
  | .didBeginRecordingVideo => true
  | .didFinishRecordingVideo => false
  | _ => shown

namespace Recorder

variable (r : Recorder)

/-- What is left of starting recordings. -/
def starting : List SessionBlock := r.sessionQueue.filter SessionBlock.starts

/-- Will the screen show a recording when the main queue has been run? -/
def willShow : Bool := r.mainQueue.foldl MainBlock.shows r.recordingShown

/-- A camera at rest: it does not record and is not about to, the light is off and remembered to be,
and the screen goes back to what it was. -/
structure AtRest : Prop where
  starting : r.starting = []
  isRecording : r.isRecording = false
  willShow : r.willShow = false
  torchMode : r.torchMode = false
  isCameraTorchOn : r.isCameraTorchOn = false
  flashViews : r.flashViews = 0

/-- Can the torch be turned off?  Only on the rear camera, if it is still on and the device can be
locked. -/
def TorchStops (device : CaptureDevice) : Prop :=
  r.currentCamera = .rear ∧ r.torchMode ∧ device.hasTorch ∧ device.lockForConfiguration

/-- Can what is left of a recording be stopped?  A torch that was turned on must be such that it can
be turned off, and a white view goes only if the front camera still has its flash on. -/
def CanStop (device : CaptureDevice) : Prop :=
  (r.isCameraTorchOn → r.TorchStops device) ∧
    (r.flashViews ≠ 0 → r.currentCamera = .front ∧ r.flashMode = .on)

end Recorder

/-- Is the button held, and its time not up? -/
def heldAfter (_ : Recorder) (held : Bool) (ev : RecorderEvent) (_ : Recorder) : Bool :=
  match ev with
  | .longPressBegan _ => true
  | .longPressEnded _ => false
  | .timerFinished .. => false
  | _ => held

/-- The camera screen with a record of the press, which no handler reads. -/
abbrev pressStep : Recorder × Bool → RecorderEvent → Option (Recorder × Bool) :=
  withHistory heldAfter recorderStep

/-- A released button means a camera at rest. -/
def Released (s : Recorder × Bool) : Prop := s.2 = false → s.1.AtRest

/-- If a press ends or times out, then its recording has been started, and can be stopped; when the
press ends, the button is enabled, or there is no recording. -/
def PressInTime (s : Recorder × Bool) : RecorderEvent → Prop
  | .longPressEnded device =>
      s.1.starting = [] ∧ (s.1.isVideoRecording → s.1.buttonEnabled ∧ s.1.CanStop device)
  | .timerFinished _ device => s.1.starting = [] ∧ (s.1.isVideoRecording → s.1.CanStop device)
  | _ => True

/-! ## Where a recording is on its way -/

namespace Recorder

/-- No recording is being started: what the camera does is what `isVideoRecording` says. -/
structure Idle (r : Recorder) : Prop where
  starting : r.starting = []
  isRecording : r.isRecording → r.isVideoRecording
  willShow : r.willShow = r.isVideoRecording
  torchMode : r.torchMode → r.isVideoRecording
  isCameraTorchOn : r.isCameraTorchOn → r.isVideoRecording
  flashViews : r.flashViews ≠ 0 → r.isVideoRecording

/-- What is known at each stage of starting a recording. -/
inductive Startup (r : Recorder) : Prop where
  | idle (h : r.Idle)
  | queued (starting : r.starting = [.startRecording]) (recording : r.isRecording = false)
      (video : r.isVideoRecording = false) (shown : r.willShow = false)
  | started (starting : r.starting = [.setVideoRecording]) (video : r.isVideoRecording = false)
      (shown : r.willShow = false)
  | set (starting : r.starting = [.callDidBegin]) (video : r.isVideoRecording = true)
      (shown : r.willShow = false)

/-- The screen knows of a torch that is on, and there is one white view at most, which `flashView`
knows. -/
structure FlashKnown (r : Recorder) : Prop where
  torch : r.torchMode → r.isCameraTorchOn
  view : r.flashViews ≠ 0 → r.flashView ∧ r.flashViews = 1

variable {r r' : Recorder}

lemma Startup.idle_of_starting (h : r.Startup) (hstarting : r.starting = []) : r.Idle := by
  cases h with
  | idle h => exact h
  | queued h => simp [hstarting] at h
  | started h => simp [hstarting] at h
  | set h => simp [hstarting] at h

lemma Idle.atRest_iff (h : r.Idle) : r.AtRest ↔ r.isVideoRecording = false := by
  constructor
  · intro hrest
    exact h.willShow.symm.trans hrest.willShow
  · intro hvideo
    refine ⟨h.starting, ?_, h.willShow.trans hvideo, ?_, ?_, ?_⟩
    · exact eq_false_of_ne_true fun hrec => by simp [h.isRecording hrec] at hvideo
    · exact eq_false_of_ne_true fun hmode => by simp [h.torchMode hmode] at hvideo
    · exact eq_false_of_ne_true fun htorch => by simp [h.isCameraTorchOn htorch] at hvideo
    · by_contra hviews
      simp [h.flashViews hviews] at hvideo

lemma AtRest.idle (h : r.AtRest) (hvideo : r.isVideoRecording = false) : r.Idle where
  starting := h.starting
  isRecording hrec := by simp [h.isRecording] at hrec
  willShow := h.willShow.trans hvideo.symm
  torchMode hmode := by simp [h.torchMode] at hmode
  isCameraTorchOn htorch := by simp [h.isCameraTorchOn] at htorch
  flashViews hviews := absurd h.flashViews hviews

lemma AtRest.flashKnown (h : r.AtRest) : r.FlashKnown where
  torch hmode := by simp [h.torchMode] at hmode
  view hviews := absurd h.flashViews hviews

lemma willShow_append (block : MainBlock) :
    ({ r with mainQueue := r.mainQueue ++ [block] } : Recorder).willShow =
      MainBlock.shows r.willShow block := by
  simp [willShow]

/-! ## What leaves a recording alone -/

/-- From `r` to `r'` the recording is left alone.  At most a torch is toggled that is remembered to
be on, or turned off. -/
structure Keeps (r r' : Recorder) : Prop where
  pressed : r'.pressed = r.pressed
  starting : r'.starting = r.starting
  isRecording : r'.isRecording → r.isRecording
  isVideoRecording : r'.isVideoRecording = r.isVideoRecording
  willShow : r'.willShow = r.willShow
  torchMode : r'.torchMode → r.torchMode ∨ r.isCameraTorchOn
  isCameraTorchOn : r'.isCameraTorchOn → r.isCameraTorchOn
  torch : (r.torchMode → r.isCameraTorchOn) → r'.torchMode → r'.isCameraTorchOn
  flashView : r'.flashView = r.flashView
  flashViews : r'.flashViews = r.flashViews

namespace Keeps

lemma refl (r : Recorder) : Keeps r r := ⟨rfl, rfl, id, rfl, rfl, .inl, id, id, rfl, rfl⟩

lemma trans {r'' : Recorder} (h : Keeps r r') (h' : Keeps r' r'') : Keeps r r'' where
  pressed := h'.pressed.trans h.pressed
  starting := h'.starting.trans h.starting
  isRecording := h.isRecording ∘ h'.isRecording
  isVideoRecording := h'.isVideoRecording.trans h.isVideoRecording
  willShow := h'.willShow.trans h.willShow
  torchMode hmode := (h'.torchMode hmode).elim h.torchMode fun htorch =>
    .inr (h.isCameraTorchOn htorch)
  isCameraTorchOn := h.isCameraTorchOn ∘ h'.isCameraTorchOn
  torch := h'.torch ∘ h.torch
  flashView := h'.flashView.trans h.flashView
  flashViews := h'.flashViews.trans h.flashViews

lemma atRest (h : Keeps r r') (hrest : r.AtRest) : r'.AtRest where
  starting := h.starting.trans hrest.starting
  isRecording := eq_false_of_ne_true fun hrec => by
    have := h.isRecording hrec
    simp [hrest.isRecording] at this
  willShow := h.willShow.trans hrest.willShow
  torchMode := eq_false_of_ne_true fun hmode => by
    have := h.torchMode hmode
    simp [hrest.torchMode, hrest.isCameraTorchOn] at this
  isCameraTorchOn := eq_false_of_ne_true fun htorch => by
    have := h.isCameraTorchOn htorch
    simp [hrest.isCameraTorchOn] at this
  flashViews := h.flashViews.trans hrest.flashViews

lemma idle (h : Keeps r r') (hidle : r.Idle) : r'.Idle where
  starting := h.starting.trans hidle.starting
  isRecording hrec := h.isVideoRecording ▸ hidle.isRecording (h.isRecording hrec)
  willShow := h.willShow.trans (hidle.willShow.trans h.isVideoRecording.symm)
  torchMode hmode := h.isVideoRecording ▸
    (h.torchMode hmode).elim hidle.torchMode hidle.isCameraTorchOn
  isCameraTorchOn htorch := h.isVideoRecording ▸ hidle.isCameraTorchOn (h.isCameraTorchOn htorch)
  flashViews hviews := h.isVideoRecording ▸ hidle.flashViews (h.flashViews ▸ hviews)

lemma startup (h : Keeps r r') (hstartup : r.Startup) : r'.Startup := by
  cases hstartup with
  | idle hidle => exact .idle (h.idle hidle)
  | queued starting recording video shown =>
      refine .queued (h.starting.trans starting) ?_ (h.isVideoRecording.trans video)
        (h.willShow.trans shown)
      exact eq_false_of_ne_true fun hrec => by simp [h.isRecording hrec] at recording
  | started starting video shown =>
      exact .started (h.starting.trans starting) (h.isVideoRecording.trans video)
        (h.willShow.trans shown)
  | set starting video shown =>
      exact .set (h.starting.trans starting) (h.isVideoRecording.trans video)
        (h.willShow.trans shown)

lemma flashKnown (h : Keeps r r') (hknown : r.FlashKnown) : r'.FlashKnown where
  torch := h.torch hknown.torch
  view hviews := by
    rw [h.flashViews] at hviews ⊢
    rw [h.flashView]
    exact hknown.view hviews

end Keeps

/-- Toggling turns the torch off if it can be turned off, and else turns it on or does nothing. -/
lemma toggleFlash_cases (r : Recorder) (device : CaptureDevice) :
    (r.TorchStops device ∧
        r.toggleFlash device = { r with torchMode := false, isCameraTorchOn := false }) ∨
      (¬ r.TorchStops device ∧
        (r.toggleFlash device = { r with torchMode := true, isCameraTorchOn := true } ∨
          r.toggleFlash device = r)) := by
  unfold toggleFlash TorchStops
  split
  case isTrue hreach =>
    simp only [Bool.and_eq_true, decide_eq_true_eq] at hreach
    obtain ⟨⟨hrear, hhas⟩, hlock⟩ := hreach
    split
    case isTrue hmode => exact .inl ⟨⟨hrear, hmode, hhas, hlock⟩, rfl⟩
    case isFalse hmode =>
      refine .inr ⟨fun hstops => hmode hstops.2.1, ?_⟩
      split
      · exact .inl rfl
      · exact .inr rfl
  case isFalse hreach =>
    refine .inr ⟨?_, .inr rfl⟩
    rintro ⟨hrear, -, hhas, hlock⟩
    simp [hrear, hhas, hlock] at hreach

/-- Disabling the flash toggles a torch that is remembered to be on. -/
lemma keeps_disableFlash (r : Recorder) (device : CaptureDevice) :
    Keeps r (r.disableFlash device) := by
  unfold disableFlash
  split
  case isFalse => exact .refl r
  case isTrue htorch =>
    rcases r.toggleFlash_cases device with ⟨-, hoff⟩ | ⟨-, hon | hsame⟩
    · rw [hoff]
      exact ⟨rfl, rfl, id, rfl, rfl, fun h => absurd h Bool.false_ne_true,
        fun h => absurd h Bool.false_ne_true, fun _ h => absurd h Bool.false_ne_true, rfl, rfl⟩
    · rw [hon]
      exact ⟨rfl, rfl, id, rfl, rfl, fun _ => .inr htorch, fun _ => htorch, fun _ _ => rfl,
        rfl, rfl⟩
    · rw [hsame]
      exact .refl r

lemma keeps_onSession {block : SessionBlock} (hblock : block.starts = false) (r : Recorder) :
    Keeps r (r.onSession block) :=
  ⟨rfl, by simp [onSession, starting, hblock], id, rfl, rfl, .inl, id, id, rfl, rfl⟩

lemma keeps_onMain {block : MainBlock} (hblock : ∀ shown, block.shows shown = shown)
    (r : Recorder) : Keeps r (r.onMain block) :=
  ⟨rfl, rfl, id, rfl, by rw [onMain, willShow_append, hblock], .inl, id, id, rfl, rfl⟩

lemma keeps_switchCamera (r : Recorder) (device : CaptureDevice) :
    Keeps r (r.switchCamera device) := by
  unfold switchCamera
  split
  · refine .trans ?_ (keeps_disableFlash _ device)
    refine .trans ?_ (keeps_onSession rfl _)
    exact ⟨rfl, rfl, id, rfl, rfl, .inl, id, id, rfl, rfl⟩
  · exact .refl r

lemma keeps_runSessionBlock {block : SessionBlock} {rest : List SessionBlock}
    (hqueue : r.sessionQueue = block :: rest) (hblock : block.starts = false) (ok : Bool) :
    Keeps r (r.runSessionBlock block rest ok) := by
  have hstarting : r.starting = rest.filter SessionBlock.starts := by
    simp [starting, hqueue, hblock]
  cases block with
  | configureSession => exact ⟨rfl, hstarting.symm, id, rfl, rfl, .inl, id, id, rfl, rfl⟩
  | beginSession => exact ⟨rfl, hstarting.symm, id, rfl, rfl, .inl, id, id, rfl, rfl⟩
  | switchInputs =>
      refine .trans ?_ (keeps_onMain (fun _ => rfl) _)
      exact ⟨rfl, hstarting.symm, id, rfl, rfl, .inl, id, id, rfl, rfl⟩
  | startRecording => simp [SessionBlock.starts] at hblock
  | setVideoRecording => simp [SessionBlock.starts] at hblock
  | callDidBegin => simp [SessionBlock.starts] at hblock

lemma keeps_runMainBlock {block : MainBlock} {rest : List MainBlock}
    (hqueue : r.mainQueue = block :: rest) : Keeps r (r.runMainBlock block rest) := by
  have hshow : r.willShow = rest.foldl MainBlock.shows (block.shows r.recordingShown) := by
    rw [willShow, hqueue, List.foldl_cons]
  cases block <;> exact ⟨rfl, rfl, id, rfl, hshow.symm, .inl, id, id, rfl, rfl⟩

lemma keeps_fileOutput (error : Bool) (r : Recorder) : Keeps r (r.fileOutput error) := by
  refine .trans ?_ (keeps_onMain ?_ _)
  · exact ⟨rfl, rfl, fun h => absurd h Bool.false_ne_true, rfl, rfl, .inl, id, id, rfl, rfl⟩
  · cases error <;> exact fun _ => rfl

end Recorder

/-- The events that neither begin nor end a press, nor start a recording. -/
def LeavesAlone (r : Recorder) : RecorderEvent → Prop
  | .longPressBegan _ => False
  | .longPressEnded _ => False
  | .timerFinished .. => False
  | .runSessionBlock _ => ∀ block ∈ r.sessionQueue.head?, block.starts = false
  | _ => True

lemma keeps_step {r r' : Recorder} {ev : RecorderEvent} (hev : LeavesAlone r ev)
    (hstep : recorderStep r ev = some r') : r.Keeps r' := by
  cases ev with
  | longPressBegan => exact hev.elim
  | longPressEnded => exact hev.elim
  | timerFinished => exact hev.elim
  | cameraSwitchTapped device =>
      obtain rfl := Option.some.inj hstep
      exact r.keeps_switchCamera device
  | toggleFlashTapped =>
      obtain rfl := Option.some.inj hstep
      exact ⟨rfl, rfl, id, rfl, rfl, .inl, id, id, rfl, rfl⟩
  | runSessionBlock ok =>
      rw [recorderStep] at hstep
      cases hqueue : r.sessionQueue with
      | nil => simp [hqueue] at hstep
      | cons block rest =>
          simp only [hqueue, Option.some.injEq] at hstep
          have hblock : block.starts = false := hev block (by rw [hqueue]; rfl)
          exact hstep ▸ Recorder.keeps_runSessionBlock hqueue hblock ok
  | runMainBlock =>
      rw [recorderStep] at hstep
      cases hqueue : r.mainQueue with
      | nil => simp [hqueue] at hstep
      | cons block rest =>
          simp only [hqueue, Option.some.injEq] at hstep
          exact hstep ▸ Recorder.keeps_runMainBlock hqueue
  | fileOutput error =>
      obtain rfl := Option.some.inj hstep
      exact r.keeps_fileOutput error
  | sessionDidStartRunning =>
      obtain rfl := Option.some.inj hstep
      refine .trans ?_ (Recorder.keeps_onMain (fun _ => rfl) _)
      exact ⟨rfl, rfl, id, rfl, rfl, .inl, id, id, rfl, rfl⟩
  | sessionDidStopRunning =>
      obtain rfl := Option.some.inj hstep
      refine .trans ?_ (Recorder.keeps_onMain (fun _ => rfl) _)
      exact ⟨rfl, rfl, id, rfl, rfl, .inl, id, id, rfl, rfl⟩
  | viewDidAppear =>
      obtain rfl := Option.some.inj hstep
      exact Recorder.keeps_onSession rfl r
  | torchTurnedOff =>
      obtain rfl := Option.some.inj hstep
      exact ⟨rfl, rfl, id, rfl, rfl, fun h => absurd h Bool.false_ne_true, id,
        fun _ h => absurd h Bool.false_ne_true, rfl, rfl⟩
  | viewDidDisappear device =>
      obtain rfl := Option.some.inj hstep
      refine .trans ?_ (Recorder.keeps_disableFlash _ device)
      exact ⟨rfl, rfl, id, rfl, rfl, .inl, id, id, rfl, rfl⟩

/-! ## Starting -/

namespace Recorder

variable {r : Recorder}

lemma keeps_startTimer (r : Recorder) : Keeps r r.startTimer :=
  ⟨rfl, rfl, id, rfl, rfl, .inl, id, id, rfl, rfl⟩

lemma toggleFlash_flashKnown (hknown : r.FlashKnown) (device : CaptureDevice) :
    (r.toggleFlash device).FlashKnown := by
  rcases r.toggleFlash_cases device with ⟨-, hoff⟩ | ⟨-, hon | hsame⟩
  · rw [hoff]
    exact ⟨id, hknown.view⟩
  · rw [hon]
    exact ⟨id, hknown.view⟩
  · rw [hsame]
    exact hknown

lemma startFlash_flashKnown (hrest : r.AtRest) (device : CaptureDevice) :
    (r.startFlash device).FlashKnown := by
  unfold startFlash
  split
  · split
    · unfold enableFlash
      split
      · exact hrest.flashKnown
      · exact toggleFlash_flashKnown hrest.flashKnown device
    · exact ⟨hrest.flashKnown.torch, fun _ => ⟨rfl, by rw [addFlashView, hrest.flashViews]⟩⟩
  · exact hrest.flashKnown

/-- Apart from the lights, starting changes nothing at once. -/
lemma startFlash_eq (r : Recorder) (device : CaptureDevice) :
    (r.startFlash device).starting = r.starting ∧
      (r.startFlash device).isRecording = r.isRecording ∧
      (r.startFlash device).isVideoRecording = r.isVideoRecording ∧
      (r.startFlash device).willShow = r.willShow ∧
      (r.startFlash device).pressed = r.pressed := by
  unfold startFlash
  split
  · split
    · unfold enableFlash
      split
      · exact ⟨rfl, rfl, rfl, rfl, rfl⟩
      · rcases r.toggleFlash_cases device with ⟨-, heq⟩ | ⟨-, heq | heq⟩ <;>
          rw [heq] <;> exact ⟨rfl, rfl, rfl, rfl, rfl⟩
    · exact ⟨rfl, rfl, rfl, rfl, rfl⟩
  · exact ⟨rfl, rfl, rfl, rfl, rfl⟩

lemma startVideoRecording_pressed (r : Recorder) (device : CaptureDevice) :
    (r.startVideoRecording device).pressed = r.pressed := by
  unfold startVideoRecording
  split
  · exact (r.startFlash_eq device).2.2.2.2
  · rfl

/-- From rest, a recording is queued, or nothing happens. -/
lemma startVideoRecording_startup (hrest : r.AtRest) (hidle : r.Idle) (device : CaptureDevice) :
    (r.startVideoRecording device).Startup ∧ (r.startVideoRecording device).FlashKnown := by
  unfold startVideoRecording
  split
  · obtain ⟨hstarting, hrec, hvideo, hshown, -⟩ := r.startFlash_eq device
    refine ⟨.queued ?_ (hrec.trans hrest.isRecording)
      (hvideo.trans (hidle.atRest_iff.mp hrest)) (hshown.trans hrest.willShow), ?_⟩
    · rw [onSession, starting, List.filter_append]
      show (r.startFlash device).starting ++ _ = _
      rw [hstarting, hrest.starting]
      rfl
    · exact ⟨(startFlash_flashKnown hrest device).torch, (startFlash_flashKnown hrest device).view⟩
  · exact ⟨.idle hidle, hrest.flashKnown⟩

lemma longPressBegan_pressed (r : Recorder) (device : CaptureDevice) :
    (r.longPressBegan device).pressed = true := by
  unfold longPressBegan
  split
  · exact startVideoRecording_pressed _ device
  · rfl

lemma longPressBegan_startup (hrest : r.AtRest) (hidle : r.Idle) (device : CaptureDevice) :
    (r.longPressBegan device).Startup ∧ (r.longPressBegan device).FlashKnown := by
  have hrest' : { r with pressed := true : Recorder }.AtRest :=
    ⟨hrest.1, hrest.2, hrest.3, hrest.4, hrest.5, hrest.6⟩
  have hidle' : { r with pressed := true : Recorder }.Idle :=
    hrest'.idle (hidle.atRest_iff.mp hrest)
  unfold longPressBegan
  split
  · obtain ⟨hstartup, hknown⟩ := startVideoRecording_startup hrest' hidle' device
    exact ⟨(keeps_startTimer _).startup hstartup, (keeps_startTimer _).flashKnown hknown⟩
  · exact ⟨.idle hidle', hrest'.flashKnown⟩

/-- The session queue starts a recording step by step. -/
lemma runSessionBlock_startup (h : r.Startup) {block : SessionBlock} {rest : List SessionBlock}
    (hqueue : r.sessionQueue = block :: rest) (hblock : block.starts = true) (ok : Bool) :
    (r.runSessionBlock block rest ok).Startup := by
  have hstarting : r.starting = block :: rest.filter SessionBlock.starts := by
    simp [starting, hqueue, hblock]
  cases h with
  | idle hidle => exact absurd (hstarting.symm.trans hidle.starting) (List.cons_ne_nil _ _)
  | queued starting recording video shown =>
      obtain ⟨rfl, hrest⟩ := List.cons.inj (hstarting.symm.trans starting)
      rw [runSessionBlock, if_neg (by simp [recording])]
      exact .started (congrArg (SessionBlock.setVideoRecording :: ·) hrest) video shown
  | started starting video shown =>
      obtain ⟨rfl, hrest⟩ := List.cons.inj (hstarting.symm.trans starting)
      exact .set (congrArg (SessionBlock.callDidBegin :: ·) hrest) rfl shown
  | set starting video shown =>
      obtain ⟨rfl, hrest⟩ := List.cons.inj (hstarting.symm.trans starting)
      refine .idle ⟨hrest, fun _ => video, ?_, fun _ => video, fun _ => video, fun _ => video⟩
      exact (willShow_append .didBeginRecordingVideo).trans video.symm

lemma runSessionBlock_pressed (block : SessionBlock) (rest : List SessionBlock) (ok : Bool) :
    (r.runSessionBlock block rest ok).pressed = r.pressed := by
  cases block with
  | startRecording =>
      rw [runSessionBlock]
      split <;> rfl
  | _ => rfl

lemma runSessionBlock_flashKnown (h : r.FlashKnown) {block : SessionBlock}
    (rest : List SessionBlock) (ok : Bool) : (r.runSessionBlock block rest ok).FlashKnown := by
  cases block with
  | startRecording =>
      rw [runSessionBlock]
      split <;> exact ⟨h.torch, h.view⟩
  | _ => exact ⟨h.torch, h.view⟩

/-! ## Stopping -/

section Light

variable (device : CaptureDevice)

lemma disableFlash_flash (r : Recorder) :
    (r.disableFlash device).flashView = r.flashView ∧
      (r.disableFlash device).flashViews = r.flashViews := by
  have hkeeps := keeps_disableFlash r device
  exact ⟨hkeeps.flashView, hkeeps.flashViews⟩

/-- Toggling turns the torch off exactly if it can be turned off. -/
lemma toggleFlash_off_iff (htorch : r.isCameraTorchOn) :
    ((r.toggleFlash device).torchMode = false ∧
        (r.toggleFlash device).isCameraTorchOn = false) ↔ r.TorchStops device := by
  rcases r.toggleFlash_cases device with ⟨hstops, hoff⟩ | ⟨hnot, hon | hsame⟩
  · rw [hoff]
    exact iff_of_true ⟨rfl, rfl⟩ hstops
  · rw [hon]
    exact iff_of_false (fun h => Bool.false_ne_true h.1.symm) hnot
  · rw [hsame]
    exact iff_of_false (fun h => by simp [h.2] at htorch) hnot

/-- The torch is off after `disableFlash`, and remembered to be, exactly if it was not remembered to
be on or can be turned off. -/
lemma disableFlash_off_iff (hknown : r.FlashKnown) :
    ((r.disableFlash device).torchMode = false ∧
        (r.disableFlash device).isCameraTorchOn = false) ↔
      (r.isCameraTorchOn → r.TorchStops device) := by
  unfold disableFlash
  split
  case isTrue htorch =>
    rw [toggleFlash_off_iff device htorch]
    exact ⟨fun hstops _ => hstops, fun hstops => hstops htorch⟩
  case isFalse htorch =>
    refine iff_of_true ⟨?_, eq_false_of_ne_true htorch⟩ fun h => absurd h htorch
    exact eq_false_of_ne_true fun hmode => htorch (hknown.torch hmode)

lemma stopFlash_off_iff (hknown : r.FlashKnown) :
    ((r.stopFlash device).torchMode = false ∧ (r.stopFlash device).isCameraTorchOn = false) ↔
      (r.isCameraTorchOn → r.TorchStops device) := by
  rw [← disableFlash_off_iff device hknown]
  unfold stopFlash removeFlashView
  split
  · split <;> rfl
  · rfl

/-- The white view is gone after `stopFlash` if the front camera still has its flash on. -/
lemma stopFlash_flashViews_iff (hknown : r.FlashKnown) :
    (r.stopFlash device).flashViews = 0 ↔
      (r.flashViews ≠ 0 → r.currentCamera = .front ∧ r.flashMode = .on) := by
  obtain ⟨hview, hviews⟩ := r.disableFlash_flash device
  unfold stopFlash
  split
  case isTrue hfront =>
    simp only [Bool.and_eq_true, decide_eq_true_eq] at hfront
    refine iff_of_true ?_ fun _ => hfront
    by_cases hzero : r.flashViews = 0
    · unfold removeFlashView
      split <;> simp [hviews, hzero]
    · obtain ⟨hknows, hone⟩ := hknown.view hzero
      simp [removeFlashView, hview, hviews, hknows, hone]
  case isFalse hfront =>
    simp only [Bool.and_eq_true, decide_eq_true_eq] at hfront
    rw [hviews]
    constructor
    · intro hzero hviews
      exact absurd hzero hviews
    · intro himp
      by_contra hzero
      exact hfront (himp hzero)

/-- Apart from the lights, `stopFlash` changes nothing. -/
lemma stopFlash_eq (r : Recorder) :
    (r.stopFlash device).starting = r.starting ∧
      ((r.stopFlash device).isRecording → r.isRecording) ∧
      (r.stopFlash device).isVideoRecording = r.isVideoRecording := by
  have hkeeps := keeps_disableFlash r device
  unfold stopFlash removeFlashView
  split
  · split <;> exact ⟨hkeeps.starting, hkeeps.isRecording, hkeeps.isVideoRecording⟩
  · exact ⟨hkeeps.starting, hkeeps.isRecording, hkeeps.isVideoRecording⟩

lemma stopVideoRecording_isVideoRecording (r : Recorder) :
    (r.stopVideoRecording device).isVideoRecording = false := by
  unfold stopVideoRecording
  split
  · exact (stopFlash_eq device _).2.2
  · exact eq_false_of_ne_true ‹_›

lemma stopVideoRecording_starting (r : Recorder) :
    (r.stopVideoRecording device).starting = r.starting := by
  unfold stopVideoRecording
  split
  · exact (stopFlash_eq device _).1
  · rfl

/-- Stopping puts the camera to rest exactly if it can be stopped. -/
lemma stopVideoRecording_atRest_iff (hidle : r.Idle) (hknown : r.FlashKnown) :
    (r.stopVideoRecording device).AtRest ↔ (r.isVideoRecording → r.CanStop device) := by
  unfold stopVideoRecording
  split
  case isTrue hvideo =>
    set stopped : Recorder := { r with isVideoRecording := false, isRecording := false }
      with hstopped
    have hknown' : stopped.FlashKnown := ⟨hknown.torch, hknown.view⟩
    have hoff := stopFlash_off_iff device hknown'
    have hviews := stopFlash_flashViews_iff device hknown'
    obtain ⟨hstarting, hrec, -⟩ := stopFlash_eq device stopped
    constructor
    · intro hrest _
      exact ⟨hoff.mp ⟨hrest.torchMode, hrest.isCameraTorchOn⟩, hviews.mp hrest.flashViews⟩
    · intro hstop
      obtain ⟨hstops, hfront⟩ := hstop hvideo
      obtain ⟨hmode, htorch⟩ := hoff.mpr hstops
      refine ⟨hstarting.trans hidle.starting, ?_, willShow_append .didFinishRecordingVideo, hmode,
        htorch, hviews.mpr hfront⟩
      exact eq_false_of_ne_true fun h => absurd (hrec h) Bool.false_ne_true
  case isFalse hvideo =>
    refine iff_of_true ?_ fun h => absurd h hvideo
    exact hidle.atRest_iff.mpr (eq_false_of_ne_true hvideo)

/-- A press that ends puts the camera to rest exactly if it ends in time. -/
lemma released_atRest_iff (hstartup : r.Startup) (hknown : r.FlashKnown) :
    (r.stopVideoRecording device).AtRest ↔
      r.starting = [] ∧ (r.isVideoRecording → r.CanStop device) := by
  by_cases hstarting : r.starting = []
  · rw [stopVideoRecording_atRest_iff device (hstartup.idle_of_starting hstarting) hknown]
    exact (and_iff_right hstarting).symm
  · refine iff_of_false (fun hrest => hstarting ?_) fun h => hstarting h.1
    exact (stopVideoRecording_starting device r).symm.trans hrest.starting

/-- The button's own state is no part of a recording. -/
lemma Startup.button (h : r.Startup) (pressed : Bool) (timer : Option ℕ) (scheduled : List ℕ) :
    { r with pressed := pressed, timer := timer, scheduled := scheduled : Recorder }.Startup := by
  cases h with
  | idle h => exact .idle ⟨h.1, h.2, h.3, h.4, h.5, h.6⟩
  | queued starting recording video shown => exact .queued starting recording video shown
  | started starting video shown => exact .started starting video shown
  | set starting video shown => exact .set starting video shown

lemma FlashKnown.button (h : r.FlashKnown) (pressed : Bool) (timer : Option ℕ)
    (scheduled : List ℕ) :
    { r with pressed := pressed, timer := timer, scheduled := scheduled : Recorder }.FlashKnown :=
  ⟨h.torch, h.view⟩

/-- The end of a press puts the camera to rest exactly if it is in time and the button is enabled,
unless there is no recording. -/
lemma longPressEnded_atRest_iff (hstartup : r.Startup) (hknown : r.FlashKnown) :
    (r.longPressEnded device).AtRest ↔
      r.starting = [] ∧ (r.isVideoRecording → r.buttonEnabled ∧ r.CanStop device) := by
  have hpressed : { r with pressed := false : Recorder }.AtRest ↔ r.AtRest :=
    ⟨fun h => ⟨h.1, h.2, h.3, h.4, h.5, h.6⟩, fun h => ⟨h.1, h.2, h.3, h.4, h.5, h.6⟩⟩
  unfold longPressEnded
  split
  case isTrue henabled =>
    have hknown' := hknown.button false none (r.scheduled.filter fun timer => r.timer ≠ some timer)
    refine (released_atRest_iff device (hstartup.button false none _) hknown').trans ?_
    exact and_congr_right fun _ => imp_congr_right fun _ => (and_iff_right henabled).symm
  case isFalse henabled =>
    rw [hpressed]
    constructor
    · intro hrest
      have hidle := hstartup.idle_of_starting hrest.starting
      refine ⟨hrest.starting, fun hvideo => ?_⟩
      simp [hidle.atRest_iff.mp hrest] at hvideo
    · rintro ⟨hstarting, himp⟩
      refine (hstartup.idle_of_starting hstarting).atRest_iff.mpr
        (eq_false_of_ne_true fun hvideo => ?_)
      exact henabled (himp hvideo).1

/-- After a press that has ended at rest nothing records. -/
lemma longPressEnded_idle (hstartup : r.Startup) (hrest : (r.longPressEnded device).AtRest) :
    (r.longPressEnded device).Idle := by
  refine hrest.idle ?_
  unfold longPressEnded at hrest ⊢
  split at hrest
  case isTrue henabled =>
    rw [if_pos henabled]
    exact stopVideoRecording_isVideoRecording device _
  case isFalse henabled =>
    rw [if_neg henabled]
    exact (hstartup.idle_of_starting hrest.starting).atRest_iff.mp
      ⟨hrest.1, hrest.2, hrest.3, hrest.4, hrest.5, hrest.6⟩

lemma timerFinished_atRest_iff (hstartup : r.Startup) (hknown : r.FlashKnown) (timer : ℕ) :
    (r.timerFinished timer device).AtRest ↔
      r.starting = [] ∧ (r.isVideoRecording → r.CanStop device) :=
  released_atRest_iff device (hstartup.button r.pressed none _) (hknown.button r.pressed none _)

lemma timerFinished_idle {timer : ℕ} (hrest : (r.timerFinished timer device).AtRest) :
    (r.timerFinished timer device).Idle :=
  hrest.idle (stopVideoRecording_isVideoRecording device _)

end Light

end Recorder

/-! ## Whole runs -/

/-- The invariant: what is known of the recording and the lights, and only a pressed button is
held. -/
structure Pressing (s : Recorder × Bool) : Prop where
  startup : s.1.Startup
  flashKnown : s.1.FlashKnown
  pressed : s.2 → s.1.pressed

lemma atRest_viewDidLoad : Recorder.viewDidLoad.AtRest := ⟨rfl, rfl, rfl, rfl, rfl, rfl⟩

lemma pressing_viewDidLoad : Pressing (Recorder.viewDidLoad, false) where
  startup := .idle (atRest_viewDidLoad.idle rfl)
  flashKnown := atRest_viewDidLoad.flashKnown
  pressed h := absurd h Bool.false_ne_true

section Step

variable {r r' : Recorder} {ev : RecorderEvent}

/-- What a step does to a recording. -/
lemma recorder_cases (hstep : recorderStep r ev = some r') :
    (∃ device, ev = .longPressBegan device ∧ r.pressed = false ∧ r' = r.longPressBegan device) ∨
      (∃ device, ev = .longPressEnded device ∧ r' = r.longPressEnded device) ∨
      (∃ timer device, ev = .timerFinished timer device ∧ r' = r.timerFinished timer device) ∨
      (∃ ok block rest, ev = .runSessionBlock ok ∧ r.sessionQueue = block :: rest ∧
        block.starts = true ∧ r' = r.runSessionBlock block rest ok) ∨
      LeavesAlone r ev := by
  cases ev with
  | longPressBegan device =>
      obtain ⟨hpressed, heq⟩ := Option.ite_none_left_eq_some.mp hstep
      exact .inl ⟨device, rfl, eq_false_of_ne_true hpressed, (Option.some.inj heq).symm⟩
  | longPressEnded device =>
      obtain ⟨-, heq⟩ := Option.ite_none_right_eq_some.mp hstep
      exact .inr (.inl ⟨device, rfl, (Option.some.inj heq).symm⟩)
  | timerFinished timer device =>
      obtain ⟨-, heq⟩ := Option.ite_none_right_eq_some.mp hstep
      exact .inr (.inr (.inl ⟨timer, device, rfl, (Option.some.inj heq).symm⟩))
  | runSessionBlock ok =>
      cases hqueue : r.sessionQueue with
      | nil => simp [recorderStep, hqueue] at hstep
      | cons block rest =>
          simp only [recorderStep, hqueue, Option.some.injEq] at hstep
          cases hblock : block.starts with
          | true => exact .inr (.inr (.inr (.inl ⟨ok, block, rest, rfl, rfl, hblock, hstep.symm⟩)))
          | false =>
              refine .inr (.inr (.inr (.inr fun block' hblock' => ?_)))
              rw [hqueue, List.head?_cons, Option.mem_some_iff] at hblock'
              exact hblock' ▸ hblock
  | _ => exact .inr (.inr (.inr (.inr trivial)))

/-- The record of the press, if nothing happens to it. -/
lemma heldAfter_of_leavesAlone (hev : LeavesAlone r ev) (held : Bool) (r' : Recorder) :
    heldAfter r held ev r' = held ∧ PressInTime (r, held) ev := by
  cases ev with
  | longPressBegan => exact hev.elim
  | longPressEnded => exact hev.elim
  | timerFinished => exact hev.elim
  | _ => exact ⟨rfl, trivial⟩

end Step

lemma pressing_step {s s' : Recorder × Bool} {ev : RecorderEvent} (hpressing : Pressing s)
    (hreleased : Released s) (hstep : pressStep s ev = some s') (hreleased' : Released s') :
    Pressing s' := by
  obtain ⟨r, held⟩ := s
  obtain ⟨r', (hr' : recorderStep r ev = some r'), rfl⟩ := Option.map_eq_some_iff.mp hstep
  obtain ⟨hstartup, hknown, hheld⟩ := hpressing
  have hend {r'' : Recorder} (hrest : r''.AtRest) (hidle : r''.Idle) : Pressing (r'', false) :=
    ⟨.idle hidle, hrest.flashKnown, fun h => absurd h Bool.false_ne_true⟩
  obtain ⟨device, rfl, hpressed, rfl⟩ | ⟨device, rfl, rfl⟩ | ⟨timer, device, rfl, rfl⟩ |
      ⟨ok, block, rest, rfl, hqueue, hblock, rfl⟩ | halone := recorder_cases hr'
  · have hnot : held = false := eq_false_of_ne_true fun h =>
      Bool.false_ne_true (hpressed.symm.trans (hheld h))
    have hrest : r.AtRest := hreleased hnot
    obtain ⟨hstartup', hknown'⟩ := Recorder.longPressBegan_startup hrest
      (hstartup.idle_of_starting hrest.starting) device
    exact ⟨hstartup', hknown', fun _ => r.longPressBegan_pressed device⟩
  · have hrest := hreleased' rfl
    exact hend hrest (Recorder.longPressEnded_idle device hstartup hrest)
  · have hrest := hreleased' rfl
    exact hend hrest (Recorder.timerFinished_idle device hrest)
  · refine ⟨Recorder.runSessionBlock_startup hstartup hqueue hblock ok,
      Recorder.runSessionBlock_flashKnown hknown rest ok, fun h => ?_⟩
    exact (Recorder.runSessionBlock_pressed block rest ok).trans (hheld h)
  · have hkeeps := keeps_step halone hr'
    rw [(heldAfter_of_leavesAlone halone held r').1]
    exact ⟨hkeeps.startup hstartup, hkeeps.flashKnown hknown,
      fun h => hkeeps.pressed.trans (hheld h)⟩

lemma released_step_iff {s s' : Recorder × Bool} {ev : RecorderEvent} (hpressing : Pressing s)
    (hreleased : Released s) (hstep : pressStep s ev = some s') :
    Released s' ↔ PressInTime s ev := by
  obtain ⟨r, held⟩ := s
  obtain ⟨r', (hr' : recorderStep r ev = some r'), rfl⟩ := Option.map_eq_some_iff.mp hstep
  obtain ⟨hstartup, hknown, hheld⟩ := hpressing
  obtain ⟨device, rfl, hpressed, rfl⟩ | ⟨device, rfl, rfl⟩ | ⟨timer, device, rfl, rfl⟩ |
      ⟨ok, block, rest, rfl, hqueue, hblock, rfl⟩ | halone := recorder_cases hr'
  · exact iff_of_true (fun h => absurd h.symm Bool.false_ne_true) trivial
  · have hiff := Recorder.longPressEnded_atRest_iff device hstartup hknown
    exact ⟨fun h => hiff.mp (h rfl), fun h _ => hiff.mpr h⟩
  · have hiff := Recorder.timerFinished_atRest_iff device hstartup hknown timer
    exact ⟨fun h => hiff.mp (h rfl), fun h _ => hiff.mpr h⟩
  · refine iff_of_true (fun hnot => ?_) trivial
    -- while the button is released, no recording is being started
    have hstarting : r.starting = [] := (hreleased hnot).starting
    simp [Recorder.starting, hqueue, hblock] at hstarting
  · obtain ⟨hheld', hintime⟩ := heldAfter_of_leavesAlone halone held r'
    refine iff_of_true (fun hnot => ?_) hintime
    exact (keeps_step halone hr').atRest (hreleased (hheld'.symm.trans hnot))

/-- **A released button, exactly.**  Through any interleaving of the main thread and the session
queue, whenever the button is released or its time is up, the camera neither records nor is about
to, the light is off and the screen goes back, if and only if every press that ends or times out
does so when its recording has been started and can be stopped, and one that ends while the button
is enabled, unless nothing is recorded. -/
theorem released_iff (es : List RecorderEvent) :
    Always pressStep Released (Recorder.viewDidLoad, false) es ↔
      Along pressStep PressInTime (Recorder.viewDidLoad, false) es :=
  always_iff_along pressing_viewDidLoad (fun _ => atRest_viewDidLoad)
    (fun _ _ _ hpressing hreleased hstep => pressing_step hpressing hreleased hstep)
    (fun _ _ _ hpressing hreleased hstep => released_step_iff hpressing hreleased hstep) es

/-- The camera is ready to record. -/
def ready : List RecorderEvent :=
  [.runSessionBlock true, .viewDidAppear, .runSessionBlock true, .sessionDidStartRunning,
    .runMainBlock]

/-- A device whose torch works. -/
def torchDevice : CaptureDevice := ⟨true, true, true⟩

/-- A long press ends before the session queue has got to its block. -/
def endedEarly : Execution recorderStep Recorder.viewDidLoad :=
  .ofEvents _ (ready ++ [.longPressBegan torchDevice, .longPressEnded torchDevice,
    .runSessionBlock true, .runSessionBlock true, .runSessionBlock true, .runMainBlock]) rfl

/-- Nobody holds the button, and the camera records. -/
example : endedEarly.final.pressed = false ∧ endedEarly.final.isRecording = true := ⟨rfl, rfl⟩

/-- The system turns the torch off during a recording with flash. -/
def torchLost : Execution recorderStep Recorder.viewDidLoad :=
  .ofEvents _ (ready ++ [.toggleFlashTapped, .longPressBegan torchDevice, .runSessionBlock true,
    .runSessionBlock true, .runSessionBlock true, .torchTurnedOff, .longPressEnded torchDevice]) rfl

/-- The end of the press turns it on. -/
example : torchLost.final.isRecording = false ∧ torchLost.final.torchMode = true := ⟨rfl, rfl⟩

end Whix
