import Mathlib.Tactic.Common

/-!
# Recording a video

`SwiftyCamButton`, `SwiftyCamViewController` and `CamViewController`, as far as videos go.  A long
press of the button starts a recording and its end stops it, or a timer does when the maximum
duration is reached.  The handlers of the button run on the main thread; what starts the recording
is a block on the session queue, and what the screen shows of it is a block on the main queue.

The statements of the block that starts a recording are steps of their own, so the main thread may
come in between.  The movie file output is as documented: it records from `startRecording` until
`stopRecording`, or until it finishes by itself.  The torch belongs to the device, and the system
may turn it off; `isCameraTorchOn` is what the screen remembers of it.
-/

namespace Whix

/-- `CameraSelection` -/
inductive CameraSelection where
  | rear
  | front
  deriving DecidableEq

/-- `FlashMode` -/
inductive FlashMode where
  | auto
  | on
  | off
  deriving DecidableEq

/-- What the device answers when its torch is toggled: whether it has one, whether it can be locked
for configuration, and whether the torch can be turned on. -/
structure CaptureDevice where
  hasTorch : Bool
  lockForConfiguration : Bool
  setTorchModeOn : Bool
  deriving DecidableEq

/-- A block on the session queue, or what is left of it. -/
inductive SessionBlock where
  | configureSession
  /-- The block of `viewDidAppear` -/
  | beginSession
  /-- The block of `switchCamera` -/
  | switchInputs
  /-- The block of `startVideoRecording` -/
  | startRecording
  /-- The block of `startVideoRecording` from `isVideoRecording = true` on -/
  | setVideoRecording
  /-- The block of `startVideoRecording` from the call of the main queue on -/
  | callDidBegin
  deriving DecidableEq

/-- A block on the main queue, which calls the delegate. -/
inductive MainBlock where
  | didBeginRecordingVideo
  | didFinishRecordingVideo
  | didFinishProcessVideo
  | didFailToRecordVideo
  | didStartRunning
  | didStopRunning
  | didSwitchCameras
  deriving DecidableEq

/-- The camera screen. -/
structure Recorder where
  /-- the long press is going on -/
  pressed : Bool
  buttonEnabled : Bool
  /-- the timer that the button knows -/
  timer : Option ℕ
  /-- the timers that are scheduled -/
  scheduled : List ℕ
  nextTimer : ℕ
  /-- `session.isRunning` -/
  running : Bool
  /-- `sessionRunning`, as notified -/
  sessionRunning : Bool
  isSessionRunning : Bool
  /-- `movieFileOutput` is set -/
  movieFileOutput : Bool
  /-- `movieFileOutput.isRecording` -/
  isRecording : Bool
  isVideoRecording : Bool
  currentCamera : CameraSelection
  flashMode : FlashMode
  /-- `torchMode` of the device is `on` -/
  torchMode : Bool
  isCameraTorchOn : Bool
  /-- the view in `flashView` is on the preview -/
  flashView : Bool
  /-- the flash views on the preview -/
  flashViews : ℕ
  sessionQueue : List SessionBlock
  mainQueue : List MainBlock
  /-- the button is grown and the other buttons are hidden -/
  recordingShown : Bool

/-- What can happen to the camera screen. -/
inductive RecorderEvent where
  | longPressBegan (device : CaptureDevice)
  /-- A long press ends, is cancelled or fails. -/
  | longPressEnded (device : CaptureDevice)
  | timerFinished (timer : ℕ) (device : CaptureDevice)
  | cameraSwitchTapped (device : CaptureDevice)
  | toggleFlashTapped
  /-- The next block of the session queue runs; `ok` tells if the session does what it should. -/
  | runSessionBlock (ok : Bool)
  | runMainBlock
  /-- `fileOutput(_:didFinishRecordingTo:from:error:)` -/
  | fileOutput (error : Bool)
  | sessionDidStartRunning
  | sessionDidStopRunning
  | viewDidAppear
  | viewDidDisappear (device : CaptureDevice)
  /-- The system turns the torch off. -/
  | torchTurnedOff

namespace Recorder

variable (r : Recorder)

/-- The camera screen when its view has loaded. -/
def viewDidLoad : Recorder where
  pressed := false
  buttonEnabled := false
  timer := none
  scheduled := []
  nextTimer := 0
  running := false
  sessionRunning := false
  isSessionRunning := false
  movieFileOutput := false
  isRecording := false
  isVideoRecording := false
  currentCamera := .rear
  flashMode := .auto
  torchMode := false
  isCameraTorchOn := false
  flashView := false
  flashViews := 0
  sessionQueue := [.configureSession]
  mainQueue := []
  recordingShown := false

/-- `sessionQueue.async` -/
def onSession (block : SessionBlock) : Recorder :=
  { r with sessionQueue := r.sessionQueue ++ [block] }

/-- `DispatchQueue.main.async` -/
def onMain (block : MainBlock) : Recorder := { r with mainQueue := r.mainQueue ++ [block] }

/-! ### Flash -/

/-- `toggleFlash`; only the rear camera has a torch. -/
def toggleFlash (device : CaptureDevice) : Recorder :=
  if r.currentCamera = .rear && device.hasTorch && device.lockForConfiguration then
    if r.torchMode then { r with torchMode := false, isCameraTorchOn := false }
    else if device.setTorchModeOn then { r with torchMode := true, isCameraTorchOn := true }
    else r
  else r

/-- `enableFlash` -/
def enableFlash (device : CaptureDevice) : Recorder :=
  if r.isCameraTorchOn then r else r.toggleFlash device

/-- `disableFlash` -/
def disableFlash (device : CaptureDevice) : Recorder :=
  if r.isCameraTorchOn then r.toggleFlash device else r

/-- The flash of the front camera: a white view on the preview. -/
def addFlashView : Recorder := { r with flashView := true, flashViews := r.flashViews + 1 }

/-- The white view fades and is removed. -/
def removeFlashView : Recorder :=
  if r.flashView then { r with flashView := false, flashViews := r.flashViews - 1 } else r

/-- `toggleFlashAnimation` -/
def toggleFlashAnimation : Recorder :=
  { r with
    flashMode :=
      match r.flashMode with
      | .auto => .on
      | .on => .off
      | .off => .auto }

/-! ### The recording -/

/-- The flash of a recording that starts. -/
def startFlash (device : CaptureDevice) : Recorder :=
  if r.flashMode = .on then
    match r.currentCamera with
    | .rear => r.enableFlash device
    | .front => r.addFlashView
  else r

/-- `startVideoRecording` -/
def startVideoRecording (device : CaptureDevice) : Recorder :=
  if r.sessionRunning && r.movieFileOutput then (r.startFlash device).onSession .startRecording
  else r

/-- The flash of a recording that stops. -/
def stopFlash (device : CaptureDevice) : Recorder :=
  if r.currentCamera = .front && r.flashMode = .on then (r.disableFlash device).removeFlashView
  else r.disableFlash device

/-- `stopVideoRecording` -/
def stopVideoRecording (device : CaptureDevice) : Recorder :=
  if r.isVideoRecording then
    ({ r with isVideoRecording := false, isRecording := false : Recorder }.stopFlash device).onMain
      .didFinishRecordingVideo
  else r

/-- `switchCamera`; the other camera is the current one before the torch is disabled. -/
def switchCamera (device : CaptureDevice) : Recorder :=
  if !r.isVideoRecording && r.running then
    ({ r with
        currentCamera :=
          match r.currentCamera with
          | .front => .rear
          | .rear => .front
        running := false : Recorder }.onSession .switchInputs).disableFlash device
  else r

/-! ### The button -/

/-- `startTimer` -/
def startTimer : Recorder :=
  { r with
    timer := some r.nextTimer
    scheduled := r.scheduled ++ [r.nextTimer]
    nextTimer := r.nextTimer + 1 }

/-- `invalidateTimer` -/
def invalidateTimer : Recorder :=
  { r with timer := none, scheduled := r.scheduled.filter fun timer => r.timer ≠ some timer }

/-- `LongPress(_:)` when it begins -/
def longPressBegan (device : CaptureDevice) : Recorder :=
  if r.buttonEnabled then ({ r with pressed := true }.startVideoRecording device).startTimer
  else { r with pressed := true }

/-- `LongPress(_:)` when it ends -/
def longPressEnded (device : CaptureDevice) : Recorder :=
  if r.buttonEnabled then { r with pressed := false }.invalidateTimer.stopVideoRecording device
  else { r with pressed := false }

/-- `timerFinished` -/
def timerFinished (timer : ℕ) (device : CaptureDevice) : Recorder :=
  { r with scheduled := r.scheduled.erase timer }.invalidateTimer.stopVideoRecording device

/-! ### The queues -/

/-- A block of the session queue, or its first statement. -/
def runSessionBlock (block : SessionBlock) (rest : List SessionBlock) (ok : Bool) : Recorder :=
  match block with
  | .configureSession =>
      { r with currentCamera := .rear, movieFileOutput := ok, sessionQueue := rest }
  | .beginSession => { r with running := ok, isSessionRunning := ok, sessionQueue := rest }
  | .switchInputs =>
      { r with running := ok, sessionQueue := rest : Recorder }.onMain .didSwitchCameras
  | .startRecording =>
      if r.isRecording then { r with isRecording := false, sessionQueue := rest }
      else { r with isRecording := true, sessionQueue := .setVideoRecording :: rest }
  | .setVideoRecording =>
      { r with isVideoRecording := true, sessionQueue := .callDidBegin :: rest }
  | .callDidBegin => { r with sessionQueue := rest : Recorder }.onMain .didBeginRecordingVideo

/-- The delegate calls of `CamViewController` -/
def runMainBlock (block : MainBlock) (rest : List MainBlock) : Recorder :=
  match block with
  | .didBeginRecordingVideo => { r with recordingShown := true, mainQueue := rest }
  | .didFinishRecordingVideo => { r with recordingShown := false, mainQueue := rest }
  | .didStartRunning => { r with buttonEnabled := true, mainQueue := rest }
  | .didStopRunning => { r with buttonEnabled := false, mainQueue := rest }
  | _ => { r with mainQueue := rest }

/-- `fileOutput(_:didFinishRecordingTo:from:error:)` -/
def fileOutput (error : Bool) : Recorder :=
  { r with isRecording := false : Recorder }.onMain <|
    if error then .didFailToRecordVideo else .didFinishProcessVideo

/-- `viewDidDisappear` -/
def viewDidDisappear (device : CaptureDevice) : Recorder :=
  { r with
    sessionRunning := false
    running := r.running && !r.isSessionRunning
    isSessionRunning := false : Recorder }.disableFlash device

end Recorder

/-- One step of the camera screen. -/
def recorderStep (r : Recorder) : RecorderEvent → Option Recorder
  | .longPressBegan device => if r.pressed then none else some (r.longPressBegan device)
  | .longPressEnded device => if r.pressed then some (r.longPressEnded device) else none
  | .timerFinished timer device =>
      if timer ∈ r.scheduled then some (r.timerFinished timer device) else none
  | .cameraSwitchTapped device => some (r.switchCamera device)
  | .toggleFlashTapped => some r.toggleFlashAnimation
  | .runSessionBlock ok =>
      match r.sessionQueue with
      | block :: rest => some (r.runSessionBlock block rest ok)
      | [] => none
  | .runMainBlock =>
      match r.mainQueue with
      | block :: rest => some (r.runMainBlock block rest)
      | [] => none
  | .fileOutput error => some (r.fileOutput error)
  | .sessionDidStartRunning =>
      some ({ r with sessionRunning := true : Recorder }.onMain .didStartRunning)
  | .sessionDidStopRunning =>
      some ({ r with sessionRunning := false : Recorder }.onMain .didStopRunning)
  | .viewDidAppear => some (r.onSession .beginSession)
  | .viewDidDisappear device => some (r.viewDidDisappear device)
  | .torchTurnedOff => some { r with torchMode := false }

end Whix
