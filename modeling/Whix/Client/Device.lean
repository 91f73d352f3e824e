import Whix.Client.Session

/-!
# One device: screens, captures and uploads

The screens of the app over a client's `Session`.  The tabs are at the bottom; the login screen,
or the camera and above it the photo editor or an edit screen, are presented over them.  A screen
that has been dismissed stays alive in the completions it has started.

Tapping Next on an edit screen starts an upload; when it completes, the `post` call is made with
the username that is stored at that moment.  `tappedAs` keeps the username that was stored when
Next was tapped, which no handler reads.
-/

namespace Whix

open Js Runs

/-- The screen in front. -/
inductive Screen where
  /-- `MainTabController` -/
  | tabs
  /-- the `LoginViewController` of a form -/
  | login (form : ℕ)
  /-- `CamViewController` -/
  | cam
  /-- `PhotoEditorViewController` -/
  | photoEditor
  /-- a `PhotoEditController` -/
  | edit (i : ℕ)
  deriving DecidableEq

/-- What was captured: `image` is set for a photo, `videoUrl` for a video. -/
inductive Media where
  | photo
  | video
  deriving DecidableEq

/-- A `PhotoEditController`. -/
structure EditScreen where
  media : Media
  nextBtnEnabled : Bool
  progressAlpha : ℚ
  progress : ℚ

/-- The metadata of a finished upload. -/
structure StorageMetadata where
  bucket : String
  path : String

/-- An upload in flight, with the edit screen that started it. -/
structure Upload where
  edit : ℕ
  child : String
  tappedAs : Option String

/-- A call of `post` in flight, with the edit screen that made it. -/
structure PostTask where
  edit : ℕ
  contenturl : String
  username : String
  lat : ℚ
  lon : ℚ
  tappedAs : Option String

/-- A device, and the backend's store in its session. -/
structure Device where
  session : Session
  screen : Screen
  editFinished : Bool
  edits : List EditScreen
  uploads : List Upload
  posts : List PostTask
  /-- the app has trapped -/
  trapped : Bool

/-- What can happen on a device. -/
inductive DeviceEvent where
  /-- An event of the session, as far as the screen in front allows it. -/
  | session (e : SessionEvent)
  /-- The tab `NEW` is tapped. -/
  | selectNew
  | closeCam
  | takePhoto
  | cancelEditing
  | doneEditing
  | recordVideo
  /-- Next is tapped; the upload gets this random name. -/
  | tapNext (name : String)
  | closeEdit
  /-- An upload reports its progress. -/
  | progress (k : ℕ) (fractionCompleted : ℚ)
  /-- An upload completes, with metadata or without. -/
  | uploaded (k : ℕ) (metadata : Option StorageMetadata)
  /-- The reply of a `post` call arrives, or an error instead. -/
  | postReplied (k : ℕ) (reply : Option Reply)

namespace Device

variable (d : Device)

/-- `MainTabController.viewDidAppear`: without a stored identifier the login screen is shown. -/
def showTabs : Device :=
  match d.session.defaults.loggedInUserId with
  | none =>
      { d with session := d.session.showLogin, screen := .login d.session.forms.length }
  | some _ => { d with screen := .tabs }

/-- `CamViewController.viewDidAppear`: with `editFinished` set, the camera dismisses itself. -/
def showCam : Device :=
  if d.editFinished then { d with editFinished := false }.showTabs
  else { d with screen := .cam }

/-- The app before its first screen appears, with nobody logged in. -/
def start (s₀ : Store) : Device where
  session := .start s₀
  screen := .tabs
  editFinished := false
  edits := []
  uploads := []
  posts := []
  trapped := false

/-- The app after its start. -/
def launch (s₀ : Store) : Device := (start s₀).showTabs

/-- Which events of the session the screen in front allows. -/
def allows : SessionEvent → Bool
  | .edit i .. | .tapLogin i => d.screen = .login i
  | .logout => d.screen = .tabs
  | .showLogin => false
  | .execute .. | .deliver _ | .fail _ | .serveOther .. => true

/-- `self.dismiss` of the login screen of a form: nothing if that screen is gone. -/
def dismissLogin (form : ℕ) : Device :=
  if d.screen = .login form then d.showTabs else d

/-- `self.dismiss` of an edit screen: nothing if that screen is gone. -/
def dismissEdit (i : ℕ) : Device :=
  if d.screen = .edit i then d.showCam else d

/-- What an event of the session does to the screens: a logout shows a new login screen, a reply
with an identifier dismisses the one it belongs to. -/
def onSession (e : SessionEvent) (session : Session) : Device :=
  match e with
  | .logout => { d with session, screen := .login d.session.forms.length }
  | .deliver j =>
      match d.session.calls[j]? with
      | some ⟨form, _, _, some (.ok (.string _))⟩ => { d with session }.dismissLogin form
      | _ => { d with session }
  | _ => { d with session }

/-- The segue `showEditScreen`: the progress bar is at one half in the storyboard, and hidden by
`viewDidLoad`. -/
def showEdit (media : Media) : Device :=
  { d with
    screen := .edit d.edits.length
    edits := d.edits ++ [⟨media, true, 0, 1 / 2⟩] }

/-- `nextBtnClicked` on the edit screen at `i`. -/
def nextBtnClicked (i : ℕ) (edit : EditScreen) (name : String) : Device :=
  let suffix := match edit.media with
    | .photo => ".jpg"
    | .video => ".mp4"
  { d with
    editFinished := true
    edits := d.edits.set i
      { edit with nextBtnEnabled := false, progressAlpha := 4 / 5, progress := 0 }
    uploads := d.uploads ++ [⟨i, name ++ suffix, d.session.defaults.loggedInUsername⟩] }

/-- The completion of an upload: without metadata nothing happens, else `post` is called. -/
def onUploaded (upload : Upload) (metadata : Option StorageMetadata) : Device :=
  match metadata with
  | none => d
  | some metadata =>
      match d.session.defaults.loggedInUsername with
      | none => { d with trapped := true }
      | some username =>
          { d with posts := d.posts ++
              [{ edit := upload.edit
                 contenturl := "gs://" ++ metadata.bucket ++ "/" ++ metadata.path
                 username
                 lat := 0
                 lon := 0
                 tappedAs := upload.tappedAs }] }

@[simp] lemma onUploaded_uploads (upload : Upload) (metadata : Option StorageMetadata) :
    (d.onUploaded upload metadata).uploads = d.uploads := by
  unfold onUploaded
  split
  · rfl
  · split <;> rfl

@[simp] lemma onUploaded_session (upload : Upload) (metadata : Option StorageMetadata) :
    (d.onUploaded upload metadata).session = d.session := by
  unfold onUploaded
  split
  · rfl
  · split <;> rfl

@[simp] lemma onUploaded_screen (upload : Upload) (metadata : Option StorageMetadata) :
    (d.onUploaded upload metadata).screen = d.screen := by
  unfold onUploaded
  split
  · rfl
  · split <;> rfl

/-- The completion of a `post` call: an identifier dismisses the edit screen. -/
def onPostReply (post : PostTask) (reply : Option Reply) : Device :=
  match reply with
  | some (.ok (.string _)) => d.dismissEdit post.edit
  | _ => d

/-! ### What the screen changes leave alone -/

@[simp] lemma showTabs_edits : d.showTabs.edits = d.edits := by
  unfold showTabs
  split <;> rfl

@[simp] lemma showTabs_editFinished : d.showTabs.editFinished = d.editFinished := by
  unfold showTabs
  split <;> rfl

lemma showTabs_screen_ne_edit (i : ℕ) : d.showTabs.screen ≠ .edit i := by
  unfold showTabs
  split <;> simp

@[simp] lemma showCam_edits : d.showCam.edits = d.edits := by
  unfold showCam
  split <;> simp

/-- The flag is down once the camera view has appeared. -/
@[simp] lemma showCam_editFinished : d.showCam.editFinished = false := by
  unfold showCam
  split <;> simp_all

lemma showCam_screen_ne_edit (i : ℕ) : d.showCam.screen ≠ .edit i := by
  unfold showCam
  split
  · exact showTabs_screen_ne_edit _ i
  · simp

@[simp] lemma dismissEdit_edits (i : ℕ) : (d.dismissEdit i).edits = d.edits := by
  unfold dismissEdit
  split <;> simp

@[simp] lemma onPostReply_edits (post : PostTask) (reply : Option Reply) :
    (d.onPostReply post reply).edits = d.edits := by
  unfold onPostReply
  split <;> simp

/-- Only an identifier does anything. -/
lemma onPostReply_of_not_id (post : PostTask) {reply : Option Reply}
    (h : ∀ id, reply ≠ some (.ok (.string id))) : d.onPostReply post reply = d := by
  unfold onPostReply
  split
  · exact absurd rfl (h _)
  · rfl

@[simp] lemma onUploaded_edits (upload : Upload) (metadata : Option StorageMetadata) :
    (d.onUploaded upload metadata).edits = d.edits := by
  unfold onUploaded
  split
  · rfl
  · split <;> rfl

@[simp] lemma onUploaded_editFinished (upload : Upload) (metadata : Option StorageMetadata) :
    (d.onUploaded upload metadata).editFinished = d.editFinished := by
  unfold onUploaded
  split
  · rfl
  · split <;> rfl

/-- A completed upload makes at most one call, from the edit screen it belongs to. -/
lemma mem_posts_onUploaded {upload : Upload} {metadata : Option StorageMetadata} {post : PostTask}
    (h : post ∈ (d.onUploaded upload metadata).posts) :
    post ∈ d.posts ∨ post.edit = upload.edit := by
  unfold onUploaded at h
  split at h
  · exact Or.inl h
  · split at h
    · exact Or.inl h
    · rcases List.mem_append.mp h with h | h
      · exact Or.inl h
      · exact Or.inr (List.mem_singleton.mp h ▸ rfl)

variable (e : SessionEvent) (session : Session)

@[simp] lemma onSession_edits : (d.onSession e session).edits = d.edits := by
  unfold onSession dismissLogin
  repeat' split
  all_goals simp

@[simp] lemma onSession_editFinished :
    (d.onSession e session).editFinished = d.editFinished := by
  unfold onSession dismissLogin
  repeat' split
  all_goals simp

end Device

/-- One step of a device, as long as the app has not trapped. -/
def deviceStep (P : Platform) (W : Char → Bool) (d : Device) (e : DeviceEvent) : Option Device :=
  if d.trapped then none else
    match e, d.screen with
    | .session e, _ =>
        if d.allows e then (sessionStep P W d.session e).map (d.onSession e) else none
    | .selectNew, .tabs => some d.showCam
    | .closeCam, .cam => some d.showTabs
    | .takePhoto, .cam => some { d with screen := .photoEditor }
    | .cancelEditing, .photoEditor => some d.showCam
    | .doneEditing, .photoEditor => some (d.showEdit .photo)
    | .recordVideo, .cam => some (d.showEdit .video)
    | .tapNext name, .edit i => do
        let edit ← d.edits[i]?
        if edit.nextBtnEnabled then return d.nextBtnClicked i edit name else none
    | .closeEdit, .edit _ => some d.showCam
    | .progress k fractionCompleted, _ => do
        let upload ← d.uploads[k]?
        let edit ← d.edits[upload.edit]?
        return { d with
          edits := d.edits.set upload.edit { edit with progress := fractionCompleted } }
    | .uploaded k metadata, _ => do
        let upload ← d.uploads[k]?
        return { d with uploads := d.uploads.eraseIdx k }.onUploaded upload metadata
    | .postReplied k reply, _ => do
        let post ← d.posts[k]?
        return { d with posts := d.posts.eraseIdx k }.onPostReply post reply
    | _, _ => none

/-- What one step does, by its event. -/
inductive DeviceEffect (P : Platform) (W : Char → Bool) (d : Device) : DeviceEvent → Device → Prop
  | session {e session} (hallowed : d.allows e = true)
      (hstep : sessionStep P W d.session e = some session) :
      DeviceEffect P W d (.session e) (d.onSession e session)
  | selectNew (hscreen : d.screen = .tabs) : DeviceEffect P W d .selectNew d.showCam
  | closeCam (hscreen : d.screen = .cam) : DeviceEffect P W d .closeCam d.showTabs
  | takePhoto (hscreen : d.screen = .cam) :
      DeviceEffect P W d .takePhoto { d with screen := .photoEditor }
  | cancelEditing (hscreen : d.screen = .photoEditor) :
      DeviceEffect P W d .cancelEditing d.showCam
  | doneEditing (hscreen : d.screen = .photoEditor) :
      DeviceEffect P W d .doneEditing (d.showEdit .photo)
  | recordVideo (hscreen : d.screen = .cam) : DeviceEffect P W d .recordVideo (d.showEdit .video)
  | tapNext {i edit name} (hscreen : d.screen = .edit i) (hedit : d.edits[i]? = some edit)
      (henabled : edit.nextBtnEnabled = true) :
      DeviceEffect P W d (.tapNext name) (d.nextBtnClicked i edit name)
  | closeEdit {i} (hscreen : d.screen = .edit i) : DeviceEffect P W d .closeEdit d.showCam
  | progress {k fraction upload edit} (hupload : d.uploads[k]? = some upload)
      (hedit : d.edits[upload.edit]? = some edit) :
      DeviceEffect P W d (.progress k fraction)
        { d with edits := d.edits.set upload.edit { edit with progress := fraction } }
  | uploaded {k metadata upload} (hupload : d.uploads[k]? = some upload) :
      DeviceEffect P W d (.uploaded k metadata)
        ({ d with uploads := d.uploads.eraseIdx k }.onUploaded upload metadata)
  | postReplied {k reply post} (hpost : d.posts[k]? = some post) :
      DeviceEffect P W d (.postReplied k reply)
        ({ d with posts := d.posts.eraseIdx k }.onPostReply post reply)

lemma device_effect {P : Platform} {W : Char → Bool} {d t : Device} {e : DeviceEvent}
    (h : deviceStep P W d e = some t) : d.trapped = false ∧ DeviceEffect P W d e t := by
  unfold deviceStep at h
  split at h
  · simp at h
  rename_i htrapped
  refine ⟨Bool.not_eq_true _ ▸ htrapped, ?_⟩
  split at h
  · simp only [Option.ite_none_right_eq_some, Option.map_eq_some_iff] at h
    obtain ⟨hallowed, session, hstep, rfl⟩ := h
    exact .session hallowed hstep
  · exact Option.some.inj h ▸ .selectNew ‹_›
  · exact Option.some.inj h ▸ .closeCam ‹_›
  · exact Option.some.inj h ▸ .takePhoto ‹_›
  · exact Option.some.inj h ▸ .cancelEditing ‹_›
  · exact Option.some.inj h ▸ .doneEditing ‹_›
  · exact Option.some.inj h ▸ .recordVideo ‹_›
  · obtain ⟨edit, hedit, h⟩ := Option.bind_eq_some_iff.mp h
    simp only [Option.ite_none_right_eq_some] at h
    exact Option.some.inj h.2 ▸ .tapNext ‹_› hedit h.1
  · exact Option.some.inj h ▸ .closeEdit ‹_›
  · obtain ⟨upload, hupload, h⟩ := Option.bind_eq_some_iff.mp h
    obtain ⟨edit, hedit, h⟩ := Option.bind_eq_some_iff.mp h
    exact Option.some.inj h ▸ .progress hupload hedit
  · obtain ⟨upload, hupload, h⟩ := Option.bind_eq_some_iff.mp h
    exact Option.some.inj h ▸ .uploaded hupload
  · obtain ⟨post, hpost, h⟩ := Option.bind_eq_some_iff.mp h
    exact Option.some.inj h ▸ .postReplied hpost
  · simp at h

end Whix
