import Whix.Client.Device

/-!
# Whom a post is attributed to

A `post` call should carry the username under which Next was tapped.  It carries the one that is
stored when the upload completes, and until then the edit screen can be closed, the user can log
out and another can log in, and replies of old login calls can arrive (`post_misattributed`).

`posts_attributed_iff` says which runs are safe, whatever upload completes next: those in which
nobody logs out during an upload, and a late login reply stores the username under which the
uploads in flight were started.
-/

namespace Whix

open Js Runs

variable {P : Platform} {W : Char → Bool} {s₀ : Store}

/-- The app has not trapped, and every `post` call in flight carries the username that was stored
when Next was tapped for it. -/
def Attributed (d : Device) : Prop :=
  d.trapped = false ∧ ∀ post ∈ d.posts, post.tappedAs = some post.username

/-- So far all is attributed, and it stays so whichever upload completes next. -/
def AttributedNext (P : Platform) (W : Char → Bool) (d : Device) : Prop :=
  Attributed d ∧
    ∀ k metadata t, deviceStep P W d (.uploaded k (some metadata)) = some t → Attributed t

/-- A logout finds no upload in flight, and a login reply with an identifier finds the username
field trimming to the username under which each upload in flight was started. -/
def SessionKept (W : Char → Bool) (d : Device) : DeviceEvent → Prop
  | .session .logout => d.uploads = []
  | .session (.deliver j) => ∀ call form userId, d.session.calls[j]? = some call →
      d.session.forms[call.form]? = some form → call.reply = some (.ok (.string userId)) →
      ∀ upload ∈ d.uploads, upload.tappedAs = some (Text.strip W form.usernameField)
  | _ => True

/-! ## What the screens guarantee -/

/-- Behind the login screen somebody is logged in. -/
def Inside (d : Device) : Prop :=
  (∀ form, d.screen ≠ .login form) → d.session.defaults.loggedInUserId ≠ none

/-- Identifier and username are stored together, behind the login screen somebody is logged in,
and Next was tapped under some username. -/
structure LoggedIn (d : Device) : Prop where
  paired : d.session.defaults.Paired
  inside : Inside d
  tapped : ∀ upload ∈ d.uploads, upload.tappedAs ≠ none

/-- Two states with the same stored values, uploads and calls. -/
structure SameWork (d t : Device) : Prop where
  defaults : t.session.defaults = d.session.defaults
  uploads : t.uploads = d.uploads
  posts : t.posts = d.posts
  trapped : t.trapped = d.trapped

section Screens

variable (d : Device)

lemma sameWork_showTabs : SameWork d d.showTabs := by
  unfold Device.showTabs
  split <;> exact ⟨rfl, rfl, rfl, rfl⟩

lemma inside_showTabs : Inside d.showTabs := by
  intro h
  unfold Device.showTabs at h ⊢
  split
  · rename_i hnone
    simp only [hnone] at h
    exact absurd rfl (h _)
  · rename_i hsome
    simp [hsome]

lemma sameWork_showCam : SameWork d d.showCam := by
  unfold Device.showCam
  split
  · exact ⟨(sameWork_showTabs _).defaults, (sameWork_showTabs _).uploads,
      (sameWork_showTabs _).posts, (sameWork_showTabs _).trapped⟩
  · exact ⟨rfl, rfl, rfl, rfl⟩

variable {d}

lemma inside_showCam (h : d.session.defaults.loggedInUserId ≠ none) : Inside d.showCam := by
  unfold Device.showCam
  split
  · exact inside_showTabs _
  · exact fun _ => h

lemma Inside.id_ne_none {screen : Screen} (h : Inside d) (hscreen : d.screen = screen)
    (hlogin : ∀ form, screen ≠ .login form) : d.session.defaults.loggedInUserId ≠ none :=
  h fun form => hscreen ▸ hlogin form

end Screens

/-! ## The invariant, step by step -/

section Step

variable {d t : Device}

lemma LoggedIn.of_sameWork (h : LoggedIn d) (hwork : SameWork d t) (hinside : Inside t) :
    LoggedIn t where
  paired := hwork.defaults ▸ h.paired
  inside := hinside
  tapped := hwork.uploads ▸ h.tapped

/-- Whoever somebody is logged in for, a username is stored. -/
lemma LoggedIn.username_ne_none (h : LoggedIn d) (hid : d.session.defaults.loggedInUserId ≠ none) :
    d.session.defaults.loggedInUsername ≠ none :=
  fun hnone => hid (h.paired.mpr hnone)

lemma sameWork_dismissEdit (d : Device) (i : ℕ) : SameWork d (d.dismissEdit i) := by
  unfold Device.dismissEdit
  split
  · exact sameWork_showCam d
  · exact ⟨rfl, rfl, rfl, rfl⟩

lemma sameWork_dismissLogin (d : Device) (form : ℕ) : SameWork d (d.dismissLogin form) := by
  unfold Device.dismissLogin
  split
  · exact sameWork_showTabs d
  · exact ⟨rfl, rfl, rfl, rfl⟩

lemma inside_dismissLogin (h : Inside d) (form : ℕ) : Inside (d.dismissLogin form) := by
  unfold Device.dismissLogin
  split
  · exact inside_showTabs d
  · exact h

lemma inside_dismissEdit (h : Inside d) (i : ℕ) : Inside (d.dismissEdit i) := by
  unfold Device.dismissEdit
  split
  · rename_i hscreen
    exact inside_showCam (h.id_ne_none hscreen (by simp))
  · exact h

/-- An event of the session touches neither uploads nor calls. -/
lemma sameWork_onSession (d : Device) (e : SessionEvent) (session : Session) :
    SameWork { d with session } (d.onSession e session) := by
  unfold Device.onSession
  split
  · exact ⟨rfl, rfl, rfl, rfl⟩
  · split
    · exact sameWork_dismissLogin _ _
    · exact ⟨rfl, rfl, rfl, rfl⟩
  · exact ⟨rfl, rfl, rfl, rfl⟩

lemma inside_onSession {e : SessionEvent} {session : Session} (h : Inside d)
    (hstep : sessionStep P W d.session e = some session) : Inside (d.onSession e session) := by
  have hkeep : e ≠ .logout → Inside { d with session } := by
    intro he hscreen
    have hid : (d.session.storedAfter W e).loggedInUserId ≠ none :=
      Session.storedAfter_id_ne_none he (h hscreen)
    exact sessionStep_defaults hstep ▸ hid
  unfold Device.onSession
  split
  · intro hscreen
    exact absurd rfl (hscreen _)
  · split
    · exact inside_dismissLogin (hkeep (by simp)) _
    · exact hkeep (by simp)
  · rename_i hlogout _
    exact hkeep hlogout

lemma sameWork_onPostReply (d : Device) (post : PostTask) (reply : Option Reply) :
    SameWork d (d.onPostReply post reply) := by
  unfold Device.onPostReply
  split
  · exact sameWork_dismissEdit d post.edit
  · exact ⟨rfl, rfl, rfl, rfl⟩

lemma loggedIn_step {e : DeviceEvent} (h : LoggedIn d) (hstep : deviceStep P W d e = some t) :
    LoggedIn t := by
  obtain ⟨-, heffect⟩ := device_effect hstep
  cases heffect with
  | @session e session hallowed hsession =>
      have hwork := sameWork_onSession d e session
      refine ⟨?_, inside_onSession h.inside hsession, hwork.uploads ▸ h.tapped⟩
      rw [hwork.defaults, sessionStep_defaults hsession]
      exact Session.storedAfter_paired h.paired e
  | selectNew hscreen =>
      exact h.of_sameWork (sameWork_showCam d)
        (inside_showCam (h.inside.id_ne_none hscreen (by simp)))
  | closeCam hscreen => exact h.of_sameWork (sameWork_showTabs d) (inside_showTabs d)
  | takePhoto hscreen =>
      exact ⟨h.paired, fun _ => h.inside.id_ne_none hscreen (by simp), h.tapped⟩
  | cancelEditing hscreen =>
      exact h.of_sameWork (sameWork_showCam d)
        (inside_showCam (h.inside.id_ne_none hscreen (by simp)))
  | doneEditing hscreen =>
      exact ⟨h.paired, fun _ => h.inside.id_ne_none hscreen (by simp), h.tapped⟩
  | recordVideo hscreen =>
      exact ⟨h.paired, fun _ => h.inside.id_ne_none hscreen (by simp), h.tapped⟩
  | tapNext hscreen hedit henabled =>
      have hid := h.inside.id_ne_none hscreen (by simp)
      refine ⟨h.paired, fun _ => hid, ?_⟩
      simp only [Device.nextBtnClicked, List.forall_mem_append, List.forall_mem_singleton]
      exact ⟨h.tapped, h.username_ne_none hid⟩
  | closeEdit hscreen =>
      exact h.of_sameWork (sameWork_showCam d)
        (inside_showCam (h.inside.id_ne_none hscreen (by simp)))
  | progress hupload hedit => exact ⟨h.paired, h.inside, h.tapped⟩
  | @uploaded k metadata upload hupload =>
      have herased : LoggedIn { d with uploads := d.uploads.eraseIdx k } :=
        ⟨h.paired, h.inside, fun upload' hmem => h.tapped upload' (List.mem_of_mem_eraseIdx hmem)⟩
      refine ⟨?_, ?_, ?_⟩
      · rw [Device.onUploaded_session]
        exact herased.paired
      · rw [Inside, Device.onUploaded_screen, Device.onUploaded_session]
        exact herased.inside
      · rw [Device.onUploaded_uploads]
        exact herased.tapped
  | @postReplied k reply post hpost =>
      have herased : LoggedIn { d with posts := d.posts.eraseIdx k } :=
        ⟨h.paired, h.inside, h.tapped⟩
      refine herased.of_sameWork (sameWork_onPostReply _ post reply) ?_
      unfold Device.onPostReply
      split
      · exact inside_dismissEdit herased.inside _
      · exact herased.inside

end Step

/-! ## Attribution, step by step -/

/-- Every upload in flight was started under the username that is stored. -/
def Owned (d : Device) : Prop :=
  ∀ upload ∈ d.uploads, upload.tappedAs = d.session.defaults.loggedInUsername

section Attribution

variable {d t : Device}

lemma Attributed.of_sameWork (h : Attributed d) (hwork : SameWork d t) : Attributed t :=
  ⟨hwork.trapped ▸ h.1, hwork.posts ▸ h.2⟩

lemma Owned.of_sameWork (h : Owned d) (hwork : SameWork d t) : Owned t := by
  rw [Owned, hwork.uploads, hwork.defaults]
  exact h

/-- The completion of an upload that was started under the stored username. -/
lemma attributed_onUploaded_iff (h : Attributed d) {upload : Upload}
    (htapped : upload.tappedAs ≠ none) (metadata : StorageMetadata) :
    Attributed (d.onUploaded upload (some metadata)) ↔
      upload.tappedAs = d.session.defaults.loggedInUsername := by
  rcases husername : d.session.defaults.loggedInUsername with - | username
  · simp [Device.onUploaded, husername, Attributed, htapped]
  · simp only [Device.onUploaded, husername, Attributed, List.forall_mem_append,
      List.forall_mem_singleton]
    rw [← and_assoc]
    exact and_iff_right h

/-- Given who is logged in, no next completion does harm exactly when every upload was started
under the stored username. -/
lemma attributedNext_iff (hin : LoggedIn d) :
    AttributedNext P W d ↔ Attributed d ∧ Owned d := by
  refine and_congr_right fun h => ?_
  constructor
  · intro hnext upload hmem
    obtain ⟨k, hk⟩ := List.getElem?_of_mem hmem
    have hstep : deviceStep P W d (.uploaded k (some ⟨"", ""⟩)) =
        some ({ d with uploads := d.uploads.eraseIdx k }.onUploaded upload (some ⟨"", ""⟩)) := by
      simp [deviceStep, h.1, hk]
    exact (attributed_onUploaded_iff (d := { d with uploads := d.uploads.eraseIdx k }) h
      (hin.tapped upload hmem) _).mp (hnext k _ _ hstep)
  · intro howned k metadata t hstep
    cases (device_effect hstep).2 with
    | @uploaded _ _ upload hupload =>
        have hmem := List.mem_of_getElem? hupload
        exact (attributed_onUploaded_iff (d := { d with uploads := d.uploads.eraseIdx k }) h
          (hin.tapped upload hmem) metadata).mpr (howned upload hmem)

/-- An event of the session leaves the stored username to the uploads in flight exactly when it
keeps the session for them. -/
lemma sessionKept_iff {e : SessionEvent} {session : Session} (hin : LoggedIn d) (howned : Owned d)
    (hstep : sessionStep P W d.session e = some session) :
    (∀ upload ∈ d.uploads, upload.tappedAs = session.defaults.loggedInUsername) ↔
      SessionKept W d (.session e) := by
  cases session_effect hstep with
  | logout =>
      rw [SessionKept, List.eq_nil_iff_forall_not_mem]
      exact forall₂_congr fun upload hmem => iff_false_intro (hin.tapped upload hmem)
  | @deliver j call form reply hcall hform hreply =>
      refine Session.delivered_iff hcall hform hreply ?_ ?_
      · rintro userId rfl
        rw [Session.onReply_defaults_of_id]
      · intro hnot
        rw [Session.onReply_defaults_of_not_id _ _ _ _ hnot]
        exact howned
  | tapLogin hform =>
      rw [Session.onLoginClicked_defaults]
      exact iff_of_true howned trivial
  | showLogin => exact iff_of_true howned trivial
  | edit hform => exact iff_of_true howned trivial
  | execute hcall hreply => exact iff_of_true howned trivial
  | fail hcall => exact iff_of_true howned trivial
  | serveOther => exact iff_of_true howned trivial

/-- One step keeps all attributed, and safe, exactly when it keeps the session for the uploads in
flight. -/
lemma attributed_step_iff {e : DeviceEvent} (hin : LoggedIn d) (h : Attributed d)
    (howned : Owned d) (hstep : deviceStep P W d e = some t) :
    Attributed t ∧ Owned t ↔ SessionKept W d e := by
  obtain ⟨-, heffect⟩ := device_effect hstep
  have hsame : ∀ {t}, SameWork d t → Attributed t ∧ Owned t :=
    fun hwork => ⟨h.of_sameWork hwork, howned.of_sameWork hwork⟩
  cases heffect with
  | @session e session hallowed hsession =>
      have hwork := sameWork_onSession d e session
      have hattributed : Attributed (d.onSession e session) :=
        ⟨hwork.trapped ▸ h.1, hwork.posts ▸ h.2⟩
      rw [and_iff_right hattributed, Owned, hwork.uploads, hwork.defaults]
      exact sessionKept_iff hin howned hsession
  | selectNew hscreen => exact iff_of_true (hsame (sameWork_showCam d)) trivial
  | closeCam hscreen => exact iff_of_true (hsame (sameWork_showTabs d)) trivial
  | takePhoto hscreen => exact iff_of_true (hsame ⟨rfl, rfl, rfl, rfl⟩) trivial
  | cancelEditing hscreen => exact iff_of_true (hsame (sameWork_showCam d)) trivial
  | doneEditing hscreen => exact iff_of_true (hsame ⟨rfl, rfl, rfl, rfl⟩) trivial
  | recordVideo hscreen => exact iff_of_true (hsame ⟨rfl, rfl, rfl, rfl⟩) trivial
  | tapNext hscreen hedit henabled =>
      refine iff_of_true ⟨h, ?_⟩ trivial
      simp only [Owned, Device.nextBtnClicked, List.forall_mem_append, List.forall_mem_singleton]
      exact ⟨howned, trivial⟩
  | closeEdit hscreen => exact iff_of_true (hsame (sameWork_showCam d)) trivial
  | progress hupload hedit => exact iff_of_true (hsame ⟨rfl, rfl, rfl, rfl⟩) trivial
  | @uploaded k metadata upload hupload =>
      have hmem := List.mem_of_getElem? hupload
      have hrest : ∀ upload' ∈ d.uploads.eraseIdx k,
          upload'.tappedAs = d.session.defaults.loggedInUsername :=
        fun upload' hmem' => howned upload' (List.mem_of_mem_eraseIdx hmem')
      refine iff_of_true ⟨?_, ?_⟩ trivial
      · cases metadata with
        | none => exact h
        | some metadata =>
            exact (attributed_onUploaded_iff (d := { d with uploads := d.uploads.eraseIdx k }) h
              (hin.tapped upload hmem) metadata).mpr (howned upload hmem)
      · rw [Owned, Device.onUploaded_uploads, Device.onUploaded_session]
        exact hrest
  | @postReplied k reply post hpost =>
      have hwork := sameWork_onPostReply { d with posts := d.posts.eraseIdx k } post reply
      refine iff_of_true ⟨⟨hwork.trapped.trans h.1, ?_⟩, ?_⟩ trivial
      · rw [hwork.posts]
        exact fun post' hmem => h.2 post' (List.mem_of_mem_eraseIdx hmem)
      · rw [Owned, hwork.uploads, hwork.defaults]
        exact howned

end Attribution

/-! ## Whole runs -/

lemma loggedIn_launch (s₀ : Store) : LoggedIn (Device.launch s₀) := by
  have hwork := sameWork_showTabs (Device.start s₀)
  exact ⟨hwork.defaults ▸ Iff.rfl, inside_showTabs _, hwork.uploads ▸ List.forall_mem_nil _⟩

lemma attributedNext_launch (s₀ : Store) : AttributedNext P W (Device.launch s₀) := by
  have hwork := sameWork_showTabs (Device.start s₀)
  have h : Attributed (Device.start s₀) := ⟨rfl, List.forall_mem_nil _⟩
  have howned : Owned (Device.start s₀) := List.forall_mem_nil _
  exact (attributedNext_iff (loggedIn_launch s₀)).mpr
    ⟨h.of_sameWork hwork, howned.of_sameWork hwork⟩

/-- **Post attribution, exactly.**  From the start of the app with any store, through any events
on the device in any order that the screens allow: in every state reached the `post` calls carry
the username under which Next was tapped and the app has not trapped, whichever upload completes
next, if and only if no logout finds an upload in flight, and every delivered login identifier
finds the username field trimming to the username under which each was started. -/
theorem posts_attributed_iff (s₀ : Store)
    (r : Execution (deviceStep P W) (Device.launch s₀)) :
    r.Always (AttributedNext P W) ↔
      Along (deviceStep P W) (SessionKept W) (Device.launch s₀) r.events := by
  refine always_iff_along (J := LoggedIn) (loggedIn_launch s₀) (attributedNext_launch s₀)
    (fun _ _ _ hin _ hstep _ => loggedIn_step hin hstep) ?_ r.events
  intro d e t hin hnext hstep
  obtain ⟨h, howned⟩ := (attributedNext_iff hin).mp hnext
  rw [attributedNext_iff (loggedIn_step hin hstep)]
  exact attributed_step_iff hin h howned hstep

/-! ## A slow upload -/

/-- A user logs in on the form at `form`, under a new identifier. -/
def logsIn (form : ℕ) (email username : String) (id : AutoId) : List DeviceEvent :=
  List.map .session
    [.edit form .emailField email, .edit form .usernameField username, .tapLogin form,
      .execute 0 (.commit id), .deliver 0]

/-- Ada records a video, taps Next, closes the edit screen and logs out.  Bob logs in, and only
then Ada's upload completes. -/
def slowUpload : Execution (deviceStep .plain Value.isWhiteSpace) (Device.launch .empty) :=
  .ofEvents _
    (logsIn 0 "ada@whix.io" "ada" idA ++
      [.selectNew, .recordVideo, .tapNext "0123456789", .closeEdit, .session .logout] ++
      logsIn 1 "bob@whix.io" "bob" idB ++
      [.uploaded 0 (some ⟨"whix-app.appspot.com", "0123456789.mp4"⟩)])
    (by decide +kernel)

/-- Ada's video is posted under Bob's name. -/
theorem post_misattributed :
    ¬ ∀ s₀ (r : Execution (deviceStep .plain Value.isWhiteSpace) (Device.launch s₀)),
      Attributed r.final := by
  intro h
  have hpost : slowUpload.final.posts.map (fun post => (post.tappedAs, post.username)) =
      [(some "ada", "bob")] := by decide +kernel
  have hmem : (some "ada", "bob") ∈
      slowUpload.final.posts.map fun post => (post.tappedAs, post.username) := by
    rw [hpost]
    exact List.mem_singleton_self _
  obtain ⟨post, hpost, heq⟩ := List.mem_map.mp hmem
  have hattributed := (h .empty slowUpload).2 post hpost
  rw [(Prod.mk.inj heq).1, (Prod.mk.inj heq).2] at hattributed
  exact absurd hattributed (by decide)

end Whix
