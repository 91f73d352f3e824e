import Whix.Properties.PublishRetry

/-!
# When the camera closes itself

The camera view dismisses itself when it appears with `editFinished` set, and takes that for a
published post.  But tapping Next sets the flag before the upload has started, and closing the
edit screen makes the camera view appear (`camera_closes_early`).

`camera_closes_iff` is exact: the camera closes itself only after the post call has returned an
identifier if and only if no edit screen is closed after Next was tapped on it.
-/

namespace Whix

open Js Runs

variable {P : Platform} {W : Char → Bool}

/-- A device with a record of its edit sessions, which no handler reads. -/
structure Publishing where
  device : Device
  /-- the edit screen that last set `editFinished` -/
  setBy : Option ℕ
  /-- the edit screens whose post call has returned an identifier -/
  returned : List ℕ

namespace Publishing

/-- The app after its start. -/
def launch (s₀ : Store) : Publishing := ⟨Device.launch s₀, none, []⟩

variable (p : Publishing)

/-- Who has set `editFinished`, after an event. -/
def setByAfter (e : DeviceEvent) : Option ℕ :=
  match e, p.device.screen with
  | .tapNext _, .edit i => some i
  | _, _ => p.setBy

/-- Whose post call has returned an identifier, after an event. -/
def returnedAfter (e : DeviceEvent) : List ℕ :=
  match e with
  | .postReplied k (some (.ok (.string _))) =>
      match p.device.posts[k]? with
      | some post => post.edit :: p.returned
      | none => p.returned
  | _ => p.returned

end Publishing

/-- One step of a device, recorded. -/
def publishStep (P : Platform) (W : Char → Bool) (p : Publishing) (e : DeviceEvent) :
    Option Publishing :=
  (deviceStep P W p.device e).map fun device => ⟨device, p.setByAfter e, p.returnedAfter e⟩

/-- The camera view has appeared with `editFinished` set: this and nothing else takes the flag
down. -/
def DismissesCam (before after : Device) : Prop :=
  before.editFinished = true ∧ after.editFinished = false

/-- If the camera dismisses itself in this step, then the post call of the edit session that set
the flag has returned an identifier. -/
def DismissedAfterPost (P : Platform) (W : Char → Bool) (p : Publishing) (e : DeviceEvent) : Prop :=
  ∀ t, publishStep P W p e = some t → DismissesCam p.device t.device →
    ∃ i, p.setBy = some i ∧ i ∈ t.returned

/-- If the event closes an edit screen, then Next has not been tapped on it. -/
def ClosesUntapped (p : Publishing) : DeviceEvent → Prop
  | .closeEdit => ∀ i edit, p.device.screen = .edit i → p.device.edits[i]? = some edit →
      edit.nextBtnEnabled = true
  | _ => True

/-! ## What the record knows -/

/-- What is known about the flag, the screen in front and the record. -/
structure Tracked (p : Publishing) : Prop where
  /-- While the flag is up, the edit screen that has set it is in front. -/
  flag : p.device.editFinished = true → ∃ i, p.device.screen = .edit i ∧ p.setBy = some i
  /-- The post call of the edit screen in front has not returned an identifier, and its button is
  disabled exactly while the flag is up. -/
  front : ∀ i, p.device.screen = .edit i → i ∉ p.returned ∧
    (p.device.edits[i]?).map EditScreen.nextBtnEnabled = some (!p.device.editFinished)
  returned : ∀ i ∈ p.returned, i < p.device.edits.length
  uploads : ∀ upload ∈ p.device.uploads, upload.edit < p.device.edits.length
  posts : ∀ post ∈ p.device.posts, post.edit < p.device.edits.length

lemma tracked_launch (s₀ : Store) : Tracked (.launch s₀) where
  flag := by simp [Publishing.launch, Device.launch, Device.start]
  front i hi := absurd hi (Device.showTabs_screen_ne_edit _ i)
  returned := by simp [Publishing.launch]
  uploads := by simp [Publishing.launch, Device.launch, (sameWork_showTabs _).uploads, Device.start]
  posts := by simp [Publishing.launch, Device.launch, (sameWork_showTabs _).posts, Device.start]

namespace Tracked

variable {p : Publishing} {e : DeviceEvent} {device : Device}

/-- Away from the edit screens the flag is down. -/
lemma flag_down (h : Tracked p) (hscreen : ∀ i, p.device.screen ≠ .edit i) :
    p.device.editFinished = false := by
  rw [← Bool.not_eq_true]
  intro hflag
  obtain ⟨i, hi, -⟩ := h.flag hflag
  exact hscreen i hi

lemma returnedAfter_lt (h : Tracked p) (e : DeviceEvent) :
    ∀ i ∈ p.returnedAfter e, i < p.device.edits.length := by
  unfold Publishing.returnedAfter
  split
  · split
    · rename_i post hpost
      exact List.forall_mem_cons.mpr ⟨h.posts post (List.mem_of_getElem? hpost), h.returned⟩
    · exact h.returned
  · exact h.returned

/-- A step that leads away from the edit screens, or stays away from them. -/
lemma away (h : Tracked p) (hflag : device.editFinished = false)
    (hscreen : ∀ i, device.screen ≠ .edit i) (hedits : device.edits = p.device.edits)
    (huploads : device.uploads = p.device.uploads)
    (hposts : ∀ post ∈ device.posts, post ∈ p.device.posts) :
    Tracked ⟨device, p.setByAfter e, p.returnedAfter e⟩ where
  flag hup := by
    rw [hflag] at hup
    simp at hup
  front i hi := absurd hi (hscreen i)
  returned := hedits ▸ h.returnedAfter_lt e
  uploads := by
    rw [hedits, huploads]
    exact h.uploads
  posts post hpost := hedits ▸ h.posts post (hposts post hpost)

/-- A step that leaves the screen in front, the flag and the buttons as they are. -/
lemma stay (h : Tracked p) (hscreen : device.screen = p.device.screen)
    (hflag : device.editFinished = p.device.editFinished)
    (hbuttons : device.edits.map EditScreen.nextBtnEnabled =
      p.device.edits.map EditScreen.nextBtnEnabled)
    (huploads : ∀ upload ∈ device.uploads, upload ∈ p.device.uploads)
    (hposts : ∀ post ∈ device.posts, post.edit < p.device.edits.length)
    (hset : p.setByAfter e = p.setBy)
    (hreturned : ∀ i, p.device.screen = .edit i → i ∉ p.returnedAfter e) :
    Tracked ⟨device, p.setByAfter e, p.returnedAfter e⟩ := by
  have hlength : device.edits.length = p.device.edits.length := by
    simpa using congrArg List.length hbuttons
  refine ⟨?_, ?_, ?_, ?_, ?_⟩
  · rw [hflag, hscreen, hset]
    exact h.flag
  · intro i hi
    rw [hscreen] at hi
    refine ⟨hreturned i hi, ?_⟩
    rw [← List.getElem?_map, hbuttons, List.getElem?_map, hflag]
    exact (h.front i hi).2
  · exact hlength ▸ h.returnedAfter_lt e
  · exact fun upload hmem => hlength ▸ h.uploads upload (huploads upload hmem)
  · exact hlength ▸ hposts

end Tracked

/-- A session event does not touch an edit screen in front. -/
lemma Device.onSession_screen {d : Device} {e : SessionEvent} (session : Session)
    (hallowed : d.allows e = true) :
    (d.onSession e session).screen = d.screen ∨
      (∀ i, d.screen ≠ .edit i) ∧ ∀ i, (d.onSession e session).screen ≠ .edit i := by
  unfold Device.onSession Device.dismissLogin
  split
  · have hscreen : d.screen = .tabs := by simpa [Device.allows] using hallowed
    exact Or.inr ⟨by simp [hscreen], by simp⟩
  · split
    · split
      · rename_i hscreen
        exact Or.inr ⟨by simp [show d.screen = _ from hscreen], Device.showTabs_screen_ne_edit _⟩
      · exact Or.inl rfl
    · exact Or.inl rfl
  · exact Or.inl rfl

lemma publishStep_eq_some {p t : Publishing} {e : DeviceEvent} :
    publishStep P W p e = some t ↔ ∃ device, deviceStep P W p.device e = some device ∧
      t = ⟨device, p.setByAfter e, p.returnedAfter e⟩ := by
  rw [publishStep, Option.map_eq_some_iff]
  exact exists_congr fun _ => and_congr_right fun _ => eq_comm

/-- The camera view appears. -/
lemma Tracked.showCam {p : Publishing} (h : Tracked p) (e : DeviceEvent) :
    Tracked ⟨p.device.showCam, p.setByAfter e, p.returnedAfter e⟩ := by
  have hwork := sameWork_showCam p.device
  exact h.away (by simp) (Device.showCam_screen_ne_edit _) (by simp) hwork.uploads
    (hwork.posts ▸ fun _ => id)

/-- A new edit screen comes up in front, with its button enabled. -/
lemma Tracked.showEdit {p : Publishing} (h : Tracked p) {e : DeviceEvent} (media : Media)
    (hscreen : ∀ i, p.device.screen ≠ .edit i) :
    Tracked ⟨p.device.showEdit media, p.setByAfter e, p.returnedAfter e⟩ := by
  have hflag := h.flag_down hscreen
  have hgrown : p.device.edits.length ≤ (p.device.showEdit media).edits.length := by
    simp [Device.showEdit]
  refine ⟨?_, ?_, ?_, ?_, ?_⟩
  · intro hup
    rw [Device.showEdit, hflag] at hup
    simp at hup
  · intro i hi
    obtain rfl : p.device.edits.length = i := Screen.edit.inj hi
    refine ⟨fun hmem => absurd (h.returnedAfter_lt e _ hmem) (lt_irrefl _), ?_⟩
    simp [Device.showEdit, hflag]
  · exact fun i hi => (h.returnedAfter_lt e i hi).trans_le hgrown
  · exact fun upload hmem => (h.uploads upload hmem).trans_le hgrown
  · exact fun post hmem => (h.posts post hmem).trans_le hgrown

/-- Next is tapped: the flag goes up, and the button of the edit screen in front goes off. -/
lemma Tracked.tapNext {p : Publishing} (h : Tracked p) {i : ℕ} {edit : EditScreen}
    (hscreen : p.device.screen = .edit i) (hedit : p.device.edits[i]? = some edit)
    (name : String) :
    Tracked ⟨p.device.nextBtnClicked i edit name, p.setByAfter (.tapNext name),
      p.returnedAfter (.tapNext name)⟩ := by
  have hlt := (List.getElem?_eq_some_iff.mp hedit).1
  have hlength : (p.device.nextBtnClicked i edit name).edits.length = p.device.edits.length := by
    simp [Device.nextBtnClicked]
  refine ⟨?_, ?_, ?_, ?_, ?_⟩
  · intro _
    exact ⟨i, hscreen, by simp [Publishing.setByAfter, hscreen]⟩
  · intro j hj
    obtain rfl : i = j := Screen.edit.inj (hscreen.symm.trans hj)
    refine ⟨(h.front i hscreen).1, ?_⟩
    simp [Device.nextBtnClicked, List.getElem?_set_self hlt]
  · exact hlength ▸ h.returned
  · rw [hlength]
    simp only [Device.nextBtnClicked, List.forall_mem_append, List.forall_mem_singleton]
    exact ⟨h.uploads, hlt⟩
  · exact hlength ▸ h.posts

/-- The reply of a post call arrives. -/
lemma Tracked.postReplied {p : Publishing} (h : Tracked p) {k : ℕ} {post : PostTask}
    (hpost : p.device.posts[k]? = some post) (reply : Option Reply) :
    Tracked ⟨{ p.device with posts := p.device.posts.eraseIdx k }.onPostReply post reply,
      p.setByAfter (.postReplied k reply), p.returnedAfter (.postReplied k reply)⟩ := by
  have herased : ∀ post ∈ p.device.posts.eraseIdx k, post ∈ p.device.posts :=
    fun _ => List.mem_of_mem_eraseIdx
  by_cases hid : ∃ postId, reply = some (.ok (.string postId))
  · obtain ⟨postId, rfl⟩ := hid
    have hreturned : p.returnedAfter (.postReplied k (some (.ok (.string postId)))) =
        post.edit :: p.returned := by
      simp [Publishing.returnedAfter, hpost]
    rw [Device.onPostReply, Device.dismissEdit]
    split
    · have hwork := sameWork_showCam { p.device with posts := p.device.posts.eraseIdx k }
      exact h.away (by simp) (Device.showCam_screen_ne_edit _) (by simp) hwork.uploads
        (hwork.posts ▸ herased)
    · rename_i hscreen
      refine h.stay rfl rfl rfl (fun _ => id) (fun post hmem => h.posts post (herased post hmem))
        rfl fun i hi => ?_
      rw [hreturned, List.mem_cons, not_or]
      exact ⟨fun heq => hscreen (heq ▸ hi), (h.front i hi).1⟩
  · have hid' := not_exists.mp hid
    have hreturned : p.returnedAfter (.postReplied k reply) = p.returned := by
      unfold Publishing.returnedAfter
      split
      · rename_i heq
        obtain ⟨-, rfl⟩ := DeviceEvent.postReplied.inj heq
        exact absurd rfl (hid' _)
      · rfl
    rw [Device.onPostReply_of_not_id _ _ hid']
    refine h.stay rfl rfl rfl (fun _ => id) (fun post hmem => h.posts post (herased post hmem))
      rfl fun i hi => ?_
    rw [hreturned]
    exact (h.front i hi).1

lemma tracked_step {p t : Publishing} {e : DeviceEvent} (h : Tracked p)
    (hstep : publishStep P W p e = some t) : Tracked t := by
  obtain ⟨device, hdevice, rfl⟩ := publishStep_eq_some.mp hstep
  obtain ⟨-, heffect⟩ := device_effect hdevice
  cases heffect with
  | @session e session hallowed hsession =>
      have hwork := sameWork_onSession p.device e session
      rcases Device.onSession_screen session hallowed with hsame | ⟨hbefore, hafter⟩
      · exact h.stay hsame (by simp) (by simp) (hwork.uploads ▸ fun _ => id)
          (hwork.posts ▸ h.posts) rfl fun i hi => (h.front i hi).1
      · exact h.away (by simpa using h.flag_down hbefore) hafter (by simp) hwork.uploads
          (hwork.posts ▸ fun _ => id)
  | selectNew => exact h.showCam _
  | closeCam hscreen =>
      have hwork := sameWork_showTabs p.device
      exact h.away (by simpa using h.flag_down (by simp [hscreen]))
        (Device.showTabs_screen_ne_edit _) (by simp) hwork.uploads (hwork.posts ▸ fun _ => id)
  | takePhoto hscreen =>
      exact h.away (h.flag_down (by simp [hscreen])) (by simp) rfl rfl fun _ => id
  | cancelEditing => exact h.showCam _
  | doneEditing hscreen => exact h.showEdit _ (by simp [hscreen])
  | recordVideo hscreen => exact h.showEdit _ (by simp [hscreen])
  | tapNext hscreen hedit henabled => exact h.tapNext hscreen hedit _
  | closeEdit => exact h.showCam _
  | @progress k fraction upload edit hupload hedit =>
      refine h.stay rfl rfl ?_ (fun _ => id) h.posts rfl fun i hi => (h.front i hi).1
      have hlt := (List.getElem?_eq_some_iff.mp hedit).1
      rw [List.map_set]
      refine List.ext_getElem? fun j => ?_
      rw [List.getElem?_set, List.getElem?_map]
      split
      · rename_i hj
        rw [if_pos (by simpa using hlt), ← hj, hedit]
        rfl
      · rfl
  | @uploaded k metadata upload hupload =>
      have hlt := h.uploads upload (List.mem_of_getElem? hupload)
      refine h.stay (by simp) (by simp) (by simp) ?_ ?_ rfl fun i hi => (h.front i hi).1
      · rw [Device.onUploaded_uploads]
        exact fun _ => List.mem_of_mem_eraseIdx
      · intro post hmem
        rcases Device.mem_posts_onUploaded _ hmem with hmem | hedit
        · exact h.posts post hmem
        · exact hedit ▸ hlt
  | @postReplied k reply post hpost => exact h.postReplied hpost reply

/-! ## The exact condition -/

lemma dismissedAfterPost_of_step {p t : Publishing} {e : DeviceEvent}
    (hstep : publishStep P W p e = some t) :
    DismissedAfterPost P W p e ↔
      (DismissesCam p.device t.device → ∃ i, p.setBy = some i ∧ i ∈ t.returned) := by
  constructor
  · intro h
    exact h t hstep
  · intro h t' hstep'
    obtain rfl : t = t' := Option.some.inj (hstep.symm.trans hstep')
    exact h

lemma not_dismissesCam_of_eq {before after : Device}
    (h : after.editFinished = before.editFinished) : ¬DismissesCam before after := by
  rintro ⟨hup, hdown⟩
  rw [h, hup] at hdown
  simp at hdown

lemma Tracked.not_dismissesCam {p : Publishing} (h : Tracked p) (after : Device)
    (hscreen : ∀ i, p.device.screen ≠ .edit i) : ¬DismissesCam p.device after := by
  rintro ⟨hup, -⟩
  rw [h.flag_down hscreen] at hup
  simp at hup

/-- The flag is up exactly while the edit screen in front has its button disabled. -/
lemma Tracked.closesUntapped_iff {p : Publishing} (h : Tracked p) {i : ℕ}
    (hscreen : p.device.screen = .edit i) :
    ClosesUntapped p .closeEdit ↔ p.device.editFinished = false := by
  obtain ⟨-, hbutton⟩ := h.front i hscreen
  obtain ⟨edit, hedit, henabled⟩ := Option.map_eq_some_iff.mp hbutton
  have hflag : edit.nextBtnEnabled = true ↔ p.device.editFinished = false := by
    rw [henabled, Bool.not_eq_true']
  rw [← hflag]
  constructor
  · intro hall
    exact hall i edit hscreen hedit
  · intro hup j edit' hj hedit'
    obtain rfl : i = j := Screen.edit.inj (hscreen.symm.trans hj)
    obtain rfl : edit = edit' := Option.some.inj (hedit.symm.trans hedit')
    exact hup

/-- An edit screen is closed: if the flag is up, the camera dismisses itself, and the post call
that would justify it has not returned. -/
lemma Tracked.dismisses_closeEdit {p : Publishing} (h : Tracked p) :
    (DismissesCam p.device p.device.showCam → ∃ j, p.setBy = some j ∧ j ∈ p.returned) ↔
      p.device.editFinished = false := by
  constructor
  · intro hjust
    by_contra hflag
    have hup : p.device.editFinished = true := by simpa using hflag
    obtain ⟨j, hset, hmem⟩ := hjust ⟨hup, by simp⟩
    obtain ⟨i', hfront, hset'⟩ := h.flag hup
    obtain rfl : j = i' := Option.some.inj (hset.symm.trans hset')
    exact (h.front j hfront).1 hmem
  · intro hdown hdismiss
    rw [hdismiss.1] at hdown
    simp at hdown

/-- A reply dismisses the camera only over the edit screen it belongs to. -/
lemma Tracked.dismisses_postReplied {p : Publishing} (h : Tracked p) {k : ℕ} {post : PostTask}
    {reply : Option Reply} (hpost : p.device.posts[k]? = some post)
    (hdismiss : DismissesCam p.device
      ({ p.device with posts := p.device.posts.eraseIdx k }.onPostReply post reply)) :
    ∃ i, p.setBy = some i ∧ i ∈ p.returnedAfter (.postReplied k reply) := by
  obtain ⟨i, hscreen, hset⟩ := h.flag hdismiss.1
  refine ⟨i, hset, ?_⟩
  by_cases hid : ∃ postId, reply = some (.ok (.string postId))
  · obtain ⟨postId, rfl⟩ := hid
    by_cases hown : i = post.edit
    · simp [Publishing.returnedAfter, hpost, hown]
    · have hother : p.device.screen ≠ .edit post.edit :=
        fun heq => hown (Screen.edit.inj (hscreen.symm.trans heq))
      refine absurd hdismiss (not_dismissesCam_of_eq ?_)
      rw [Device.onPostReply, Device.dismissEdit, if_neg hother]
  · refine absurd hdismiss (not_dismissesCam_of_eq ?_)
    rw [Device.onPostReply_of_not_id _ _ (not_exists.mp hid)]

/-- Only a closed edit screen can dismiss the camera too early. -/
lemma dismissedAfterPost_iff {p t : Publishing} {e : DeviceEvent} (h : Tracked p)
    (hstep : publishStep P W p e = some t) :
    DismissedAfterPost P W p e ↔ ClosesUntapped p e := by
  rw [dismissedAfterPost_of_step hstep]
  obtain ⟨device, hdevice, rfl⟩ := publishStep_eq_some.mp hstep
  obtain ⟨-, heffect⟩ := device_effect hdevice
  cases heffect with
  | session | progress | uploaded =>
      exact iff_of_true (fun hdismiss => absurd hdismiss (not_dismissesCam_of_eq (by simp)))
        trivial
  | selectNew hscreen | closeCam hscreen | takePhoto hscreen | cancelEditing hscreen
  | doneEditing hscreen | recordVideo hscreen =>
      refine iff_of_true (fun hdismiss => absurd hdismiss ?_) trivial
      exact h.not_dismissesCam _ (by simp [hscreen])
  | tapNext =>
      exact iff_of_true (fun hdismiss => absurd hdismiss.2 (by simp [Device.nextBtnClicked]))
        trivial
  | closeEdit hscreen =>
      exact h.dismisses_closeEdit.trans (h.closesUntapped_iff hscreen).symm
  | postReplied hpost => exact iff_of_true (h.dismisses_postReplied hpost) trivial

/-- **The camera and the edit screens, exactly.**  In a run from the start of the app, whenever
the camera dismisses itself the post call of the edit session that set `editFinished` has
returned an identifier, if and only if no edit screen is closed after Next was tapped on it. -/
theorem camera_closes_iff (P : Platform) (W : Char → Bool) (s₀ : Store)
    (events : List DeviceEvent) :
    Along (publishStep P W) (DismissedAfterPost P W) (.launch s₀) events ↔
      Along (publishStep P W) ClosesUntapped (.launch s₀) events :=
  along_congr (tracked_launch s₀) (fun _ _ _ => tracked_step)
    (fun _ _ _ => dismissedAfterPost_iff) events

/-! ## An impatient user -/

/-- Ada records a video, taps Next and closes the edit screen. -/
def impatient : List DeviceEvent :=
  logsIn 0 "ada@whix.io" "ada" idA ++ [.selectNew, .recordVideo, .tapNext "0123456789"]

/-- The camera dismisses itself, and nothing has been posted. -/
theorem camera_closes_early :
    ¬ ∀ s₀ events, Along (publishStep .plain Value.isWhiteSpace)
      (DismissedAfterPost .plain Value.isWhiteSpace) (.launch s₀) events := by
  intro h
  obtain ⟨p, hp⟩ : ∃ p, run (publishStep .plain Value.isWhiteSpace) (.launch .empty) impatient =
      some p := Option.isSome_iff_exists.mp (by decide +kernel)
  have htapped : p.device.editFinished = true := by
    have hflag : (run (publishStep .plain Value.isWhiteSpace) (.launch .empty) impatient).map
        (fun p => p.device.editFinished) = some true := by decide +kernel
    simpa [hp] using hflag
  have hclosed : (run (publishStep .plain Value.isWhiteSpace) (.launch .empty)
      (impatient ++ [.closeEdit])).map (fun p => (p.device.editFinished, p.returned)) =
        some (false, []) := by decide +kernel
  obtain ⟨t, ht, hflag⟩ := Option.map_eq_some_iff.mp hclosed
  obtain ⟨p', hp', hstep⟩ := run_snoc_eq_some.mp ht
  obtain rfl : p = p' := Option.some.inj (hp.symm.trans hp')
  obtain ⟨hdown, hnone⟩ := Prod.mk.inj hflag
  obtain ⟨i, -, hmem⟩ :=
    h .empty (impatient ++ [.closeEdit]) impatient .closeEdit (List.prefix_refl _) p t hp hstep t
      hstep ⟨htapped, hdown⟩
  rw [hnone] at hmem
  exact absurd hmem List.not_mem_nil

end Whix
