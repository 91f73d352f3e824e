import Whix.Properties.PublishRetry

/-!
# Uploads and what becomes of them

An edit screen starts one upload at most, because its button stays disabled, and an upload that
completes makes one call at most, with the URL of its metadata (`Journaled`).  `uploadJournal` is a
history variable: it keeps the uploads that have completed, with their metadata.
-/

namespace Whix

open Js Runs

variable {P : Platform} {W : Char → Bool}

/-- An upload that has completed, with its metadata. -/
structure Completed where
  upload : Upload
  metadata : StorageMetadata

/-- The URL that an edit screen makes of the metadata of its upload. -/
def StorageMetadata.contentUrl (metadata : StorageMetadata) : String :=
  "gs://" ++ metadata.bucket ++ "/" ++ metadata.path

/-- The upload that an event completes, if it comes with metadata. -/
def Device.completes (d : Device) : DeviceEvent → Option Completed
  | .uploaded k (some metadata) => d.uploads[k]?.map fun upload => ⟨upload, metadata⟩
  | _ => none

/-- The uploads completed so far, newest first. -/
def uploadJournal (d : Device) (done : List Completed) (e : DeviceEvent) (_ : Device) :
    List Completed :=
  (d.completes e).toList ++ done

/-- The completed uploads of an edit screen. -/
def uploadsOf (edit : ℕ) (done : List Completed) : List Completed :=
  done.filter (·.upload.edit = edit)

/-- The uploads of an edit screen that are in flight. -/
def Device.uploading (d : Device) (edit : ℕ) : ℕ := d.uploads.countP (·.edit = edit)

/-- The uploads of an edit screen that an event completes. -/
def Device.completing (d : Device) (e : DeviceEvent) (edit : ℕ) : ℕ :=
  (uploadsOf edit (d.completes e).toList).length

/-- What was captured for an edit screen. -/
def Device.mediaAt (d : Device) (edit : ℕ) : Option Media := (d.edits[edit]?).map EditScreen.media

/-! ## One step -/

section Step

variable {d t : Device} {e : DeviceEvent}

/-- One upload less. -/
lemma countP_eraseIdx {uploads : List Upload} {k : ℕ} {upload : Upload}
    (h : uploads[k]? = some upload) (q : Upload → Bool) :
    uploads.countP q = (uploads.eraseIdx k).countP q + if q upload then 1 else 0 := by
  induction uploads generalizing k with
  | nil => simp at h
  | cons u uploads ih =>
      cases k with
      | zero =>
          obtain rfl := Option.some.inj h
          rw [List.eraseIdx_cons_zero, List.countP_cons]
      | succ k =>
          rw [List.eraseIdx_cons_succ, List.countP_cons, List.countP_cons, ih h]
          omega

lemma completing_uploaded {k : ℕ} {upload : Upload} (h : d.uploads[k]? = some upload)
    (metadata : StorageMetadata) (edit : ℕ) :
    d.completing (.uploaded k (some metadata)) edit = if upload.edit = edit then 1 else 0 := by
  rw [Device.completing, Device.completes, h, Option.map_some, Option.toList_some, uploadsOf,
    ← List.countP_eq_length_filter, List.countP_singleton]
  simp only [decide_eq_true_eq]

/-- What a step does to the uploads and the calls: an upload is started or completed, or there is
nothing new. -/
lemma work_cases (hstep : deviceStep P W d e = some t) :
    (d.completes e = none ∧ t.uploads = d.uploads ∧ t.posts.Sublist d.posts) ∨
      (∃ i edit name, e = .tapNext name ∧ d.edits[i]? = some edit ∧ edit.nextBtnEnabled = true ∧
        t = d.nextBtnClicked i edit name) ∨
      ∃ k metadata upload, e = .uploaded k metadata ∧ d.uploads[k]? = some upload ∧
        t = { d with uploads := d.uploads.eraseIdx k }.onUploaded upload metadata := by
  have hkept {u : Device} (hwork : SameWork u t) (hnone : d.completes e = none)
      (huploads : u.uploads = d.uploads) (hposts : u.posts.Sublist d.posts) :
      d.completes e = none ∧ t.uploads = d.uploads ∧ t.posts.Sublist d.posts :=
    ⟨hnone, hwork.uploads.trans huploads, hwork.posts ▸ hposts⟩
  obtain ⟨-, heffect⟩ := device_effect hstep
  cases heffect with
  | @session e session =>
      have hwork := sameWork_onSession d e session
      exact .inl (hkept (u := { d with session }) hwork rfl rfl (.refl _))
  | selectNew => exact .inl (hkept (sameWork_showCam d) rfl rfl (.refl _))
  | closeCam => exact .inl (hkept (sameWork_showTabs d) rfl rfl (.refl _))
  | cancelEditing => exact .inl (hkept (sameWork_showCam d) rfl rfl (.refl _))
  | closeEdit => exact .inl (hkept (sameWork_showCam d) rfl rfl (.refl _))
  | tapNext hscreen hedit henabled =>
      exact .inr (.inl ⟨_, _, _, rfl, hedit, henabled, rfl⟩)
  | uploaded hupload => exact .inr (.inr ⟨_, _, _, rfl, hupload, rfl⟩)
  | @postReplied k reply post hpost =>
      have hwork := sameWork_onPostReply { d with posts := d.posts.eraseIdx k } post reply
      exact .inl (hkept hwork rfl rfl (List.eraseIdx_sublist ..))
  | _ => exact .inl ⟨rfl, rfl, .refl _⟩

/-- Of each edit screen, what was in flight is so still or is completed, unless an upload is started
on an edit screen whose button is enabled. -/
lemma uploading_cases (hstep : deviceStep P W d e = some t) :
    (∀ edit, d.completing e edit + t.uploading edit ≤ d.uploading edit) ∨
      ∃ upload, ¬ Disabled d upload.edit ∧ Disabled t upload.edit ∧ d.completes e = none ∧
        t.uploads = d.uploads ++ [upload] := by
  rcases work_cases hstep with ⟨hnone, huploads, -⟩ | ⟨i, edit, name, rfl, hedit, henabled, rfl⟩ |
    ⟨k, metadata, upload, rfl, hupload, rfl⟩
  · refine .inl fun edit => ?_
    rw [Device.completing, hnone, Device.uploading, huploads]
    exact (Nat.zero_add _).le
  · refine .inr ⟨⟨i, _, _⟩, ?_, disabled_nextBtnClicked hedit name, rfl, rfl⟩
    rintro ⟨edit', hedit', hdisabled⟩
    obtain rfl := Option.some.inj (hedit.symm.trans hedit')
    exact Bool.false_ne_true (hdisabled.symm.trans henabled)
  · refine .inl fun edit => ?_
    have hcount := countP_eraseIdx hupload (·.edit = edit)
    simp only [decide_eq_true_eq] at hcount
    rw [Device.uploading, Device.onUploaded_uploads, Device.uploading, hcount]
    cases metadata with
    | none => exact (Nat.zero_add _).le.trans (Nat.le_add_right _ _)
    | some metadata => rw [completing_uploaded hupload, Nat.add_comm]

/-- A call of `post` comes from an upload that has completed, with the URL of its metadata. -/
lemma posts_cases (hstep : deviceStep P W d e = some t) :
    t.posts.Sublist d.posts ∨ ∃ x post, d.completes e = some x ∧ post.edit = x.upload.edit ∧
      post.contenturl = x.metadata.contentUrl ∧ t.posts = d.posts ++ [post] ∧
      t.session = d.session := by
  rcases work_cases hstep with ⟨-, -, hposts⟩ | ⟨i, edit, name, rfl, -, -, rfl⟩ |
    ⟨k, metadata, upload, rfl, hupload, rfl⟩
  · exact .inl hposts
  · exact .inl (.refl _)
  · unfold Device.onUploaded
    split
    · exact .inl (.refl _)
    · split
      · exact .inl (.refl _)
      · exact .inr ⟨⟨upload, _⟩, _, by rw [Device.completes, hupload]; rfl, rfl, rfl, rfl, rfl⟩

/-- What was captured for an edit screen stays. -/
lemma mediaAt_kept (hstep : deviceStep P W d e = some t) {edit : ℕ} {media : Media}
    (h : d.mediaAt edit = some media) : t.mediaAt edit = some media := by
  have hedits (hedits : t.edits = d.edits) : t.mediaAt edit = some media := by
    rw [Device.mediaAt, hedits]
    exact h
  have hset {i : ℕ} {screen screen' : EditScreen} (hscreen : d.edits[i]? = some screen)
      (hedits : t.edits = d.edits.set i screen') (hmedia : screen'.media = screen.media) :
      t.mediaAt edit = some media := by
    rw [Device.mediaAt, hedits]
    by_cases hi : i = edit
    · subst hi
      rw [List.getElem?_set_self (List.getElem?_eq_some_iff.mp hscreen).1, Option.map_some, hmedia]
      rwa [Device.mediaAt, hscreen] at h
    · rw [List.getElem?_set_ne hi]
      exact h
  have hshow (media' : Media) (hedits : t.edits = (d.showEdit media').edits) :
      t.mediaAt edit = some media := by
    obtain ⟨screen, hscreen, -⟩ := Option.map_eq_some_iff.mp h
    have hlt := (List.getElem?_eq_some_iff.mp hscreen).1
    rw [Device.mediaAt, hedits, Device.showEdit, List.getElem?_append_left hlt]
    exact h
  obtain ⟨-, heffect⟩ := device_effect hstep
  cases heffect with
  | doneEditing => exact hshow .photo rfl
  | recordVideo => exact hshow .video rfl
  | tapNext hscreen hedit henabled => exact hset hedit rfl rfl
  | progress hupload hedit => exact hset hedit rfl rfl
  | _ => exact hedits (by simp)

end Step

/-! ## One upload, one call -/

/-- Of each edit screen one upload is in flight or one thing has been made of it, at most, and its
button has been tapped then. -/
structure Once (made : ℕ → ℕ) (d : Device) : Prop where
  le_one : ∀ edit, made edit + d.uploading edit ≤ 1
  disabled : ∀ edit, made edit + d.uploading edit ≠ 0 → Disabled d edit

section Once

variable {d t : Device} {e : DeviceEvent} {made made' : ℕ → ℕ}

lemma uploading_launch (s₀ : Store) (edit : ℕ) : (Device.launch s₀).uploading edit = 0 := by
  have huploads : (Device.launch s₀).uploads = [] := (sameWork_showTabs _).uploads
  rw [Device.uploading, huploads, List.countP_nil]

lemma once_launch (s₀ : Store) (hmade : ∀ edit, made edit = 0) : Once made (.launch s₀) := by
  have hzero (edit : ℕ) : made edit + (Device.launch s₀).uploading edit = 0 := by
    rw [hmade, uploading_launch]
  exact ⟨fun edit => (hzero edit).le.trans (Nat.zero_le 1), fun edit hne => absurd (hzero edit) hne⟩

lemma Once.mono (h : Once made d) (hmade : ∀ edit, made' edit ≤ made edit) : Once made' d where
  le_one edit := (Nat.add_le_add_right (hmade edit) _).trans (h.le_one edit)
  disabled edit hne := h.disabled edit fun hzero => hne <|
    Nat.le_zero.mp ((Nat.add_le_add_right (hmade edit) _).trans hzero.le)

/-- Whatever is made of an upload when it completes is made once for an edit screen. -/
lemma Once.step (h : Once made d) (hstep : deviceStep P W d e = some t)
    (hmade : ∀ edit, made' edit ≤ made edit + d.completing e edit) : Once made' t := by
  rcases uploading_cases hstep with hle | ⟨upload, hnot, hdisabled, hnone, huploads⟩
  · have hsum (edit : ℕ) : made' edit + t.uploading edit ≤ made edit + d.uploading edit := by
      have := hmade edit
      have := hle edit
      omega
    refine ⟨fun edit => (hsum edit).trans (h.le_one edit), fun edit hne => ?_⟩
    refine (h.disabled edit fun hzero => hne ?_).step hstep
    exact Nat.le_zero.mp (hzero ▸ hsum edit)
  · -- the button was enabled, so nothing had been done for this edit screen
    have hzero : made upload.edit + d.uploading upload.edit = 0 :=
      Classical.not_not.mp fun hne => hnot (h.disabled _ hne)
    have hsum (edit : ℕ) : made' edit + t.uploading edit ≤
        made edit + d.uploading edit + if upload.edit = edit then 1 else 0 := by
      have hnew : made' edit ≤ made edit := by
        simpa [Device.completing, hnone, uploadsOf] using hmade edit
      rw [Device.uploading, huploads, List.countP_append, List.countP_singleton]
      simp only [decide_eq_true_eq, Device.uploading]
      omega
    refine ⟨fun edit => ?_, fun edit hne => ?_⟩
    · by_cases hedit : upload.edit = edit
      · subst hedit
        simpa [hzero] using hsum upload.edit
      · exact (hsum edit).trans (by simpa [hedit] using h.le_one edit)
    · by_cases hedit : upload.edit = edit
      · exact hedit ▸ hdisabled
      · refine (h.disabled edit fun hzero => hne ?_).step hstep
        simpa [hedit, hzero] using hsum edit

end Once

/-- The uploads of the journal, and the calls that were made of them: one at most for each edit
screen, with the URL of the metadata. -/
structure Journaled (d : Device) (done : List Completed) : Prop where
  once : Once (fun edit => (uploadsOf edit done).length) d
  posts : ∀ post ∈ d.posts, ∃ x ∈ done, x.upload.edit = post.edit ∧
    post.contenturl = x.metadata.contentUrl

section Journaled

variable {d t : Device} {e : DeviceEvent} {done : List Completed}

lemma uploadsOf_append (edit : ℕ) (done done' : List Completed) :
    uploadsOf edit (done ++ done') = uploadsOf edit done ++ uploadsOf edit done' :=
  List.filter_append ..

lemma journaled_launch (s₀ : Store) : Journaled (.launch s₀) [] where
  once := once_launch s₀ fun _ => rfl
  posts := by
    have hposts : (Device.launch s₀).posts = [] := (sameWork_showTabs _).posts
    simp [hposts]

lemma Journaled.step (h : Journaled d done) (hstep : deviceStep P W d e = some t) :
    Journaled t (uploadJournal d done e t) := by
  refine ⟨h.once.step hstep fun edit => ?_, ?_⟩
  · rw [uploadJournal, uploadsOf_append, List.length_append, Nat.add_comm]
    rfl
  · have hold : ∀ post ∈ d.posts, ∃ x ∈ uploadJournal d done e t, x.upload.edit = post.edit ∧
        post.contenturl = x.metadata.contentUrl := by
      intro post hpost
      obtain ⟨x, hx, hof⟩ := h.posts post hpost
      exact ⟨x, List.mem_append_right _ hx, hof⟩
    rcases posts_cases hstep with hsub | ⟨x, post, hx, hedit, hurl, hposts, -⟩
    · exact fun post hpost => hold post (hsub.subset hpost)
    · rw [hposts, List.forall_mem_append, List.forall_mem_singleton]
      refine ⟨hold, x, ?_, hedit.symm, hurl⟩
      rw [uploadJournal, hx]
      exact List.mem_cons_self

/-- An edit screen completes one upload. -/
lemma Journaled.uploadsOf_eq (h : Journaled d done) {x : Completed} (hx : x ∈ done) :
    uploadsOf x.upload.edit done = [x] := by
  have hmem : x ∈ uploadsOf x.upload.edit done := List.mem_filter.mpr ⟨hx, by simp⟩
  have hle : (uploadsOf x.upload.edit done).length ≤ 1 :=
    (Nat.le_add_right _ _).trans (h.once.le_one _)
  obtain ⟨y, hy⟩ := List.length_eq_one_iff.mp (le_antisymm hle (List.length_pos_of_mem hmem))
  rw [hy, List.mem_singleton] at hmem
  rw [hy, hmem]

end Journaled

end Whix
