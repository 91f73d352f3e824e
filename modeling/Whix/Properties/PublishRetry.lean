import Whix.Properties.PostAttribution

/-!
# An edit screen after a failed publish

Tapping Next disables the button, shows the progress bar and sets `editFinished`, all before the
upload has started.  A publish can fail in three places: the upload completes without metadata, or
the `post` call with an error or without an identifier.  None of them takes anything of this back
(`failed_publish_not_ready`): once Next has been tapped on an edit screen its button stays
disabled for good (`Disabled.step`).
-/

namespace Whix

open Js Runs

variable {P : Platform} {W : Char → Bool}

/-- The button, the flag and the progress bar of the edit screen at `i` are as they were. -/
structure Ready (before after : Device) (i : ℕ) : Prop where
  nextBtn : (after.edits[i]?).map EditScreen.nextBtnEnabled =
    (before.edits[i]?).map EditScreen.nextBtnEnabled
  editFinished : after.editFinished = before.editFinished
  progressView : (after.edits[i]?).map EditScreen.progressAlpha =
    (before.edits[i]?).map EditScreen.progressAlpha

/-- The event is a failure of the publish that was started on the edit screen at `i`. -/
def FailsPublish (d : Device) (i : ℕ) : DeviceEvent → Prop
  | .uploaded k none => ∃ upload, d.uploads[k]? = some upload ∧ upload.edit = i
  | .postReplied k reply => (∀ id, reply ≠ some (.ok (.string id))) ∧
      ∃ post, d.posts[k]? = some post ∧ post.edit = i
  | _ => False

/-- The Next button of the edit screen at `i` is disabled. -/
def Disabled (d : Device) (i : ℕ) : Prop :=
  ∃ edit, d.edits[i]? = some edit ∧ edit.nextBtnEnabled = false

section Step

variable {d t : Device} {i : ℕ}

lemma Disabled.of_edits (h : Disabled d i) (hedits : t.edits = d.edits) : Disabled t i := by
  rw [Disabled, hedits]
  exact h

lemma disabled_nextBtnClicked {edit : EditScreen} (hedit : d.edits[i]? = some edit)
    (name : String) : Disabled (d.nextBtnClicked i edit name) i := by
  have hlt := (List.getElem?_eq_some_iff.mp hedit).1
  exact ⟨_, List.getElem?_set_self hlt, rfl⟩

lemma Disabled.showEdit (h : Disabled d i) (media : Media) : Disabled (d.showEdit media) i := by
  obtain ⟨edit, hedit, hdisabled⟩ := h
  have hlt := (List.getElem?_eq_some_iff.mp hedit).1
  exact ⟨edit, by rw [Device.showEdit, List.getElem?_append_left hlt, hedit], hdisabled⟩

/-- Nothing enables a button again. -/
lemma Disabled.step {e : DeviceEvent} (h : Disabled d i) (hstep : deviceStep P W d e = some t) :
    Disabled t i := by
  obtain ⟨-, heffect⟩ := device_effect hstep
  cases heffect with
  | session hallowed hsession => exact h.of_edits (by simp)
  | selectNew hscreen => exact h.of_edits (by simp)
  | closeCam hscreen => exact h.of_edits (by simp)
  | takePhoto hscreen => exact h.of_edits rfl
  | cancelEditing hscreen => exact h.of_edits (by simp)
  | doneEditing hscreen => exact h.showEdit _
  | recordVideo hscreen => exact h.showEdit _
  | @tapNext j edit name hscreen hedit henabled =>
      obtain ⟨edit', hedit', hdisabled⟩ := h
      have hne : j ≠ i := by
        rintro rfl
        obtain rfl := Option.some.inj (hedit.symm.trans hedit')
        rw [henabled] at hdisabled
        simp at hdisabled
      exact ⟨edit', by rw [Device.nextBtnClicked, List.getElem?_set_ne hne, hedit'], hdisabled⟩
  | closeEdit hscreen => exact h.of_edits (by simp)
  | @progress k fraction upload edit hupload hedit =>
      obtain ⟨edit', hedit', hdisabled⟩ := h
      by_cases hi : upload.edit = i
      · subst hi
        obtain rfl := Option.some.inj (hedit.symm.trans hedit')
        have hlt := (List.getElem?_eq_some_iff.mp hedit).1
        exact ⟨_, List.getElem?_set_self hlt, hdisabled⟩
      · exact ⟨edit', by rw [List.getElem?_set_ne hi, hedit'], hdisabled⟩
  | uploaded hupload => exact h.of_edits (by simp)
  | postReplied hpost => exact h.of_edits (by simp)

end Step

/-- After Next was tapped on the edit screen at `i`, its button stays disabled. -/
lemma disabled_of_tapNext {d t : Device} {i : ℕ} {name : String} {later : List DeviceEvent}
    (hscreen : d.screen = .edit i)
    (hrun : run (deviceStep P W) d (.tapNext name :: later) = some t) :
    (∃ edit, d.edits[i]? = some edit ∧ edit.nextBtnEnabled = true) ∧ Disabled t i := by
  rw [run_cons, Option.bind_eq_some_iff] at hrun
  obtain ⟨u, htap, hlater⟩ := hrun
  obtain ⟨-, heffect⟩ := device_effect htap
  cases heffect with
  | @tapNext j edit name hscreen' hedit henabled =>
      obtain rfl := Screen.edit.inj (hscreen.symm.trans hscreen')
      refine ⟨⟨edit, hedit, henabled⟩, ?_⟩
      exact invariant_run (J := fun d => Disabled d i) (fun _ _ _ h hstep => h.step hstep)
        (disabled_nextBtnClicked hedit name) hlater

/-- A failure changes nothing on any edit screen, and leaves the flag as it is. -/
lemma edits_of_failsPublish {d t : Device} {i : ℕ} {e : DeviceEvent} (hfails : FailsPublish d i e)
    (hstep : deviceStep P W d e = some t) :
    t.edits = d.edits ∧ t.editFinished = d.editFinished := by
  obtain ⟨-, heffect⟩ := device_effect hstep
  cases heffect with
  | @uploaded k metadata upload hupload =>
      cases metadata with
      | none => exact ⟨rfl, rfl⟩
      | some metadata => exact hfails.elim
  | @postReplied k reply post hpost =>
      rw [Device.onPostReply_of_not_id _ _ hfails.1]
      exact ⟨rfl, rfl⟩
  | _ => exact hfails.elim

/-- **A failed publish leaves the edit screen stuck.**  Whatever happens between the tap on Next
and the failure, the failure takes nothing back, and once it has been delivered the edit screen is
not as it was before the tap. -/
theorem failed_publish_not_ready {d u t : Device} {i : ℕ} {name : String}
    {between : List DeviceEvent} {failure : DeviceEvent} (hscreen : d.screen = .edit i)
    (hrun : run (deviceStep P W) d (.tapNext name :: between) = some u)
    (hfails : FailsPublish u i failure) (hstep : deviceStep P W u failure = some t) :
    (t.edits = u.edits ∧ t.editFinished = u.editFinished) ∧ ¬ Ready d t i := by
  have hsame := edits_of_failsPublish hfails hstep
  refine ⟨hsame, fun h => ?_⟩
  obtain ⟨⟨edit, hedit, henabled⟩, hdisabled⟩ := disabled_of_tapNext hscreen hrun
  obtain ⟨edit', hedit', hdisabled'⟩ := hdisabled.of_edits hsame.1
  have hnextBtn := h.nextBtn
  simp [hedit, hedit', henabled, hdisabled'] at hnextBtn

/-! ## An upload that fails -/

/-- Ada has recorded a video. -/
def filmed : Execution (deviceStep .plain Value.isWhiteSpace) (Device.launch .empty) :=
  .ofEvents _ (logsIn 0 "ada@whix.io" "ada" idA ++ [.selectNew, .recordVideo]) (by decide +kernel)

/-- She has tapped Next, and the upload is on its way. -/
def uploading : Execution (deviceStep .plain Value.isWhiteSpace) filmed.final :=
  .ofEvents _ [.tapNext "0123456789", .progress 0 (1 / 2)] (by decide +kernel)

/-- The upload has completed without metadata. -/
def uploadFailed : Execution (deviceStep .plain Value.isWhiteSpace) uploading.final :=
  .ofEvents _ [.uploaded 0 none] (by decide +kernel)

lemma filmed_screen : filmed.final.screen = .edit 0 := by decide +kernel

lemma uploading_failsPublish : FailsPublish uploading.final 0 (.uploaded 0 none) := by
  have hupload : (uploading.final.uploads[0]?).map Upload.edit = some 0 := by decide +kernel
  exact Option.map_eq_some_iff.mp hupload

lemma uploadFailed_step : deviceStep .plain Value.isWhiteSpace uploading.final (.uploaded 0 none) =
    some uploadFailed.final :=
  (run_singleton _ _).symm.trans uploadFailed.ran

theorem failed_upload_not_ready : ¬ Ready filmed.final uploadFailed.final 0 :=
  (failed_publish_not_ready filmed_screen uploading.ran uploading_failsPublish
    uploadFailed_step).2

/-- The upload fails, and Ada cannot tap Next again. -/
theorem publish_not_retried :
    ¬ ∀ (d u t : Device) i name between failure, d.screen = .edit i →
      run (deviceStep .plain Value.isWhiteSpace) d (.tapNext name :: between) = some u →
      FailsPublish u i failure → deviceStep .plain Value.isWhiteSpace u failure = some t →
      Ready d t i := by
  intro h
  have hready : Ready filmed.final uploadFailed.final 0 :=
    h _ _ _ _ _ _ _ filmed_screen uploading.ran uploading_failsPublish uploadFailed_step
  have hbefore : (filmed.final.edits[0]?).map EditScreen.nextBtnEnabled = some true := by
    decide +kernel
  have hafter : (uploadFailed.final.edits[0]?).map EditScreen.nextBtnEnabled = some false := by
    decide +kernel
  have hnextBtn := hready.nextBtn
  rw [hbefore, hafter] at hnextBtn
  simp at hnextBtn

end Whix
