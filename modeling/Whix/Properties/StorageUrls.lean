import Whix.Client.StoragePath
import Whix.Properties.Uploads

/-!
# URLs of stored objects

A post's content is the text `gs://<bucket>/<path>` that the edit screen builds from the metadata
of its upload, and every reader parses it back.  `reads_back_iff` is the exact round trip of
`FIRStoragePath`: because the scanner skips white space and stops at a line break, not every path
is read back from its own text.

`published_urls` follows the uploads of a device through a whole run: the content of every `post`
call resolves to the very object that its edit screen has uploaded, and tells by its name whether
that screen was for a photo or a video.
-/

namespace Whix

open Js Runs FIRStoragePath Scanner

/-! ## Round trip -/

/-- What is read off a bucket name, and an object name after a slash. -/
lemma pathFromGSURI_bucket {bucketName : String} (h : Reads '/' bucketName.toList)
    (objectName : String) :
    pathFromGSURI ("gs://" ++ (bucketName ++ "/" ++ objectName)) =
      .ok (initWithBucket bucketName ((scanUpTo '\n' objectName.toList).1.map String.ofList)) := by
  have htext : (bucketName ++ "/" ++ objectName).toList =
      bucketName.toList ++ '/' :: objectName.toList := by
    simp [String.toList_append]
  rw [pathFromGSURI_gs, htext, scanUpTo_append h (by simp)]
  simp

lemma stringValue_eq (p : FIRStoragePath) :
    p.stringValue = "gs://" ++ (p.bucket ++ "/" ++ p.object.getD "") := by
  simp only [stringValue, String.append_assoc]

lemma pathFromString_gs (U : String → Option NSURL) (rest : String) :
    pathFromString U ("gs://" ++ rest) = pathFromGSURI ("gs://" ++ rest) := by
  have hscheme : "gs://".toList.isPrefixOf ("gs://" ++ rest).toList = true := by
    rw [String.toList_append, List.isPrefixOf_iff_prefix]
    exact List.prefix_append _ _
  rw [pathFromString, if_pos hscheme]

/-- The names that were scanned are such as a scanner reads whole. -/
lemma reads_of_pathFromGSURI {rest : String} {p : FIRStoragePath}
    (h : pathFromGSURI ("gs://" ++ rest) = .ok p) :
    Reads '/' p.bucket.toList ∧ ∀ o ∈ p.object, '\n' ∉ o.toList := by
  rw [pathFromGSURI_gs] at h
  split at h
  · rename_i bucketName s hbucket
    obtain rfl := Except.ok.inj h
    have hreads := (reads_of_scanUpTo (t := bucketName) (by rw [hbucket])).1
    refine ⟨by rwa [initWithBucket, String.toList_ofList], ?_⟩
    simp only [initWithBucket, Option.mem_def, Option.map_eq_some_iff]
    rintro o ⟨_, ⟨objectName, hobject, rfl⟩, rfl⟩ hbreak
    rw [standardizedPathForString, String.toList_ofList, String.toList_ofList] at hbreak
    exact (reads_of_scanUpTo hobject).1.stop ((Paths.standardized_sublist objectName).subset hbreak)
  · simp at h

/-- An object name survives scanning exactly when the scanner reads it whole. -/
lemma scanned_object_iff {object : Option String}
    (hstandardized : ∀ o ∈ object, standardizedPathForString o = o) :
    ((scanUpTo '\n' (object.getD "").toList).1.map String.ofList).map standardizedPathForString =
        object ↔
      ∀ o ∈ object, Reads '\n' o.toList := by
  cases object with
  | none => exact iff_of_true rfl (by simp)
  | some o =>
      simp only [Option.getD_some, Option.mem_def, Option.some.injEq, forall_eq']
      constructor
      · intro h
        simp only [Option.map_map, Option.map_eq_some_iff, Function.comp_apply] at h
        obtain ⟨scanned, hscanned, hstandard⟩ := h
        obtain ⟨hreads, hsublist⟩ := reads_of_scanUpTo hscanned
        -- nothing was skipped and nothing cut off, or the text read would be shorter
        have hlength : o.toList.length ≤ scanned.length := by
          rw [← hstandard, standardizedPathForString, String.toList_ofList, String.toList_ofList]
          exact (Paths.standardized_sublist scanned).length_le
        rwa [← hsublist.eq_of_length_le hlength]
      · intro h
        have hscan : scanUpTo '\n' (o.toList ++ []) = (some o.toList, []) :=
          scanUpTo_append h (by simp)
        rw [List.append_nil] at hscan
        rw [hscan, Option.map_some, Option.map_some, String.ofList_toList,
          hstandardized o rfl]

/-- **Round trip of storage paths, exactly.**  A path is read back from its `stringValue` if and
only if its bucket name is not empty, begins with no white space and has no slash, and its object
name, if it has one, is not empty, begins with no white space and has no line break. -/
theorem reads_back_iff (U : String → Option NSURL) (p : FIRStoragePath) :
    pathFromString U p.stringValue = .ok p ↔
      Reads '/' p.bucket.toList ∧ ∀ o ∈ p.object, Reads '\n' o.toList := by
  rw [stringValue_eq, pathFromString_gs]
  constructor
  · intro h
    obtain ⟨hbucket, -⟩ := reads_of_pathFromGSURI h
    refine ⟨hbucket, (scanned_object_iff p.standardized).mp ?_⟩
    rw [pathFromGSURI_bucket hbucket] at h
    exact congrArg object (Except.ok.inj h)
  · rintro ⟨hbucket, hobject⟩
    rw [pathFromGSURI_bucket hbucket]
    exact congrArg Except.ok (ext rfl ((scanned_object_iff p.standardized).mpr hobject))

/-! ## Uploads -/

variable {P : Platform} {W : Char → Bool}

/-- The extension of an upload. -/
def Media.suffix : Media → String
  | .photo => ".jpg"
  | .video => ".mp4"

/-- The name of an upload. -/
def Media.child (media : Media) (name : String) : String := name ++ media.suffix

/-- A name of ten random letters. -/
def IsRandom (name : String) : Prop := ∃ pick, name = randomString pick 10

/-- How names are chosen, and what the service answers: a random name when Next is tapped, and
the metadata of the object stored when an upload completes. -/
def StoresUploads (s : FIRStorage) (d : Device) : DeviceEvent → Prop
  | .tapNext name => IsRandom name
  | .uploaded k (some metadata) => ∀ upload, d.uploads[k]? = some upload →
      metadata.bucket = (s.reference.child upload.child).bucket ∧
        metadata.path = (s.reference.child upload.child).fullPath
  | _ => True

/-- The URL resolves to the object that is uploaded as `child`, and its text tells whether that is a
photo or a video. -/
structure UploadUrl (s : FIRStorage) (U : String → Option NSURL) (media : Media)
    (child url : String) : Prop where
  resolves : s.referenceForURL U url = .ok (s.reference.child child)
  fullPath : (s.reference.child child).fullPath = child
  jpg : Text.contains url ".jpg" = true ↔ media = .photo
  mp4 : Text.contains url ".mp4" = true ↔ media = .video

/-- The URL is that of an upload under a random name. -/
def PublishedUrl (s : FIRStorage) (U : String → Option NSURL) (url : String) : Prop :=
  ∃ media name, IsRandom name ∧ UploadUrl s U media (Media.child media name) url

/-- The call publishes what its edit screen was given: the screen has completed one upload, and the
content of the call is the URL of that. -/
def PublishesUpload (s : FIRStorage) (U : String → Option NSURL) (d : Device)
    (done : List Completed) (post : PostTask) : Prop :=
  ∃ media x, d.mediaAt post.edit = some media ∧ uploadsOf post.edit done = [x] ∧
    UploadUrl s U media x.upload.child post.contenturl

/-- The bucket of a storage that was opened is such as a scanner reads whole. -/
lemma reads_storageBucket {storageBucket : String} {s : FIRStorage}
    (hs : FIRStorage.storage storageBucket = .ok s) (hne : storageBucket ≠ "") :
    Reads '/' s.storageBucket.toList := by
  rw [FIRStorage.storage, if_neg hne, FIRStorage.storageForApp] at hs
  split at hs
  · rename_i hurl
    simp [← String.toList_inj, String.toList_append] at hurl
  split at hs
  · simp at hs
  · rename_i path hpath
    split at hs
    · simp at hs
    · obtain rfl := Except.ok.inj hs
      exact (reads_of_pathFromGSURI hpath).1

lemma plain_of_mem_letters : ∀ c ∈ letters,
    CharacterSet.whitespacesAndNewlines c = false ∧ c ≠ '/' ∧ c ≠ '\n' ∧ c ≠ '.' :=
  @of_decide_eq_true _ (List.decidableBAll _ _) (by decide)

lemma IsRandom.plain {name : String} (h : IsRandom name) {c : Char} (hc : c ∈ name.toList) :
    CharacterSet.whitespacesAndNewlines c = false ∧ c ≠ '/' ∧ c ≠ '\n' ∧ c ≠ '.' := by
  obtain ⟨pick, rfl⟩ := h
  exact plain_of_mem_letters c (mem_randomString hc)

lemma IsRandom.head {name : String} (h : IsRandom name) : ∃ c, name.toList.head? = some c := by
  obtain ⟨pick, rfl⟩ := h
  exact ⟨letters.get (pick 0), by simp [randomString, List.range_succ_eq_map]⟩

/-- The name of an upload has no slash, and a scanner reads it whole. -/
lemma child_reads {name : String} (hname : IsRandom name) (media : Media) :
    '/' ∉ (media.child name).toList ∧ Reads '\n' (media.child name).toList := by
  have hnot : ∀ c : Char, (c = '/' ∨ c = '\n') → c ∉ (media.child name).toList := by
    intro c hc hmem
    rw [Media.child, String.toList_append, List.mem_append] at hmem
    rcases hmem with hmem | hmem
    · obtain ⟨-, hslash, hbreak, -⟩ := hname.plain hmem
      exact hc.elim hslash hbreak
    · rcases hc with rfl | rfl <;> cases media <;> exact absurd hmem (by decide)
  refine ⟨hnot _ (Or.inl rfl), ?_, hnot _ (Or.inr rfl)⟩
  obtain ⟨c, hc⟩ := hname.head
  refine ⟨c, ?_, (hname.plain (List.mem_of_head? hc)).1⟩
  rw [Media.child, String.toList_append, List.head?_append, hc]
  rfl

/-- The reference below the root that an upload is stored under. -/
lemma reference_child (s : FIRStorage) {name : String} (hname : IsRandom name) (media : Media) :
    (s.reference.child (media.child name)).bucket = s.storageBucket ∧
      (s.reference.child (media.child name)).object = some (media.child name) := by
  obtain ⟨hslash, hreads⟩ := child_reads hname media
  have hne : media.child name ≠ "" := by
    intro h
    obtain ⟨c, hc, -⟩ := hreads.head
    rw [h] at hc
    simp at hc
  rw [child, if_neg hne]
  refine ⟨rfl, ?_⟩
  change some (standardizedPathForString _) = _
  rw [standardizedPathForString, Paths.standardized_of_not_mem hslash, String.ofList_toList]

/-- Where an extension can occur in the URL of an upload. -/
lemma contains_url_iff {bucketName : String} {fragment : List Char}
    (hslash : '/' ∉ '.' :: fragment)
    (hbucket : Text.contains bucketName (String.ofList ('.' :: fragment)) = false) {name : String}
    (hname : IsRandom name) (suffix : String) :
    Text.contains ("gs://" ++ bucketName ++ "/" ++ (name ++ suffix))
        (String.ofList ('.' :: fragment)) = true ↔
      '.' :: fragment <:+: suffix.toList := by
  have htext : ("gs://" ++ bucketName ++ "/" ++ (name ++ suffix)).toList =
      "gs://".toList ++ (bucketName.toList ++ '/' :: (name.toList ++ suffix.toList)) := by
    simp [String.toList_append]
  have hname : '.' ∉ name.toList := fun h => (hname.plain h).2.2.2 rfl
  rw [← Bool.not_eq_true, Text.contains_iff_infix, String.toList_ofList] at hbucket
  rw [Text.contains_iff_infix, String.toList_ofList, htext,
    Text.cons_infix_append_iff (by decide), Text.infix_append_cons_iff hslash,
    or_iff_right hbucket, Text.cons_infix_append_iff hname]

/-- The URL that the edit screen builds. -/
lemma published_child {s : FIRStorage} (U : String → Option NSURL)
    (hbucket : Reads '/' s.storageBucket.toList)
    (hjpg : Text.contains s.storageBucket ".jpg" = false)
    (hmp4 : Text.contains s.storageBucket ".mp4" = false) {name : String} (hname : IsRandom name)
    (media : Media) :
    UploadUrl s U media (media.child name) ("gs://" ++
      (s.reference.child (media.child name)).bucket ++ "/" ++
      (s.reference.child (media.child name)).fullPath) := by
  obtain ⟨hbucketName, hobject⟩ := reference_child s hname media
  obtain ⟨-, hreads⟩ := child_reads hname media
  have hfull : (s.reference.child (media.child name)).fullPath = media.child name := by
    rw [fullPath, hobject, Option.getD_some]
  have hback := (reads_back_iff U (s.reference.child (media.child name))).mpr
    ⟨hbucketName ▸ hbucket, by rw [hobject]; rintro o ⟨⟩; exact hreads⟩
  refine ⟨?_, hfull, ?_, ?_⟩
  · change FIRStorage.referenceForURL s U (stringValue _) = _
    rw [FIRStorage.referenceForURL, hback]
    change (if _ then _ else _) = _
    simp only [hbucketName, ne_eq, not_true_eq_false, if_false, ite_self]
    rfl
  · rw [hbucketName, hfull, Media.child, contains_url_iff (by decide) hjpg hname]
    cases media <;> decide
  · rw [hbucketName, hfull, Media.child, contains_url_iff (by decide) hmp4 hname]
    cases media <;> decide

lemma completes_mem {d : Device} {e : DeviceEvent} {x : Completed}
    (h : d.completes e = some x) : x.upload ∈ d.uploads := by
  unfold Device.completes at h
  split at h
  · obtain ⟨upload, hupload, rfl⟩ := Option.map_eq_some_iff.mp h
    exact List.mem_of_getElem? hupload
  · simp at h

lemma completes_stored {s : FIRStorage} {d : Device} {e : DeviceEvent} {x : Completed}
    (henv : StoresUploads s d e) (h : d.completes e = some x) :
    x.metadata.bucket = (s.reference.child x.upload.child).bucket ∧
      x.metadata.path = (s.reference.child x.upload.child).fullPath := by
  unfold Device.completes at h
  split at h
  · obtain ⟨upload, hupload, rfl⟩ := Option.map_eq_some_iff.mp h
    exact henv upload hupload
  · simp at h

/-! ## Whole runs -/

/-- The upload goes under a random name, with the extension of what was captured. -/
def NamedFor (d : Device) (upload : Upload) : Prop :=
  ∃ media name, d.mediaAt upload.edit = some media ∧ IsRandom name ∧
    upload.child = Media.child media name

/-- The uploads in flight and the completed ones are named for what was captured, and the completed
ones have the metadata of their objects. -/
structure Stores (s : FIRStorage) (d : Device) (done : List Completed) : Prop where
  uploads : ∀ upload ∈ d.uploads, NamedFor d upload
  named : ∀ x ∈ done, NamedFor d x.upload
  stored : ∀ x ∈ done,
    x.metadata.bucket = (s.reference.child x.upload.child).bucket ∧
      x.metadata.path = (s.reference.child x.upload.child).fullPath

section Step

variable {s : FIRStorage} {d t : Device} {e : DeviceEvent} {done : List Completed}

lemma NamedFor.step {upload : Upload} (h : NamedFor d upload)
    (hstep : deviceStep P W d e = some t) : NamedFor t upload := by
  obtain ⟨media, name, hmedia, hname, hchild⟩ := h
  exact ⟨media, name, mediaAt_kept hstep hmedia, hname, hchild⟩

/-- An upload that is in flight after a step was so before, or has been started under a random
name. -/
lemma namedFor_uploads (huploads : ∀ upload ∈ d.uploads, NamedFor d upload)
    (henv : StoresUploads s d e) (hstep : deviceStep P W d e = some t) :
    ∀ upload ∈ t.uploads, NamedFor t upload := by
  have hold : ∀ upload ∈ d.uploads, NamedFor t upload :=
    fun upload hmem => (huploads upload hmem).step hstep
  rcases work_cases hstep with ⟨-, hsame, -⟩ | ⟨i, edit, name, rfl, hedit, -, rfl⟩ |
    ⟨k, metadata, upload, rfl, -, rfl⟩
  · exact hsame ▸ hold
  · simp only [Device.nextBtnClicked, List.forall_mem_append, List.forall_mem_singleton]
    refine ⟨hold, edit.media, name, ?_, henv, ?_⟩
    · exact mediaAt_kept hstep (by rw [Device.mediaAt, hedit, Option.map_some])
    · cases edit.media <;> rfl
  · rw [Device.onUploaded_uploads]
    exact fun upload' hmem => hold upload' (List.mem_of_mem_eraseIdx hmem)

lemma Stores.step (h : Stores s d done) (henv : StoresUploads s d e)
    (hstep : deviceStep P W d e = some t) : Stores s t (uploadJournal d done e t) := by
  refine ⟨namedFor_uploads h.uploads henv hstep, ?_, ?_⟩ <;>
    simp only [uploadJournal, List.forall_mem_append, Option.mem_toList]
  · refine ⟨fun x hx => ?_, fun x hx => (h.named x hx).step hstep⟩
    exact (h.uploads _ (completes_mem hx)).step hstep
  · exact ⟨fun x hx => completes_stored henv hx, h.stored⟩

lemma Stores.publishes (h : Stores s d done) (hjournal : Journaled d done)
    (hbucket : Reads '/' s.storageBucket.toList)
    (hjpg : Text.contains s.storageBucket ".jpg" = false)
    (hmp4 : Text.contains s.storageBucket ".mp4" = false) (U : String → Option NSURL)
    {post : PostTask} (hpost : post ∈ d.posts) : PublishesUpload s U d done post := by
  obtain ⟨x, hx, hedit, hurl⟩ := hjournal.posts post hpost
  obtain ⟨media, name, hmedia, hname, hchild⟩ := h.named x hx
  obtain ⟨hmetadata, hpath⟩ := h.stored x hx
  refine ⟨media, x, hedit ▸ hmedia, hedit ▸ hjournal.uploadsOf_eq hx, ?_⟩
  rw [hurl, StorageMetadata.contentUrl, hmetadata, hpath, hchild]
  exact published_child U hbucket hjpg hmp4 hname media

end Step

/-- **The content of every post resolves to its upload.**  From the start of the app, through any
events on the device: if the app's bucket is configured and has a name without `.jpg` and `.mp4`,
uploads go under random names, and those that complete do so with the metadata of the object stored,
then of every `post` call in flight the edit screen has completed exactly one upload, and the
content of the call is accepted by the storage of the app, resolves to the object of that upload,
and contains `.jpg` exactly if the screen was for a photo and `.mp4` exactly if it was for a
video. -/
theorem published_urls {storageBucket : String} {s : FIRStorage}
    (hs : FIRStorage.storage storageBucket = .ok s) (hne : storageBucket ≠ "")
    (hjpg : Text.contains s.storageBucket ".jpg" = false)
    (hmp4 : Text.contains s.storageBucket ".mp4" = false) (U : String → Option NSURL) (s₀ : Store)
    (r : Execution (deviceStep P W) (Device.launch s₀))
    (henv : Along (deviceStep P W) (StoresUploads s) (Device.launch s₀) r.events) :
    (r.withHistory uploadJournal []).Always fun x =>
      ∀ post ∈ x.1.posts, PublishesUpload s U x.1 x.2 post := by
  have hlaunch : Stores s (Device.launch s₀) [] := by
    have hwork := sameWork_showTabs (Device.start s₀)
    exact ⟨hwork.uploads ▸ List.forall_mem_nil _, List.forall_mem_nil _, List.forall_mem_nil _⟩
  have halways := always_of_along
    (J := fun x : Device × List Completed => Journaled x.1 x.2 ∧ Stores s x.1 x.2) ?_
    ⟨journaled_launch s₀, hlaunch⟩ (along_withHistory uploadJournal henv [])
  · intro pre hpre x hx post hpost
    obtain ⟨hjournal, hstores⟩ := halways pre hpre x hx
    exact hstores.publishes hjournal (reads_storageBucket hs hne) hjpg hmp4 U hpost
  · rintro ⟨d, done⟩ e _ ⟨hjournal, hstores⟩ henv hstep
    obtain ⟨t, ht, rfl⟩ := Option.map_eq_some_iff.mp hstep
    exact ⟨hjournal.step ht, hstores.step henv ht⟩

/-! ## An upload -/

/-- The storage of the app. -/
def whixStorage : FIRStorage := ⟨"whix-com.appspot.com"⟩

lemma storage_whix : FIRStorage.storage "whix-com.appspot.com" = .ok whixStorage := by
  decide +kernel

/-- Ada records a video and taps Next, and the upload completes. -/
def videoUploaded : Execution (deviceStep .plain Value.isWhiteSpace) (Device.launch .empty) :=
  .ofEvents _
    (logsIn 0 "ada@whix.io" "ada" idA ++
      [.selectNew, .recordVideo, .tapNext "aaaaaaaaaa",
        .uploaded 0 (some ⟨"whix-com.appspot.com", "aaaaaaaaaa.mp4"⟩)])
    (by decide +kernel)

/-- Names and metadata are as they should be. -/
def storesUploads (d : Device) : DeviceEvent → Bool
  | .tapNext name => name = randomString (fun _ => ⟨0, by decide⟩) 10
  | .uploaded k (some metadata) => d.uploads[k]?.all fun upload =>
      metadata.bucket = (whixStorage.reference.child upload.child).bucket &&
        metadata.path = (whixStorage.reference.child upload.child).fullPath
  | _ => true

lemma storesUploads_of_check (d : Device) (e : DeviceEvent) (h : storesUploads d e = true) :
    StoresUploads whixStorage d e := by
  cases e with
  | tapNext name => exact ⟨_, of_decide_eq_true h⟩
  | uploaded k metadata =>
      cases metadata with
      | none => trivial
      | some metadata =>
          intro upload hupload
          rw [storesUploads, hupload, Option.all_some, Bool.and_eq_true] at h
          exact ⟨of_decide_eq_true h.1, of_decide_eq_true h.2⟩
  | _ => trivial

theorem video_published :
    (videoUploaded.withHistory uploadJournal []).Always fun x =>
      ∀ post ∈ x.1.posts, PublishesUpload whixStorage (fun _ => none) x.1 x.2 post :=
  published_urls storage_whix (by decide) (by decide +kernel) (by decide +kernel) _ .empty
    videoUploaded (along_of_checks storesUploads_of_check (by decide +kernel))

end Whix
