import Whix.Client.FeedApp
import Whix.Properties.DiskStore
import Whix.Properties.StorageUrls

/-!
# What the feed shows is what was uploaded

An image or a video can reach a cell on three ways: from the caches directory, which any cell and
any prefetch may have written, and which the system may have emptied meanwhile; from a download of
the cell's own; and from a download of a document the cell has been recycled from.  `shown_content`
says that on each of them it is made from the bytes that are stored in the bucket for the document
it belongs to.

The condition on the documents is that their contents are URLs of uploads (`PublishedUrl`), which
`published_urls` proves of the posts the app makes.  It cannot be dropped: an object with a name
such as `a:b.jpg` shares its file in the cache with `ab.jpg`.
-/

namespace Whix

open Js FileTrees Runs

variable {Data Image : Type} {G : FeedPlatform Data Image} {content : AutoId → String}

/-- The image and the video of a cell are made from what the bucket holds for the content of the
document they belong to. -/
structure ShowsStored (G : FeedPlatform Data Image) (content : AutoId → String)
    (objects : String → Option Data) (c : Cell Data Image) : Prop where
  image : ∀ shown, c.imageView = some shown → ∃ id data, shown.source = some id ∧
    objects (G.fullPath (content id)) = some data ∧ G.uiImage data = some shown.value
  video : ∀ video, c.playerView.player.map AVPlayer.video = some video →
    ∃ id, video.source = some id ∧ objects (G.fullPath (content id)) = some video.value

/-- A document with the content that its identifier stands for, which is the URL of an upload. -/
def HasContent (G : FeedPlatform Data Image) (content : AutoId → String)
    (doc : QueryDocumentSnapshot) : Prop :=
  doc.data.content = .string (content doc.documentID) ∧
    PublishedUrl G.storage G.nsURL (content doc.documentID)

/-- What the environment does: the documents are posts of the app, and no upload replaces an object
of the bucket. -/
def Wholesome (G : FeedPlatform Data Image) (content : AutoId → String)
    (a : FeedApp Data Image) : FeedAppEvent Data → Prop
  | .configure _ doc | .prefetch doc => HasContent G content doc
  | .stored path _ => a.objects path = none
  | _ => True

/-! ## A cell -/

/-- The cell shows what is stored, and downloads for the documents it was configured with. -/
structure CellSound (G : FeedPlatform Data Image) (content : AutoId → String)
    (objects : String → Option Data) (c : Cell Data Image) : Prop
    extends ShowsStored G content objects c where
  downloads : ∀ download ∈ c.downloads, HasContent G content download.doc ∧
    download.contentUrl = content download.doc.documentID

section Cells

variable {objects : String → Option Data} {c t : Cell Data Image} {doc : QueryDocumentSnapshot}
  {data : Data}

lemma cellSound_start : CellSound G content objects Cell.start :=
  ⟨⟨by simp [Cell.start], by simp [Cell.start]⟩, by simp [Cell.start]⟩

lemma cellSound_clear (h : CellSound G content objects c) (doc : QueryDocumentSnapshot) :
    CellSound G content objects (c.clear doc) :=
  ⟨⟨by simp [Cell.clear], by simp [Cell.clear, PlayerView.clearVideo]⟩, h.downloads⟩

lemma CellSound.showImage (h : CellSound G content objects c)
    (hdata : objects (G.fullPath (content doc.documentID)) = some data) :
    CellSound G content objects (c.showImage G.cellPlatform doc data) := by
  refine ⟨⟨?_, h.video⟩, h.downloads⟩
  intro shown hshown
  simp only [Cell.showImage, Option.map_eq_some_iff] at hshown
  obtain ⟨image, himage, rfl⟩ := hshown
  exact ⟨doc.documentID, data, rfl, hdata, himage⟩

lemma CellSound.showVideo (h : CellSound G content objects c)
    (hdata : objects (G.fullPath (content doc.documentID)) = some data) :
    CellSound G content objects (c.showVideo doc data) := by
  refine ⟨⟨h.image, ?_⟩, h.downloads⟩
  intro video hvideo
  obtain rfl := Option.some.inj hvideo
  exact ⟨doc.documentID, rfl, hdata⟩

lemma CellSound.configure (h : CellSound G content objects c) (hdoc : HasContent G content doc)
    {cached : Option Data}
    (hcached : ∀ data, cached = some data →
      objects (G.fullPath (content doc.documentID)) = some data) :
    CellSound G content objects (c.configure G.cellPlatform doc cached) := by
  have houtcome := c.configure_outcome G.cellPlatform doc cached
  have hclear : CellSound G content objects ((c.clear doc).fetchUser G.cellPlatform doc) :=
    let h' := cellSound_clear h doc
    ⟨⟨h'.image, h'.video⟩, h'.downloads⟩
  generalize c.configure G.cellPlatform doc cached = t at houtcome ⊢
  cases houtcome with
  | trapped hnot =>
      have h' := cellSound_clear h doc
      exact ⟨⟨h'.image, h'.video⟩, h'.downloads⟩
  | image hcontent href hdata => exact hclear.showImage (hcached _ hdata)
  | video hcontent href hdata => exact hclear.showVideo (hcached _ hdata)
  | @download contentUrl hcontent href hneither =>
      obtain rfl := Value.string.inj (hcontent.symm.trans hdoc.1)
      refine ⟨⟨hclear.image, hclear.video⟩, ?_⟩
      simp only [List.forall_mem_append, List.forall_mem_singleton]
      exact ⟨h.downloads, hdoc, trivial⟩

lemma CellSound.onDownload (h : CellSound G content objects c) {download : Download}
    {data : Option Data}
    (hdata : ∀ d, data = some d →
      objects (G.fullPath (content download.doc.documentID)) = some d) :
    CellSound G content objects (c.onDownload G.cellPlatform download data) := by
  have houtcome := c.download_outcome G.cellPlatform download data
  generalize c.onDownload G.cellPlatform download data = t at houtcome ⊢
  cases houtcome with
  | nothing => exact h
  | image => exact h.showImage (hdata _ rfl)
  | video => exact h.showVideo (hdata _ rfl)
  | both => exact (h.showImage (hdata _ rfl)).showVideo (hdata _ rfl)

lemma CellSound.map_player (h : CellSound G content objects c) {playerView : PlayerView Data}
    (hplayer : playerView.player.map AVPlayer.video = c.playerView.player.map AVPlayer.video)
    (onScreen : Bool) :
    CellSound G content objects { c with playerView := playerView, onScreen := onScreen } :=
  ⟨⟨h.image, by rw [hplayer]; exact h.video⟩, h.downloads⟩

/-- The cell's other work changes neither what its image and its video are made from, nor its
downloads. -/
lemma CellSound.step_local (h : CellSound G content objects c) {e : CellEvent Data}
    (hlocal : e.isLocal = true) (hstep : cellStep G.cellPlatform c e = some t) :
    CellSound G content objects t := by
  obtain ⟨-, heffect⟩ := cell_effect hstep
  cases heffect with
  | configure => simp [CellEvent.isLocal] at hlocal
  | @userFetched i outcome doc hdoc =>
      cases outcome <;> exact ⟨⟨h.image, h.video⟩, h.downloads⟩
  | @avatarLoaded success picture hpicture =>
      cases success <;> exact ⟨⟨h.image, h.video⟩, h.downloads⟩
  | downloaded => simp [CellEvent.isLocal] at hlocal
  | willDisplay => exact h.map_player (c.playerView.map_play fun _ _ => rfl) true
  | didEndDisplaying => exact h.map_player (c.playerView.map_pause fun _ _ => rfl) false
  | itemDidPlayToEnd =>
      unfold Cell.onItemEnd
      split
      · exact h.map_player (c.playerView.map_play fun _ _ => rfl) c.onScreen
      · exact ⟨⟨h.image, h.video⟩, h.downloads⟩

/-- New objects change nothing about the old ones. -/
lemma CellSound.mono (h : CellSound G content objects c) {objects' : String → Option Data}
    (hobjects : ∀ path data, objects path = some data → objects' path = some data) :
    CellSound G content objects' c := by
  refine ⟨⟨fun shown hshown => ?_, fun video hvideo => ?_⟩, h.downloads⟩
  · obtain ⟨id, data, hsource, hdata, himage⟩ := h.image shown hshown
    exact ⟨id, data, hsource, hobjects _ _ hdata, himage⟩
  · obtain ⟨id, hsource, hdata⟩ := h.video video hvideo
    exact ⟨id, hsource, hobjects _ _ hdata⟩

end Cells

/-! ## Uploads in the cache -/

/-- The name of an object that was uploaded. -/
def IsUpload (path : String) : Prop :=
  ∃ (media : Media) (name : String), IsRandom name ∧ path = media.child name

/-- Every character of a name of an upload is a valid one for the file system. -/
def AcceptsUploads (S : Disk.FileSystem) : Prop :=
  ∀ c ∈ '.' :: letters, S.illegalCharacters c = false ∧ S.controlCharacters c = false

instance (S : Disk.FileSystem) : Decidable (AcceptsUploads S) :=
  List.decidableBAll _ _

lemma reference_of_publishedUrl {url : String} (h : PublishedUrl G.storage G.nsURL url) :
    (∃ gsReference, G.reference url = .ok gsReference) ∧ IsUpload (G.fullPath url) := by
  obtain ⟨media, name, hname, href, hfull, -⟩ := h
  refine ⟨⟨_, href⟩, media, name, hname, ?_⟩
  rw [FeedPlatform.fullPath, FeedPlatform.reference, href]
  exact hfull

lemma suffix_letters (media : Media) : ∀ c ∈ media.suffix.toList, c ∈ '.' :: letters := by
  cases media <;> exact @of_decide_eq_true _ (List.decidableBAll _ _) (by decide)

lemma IsUpload.chars {path : String} (h : IsUpload path) :
    ∀ c ∈ path.toList, c ∈ '.' :: letters := by
  obtain ⟨media, name, ⟨pick, rfl⟩, rfl⟩ := h
  intro c hc
  rw [Media.child, String.toList_append, List.mem_append] at hc
  rcases hc with hc | hc
  · exact List.mem_cons_of_mem _ (mem_randomString hc)
  · exact suffix_letters media c hc

lemma valid_of_mem_letters : ∀ c ∈ '.' :: letters, c ≠ ':' ∧ Disk.newlines c = false :=
  @of_decide_eq_true _ (List.decidableBAll _ _) (by decide)

/-- An upload is cached in a file of its own, directly in the directory. -/
lemma IsUpload.isPlain {S : Disk.FileSystem} (hS : AcceptsUploads S) {path : String}
    (h : IsUpload path) : Disk.names S path = [path.toList] ∧ Disk.IsPlain S path := by
  have hvalid : (path.toList.filter fun c => !Disk.invalidCharacters S c) = path.toList := by
    refine List.filter_eq_self.mpr fun c hc => ?_
    obtain ⟨hcolon, hnewline⟩ := valid_of_mem_letters c (h.chars c hc)
    obtain ⟨hillegal, hcontrol⟩ := hS c (h.chars c hc)
    simp [Disk.invalidCharacters, hcolon, hnewline, hillegal, hcontrol]
  obtain ⟨media, name, hname, rfl⟩ := h
  obtain ⟨hslash, hreads⟩ := child_reads hname media
  obtain ⟨c, hhead, -⟩ := hreads.head
  have hne : (media.child name).toList ≠ [] := by
    rintro hnil
    simp [hnil] at hhead
  have hnames : Disk.names S (media.child name) = [(media.child name).toList] := by
    rw [Disk.names, hvalid, Paths.components_of_not_mem hne hslash]
  obtain ⟨first, hfirst⟩ := hname.head
  have hdot : first ≠ '.' := (hname.plain (List.mem_of_head? hfirst)).2.2.2
  have hchild : (media.child name).toList.head? = some first := by
    rw [Media.child, String.toList_append, List.head?_append, hfirst]
    rfl
  refine ⟨hnames, by simp [hnames], ?_⟩
  simp only [hnames, List.mem_singleton, forall_eq]
  refine ⟨fun heq => ?_, fun heq => ?_⟩ <;>
    exact hdot (Option.some.inj (hchild.symm.trans (heq ▸ rfl)))

/-! ## The feed -/

/-- What the caches directory has for an upload is what the bucket has. -/
def CacheCoherent (G : FeedPlatform Data Image) (a : FeedApp Data Image) : Prop :=
  ∀ path, IsUpload path → ∀ data,
    (Disk.retrieve G.files a.disk path .caches).toOption = some data → a.objects path = some data

/-- Everything in the feed and below it is what the bucket has. -/
structure FeedSound (G : FeedPlatform Data Image) (content : AutoId → String)
    (location : List FileName) (a : FeedApp Data Image) : Prop where
  directory : a.disk.IsDirectory location
  files : ∀ path, IsUpload path → ∀ data,
    a.disk.read (location ++ [path.toList]) = some data → a.objects path = some data
  prefetches : ∀ path ∈ a.prefetches, IsUpload path
  cells : ∀ c ∈ a.cells, CellSound G content a.objects c

section Step

variable {location : List FileName} {a b : FeedApp Data Image}

lemma retrieve_upload {disk : FileTree FileName Data}
    (hlocation : G.files.location .caches = some location) (hS : AcceptsUploads G.files)
    {path : String} (h : IsUpload path) :
    (Disk.retrieve G.files disk path .caches).toOption = disk.read (location ++ [path.toList]) := by
  obtain ⟨hnames, hplain⟩ := h.isPlain hS
  rw [Disk.retrieve_toOption hplain hlocation, hnames]

lemma cacheCoherent_iff (hlocation : G.files.location .caches = some location)
    (hS : AcceptsUploads G.files) :
    CacheCoherent G a ↔ ∀ path, IsUpload path → ∀ data,
      a.disk.read (location ++ [path.toList]) = some data → a.objects path = some data := by
  refine forall₂_congr fun path h => ?_
  rw [retrieve_upload hlocation hS h]

/-- A cell is replaced by one that is sound. -/
lemma FeedSound.setCell (h : FeedSound G content location a) {k : ℕ} {c : Cell Data Image}
    (hc : CellSound G content a.objects c) :
    FeedSound G content location { a with cells := a.cells.set k c } := by
  refine ⟨h.directory, h.files, h.prefetches, fun c' hc' => ?_⟩
  rcases List.mem_or_eq_of_mem_set hc' with hold | rfl
  · exact h.cells c' hold
  · exact hc

/-- What the bucket has for an upload is saved. -/
lemma FeedSound.saved (h : FeedSound G content location a)
    (hlocation : G.files.location .caches = some location) (hS : AcceptsUploads G.files)
    {path : String} (hpath : IsUpload path) {data : Option Data}
    (hdata : ∀ d, data = some d → a.objects path = some d) :
    FeedSound G content location { a with disk := a.saved G path data } := by
  cases data with
  | none => exact h
  | some value =>
      obtain ⟨hnames, hplain⟩ := hpath.isPlain hS
      refine ⟨Disk.isDirectory_save value path h.directory, ?_, h.prefetches, h.cells⟩
      intro path' hpath' d hread
      change (Disk.save G.files a.disk value .caches path).2.read _ = some d at hread
      rcases Disk.save_files G.files a.disk .caches value path with
        ⟨-, hsame⟩ | ⟨url, hurl, -, hsaved⟩
      · rw [hsame] at hread
        exact h.files path' hpath' d hread
      · rw [Disk.createURL_of_isPlain hplain hlocation, hnames] at hurl
        obtain rfl := Except.ok.inj hurl
        rw [hsaved, Disk.URL.position, destination_into] at hread
        split at hread
        · rename_i heq
          rw [List.append_cancel_left_eq, List.singleton_inj, String.toList_inj] at heq
          rw [heq, hdata value rfl, ← hread]
        · exact h.files path' hpath' d hread

/-- The bucket delivers what it has. -/
lemma objects_of_getData {path : String} {success : Bool} {data : Data}
    (h : a.getData path success = some data) : a.objects path = some data := by
  rw [FeedApp.getData] at h
  split at h
  · exact h
  · simp at h

lemma FeedSound.prefetch (h : FeedSound G content location a) {doc : QueryDocumentSnapshot}
    (hdoc : HasContent G content doc) : FeedSound G content location (a.prefetch G doc) := by
  unfold FeedApp.prefetch
  split
  · rename_i contentUrl hcontent
    obtain rfl := Value.string.inj (hcontent.symm.trans hdoc.1)
    split
    · rename_i gsReference href
      have hupload := (reference_of_publishedUrl hdoc.2).2
      rw [FeedPlatform.fullPath, href] at hupload
      split
      · exact h
      · refine ⟨h.directory, h.files, ?_, h.cells⟩
        simp only [List.forall_mem_append, List.forall_mem_singleton]
        exact ⟨h.prefetches, hupload⟩
    · exact ⟨h.directory, h.files, h.prefetches, h.cells⟩
  · exact ⟨h.directory, h.files, h.prefetches, h.cells⟩

lemma FeedSound.stored (h : FeedSound G content location a) {path : String} {data : Data}
    (hfree : a.objects path = none) :
    FeedSound G content location
      { a with objects := Function.update a.objects path (some data) } := by
  have hobjects : ∀ path' d, a.objects path' = some d →
      Function.update a.objects path (some data) path' = some d := by
    intro path' d hd
    rw [Function.update_of_ne]
    · exact hd
    · rintro rfl
      simp [hfree] at hd
  exact ⟨h.directory, fun path' hpath' d hread => hobjects _ _ (h.files path' hpath' d hread),
    h.prefetches, fun c hc => (h.cells c hc).mono hobjects⟩

lemma FeedSound.purge (h : FeedSound G content location a) (first : FileName)
    (names : List FileName) :
    FeedSound G content location
      { a with disk := a.disk.remove (location ++ first :: names) (by simp) } := by
  refine ⟨?_, ?_, h.prefetches, h.cells⟩
  · change FileTree.node _ _ = _
    rw [FileTree.node_remove, if_neg]
    · exact h.directory
    · intro hprefix
      have hlength := hprefix.length_le
      simp only [List.length_append, List.length_cons] at hlength
      omega
  · intro path hpath d hread
    change (a.disk.remove (location ++ first :: names) (by simp)).read _ = some d at hread
    rw [FileTree.read_remove] at hread
    split at hread
    · simp at hread
    · exact h.files path hpath d hread

lemma feedSound_step (hlocation : G.files.location .caches = some location)
    (hS : AcceptsUploads G.files) {e : FeedAppEvent Data} (h : FeedSound G content location a)
    (henv : Wholesome G content a e) (hstep : feedAppStep G a e = some b) :
    FeedSound G content location b := by
  cases feed_effect hstep with
  | newCell =>
      refine ⟨h.directory, h.files, h.prefetches, ?_⟩
      simp only [List.forall_mem_append, List.forall_mem_singleton]
      exact ⟨h.cells, cellSound_start⟩
  | @configure k doc cached cell cell' hcell hcached hconfigure =>
      obtain ⟨-, heffect⟩ := cell_effect hconfigure
      cases heffect with
      | configure =>
          have hc := h.cells cell (List.mem_of_getElem? hcell)
          refine h.setCell (hc.configure henv fun data hdata => ?_)
          have hupload := (reference_of_publishedUrl henv.2).2
          rw [hcached _ henv.1, FeedApp.cached, retrieve_upload hlocation hS hupload] at hdata
          exact h.files _ hupload data hdata
  | @downloaded k i success cell cell' download hcell hdownload hcompletion =>
      obtain ⟨-, heffect⟩ := cell_effect hcompletion
      cases heffect with
      | @downloaded _ _ download' hdownload' =>
          obtain rfl := Option.some.inj (hdownload.symm.trans hdownload')
          have hc := h.cells cell (List.mem_of_getElem? hcell)
          obtain ⟨hdoc, hurl⟩ := hc.downloads download (List.mem_of_getElem? hdownload)
          have hupload := (reference_of_publishedUrl hdoc.2).2
          rw [← hurl] at hupload
          have hrest : CellSound G content a.objects
              { cell with downloads := cell.downloads.eraseIdx i } :=
            ⟨⟨hc.image, hc.video⟩, fun d hd => hc.downloads d (List.mem_of_mem_eraseIdx hd)⟩
          have hshown : CellSound G content a.objects (Cell.onDownload G.cellPlatform _ download
              (a.getData (G.fullPath download.contentUrl) success)) :=
            hrest.onDownload fun d hd => hurl ▸ objects_of_getData hd
          exact (h.saved hlocation hS hupload fun d hd => objects_of_getData hd).setCell hshown
  | @cell k e cell cell' hcell hlocal hevent =>
      exact h.setCell ((h.cells cell (List.mem_of_getElem? hcell)).step_local hlocal hevent)
  | prefetch => exact h.prefetch henv
  | @prefetched i success path hpath =>
      have hupload := h.prefetches path (List.mem_of_getElem? hpath)
      have hsaved : FeedSound G content location
          { a with disk := a.saved G path (a.getData path success) } :=
        h.saved hlocation hS hupload fun d hd => objects_of_getData hd
      exact ⟨hsaved.directory, hsaved.files,
        fun p hp => h.prefetches p (List.mem_of_mem_eraseIdx hp), hsaved.cells⟩
  | stored => exact h.stored henv
  | purge hlocation' =>
      obtain rfl := Option.some.inj (hlocation.symm.trans hlocation')
      exact h.purge _ _

end Step

/-- The feed when the app starts: no cells yet, and what earlier runs left in the caches
directory. -/
def FeedApp.launch (disk : FileTree FileName Data) (objects : String → Option Data) :
    FeedApp Data Image where
  cells := []
  disk := disk
  objects := objects
  prefetches := []
  trapped := false

/-- **What the feed shows is what was uploaded.**  Start the app with a caches directory that is
coherent with the bucket, and let cells be made, configured and recycled, downloads and prefetches
complete in any order, the system remove cached files, and others upload.  If every document keeps
one content, which is the URL of an upload of the app, and no upload replaces an object of the
bucket, then in every state each image and each video of a cell is made from the object that the
bucket has for the content of its document, and the caches directory is still coherent, for the
next start. -/
theorem shown_content {location : List FileName}
    (hlocation : G.files.location .caches = some location) (hS : AcceptsUploads G.files)
    {disk : FileTree FileName Data} {objects : String → Option Data}
    (hdir : disk.IsDirectory location)
    (hcoherent : CacheCoherent G (.launch disk objects : FeedApp Data Image))
    (r : Execution (feedAppStep G) (.launch disk objects))
    (henv : Along (feedAppStep G) (Wholesome G content) (.launch disk objects) r.events) :
    r.Always fun a => (∀ c ∈ a.cells, ShowsStored G content a.objects c) ∧ CacheCoherent G a := by
  have hlaunch : FeedSound G content location (.launch disk objects : FeedApp Data Image) :=
    ⟨hdir, (cacheCoherent_iff hlocation hS).mp hcoherent, List.forall_mem_nil _,
      List.forall_mem_nil _⟩
  have hsound := always_of_along
    (fun _ _ _ h henv hstep => feedSound_step hlocation hS h henv hstep) hlaunch henv
  intro pre hpre a ha
  have h := hsound pre hpre a ha
  exact ⟨fun c hc => (h.cells c hc).toShowsStored, (cacheCoherent_iff hlocation hS).mpr h.files⟩

/-! ## A video from the bucket and from the cache -/

/-- A platform whose pictures are their data. -/
def feedPlatform : FeedPlatform ℕ ℕ where
  storage := whixStorage
  nsURL _ := none
  files := Disk.plainSystem
  uiImage := some
  isURL _ := true
  time _ := ""

/-- The URL of the video. -/
def videoUrl : String := "gs://whix-com.appspot.com/aaaaaaaaaa.mp4"

/-- Ada's post of the video. -/
def uploadedVideo : QueryDocumentSnapshot :=
  ⟨idA, .string videoUrl, 0, [], 0, ⟨0, 0⟩, userRef (some idB)⟩

lemma published_videoUrl : PublishedUrl whixStorage (fun _ => none) videoUrl :=
  have hname : IsRandom "aaaaaaaaaa" := ⟨fun _ => ⟨0, by decide⟩, by decide +kernel⟩
  ⟨.video, _, hname, published_child (fun _ => none)
    (reads_storageBucket storage_whix (by decide)) (by decide +kernel) (by decide +kernel) hname
    .video⟩

lemma newApp_coherent :
    CacheCoherent feedPlatform (.launch Disk.newApp fun _ => none : FeedApp ℕ ℕ) := by
  refine (cacheCoherent_iff rfl (by decide +kernel)).mpr fun path _ data hread => ?_
  change Disk.newApp.read _ = some data at hread
  rw [Disk.newApp, FileTree.read_mkdir, FileTree.read_mkdir] at hread
  simp [FileTree.read, FileTree.empty] at hread

/-- The cell downloads the video while it is prefetched, and later finds it in the cache. -/
def videoShown : Execution (feedAppStep feedPlatform) (.launch Disk.newApp fun _ => none) :=
  .ofEvents _
    [.stored "aaaaaaaaaa.mp4" 7, .newCell, .configure 0 uploadedVideo, .prefetch uploadedVideo,
      .downloaded 0 0 true, .prefetched 0 true, .configure 0 uploadedVideo]
    (by decide +kernel)

/-- The documents are the post of the video, and objects are new. -/
def wholesome (a : FeedApp ℕ ℕ) : FeedAppEvent ℕ → Bool
  | .configure _ doc | .prefetch doc =>
      match doc.data.content with
      | .string contentUrl => contentUrl = videoUrl
      | _ => false
  | .stored path _ => (a.objects path).isNone
  | _ => true

lemma hasContent_of_check {doc : QueryDocumentSnapshot}
    (h : (match doc.data.content with
      | .string contentUrl => decide (contentUrl = videoUrl)
      | _ => false) = true) :
    HasContent feedPlatform (fun _ => videoUrl) doc := by
  split at h
  · rename_i contentUrl hcontent
    exact ⟨hcontent.trans (congrArg _ (of_decide_eq_true h)), published_videoUrl⟩
  · simp at h

lemma wholesome_of_check (a : FeedApp ℕ ℕ) (e : FeedAppEvent ℕ) (h : wholesome a e = true) :
    Wholesome feedPlatform (fun _ => videoUrl) a e := by
  cases e with
  | configure k doc => exact hasContent_of_check h
  | «prefetch» doc => exact hasContent_of_check h
  | stored path data => exact Option.isNone_iff_eq_none.mp h
  | _ => trivial

theorem videoShown_content :
    videoShown.Always fun a =>
      (∀ c ∈ a.cells, ShowsStored feedPlatform (fun _ => videoUrl) a.objects c) ∧
        CacheCoherent feedPlatform a :=
  shown_content rfl (by decide +kernel) Disk.newApp_caches newApp_coherent videoShown
    (along_of_checks wholesome_of_check (by decide +kernel))

end Whix
