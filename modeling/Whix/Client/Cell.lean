import Whix.Backend.Store
import Whix.Framework.Runs

/-!
# A cell of the feed

`PlayerCollectionViewCell` with the requests it has started and the observers it has registered.
The collection view reuses the cell: `configure(with:)` is called on it again and again, while
completions of earlier calls are still to come.  A completion captures the cell, and the document
and the URL of its own `configure` call.

What a view shows is kept with the document it was made from (`Shown.source`), which no handler
reads, and so is the document of the last `configure` call (`Cell.current`).  What the disk cache
holds when a cell asks is left to the event, since other cells and the system write it too.
-/

namespace Whix

open Js

/-- A `QueryDocumentSnapshot` of the collection `post`. -/
structure QueryDocumentSnapshot where
  documentID : AutoId
  data : PostDoc

/-- What the cells use of the system and of their libraries, over the types of raw data and of
decoded images. -/
structure CellPlatform (Data Image : Type) where
  /-- whether `storage.reference(forURL:)` accepts the text, or else traps -/
  isReference : String → Bool
  /-- `UIImage(data:)` -/
  uiImage : Data → Option Image
  /-- whether `URL(string:)` accepts the text -/
  isURL : String → Bool
  /-- `formatter.string(from: timestamp.dateValue())` -/
  time : Timestamp → String

/-- What a view shows, with the document it was made from; what the storyboard put there has
none. -/
structure Shown (α : Type) where
  value : α
  source : Option AutoId

/-- An `AVPlayer` with its item. -/
structure AVPlayer (Data : Type) where
  currentItem : ℕ
  video : Shown Data
  isPlaying : Bool

/-- A `PlayerView`. -/
structure PlayerView (Data : Type) where
  alpha : ℕ
  player : Option (AVPlayer Data)

namespace PlayerView

variable {Data : Type} (v : PlayerView Data)

/-- `setVideoURL`: a new player, for a new item. -/
def setVideoURL (item : ℕ) (video : Shown Data) : PlayerView Data :=
  { v with player := some ⟨item, video, false⟩ }

/-- `clearVideo` -/
def clearVideo : PlayerView Data := { v with player := none }

/-- `play` -/
def play : PlayerView Data :=
  { v with player := v.player.map fun p => { p with isPlaying := true } }

/-- `pause` -/
def pause : PlayerView Data :=
  { v with player := v.player.map fun p => { p with isPlaying := false } }

section Frame

variable {β : Type} {f : AVPlayer Data → β}

/-- Playing and pausing change nothing about a player but whether it is playing. -/
lemma map_play (h : ∀ p isPlaying, f { p with isPlaying } = f p) :
    v.play.player.map f = v.player.map f := by
  simp only [play, Option.map_map, Function.comp_def, h]

@[inherit_doc map_play]
lemma map_pause (h : ∀ p isPlaying, f { p with isPlaying } = f p) :
    v.pause.player.map f = v.player.map f := by
  simp only [pause, Option.map_map, Function.comp_def, h]

end Frame

end PlayerView

/-- A storage download, with what its completion captures. -/
structure Download where
  doc : QueryDocumentSnapshot
  contentUrl : String

/-- A `PlayerCollectionViewCell`. -/
structure Cell (Data Image : Type) where
  current : Option QueryDocumentSnapshot
  usernameLabel : Option (Shown String)
  timestampLabel : Option (Shown String)
  /-- the picture in the avatar view, by its URL -/
  avatarView : Option (Shown String)
  imageView : Option (Shown Image)
  playerView : PlayerView Data
  /-- the user documents being fetched, by the posts they are for -/
  userFetches : List QueryDocumentSnapshot
  /-- the picture that `sd_setImage` is loading -/
  avatarLoad : Option (Shown String)
  downloads : List Download
  /-- the items whose end the cell observes -/
  observers : List ℕ
  /-- the next item -/
  nextItem : ℕ
  onScreen : Bool
  /-- the app has trapped -/
  trapped : Bool

/-- The outcome of fetching a user document. -/
inductive UserFetch where
  /-- an error, and no snapshot -/
  | error
  /-- the snapshot of a document that does not exist -/
  | missing
  /-- the snapshot of a user document -/
  | snapshot (user : UserDoc)

/-- What can happen to a cell. -/
inductive CellEvent (Data : Type) where
  /-- `configure(with:)`, when the disk cache holds `cached` for the document's content. -/
  | configure (doc : QueryDocumentSnapshot) (cached : Option Data)
  /-- A user document arrives, or not. -/
  | userFetched (i : ℕ) (outcome : UserFetch)
  /-- The avatar's picture arrives, or not. -/
  | avatarLoaded (success : Bool)
  /-- A download arrives, or fails. -/
  | downloaded (i : ℕ) (data : Option Data)
  | willDisplay
  | didEndDisplaying
  /-- The notification that an item has played to its end is delivered. -/
  | itemDidPlayToEnd (item : ℕ)

namespace Cell

variable {Data Image : Type}

/-- The cell as the storyboard has it. -/
def start : Cell Data Image where
  current := none
  usernameLabel := some ⟨"@aluxian", none⟩
  timestampLabel := some ⟨"Sat 5 Nov 5pm", none⟩
  avatarView := none
  imageView := none
  playerView := ⟨1, none⟩
  userFetches := []
  avatarLoad := none
  downloads := []
  observers := []
  nextItem := 0
  onScreen := false
  trapped := false

variable (F : CellPlatform Data Image) (c : Cell Data Image)

/-- A trap ends the app. -/
def trap : Cell Data Image := { c with trapped := true }

/-- Show an image that was downloaded or cached for `doc`. -/
def showImage (doc : QueryDocumentSnapshot) (data : Data) : Cell Data Image :=
  { c with imageView := (F.uiImage data).map fun image => ⟨image, some doc.documentID⟩ }

/-- Show a video that was downloaded or cached for `doc`, and observe its end. -/
def showVideo (doc : QueryDocumentSnapshot) (data : Data) : Cell Data Image :=
  { c with
    playerView :=
      { c.playerView with alpha := 1 }.setVideoURL c.nextItem ⟨data, some doc.documentID⟩
    observers := c.observers ++ [c.nextItem]
    nextItem := c.nextItem + 1 }

/-- The first lines of `configure(with:)`: the views are emptied. -/
def clear (doc : QueryDocumentSnapshot) : Cell Data Image :=
  { c with
    current := some doc
    imageView := none
    playerView := { c.playerView with alpha := 0 }.pause.clearVideo
    usernameLabel := none
    timestampLabel := none
    avatarView := none }

/-- The lines that start the user fetch and show the time. -/
def fetchUser (doc : QueryDocumentSnapshot) : Cell Data Image :=
  { c with
    userFetches := c.userFetches ++ [doc]
    timestampLabel :=
      some ⟨"University of Southampton " ++ F.time doc.data.date, some doc.documentID⟩ }

/-- The last lines: the content comes from the cache, or else a download is started. -/
def loadContent (doc : QueryDocumentSnapshot) (contentUrl : String) (cached : Option Data) :
    Cell Data Image :=
  match cached with
  | some retrievedData =>
      if Text.contains contentUrl ".jpg" then c.showImage F doc retrievedData
      else if Text.contains contentUrl ".mp4" then c.showVideo doc retrievedData
      else { c with downloads := c.downloads ++ [⟨doc, contentUrl⟩] }
  | none => { c with downloads := c.downloads ++ [⟨doc, contentUrl⟩] }

/-- `configure(with:)` -/
def configure (doc : QueryDocumentSnapshot) (cached : Option Data) : Cell Data Image :=
  match doc.data.content with
  | .string contentUrl =>
      if F.isReference contentUrl then
        ((c.clear doc).fetchUser F doc).loadContent F doc contentUrl cached
      else (c.clear doc).trap
  | _ => (c.clear doc).trap

/-- `sd_setImage(with: URL(string: url))` on the avatar view: it cancels its earlier request,
empties the view, and starts loading if there is a URL. -/
def setAvatar (doc : QueryDocumentSnapshot) (url : String) : Cell Data Image :=
  { c with
    avatarView := none
    avatarLoad := if F.isURL url then some ⟨url, some doc.documentID⟩ else none }

/-- The completion of the user fetch for `doc`.  Without a snapshot, or without data in it, a
forced unwrap fails. -/
def onUser (doc : QueryDocumentSnapshot) (outcome : UserFetch) : Cell Data Image :=
  match outcome with
  | .snapshot user =>
      { c.setAvatar F doc user.gravatar with
        usernameLabel := some ⟨"@" ++ user.username, some doc.documentID⟩ }
  | .error | .missing => c.trap

/-- The completion of the avatar load: a picture is shown, a failure leaves the view as it is. -/
def onAvatar (picture : Shown String) (success : Bool) : Cell Data Image :=
  if success then { c with avatarView := some picture, avatarLoad := none }
  else { c with avatarLoad := none }

/-- The completion of a download. -/
def onDownload (download : Download) (data : Option Data) : Cell Data Image :=
  match data with
  | none => c
  | some data =>
      let c :=
        if Text.contains download.contentUrl ".jpg" then c.showImage F download.doc data else c
      if Text.contains download.contentUrl ".mp4" then c.showVideo download.doc data else c

/-- The handler of `AVPlayerItemDidPlayToEndTime`: seek to the beginning and play. -/
def onItemEnd : Cell Data Image :=
  match c.playerView.player with
  | some _ => { c with playerView := c.playerView.play }
  | none => c.trap

/-! ### What a `configure` call and a completed download come to -/

/-- The four ways in which a `configure` call can end. -/
inductive ConfigureOutcome (doc : QueryDocumentSnapshot) (cached : Option Data) :
    Cell Data Image → Prop
  | trapped (h : ∀ contentUrl, doc.data.content = .string contentUrl →
        F.isReference contentUrl = false) :
      ConfigureOutcome doc cached (c.clear doc).trap
  | image {contentUrl data} (hcontent : doc.data.content = .string contentUrl)
      (href : F.isReference contentUrl = true) (hcached : cached = some data)
      (hjpg : Text.contains contentUrl ".jpg" = true) :
      ConfigureOutcome doc cached (((c.clear doc).fetchUser F doc).showImage F doc data)
  | video {contentUrl data} (hcontent : doc.data.content = .string contentUrl)
      (href : F.isReference contentUrl = true) (hcached : cached = some data)
      (hjpg : Text.contains contentUrl ".jpg" = false)
      (hmp4 : Text.contains contentUrl ".mp4" = true) :
      ConfigureOutcome doc cached (((c.clear doc).fetchUser F doc).showVideo doc data)
  | download {contentUrl} (hcontent : doc.data.content = .string contentUrl)
      (href : F.isReference contentUrl = true)
      (hneither : ∀ data, cached = some data → Text.contains contentUrl ".jpg" = false ∧
        Text.contains contentUrl ".mp4" = false) :
      ConfigureOutcome doc cached
        { (c.clear doc).fetchUser F doc with downloads := c.downloads ++ [⟨doc, contentUrl⟩] }

lemma configure_outcome (doc : QueryDocumentSnapshot) (cached : Option Data) :
    ConfigureOutcome F c doc cached (c.configure F doc cached) := by
  unfold configure
  split
  · rename_i contentUrl hcontent
    split
    · rename_i href
      unfold loadContent
      split
      · split
        · exact .image hcontent href rfl ‹_›
        · rename_i hjpg
          rw [Bool.not_eq_true] at hjpg
          split
          · exact .video hcontent href rfl hjpg ‹_›
          · rename_i hmp4
            rw [Bool.not_eq_true] at hmp4
            exact .download hcontent href fun _ _ => ⟨hjpg, hmp4⟩
      · exact .download hcontent href (by simp)
    · rename_i href
      rw [Bool.not_eq_true] at href
      refine .trapped fun contentUrl' hcontent' => ?_
      obtain rfl := Value.string.inj (hcontent.symm.trans hcontent')
      exact href
  · rename_i hcontent
    exact .trapped fun contentUrl hcontent' => absurd hcontent' (hcontent contentUrl)

/-- What the completion of a download can show. -/
inductive DownloadOutcome (download : Download) : Option Data → Cell Data Image → Prop
  | nothing {data} (h : data ≠ none → Text.contains download.contentUrl ".jpg" = false ∧
        Text.contains download.contentUrl ".mp4" = false) :
      DownloadOutcome download data c
  | image {data} (hjpg : Text.contains download.contentUrl ".jpg" = true)
      (hmp4 : Text.contains download.contentUrl ".mp4" = false) :
      DownloadOutcome download (some data) (c.showImage F download.doc data)
  | video {data} (hjpg : Text.contains download.contentUrl ".jpg" = false)
      (hmp4 : Text.contains download.contentUrl ".mp4" = true) :
      DownloadOutcome download (some data) (c.showVideo download.doc data)
  | both {data} (hjpg : Text.contains download.contentUrl ".jpg" = true)
      (hmp4 : Text.contains download.contentUrl ".mp4" = true) :
      DownloadOutcome download (some data)
        ((c.showImage F download.doc data).showVideo download.doc data)

lemma download_outcome (download : Download) (data : Option Data) :
    DownloadOutcome F c download data (c.onDownload F download data) := by
  unfold onDownload
  split
  · exact .nothing (by simp)
  · by_cases hjpg : Text.contains download.contentUrl ".jpg" = true
    · by_cases hmp4 : Text.contains download.contentUrl ".mp4" = true
      · simpa only [hjpg, hmp4, if_true] using .both hjpg hmp4
      · rw [Bool.not_eq_true] at hmp4
        simpa only [hjpg, hmp4, if_true] using .image hjpg hmp4
    · rw [Bool.not_eq_true] at hjpg
      by_cases hmp4 : Text.contains download.contentUrl ".mp4" = true
      · simpa only [hjpg, hmp4, if_true] using .video hjpg hmp4
      · rw [Bool.not_eq_true] at hmp4
        simpa only [hjpg, hmp4] using .nothing fun _ => ⟨hjpg, hmp4⟩

/-- `configure(with:)` traps on content that is no text, or not one of a reference. -/
lemma configure_trapped_iff (htrapped : c.trapped = false) (doc : QueryDocumentSnapshot)
    (cached : Option Data) :
    (c.configure F doc cached).trapped = false ↔
      ∃ contentUrl, doc.data.content = .string contentUrl ∧ F.isReference contentUrl = true := by
  have houtcome := c.configure_outcome F doc cached
  generalize c.configure F doc cached = t at houtcome ⊢
  cases houtcome with
  | trapped hnot =>
      refine iff_of_false (by simp [trap]) ?_
      rintro ⟨contentUrl, hcontent, href⟩
      rw [hnot contentUrl hcontent] at href
      simp at href
  | image hcontent href => exact iff_of_true htrapped ⟨_, hcontent, href⟩
  | video hcontent href => exact iff_of_true htrapped ⟨_, hcontent, href⟩
  | download hcontent href => exact iff_of_true htrapped ⟨_, hcontent, href⟩

@[simp] lemma onDownload_current (download : Download) (data : Option Data) :
    (c.onDownload F download data).current = c.current := by
  have houtcome := c.download_outcome F download data
  generalize c.onDownload F download data = t at houtcome ⊢
  cases houtcome <;> rfl

@[simp] lemma onDownload_trapped (download : Download) (data : Option Data) :
    (c.onDownload F download data).trapped = c.trapped := by
  have houtcome := c.download_outcome F download data
  generalize c.onDownload F download data = t at houtcome ⊢
  cases houtcome <;> rfl

end Cell

/-- One step of a cell, as long as the app has not trapped. -/
def cellStep {Data Image : Type} (F : CellPlatform Data Image) (c : Cell Data Image)
    (e : CellEvent Data) : Option (Cell Data Image) :=
  if c.trapped then none else
    match e with
    | .configure doc cached => some (c.configure F doc cached)
    | .userFetched i outcome => do
        let doc ← c.userFetches[i]?
        return { c with userFetches := c.userFetches.eraseIdx i }.onUser F doc outcome
    | .avatarLoaded success => do
        let picture ← c.avatarLoad
        return c.onAvatar picture success
    | .downloaded i data => do
        let download ← c.downloads[i]?
        return { c with downloads := c.downloads.eraseIdx i }.onDownload F download data
    | .willDisplay => some { c with playerView := c.playerView.play, onScreen := true }
    | .didEndDisplaying => some { c with playerView := c.playerView.pause, onScreen := false }
    | .itemDidPlayToEnd item => if item ∈ c.observers then some c.onItemEnd else none

/-- What one step does, by its event. -/
inductive CellEffect {Data Image : Type} (F : CellPlatform Data Image) (c : Cell Data Image) :
    CellEvent Data → Cell Data Image → Prop
  | configure {doc cached} : CellEffect F c (.configure doc cached) (c.configure F doc cached)
  | userFetched {i outcome doc} (hdoc : c.userFetches[i]? = some doc) :
      CellEffect F c (.userFetched i outcome)
        ({ c with userFetches := c.userFetches.eraseIdx i }.onUser F doc outcome)
  | avatarLoaded {success picture} (hpicture : c.avatarLoad = some picture) :
      CellEffect F c (.avatarLoaded success) (c.onAvatar picture success)
  | downloaded {i data download} (hdownload : c.downloads[i]? = some download) :
      CellEffect F c (.downloaded i data)
        ({ c with downloads := c.downloads.eraseIdx i }.onDownload F download data)
  | willDisplay :
      CellEffect F c .willDisplay { c with playerView := c.playerView.play, onScreen := true }
  | didEndDisplaying :
      CellEffect F c .didEndDisplaying
        { c with playerView := c.playerView.pause, onScreen := false }
  | itemDidPlayToEnd {item} (hitem : item ∈ c.observers) :
      CellEffect F c (.itemDidPlayToEnd item) c.onItemEnd

lemma cell_effect {Data Image : Type} {F : CellPlatform Data Image} {c t : Cell Data Image}
    {e : CellEvent Data} (h : cellStep F c e = some t) :
    c.trapped = false ∧ CellEffect F c e t := by
  unfold cellStep at h
  split at h
  · simp at h
  rename_i htrapped
  refine ⟨Bool.not_eq_true _ ▸ htrapped, ?_⟩
  cases e with
  | configure doc cached => exact Option.some.inj h ▸ .configure
  | userFetched i outcome =>
      obtain ⟨doc, hdoc, h⟩ := Option.bind_eq_some_iff.mp h
      exact Option.some.inj h ▸ .userFetched hdoc
  | avatarLoaded success =>
      obtain ⟨picture, hpicture, h⟩ := Option.bind_eq_some_iff.mp h
      exact Option.some.inj h ▸ .avatarLoaded hpicture
  | downloaded i data =>
      obtain ⟨download, hdownload, h⟩ := Option.bind_eq_some_iff.mp h
      exact Option.some.inj h ▸ .downloaded hdownload
  | willDisplay => exact Option.some.inj h ▸ .willDisplay
  | didEndDisplaying => exact Option.some.inj h ▸ .didEndDisplaying
  | itemDidPlayToEnd item =>
      simp only [Option.ite_none_right_eq_some] at h
      exact Option.some.inj h.2 ▸ .itemDidPlayToEnd h.1

/-- A run that begins with a `configure` call. -/
lemma run_configure {Data Image : Type} {F : CellPlatform Data Image} {c t : Cell Data Image}
    {doc : QueryDocumentSnapshot} {cached : Option Data} {es : List (CellEvent Data)}
    (h : Runs.run (cellStep F) c (.configure doc cached :: es) = some t) :
    c.trapped = false ∧ Runs.run (cellStep F) (c.configure F doc cached) es = some t := by
  rw [Runs.run_cons, Option.bind_eq_some_iff] at h
  obtain ⟨u, hconfigure, hes⟩ := h
  obtain ⟨htrapped, heffect⟩ := cell_effect hconfigure
  cases heffect with
  | configure => exact ⟨htrapped, hes⟩

end Whix
