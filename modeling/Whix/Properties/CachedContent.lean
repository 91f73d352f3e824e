import Whix.Properties.FeedCell

/-!
# Cached and downloaded content

`configure(with:)` shows the content at once if the disk cache has it, and else starts a download
whose completion shows it.  The two paths are copies of each other with two differences.  The
cached one returns as soon as it has shown something, so of a text that contains both `.jpg` and
`.mp4` it shows the image only.  And playback is started by `willDisplay`, which comes for nothing
if the video is not there yet.

`cached_downloaded_iff` says exactly when the two show the same thing, whatever the order in which
the download completes among the display events.
-/

namespace Whix

open Js Runs

variable {Data Image : Type} {F : CellPlatform Data Image}

/-- What can be seen of the content. -/
structure Observed (Data Image : Type) where
  image : Option (Shown Image)
  playerAlpha : ℕ
  /-- the video loaded, and whether it is playing -/
  video : Option (Shown Data × Bool)

/-- What can be seen of a cell's content. -/
def Cell.observed (c : Cell Data Image) : Observed Data Image where
  image := c.imageView
  playerAlpha := c.playerView.alpha
  video := c.playerView.player.map fun p => (p.video, p.isPlaying)

/-- What the collection view tells a cell. -/
inductive Display where
  | willDisplay
  | didEndDisplaying
  deriving DecidableEq

/-- The display event that an event is. -/
def CellEvent.display : CellEvent Data → Option Display
  | .willDisplay => some .willDisplay
  | .didEndDisplaying => some .didEndDisplaying
  | _ => none

/-- The display events among the events. -/
def displays (es : List (CellEvent Data)) : List Display := es.filterMap CellEvent.display

/-- An event of the cell's other work: it is displayed or not, and its user document and avatar
arrive or not. -/
def CellEvent.IsBackground : CellEvent Data → Prop
  | .willDisplay | .didEndDisplaying | .userFetched .. | .avatarLoaded _ => True
  | _ => False

/-- The event is a download's completion. -/
def CellEvent.IsDownloaded : CellEvent Data → Prop
  | .downloaded .. => True
  | _ => False

namespace Observed

variable (o : Observed Data Image)

/-- What a display event changes. -/
def onDisplay (display : Display) : Observed Data Image :=
  { o with video := o.video.map fun v => (v.1, display = .willDisplay) }

/-- What display events change. -/
def onDisplays (events : List Display) : Observed Data Image := events.foldl onDisplay o

@[simp] lemma onDisplays_nil : o.onDisplays [] = o := rfl

lemma onDisplays_append (events events' : List Display) :
    o.onDisplays (events ++ events') = (o.onDisplays events).onDisplays events' :=
  List.foldl_append

/-- The last display event decides. -/
lemma onDisplays_snoc (events : List Display) (display : Display) :
    o.onDisplays (events ++ [display]) = o.onDisplay display := by
  induction events generalizing o with
  | nil => rfl
  | cons first events ih =>
      calc o.onDisplays (first :: events ++ [display])
          = (o.onDisplay first).onDisplays (events ++ [display]) := rfl
        _ = (o.onDisplay first).onDisplay display := ih _
        _ = o.onDisplay display := by simp [onDisplay, Function.comp_def]

@[simp] lemma onDisplays_playerAlpha (events : List Display) :
    (o.onDisplays events).playerAlpha = o.playerAlpha := by
  induction events using List.reverseRecOn with
  | nil => rfl
  | append_singleton events display ih => rw [onDisplays_snoc, onDisplay]

/-- Without a video nothing changes. -/
lemma onDisplays_of_video_none (h : o.video = none) (events : List Display) :
    o.onDisplays events = o := by
  induction events with
  | nil => rfl
  | cons display events ih =>
      have hsame : o.onDisplay display = o := by
        rw [onDisplay, h, Option.map_none, ← h]
      rw [onDisplays, List.foldl_cons, hsame]
      exact ih

/-- A paused video that comes late is played like one that was there from the beginning, unless
the cell was on screen and nothing follows. -/
lemma onDisplays_late_iff {video : Shown Data} (h : o.video = some (video, false))
    (early late : List Display) :
    o.onDisplays (early ++ late) = o.onDisplays late ↔
      (late = [] → early.getLast? ≠ some .willDisplay) := by
  rcases late.eq_nil_or_concat' with rfl | ⟨late, display, rfl⟩
  · rw [List.append_nil, onDisplays_nil, forall_prop_of_true rfl]
    rcases early.eq_nil_or_concat' with rfl | ⟨early, display, rfl⟩
    · exact iff_of_true rfl (by simp)
    · rw [onDisplays_snoc, List.getLast?_concat]
      constructor
      · intro hsame hdisplay
        obtain rfl := Option.some.inj hdisplay
        have hvideo := congrArg Observed.video hsame
        simp [onDisplay, h] at hvideo
      · intro hdisplay
        have hnot : display ≠ .willDisplay := fun heq => hdisplay (congrArg some heq)
        rw [onDisplay, h, Option.map_some, decide_eq_false hnot, ← h]
  · rw [← List.append_assoc, onDisplays_snoc, onDisplays_snoc]
    exact iff_of_true rfl (by simp)

end Observed

/-! ## Events beside the download -/

section Step

variable {c t : Cell Data Image} {e : CellEvent Data}

lemma observed_play (c : Cell Data Image) (onScreen : Bool) :
    Cell.observed { c with playerView := c.playerView.play, onScreen := onScreen } =
      c.observed.onDisplay .willDisplay := by
  simp [Cell.observed, Observed.onDisplay, PlayerView.play, Function.comp_def]

lemma observed_pause (c : Cell Data Image) (onScreen : Bool) :
    Cell.observed { c with playerView := c.playerView.pause, onScreen := onScreen } =
      c.observed.onDisplay .didEndDisplaying := by
  simp [Cell.observed, Observed.onDisplay, PlayerView.pause, Function.comp_def]

/-- The cell's other work changes what can be seen as its display events do, and no downloads. -/
lemma observed_background (he : e.IsBackground) (hstep : cellStep F c e = some t) :
    t.observed = c.observed.onDisplays (displays [e]) ∧ t.downloads = c.downloads := by
  obtain ⟨-, heffect⟩ := cell_effect hstep
  cases heffect with
  | configure => exact he.elim
  | @userFetched i outcome doc hdoc => cases outcome <;> exact ⟨rfl, rfl⟩
  | @avatarLoaded success picture hpicture => cases success <;> exact ⟨rfl, rfl⟩
  | downloaded => exact he.elim
  | willDisplay => exact ⟨observed_play c true, rfl⟩
  | didEndDisplaying => exact ⟨observed_pause c false, rfl⟩
  | itemDidPlayToEnd => exact he.elim

/-- A download of anything else than an image or a video changes nothing that can be seen. -/
lemma observed_downloaded {i : ℕ} {data : Option Data}
    (hnone : ∀ download ∈ c.downloads, Text.contains download.contentUrl ".jpg" = false ∧
      Text.contains download.contentUrl ".mp4" = false)
    (hstep : cellStep F c (.downloaded i data) = some t) :
    t.observed = c.observed ∧ ∀ download ∈ t.downloads, download ∈ c.downloads := by
  obtain ⟨-, heffect⟩ := cell_effect hstep
  cases heffect with
  | downloaded hdownload =>
      obtain ⟨hjpg, hmp4⟩ := hnone _ (List.mem_of_getElem? hdownload)
      cases data with
      | none => exact ⟨rfl, fun _ => List.mem_of_mem_eraseIdx⟩
      | some data =>
          simp only [Cell.onDownload, hjpg, hmp4, Bool.false_eq_true, if_false]
          exact ⟨rfl, fun _ => List.mem_of_mem_eraseIdx⟩

end Step

/-! ## Runs -/

lemma displays_append (es es' : List (CellEvent Data)) :
    displays (es ++ es') = displays es ++ displays es' :=
  List.filterMap_append

/-- Through the cell's other work. -/
lemma observed_run_background {c t : Cell Data Image} {es : List (CellEvent Data)}
    (hes : ∀ e ∈ es, e.IsBackground) (h : run (cellStep F) c es = some t) :
    t.observed = c.observed.onDisplays (displays es) ∧ t.downloads = c.downloads := by
  refine history_run (J := fun es t => t.observed = c.observed.onDisplays (displays es) ∧
    t.downloads = c.downloads) ⟨rfl, rfl⟩ ?_ h
  rintro pre e u u' hpre ⟨hobserved, hdownloads⟩ hstep
  obtain ⟨hobserved', hdownloads'⟩ := observed_background (hes e (hpre.subset (by simp))) hstep
  rw [displays_append, Observed.onDisplays_append, ← hobserved]
  exact ⟨hobserved', hdownloads'.trans hdownloads⟩

/-- Through the cell's other work and downloads of anything else than images and videos. -/
lemma observed_run_settled {c t : Cell Data Image} {es : List (CellEvent Data)}
    (hes : ∀ e ∈ es, e.IsBackground ∨ e.IsDownloaded)
    (hnone : ∀ download ∈ c.downloads, Text.contains download.contentUrl ".jpg" = false ∧
      Text.contains download.contentUrl ".mp4" = false)
    (h : run (cellStep F) c es = some t) :
    t.observed = c.observed.onDisplays (displays es) ∧
      ∀ download ∈ t.downloads, download ∈ c.downloads := by
  refine history_run (J := fun es t => t.observed = c.observed.onDisplays (displays es) ∧
    ∀ download ∈ t.downloads, download ∈ c.downloads) ⟨rfl, fun _ => id⟩ ?_ h
  rintro pre e u u' hpre ⟨hobserved, hdownloads⟩ hstep
  rw [displays_append, Observed.onDisplays_append, ← hobserved]
  rcases hes e (hpre.subset (by simp)) with he | he
  · obtain ⟨hobserved', hdownloads'⟩ := observed_background he hstep
    exact ⟨hobserved', hdownloads' ▸ hdownloads⟩
  · cases e with
    | downloaded i data =>
        obtain ⟨hobserved', hdownloads'⟩ :=
          observed_downloaded (fun download hmem => hnone download (hdownloads download hmem)) hstep
        exact ⟨hobserved', fun download hmem => hdownloads download (hdownloads' download hmem)⟩
    | _ => exact he.elim

/-! ## The two paths -/

/-- A cell whose content is gone. -/
def Observed.cleared : Observed Data Image := ⟨none, 0, none⟩

/-- The image of the downloaded or cached bytes is shown. -/
def Observed.showImage (F : CellPlatform Data Image) (doc : QueryDocumentSnapshot) (data : Data)
    (o : Observed Data Image) : Observed Data Image :=
  { o with image := (F.uiImage data).map fun image => ⟨image, some doc.documentID⟩ }

/-- The video of the downloaded or cached bytes is shown, paused. -/
def Observed.showVideo (doc : QueryDocumentSnapshot) (data : Data) (o : Observed Data Image) :
    Observed Data Image :=
  { o with playerAlpha := 1, video := some (⟨data, some doc.documentID⟩, false) }

section Paths

variable {c t : Cell Data Image} {doc : QueryDocumentSnapshot} {contentUrl : String}

/-- If anything follows a `configure` call, then it has not trapped. -/
lemma isReference_of_run {cached : Option Data} {es : List (CellEvent Data)} (hne : es ≠ [])
    (htrapped : c.trapped = false) (hcontent : doc.data.content = .string contentUrl)
    (h : run (cellStep F) (c.configure F doc cached) es = some t) :
    F.isReference contentUrl = true := by
  obtain ⟨e, es, rfl⟩ := List.exists_cons_of_ne_nil hne
  rw [run_cons, Option.bind_eq_some_iff] at h
  obtain ⟨u, hstep, -⟩ := h
  obtain ⟨contentUrl', hcontent', href⟩ :=
    (c.configure_trapped_iff F htrapped doc cached).mp (cell_effect hstep).1
  obtain rfl := Value.string.inj (hcontent.symm.trans hcontent')
  exact href

/-- Nothing cached: a download is started. -/
lemma observed_configure_none (hcontent : doc.data.content = .string contentUrl)
    (href : F.isReference contentUrl = true) :
    (c.configure F doc none).observed = .cleared ∧
      (c.configure F doc none).downloads = c.downloads ++ [⟨doc, contentUrl⟩] := by
  simp only [Cell.configure, hcontent, href, if_true]
  exact ⟨rfl, rfl⟩

/-- Cached: the content is shown at once, the image of it if it is both. -/
lemma observed_configure_cached (hcontent : doc.data.content = .string contentUrl)
    (href : F.isReference contentUrl = true) (data : Data) :
    (c.configure F doc (some data)).observed =
      if Text.contains contentUrl ".jpg" then Observed.cleared.showImage F doc data
      else if Text.contains contentUrl ".mp4" then Observed.cleared.showVideo doc data
      else .cleared := by
  simp only [Cell.configure, hcontent, href, if_true, Cell.loadContent]
  split
  · rfl
  · split <;> rfl

/-- Cached: only content that is neither an image nor a video is downloaded all the same. -/
lemma downloads_configure_cached (hidle : c.downloads = []) (data : Data) :
    ∀ download ∈ (c.configure F doc (some data)).downloads,
      Text.contains download.contentUrl ".jpg" = false ∧
        Text.contains download.contentUrl ".mp4" = false := by
  have hclear : (c.clear doc).downloads = [] := hidle
  have houtcome := c.configure_outcome F doc (some data)
  generalize c.configure F doc (some data) = t at houtcome ⊢
  cases houtcome with
  | trapped => simp [Cell.trap, hclear]
  | image => simp [Cell.showImage, Cell.fetchUser, hclear]
  | video => simp [Cell.showVideo, Cell.fetchUser, hclear]
  | download hcontent href hneither => simpa [hidle] using hneither data rfl

/-- The download completes: the image is shown, and the video too if it is both. -/
lemma observed_onDownload (download : Download) (data : Data) :
    (c.onDownload F download (some data)).observed =
      let o := if Text.contains download.contentUrl ".jpg" then
        c.observed.showImage F download.doc data else c.observed
      if Text.contains download.contentUrl ".mp4" then o.showVideo download.doc data else o := by
  unfold Cell.onDownload
  dsimp only
  split <;> split <;> rfl

/-- What the cell shows at the end of the cached path. -/
lemma observed_cached {data : Data} {es : List (CellEvent Data)} (hidle : c.downloads = [])
    (hcontent : doc.data.content = .string contentUrl) (href : F.isReference contentUrl = true)
    (hes : ∀ e ∈ es, e.IsBackground ∨ e.IsDownloaded)
    (h : run (cellStep F) c (.configure doc (some data) :: es) = some t) :
    t.observed =
      (if Text.contains contentUrl ".jpg" then Observed.cleared.showImage F doc data
        else if Text.contains contentUrl ".mp4" then Observed.cleared.showVideo doc data
        else .cleared).onDisplays (displays es) := by
  have hrun := (run_configure h).2
  have hsettled := observed_run_settled hes (downloads_configure_cached hidle data) hrun
  rw [hsettled.1, observed_configure_cached hcontent href]

/-- What the cell shows at the end of the path through the download. -/
lemma observed_downloaded_path {data : Data} {before after : List (CellEvent Data)}
    (hidle : c.downloads = []) (hcontent : doc.data.content = .string contentUrl)
    (href : F.isReference contentUrl = true) (hbefore : ∀ e ∈ before, e.IsBackground)
    (hafter : ∀ e ∈ after, e.IsBackground)
    (h : run (cellStep F) (c.configure F doc none) (before ++ .downloaded 0 (some data) :: after) =
      some t) :
    t.observed =
      (let o := if Text.contains contentUrl ".jpg" then Observed.cleared.showImage F doc data
        else .cleared
      if Text.contains contentUrl ".mp4" then o.showVideo doc data else o).onDisplays
        (displays after) := by
  obtain ⟨hcleared, hdownloads⟩ := observed_configure_none (c := c) hcontent href
  rw [run_append, Option.bind_eq_some_iff] at h
  obtain ⟨u, hu, h⟩ := h
  obtain ⟨huobserved, hudownloads⟩ := observed_run_background hbefore hu
  rw [hcleared, Observed.onDisplays_of_video_none _ rfl] at huobserved
  rw [hdownloads, hidle, List.nil_append] at hudownloads
  rw [run_cons, Option.bind_eq_some_iff] at h
  obtain ⟨v, hv, h⟩ := h
  rw [(observed_run_background hafter h).1]
  obtain ⟨-, heffect⟩ := cell_effect hv
  cases heffect with
  | @downloaded i data download hdownload =>
      obtain rfl : Download.mk doc contentUrl = download := by
        simpa [hudownloads] using hdownload
      have herased : Cell.observed { u with downloads := u.downloads.eraseIdx 0 } = .cleared :=
        huobserved
      rw [observed_onDownload, herased]

end Paths

/-- The text is not taken for a video; or it is not taken for an image too, and the download does
not complete after the last display event while the cell is on screen. -/
def ShowsSame (contentUrl : String) (before after : List (CellEvent Data)) : Prop :=
  Text.contains contentUrl ".mp4" = true →
    Text.contains contentUrl ".jpg" = false ∧
      (displays after = [] → (displays before).getLast? ≠ some .willDisplay)

/-- **Cached and downloaded, exactly.**  An idle cell is configured with a document, once with the
bytes in the cache and once without, and the same display events follow.  Once the download has
completed with the same bytes, the two cells show the same content if and only if the text is not
taken for a video, or not for an image too and the completion did not come too late to be played
by the display events. -/
theorem cached_downloaded_iff {c cached downloaded : Cell Data Image}
    {doc : QueryDocumentSnapshot} {contentUrl : String} {data : Data}
    {es before after : List (CellEvent Data)} (hidle : c.downloads = [])
    (hcontent : doc.data.content = .string contentUrl)
    (hes : ∀ e ∈ es, e.IsBackground ∨ e.IsDownloaded)
    (hbefore : ∀ e ∈ before, e.IsBackground) (hafter : ∀ e ∈ after, e.IsBackground)
    (hdisplays : displays es = displays (before ++ after))
    (hcached : run (cellStep F) c (.configure doc (some data) :: es) = some cached)
    (hdownloaded : run (cellStep F) c
      (.configure doc none :: before ++ .downloaded 0 (some data) :: after) = some downloaded) :
    cached.observed = downloaded.observed ↔ ShowsSame contentUrl before after := by
  obtain ⟨htrapped, hdownloaded'⟩ := run_configure hdownloaded
  have href := isReference_of_run (by simp) htrapped hcontent hdownloaded'
  rw [observed_cached hidle hcontent href hes hcached,
    observed_downloaded_path hidle hcontent href hbefore hafter hdownloaded', ShowsSame,
    hdisplays, displays_append]
  by_cases hmp4 : Text.contains contentUrl ".mp4" = true
  · by_cases hjpg : Text.contains contentUrl ".jpg" = true
    · -- the image alone on one path, the image and the video on the other
      simp only [hmp4, hjpg, if_true]
      refine iff_of_false (fun hsame => ?_) (by simp)
      have halpha := congrArg Observed.playerAlpha hsame
      simp [Observed.showImage, Observed.showVideo, Observed.cleared] at halpha
    · simp only [hmp4, hjpg, if_true, Bool.false_eq_true, if_false, true_implies, true_and]
      exact Observed.onDisplays_late_iff _ rfl _ _
  · refine iff_of_true ?_ (fun h => absurd h hmp4)
    by_cases hjpg : Text.contains contentUrl ".jpg" = true
    · simp only [hmp4, hjpg, if_true, Bool.false_eq_true, if_false]
      rw [Observed.onDisplays_of_video_none _ rfl, Observed.onDisplays_of_video_none _ rfl]
    · simp only [hmp4, hjpg, Bool.false_eq_true, if_false]
      rw [Observed.onDisplays_of_video_none _ rfl, Observed.onDisplays_of_video_none _ rfl]

/-! ## A video that arrives on screen -/

/-- A post with a video. -/
def videoPost : QueryDocumentSnapshot := photoPost idA "gs://whix-app.appspot.com/a.mp4" idA

/-- The video is in the cache, and the cell comes on screen. -/
def cachedVideo : Execution (cellStep .plain) Cell.start :=
  .ofEvents _ [.configure videoPost (some [0]), .willDisplay] rfl

/-- The video is downloaded before the cell comes on screen. -/
def earlyVideo : Execution (cellStep .plain) Cell.start :=
  .ofEvents _ [.configure videoPost none, .downloaded 0 (some [0]), .willDisplay] rfl

/-- The video is downloaded when the cell is on screen. -/
def lateVideo : Execution (cellStep .plain) Cell.start :=
  .ofEvents _ [.configure videoPost none, .willDisplay, .downloaded 0 (some [0])] rfl

/-- Before the cell comes on screen, the download makes no difference. -/
theorem early_video_same : cachedVideo.final.observed = earlyVideo.final.observed := by
  have hnone : ∀ e ∈ ([] : List (CellEvent (List UInt8))), e.IsBackground := by simp
  have hdisplay : ∀ e ∈ [(.willDisplay : CellEvent (List UInt8))], e.IsBackground := by
    simp [CellEvent.IsBackground]
  have hsame := cached_downloaded_iff rfl rfl (fun e he => Or.inl (hdisplay e he)) hnone hdisplay
    rfl cachedVideo.ran earlyVideo.ran
  exact hsame.mpr fun _ => ⟨by decide, by simp [displays, CellEvent.display]⟩

/-- A video that is downloaded on screen stands still. -/
theorem late_video_differs :
    ¬ ∀ (c cached downloaded : Cell (List UInt8) (List UInt8)) (doc : QueryDocumentSnapshot)
      (contentUrl : String) (data : List UInt8) (es before after : List (CellEvent (List UInt8))),
      c.downloads = [] → doc.data.content = .string contentUrl →
      (∀ e ∈ es, e.IsBackground ∨ e.IsDownloaded) → (∀ e ∈ before, e.IsBackground) →
      (∀ e ∈ after, e.IsBackground) → displays es = displays (before ++ after) →
      run (cellStep .plain) c (.configure doc (some data) :: es) = some cached →
      run (cellStep .plain) c
        (.configure doc none :: before ++ .downloaded 0 (some data) :: after) = some downloaded →
      cached.observed = downloaded.observed := by
  intro h
  have hdisplay : ∀ e ∈ [(.willDisplay : CellEvent (List UInt8))], e.IsBackground := by
    simp [CellEvent.IsBackground]
  have hsame := h Cell.start cachedVideo.final lateVideo.final videoPost _ [0] [.willDisplay]
    [.willDisplay] [] rfl rfl (fun e he => Or.inl (hdisplay e he)) hdisplay (by simp) rfl
    cachedVideo.ran lateVideo.ran
  have hplaying : cachedVideo.final.observed.video.map Prod.snd =
      lateVideo.final.observed.video.map Prod.snd := by rw [hsame]
  exact absurd hplaying (by decide +kernel)

end Whix
