import Whix.Backend.Server
import Whix.Client.Cell

/-!
# A recycled cell and the document it is configured with

Each view of a cell should be empty or show something made from the document of the last
`configure` call (`ShowsCurrent`).  A completion does not look which document the cell has by then,
so one that arrives after the cell was configured with another document puts the old document's
data into it (`shows_other_document`).

`cell_fresh_iff` is exact: whatever the order of events, the views are right throughout a run
exactly when every completion that shows something arrives in time.
-/

namespace Whix

open Js Runs

variable {Data Image : Type} {F : CellPlatform Data Image}

/-- What a view shows was made from this document. -/
def From {α : Type} (id : AutoId) (view : Option (Shown α)) : Prop :=
  ∀ shown, view = some shown → shown.source = some id

/-- The username label, the avatar, the image and the player's video are each empty or made from
this document. -/
structure ShowsOnly (c : Cell Data Image) (id : AutoId) : Prop where
  username : From id c.usernameLabel
  avatar : From id c.avatarView
  image : From id c.imageView
  video : From id (c.playerView.player.map AVPlayer.video)

/-- The cell shows nothing but data of the document it was last configured with. -/
def ShowsCurrent (c : Cell Data Image) : Prop :=
  ∀ doc, c.current = some doc → ShowsOnly c doc.documentID

/-- The cell was last configured with the document of this identifier, if it was configured. -/
def IsCurrent (c : Cell Data Image) (source : Option AutoId) : Prop :=
  ∀ doc, c.current = some doc → source = some doc.documentID

/-- Does the download's completion show these data? -/
def Renders (F : CellPlatform Data Image) (contentUrl : String) (data : Data) : Prop :=
  (Text.contains contentUrl ".jpg" = true ∧ F.uiImage data ≠ none) ∨
    Text.contains contentUrl ".mp4" = true

/-- If the event is a completion that shows something, then the cell still has its document. -/
def InTime (F : CellPlatform Data Image) (c : Cell Data Image) : CellEvent Data → Prop
  | .userFetched i (.snapshot _) =>
      ∀ doc, c.userFetches[i]? = some doc → IsCurrent c (some doc.documentID)
  | .avatarLoaded true => ∀ picture, c.avatarLoad = some picture → IsCurrent c picture.source
  | .downloaded i (some data) => ∀ download, c.downloads[i]? = some download →
      Renders F download.contentUrl data → IsCurrent c (some download.doc.documentID)
  | _ => True

/-! ## One step -/

@[simp] lemma from_none {α : Type} (id : AutoId) : From id (none : Option (Shown α)) := by
  simp [From]

@[simp] lemma from_some {α : Type} (id : AutoId) (shown : Shown α) :
    From id (some shown) ↔ shown.source = some id := by
  simp [From]

section Show

variable {c : Cell Data Image} {doc : QueryDocumentSnapshot}

lemma showsOnly_clear (c : Cell Data Image) (doc : QueryDocumentSnapshot) :
    ShowsOnly (c.clear doc) doc.documentID :=
  ⟨from_none _, from_none _, from_none _, from_none _⟩

lemma showsOnly_showImage_iff {id : AutoId} (h : ShowsOnly c id) (data : Data) :
    ShowsOnly (c.showImage F doc data) id ↔
      (F.uiImage data ≠ none → some doc.documentID = some id) := by
  constructor
  · intro h' hdecodes
    obtain ⟨image, himage⟩ := Option.ne_none_iff_exists'.mp hdecodes
    exact h'.image ⟨image, _⟩ (by simp [Cell.showImage, himage])
  · intro hid
    refine ⟨h.username, h.avatar, ?_, h.video⟩
    intro shown hshown
    obtain ⟨image, himage, rfl⟩ := Option.map_eq_some_iff.mp hshown
    exact hid (by simp [himage])

lemma showsOnly_showVideo_iff {id : AutoId} (h : ShowsOnly c id) (data : Data) :
    ShowsOnly (c.showVideo doc data) id ↔ some doc.documentID = some id := by
  constructor
  · intro h'
    exact h'.video ⟨data, _⟩ rfl
  · intro hid
    refine ⟨h.username, h.avatar, h.image, ?_⟩
    simpa [Cell.showVideo, PlayerView.setVideoURL] using hid

/-- A download's completion shows what it renders. -/
lemma showsOnly_onDownload_iff {download : Download} {id : AutoId} (h : ShowsOnly c id)
    (data : Data) :
    ShowsOnly (c.onDownload F download (some data)) id ↔
      (Renders F download.contentUrl data → some download.doc.documentID = some id) := by
  unfold Cell.onDownload Renders
  by_cases hjpg : Text.contains download.contentUrl ".jpg" = true <;>
    by_cases hmp4 : Text.contains download.contentUrl ".mp4" = true <;>
    simp only [hjpg, hmp4, if_true, true_and, or_true, true_implies, or_false, false_and,
      false_implies, iff_true, if_false, Bool.false_eq_true]
  · constructor
    · intro h'
      exact h'.video ⟨data, _⟩ rfl
    · intro hid
      have himage := (showsOnly_showImage_iff (F := F) h data).mpr fun _ => hid
      exact (showsOnly_showVideo_iff himage data).mpr hid
  · exact showsOnly_showImage_iff h data
  · exact showsOnly_showVideo_iff h data
  · exact h

end Show

/-- Views that stay as they are stay right. -/
lemma ShowsCurrent.of_views {c t : Cell Data Image} (h : ShowsCurrent c)
    (hcurrent : t.current = c.current) (husername : t.usernameLabel = c.usernameLabel)
    (havatar : t.avatarView = c.avatarView) (himage : t.imageView = c.imageView)
    (hvideo : t.playerView.player.map AVPlayer.video = c.playerView.player.map AVPlayer.video) :
    ShowsCurrent t := by
  intro doc hdoc
  have hshows := h doc (hcurrent ▸ hdoc)
  exact ⟨husername ▸ hshows.username, havatar ▸ hshows.avatar, himage ▸ hshows.image,
    hvideo ▸ hshows.video⟩

/-- A `configure` call empties the views before it fills any of them. -/
lemma showsCurrent_configure (c : Cell Data Image) (doc : QueryDocumentSnapshot)
    (cached : Option Data) : ShowsCurrent (c.configure F doc cached) := by
  have hclear := showsOnly_clear c doc
  have hfetch : ShowsOnly ((c.clear doc).fetchUser F doc) doc.documentID :=
    ⟨hclear.username, hclear.avatar, hclear.image, hclear.video⟩
  have hshows : (c.configure F doc cached).current = some doc ∧
      ShowsOnly (c.configure F doc cached) doc.documentID := by
    have houtcome := c.configure_outcome F doc cached
    generalize c.configure F doc cached = t at houtcome ⊢
    cases houtcome with
    | trapped =>
        exact ⟨rfl, hclear.username, hclear.avatar, hclear.image, hclear.video⟩
    | image => exact ⟨rfl, (showsOnly_showImage_iff hfetch _).mpr fun _ => rfl⟩
    | video => exact ⟨rfl, (showsOnly_showVideo_iff hfetch _).mpr rfl⟩
    | download =>
        exact ⟨rfl, hclear.username, hclear.avatar, hclear.image, hclear.video⟩
  intro doc' hdoc'
  obtain rfl := Option.some.inj (hshows.1.symm.trans hdoc')
  exact hshows.2

/-- One step keeps the views right exactly when it is in time. -/
lemma showsCurrent_step_iff {c t : Cell Data Image} {e : CellEvent Data} (h : ShowsCurrent c)
    (hstep : cellStep F c e = some t) : ShowsCurrent t ↔ InTime F c e := by
  obtain ⟨-, heffect⟩ := cell_effect hstep
  cases heffect with
  | @configure doc cached => exact iff_of_true (showsCurrent_configure c doc cached) trivial
  | @userFetched i outcome doc hdoc =>
      cases outcome with
      | error => exact iff_of_true (h.of_views rfl rfl rfl rfl rfl) trivial
      | missing => exact iff_of_true (h.of_views rfl rfl rfl rfl rfl) trivial
      | snapshot user =>
          simp only [InTime, hdoc, Option.some.injEq, forall_eq']
          refine forall₂_congr fun doc' hcurrent => ?_
          have hshows := h doc' hcurrent
          constructor
          · intro h'
            exact h'.username _ rfl
          · intro hid
            exact ⟨(from_some _ _).mpr hid, from_none _, hshows.image, hshows.video⟩
  | @avatarLoaded success picture hpicture =>
      cases success with
      | false => exact iff_of_true (h.of_views rfl rfl rfl rfl rfl) trivial
      | true =>
          simp only [InTime, hpicture, Option.some.injEq, forall_eq']
          refine forall₂_congr fun doc hcurrent => ?_
          have hshows := h doc hcurrent
          constructor
          · intro h'
            exact h'.avatar _ rfl
          · intro hid
            exact ⟨hshows.username, (from_some _ _).mpr hid, hshows.image, hshows.video⟩
  | @downloaded i data download hdownload =>
      cases data with
      | none => exact iff_of_true (h.of_views rfl rfl rfl rfl rfl) trivial
      | some data =>
          have h' : ShowsCurrent { c with downloads := c.downloads.eraseIdx i } :=
            h.of_views rfl rfl rfl rfl rfl
          have hcurrent : (Cell.onDownload F { c with downloads := c.downloads.eraseIdx i }
              download (some data)).current = c.current :=
            Cell.onDownload_current _ _ _ _
          simp only [InTime, hdownload, Option.some.injEq, forall_eq', ShowsCurrent, hcurrent]
          constructor
          · intro ht hrenders doc hdoc
            exact (showsOnly_onDownload_iff (h' doc hdoc) data).mp (ht doc hdoc) hrenders
          · intro hintime doc hdoc
            exact (showsOnly_onDownload_iff (h' doc hdoc) data).mpr
              fun hrenders => hintime hrenders doc hdoc
  | willDisplay =>
      exact iff_of_true (h.of_views rfl rfl rfl rfl (PlayerView.map_play _ fun _ _ => rfl)) trivial
  | didEndDisplaying =>
      exact iff_of_true (h.of_views rfl rfl rfl rfl (PlayerView.map_pause _ fun _ _ => rfl)) trivial
  | itemDidPlayToEnd hitem =>
      refine iff_of_true ?_ trivial
      unfold Cell.onItemEnd
      split
      · exact h.of_views rfl rfl rfl rfl (PlayerView.map_play _ fun _ _ => rfl)
      · exact h.of_views rfl rfl rfl rfl rfl

/-- **A recycled cell, exactly.**  Through any sequence of `configure` calls, completions in any
order, display events and notifications, the cell shows nothing but data of the document it was
last configured with, in every state reached, if and only if every completion that shows something
arrives while the cell still has its document. -/
theorem cell_fresh_iff (r : Execution (cellStep F) Cell.start) :
    r.Always ShowsCurrent ↔ Along (cellStep F) (InTime F) Cell.start r.events :=
  always_iff_along (J := fun _ => True) trivial (by simp [ShowsCurrent, Cell.start])
    (fun _ _ _ _ _ _ _ => trivial) (fun _ _ _ _ h hstep => showsCurrent_step_iff h hstep) r.events

/-! ## A user document that arrives late -/

/-- A post with a photo. -/
def photoPost (documentID : AutoId) (contentUrl : String) (author : AutoId) :
    QueryDocumentSnapshot where
  documentID := documentID
  data :=
    { content := .string contentUrl, date := 0, likes := [], likesCount := 0,
      locationid := ⟨0, 0⟩, userid := userRef (some author) }

/-- A platform that takes all texts for references and URLs, and images for their data. -/
def CellPlatform.plain : CellPlatform (List UInt8) (List UInt8) where
  isReference _ := true
  uiImage := some
  isURL _ := true
  time _ := "12:00"

/-- The cell is configured with Ada's post and then with Bob's, before Ada's document arrives. -/
def scrolledOn : Execution (cellStep .plain) Cell.start :=
  .ofEvents _
    [.configure (photoPost idA "gs://whix-app.appspot.com/a.jpg" idA) none,
      .configure (photoPost idB "gs://whix-app.appspot.com/b.jpg" idB) none,
      .userFetched 0 (.snapshot (account .plain "ada@whix.io" "ada"))] (by rfl)

/-- Bob's post is shown under Ada's name. -/
theorem shows_other_document :
    ¬ ∀ r : Execution (cellStep CellPlatform.plain) Cell.start, ShowsCurrent r.final := by
  intro h
  have hshows := h scrolledOn (photoPost idB "gs://whix-app.appspot.com/b.jpg" idB) rfl
  have hlabel : scrolledOn.final.usernameLabel = some ⟨"@ada", some idA⟩ := by rfl
  exact absurd (hshows.username _ hlabel) (by decide)

end Whix
