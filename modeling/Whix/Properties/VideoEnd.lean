import Whix.Properties.CachedContent

/-!
# When a video has ended

A cell observes the end of every video it has loaded, and never stops.  The handler should start
that video again, but it captures the cell and takes whatever player the cell has by then: of
another video, of none, or of a cell that is off screen.

`video_end_iff` is exact: all handlers of a run do what they should if and only if each video's
end is delivered while it is the last one loaded since the last `configure` call, and the cell is
on screen.
-/

namespace Whix

open Js Runs

variable {Data Image : Type} {F : CellPlatform Data Image}

/-- What the handler of an item's end should do, from `c` to `t`: it does not trap, the player that
it seeks and plays has that item, and the cell is on screen. -/
structure Restarts (c t : Cell Data Image) (item : ℕ) : Prop where
  trapped : t.trapped = false
  player : ∀ p, c.playerView.player = some p → p.currentItem = item
  onScreen : c.onScreen = true

/-- If the event is a notification, then its handler does what it should. -/
def RestartsOwn (F : CellPlatform Data Image) (c : Cell Data Image) : CellEvent Data → Prop
  | .itemDidPlayToEnd item =>
      ∀ t, cellStep F c (.itemDidPlayToEnd item) = some t → Restarts c t item
  | _ => True

/-- A cell with a record of its videos, which no handler reads. -/
structure Watched (Data Image : Type) where
  cell : Cell Data Image
  /-- the items that the cell has loaded since the last `configure` call -/
  loaded : List ℕ

/-- Is it a `configure` call? -/
def CellEvent.isConfigure : CellEvent Data → Bool
  | .configure .. => true
  | _ => false

namespace Watched

/-- The cell as the storyboard has it. -/
def start : Watched Data Image := ⟨Cell.start, []⟩

/-- The items loaded since the last `configure` call, after an event: those it has begun to observe
are new. -/
def loadedAfter (w : Watched Data Image) (e : CellEvent Data) (cell : Cell Data Image) : List ℕ :=
  (if e.isConfigure then [] else w.loaded) ++ cell.observers.drop w.cell.observers.length

end Watched

/-- One step of a cell, recorded. -/
def watchStep (F : CellPlatform Data Image) (w : Watched Data Image) (e : CellEvent Data) :
    Option (Watched Data Image) :=
  (cellStep F w.cell e).map fun cell => ⟨cell, w.loadedAfter e cell⟩

/-- If the event is a notification, then its item is the last one loaded since the last
`configure` call, and the cell is on screen. -/
def EndsInTime (w : Watched Data Image) : CellEvent Data → Prop
  | .itemDidPlayToEnd item => w.loaded.getLast? = some item ∧ w.cell.onScreen = true
  | _ => True

/-! ## The player and the record -/

/-- The item that a cell's player has. -/
def Cell.item (c : Cell Data Image) : Option ℕ := c.playerView.player.map AVPlayer.currentItem

/-- The player has the item that was loaded last. -/
def Recorded (w : Watched Data Image) : Prop := w.cell.item = w.loaded.getLast?

lemma recorded_start : Recorded (Watched.start : Watched Data Image) := rfl

section Step

variable {w t : Watched Data Image} {e : CellEvent Data} {cell : Cell Data Image}

/-- A step that loads nothing, and leaves the player in its place. -/
lemma Recorded.same (h : Recorded w) (he : e.isConfigure = false)
    (hitem : cell.item = w.cell.item) (hobservers : cell.observers = w.cell.observers) :
    Recorded ⟨cell, w.loadedAfter e cell⟩ := by
  rw [Recorded, Watched.loadedAfter, hobservers, List.drop_length, List.append_nil, he, hitem]
  exact h

/-- A step that loads a video. -/
lemma recorded_load {item : ℕ} (hitem : cell.item = some item)
    (hobservers : cell.observers = w.cell.observers ++ [item]) :
    Recorded ⟨cell, w.loadedAfter e cell⟩ := by
  rw [Recorded, Watched.loadedAfter, hobservers, List.drop_left, List.getLast?_concat]
  exact hitem

/-- A `configure` call that loads nothing. -/
lemma recorded_cleared (he : e.isConfigure = true) (hitem : cell.item = none)
    (hobservers : cell.observers = w.cell.observers) :
    Recorded ⟨cell, w.loadedAfter e cell⟩ := by
  rw [Recorded, Watched.loadedAfter, hobservers, List.drop_length, he]
  exact hitem

lemma recorded_configure (w : Watched Data Image) (doc : QueryDocumentSnapshot)
    (cached : Option Data) :
    Recorded ⟨w.cell.configure F doc cached,
      w.loadedAfter (.configure doc cached) (w.cell.configure F doc cached)⟩ := by
  have houtcome := w.cell.configure_outcome F doc cached
  generalize w.cell.configure F doc cached = t at houtcome ⊢
  cases houtcome with
  | trapped => exact recorded_cleared rfl rfl rfl
  | image => exact recorded_cleared rfl rfl rfl
  | video => exact recorded_load rfl rfl
  | download => exact recorded_cleared rfl rfl rfl

lemma Recorded.onDownload (h : Recorded w) (i : ℕ) (download : Download) (data : Option Data) :
    Recorded ⟨Cell.onDownload F { w.cell with downloads := w.cell.downloads.eraseIdx i } download
        data,
      w.loadedAfter (.downloaded i data)
        (Cell.onDownload F { w.cell with downloads := w.cell.downloads.eraseIdx i } download
          data)⟩ := by
  have houtcome := Cell.download_outcome F
    { w.cell with downloads := w.cell.downloads.eraseIdx i } download data
  generalize Cell.onDownload F { w.cell with downloads := w.cell.downloads.eraseIdx i } download
    data = t at houtcome ⊢
  cases houtcome with
  | nothing => exact h.same rfl rfl rfl
  | image => exact h.same rfl rfl rfl
  | video => exact recorded_load rfl rfl
  | both => exact recorded_load rfl rfl

lemma recorded_step (h : Recorded w) (hstep : watchStep F w e = some t) : Recorded t := by
  obtain ⟨cell, hcell, rfl⟩ := Option.map_eq_some_iff.mp hstep
  obtain ⟨-, heffect⟩ := cell_effect hcell
  cases heffect with
  | configure => exact recorded_configure w _ _
  | @userFetched i outcome doc hdoc => cases outcome <;> exact h.same rfl rfl rfl
  | @avatarLoaded success picture hpicture => cases success <;> exact h.same rfl rfl rfl
  | downloaded hdownload => exact h.onDownload _ _ _
  | willDisplay => exact h.same rfl (PlayerView.map_play _ fun _ _ => rfl) rfl
  | didEndDisplaying => exact h.same rfl (PlayerView.map_pause _ fun _ _ => rfl) rfl
  | itemDidPlayToEnd hitem =>
      unfold Cell.onItemEnd
      split
      · exact h.same rfl (PlayerView.map_play _ fun _ _ => rfl) rfl
      · exact h.same rfl rfl rfl

end Step

/-! ## One notification -/

/-- The handler needs a player with the item that ended, on screen. -/
lemma restarts_iff {c t : Cell Data Image} {item : ℕ}
    (hstep : cellStep F c (.itemDidPlayToEnd item) = some t) :
    Restarts c t item ↔ c.item = some item ∧ c.onScreen = true := by
  obtain ⟨htrapped, heffect⟩ := cell_effect hstep
  cases heffect with
  | itemDidPlayToEnd hitem =>
      cases hplayer : c.playerView.player with
      | none =>
          have htraps : c.onItemEnd.trapped = true := by
            rw [Cell.onItemEnd, hplayer]
            rfl
          refine iff_of_false (fun h => ?_) (by simp [Cell.item, hplayer])
          exact absurd (htraps.symm.trans h.trapped) (by simp)
      | some p =>
          have hplays : c.onItemEnd.trapped = false := by
            rw [Cell.onItemEnd, hplayer]
            exact htrapped
          rw [Cell.item, hplayer, Option.map_some, Option.some.injEq]
          constructor
          · intro h
            exact ⟨h.player p hplayer, h.onScreen⟩
          · rintro ⟨hown, honScreen⟩
            refine ⟨hplays, fun p' hp' => ?_, honScreen⟩
            obtain rfl : p = p' := Option.some.inj (hplayer.symm.trans hp')
            exact hown

lemma restartsOwn_iff {w t : Watched Data Image} {e : CellEvent Data} (h : Recorded w)
    (hstep : watchStep F w e = some t) : RestartsOwn F w.cell e ↔ EndsInTime w e := by
  obtain ⟨cell, hcell, -⟩ := Option.map_eq_some_iff.mp hstep
  cases e with
  | itemDidPlayToEnd item =>
      rw [EndsInTime, ← h, ← restarts_iff hcell, RestartsOwn]
      constructor
      · intro hall
        exact hall cell hcell
      · intro hrestarts t ht
        obtain rfl : cell = t := Option.some.inj (hcell.symm.trans ht)
        exact hrestarts
  | _ => exact Iff.rfl

/-- **The end of a video, exactly.**  Through any sequence of events on a cell, every notification
restarts the video it is about, without a trap and only on screen, if and only if it is delivered
while its item is the last one loaded since the last `configure` call and the cell is on
screen. -/
theorem video_end_iff (F : CellPlatform Data Image) (events : List (CellEvent Data)) :
    Along (watchStep F) (fun w => RestartsOwn F w.cell) .start events ↔
      Along (watchStep F) EndsInTime .start events :=
  along_congr recorded_start (fun _ _ _ => recorded_step) (fun _ _ _ => restartsOwn_iff)
    events

/-! ## A notification for a video that is gone -/

/-- A video ends while the cell is being configured with a photo. -/
def endedVideo : List (CellEvent (List UInt8)) :=
  [.configure videoPost (some [0]), .willDisplay,
    .configure (photoPost idB "gs://whix-app.appspot.com/b.jpg" idB) none]

/-- The handler unwraps a player that is not there. -/
theorem ended_video_traps :
    ¬ ∀ events, Along (watchStep .plain) (fun w => RestartsOwn .plain w.cell) .start events := by
  intro h
  have hlast : ∃ w, run (watchStep .plain) .start endedVideo = some w ∧
      (cellStep .plain w.cell (.itemDidPlayToEnd 0)).map Cell.trapped = some true :=
    ⟨_, rfl, rfl⟩
  obtain ⟨w, hw, htrapped⟩ := hlast
  obtain ⟨t, ht, htraps⟩ := Option.map_eq_some_iff.mp htrapped
  have hrestarts := h (endedVideo ++ [.itemDidPlayToEnd 0]) endedVideo _ (List.prefix_refl _) w _ hw
    (by rw [watchStep, ht]; rfl) t ht
  exact absurd (htraps.symm.trans hrestarts.trapped) (by simp)

end Whix
