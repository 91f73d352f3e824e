import Whix.Client.Cell
import Whix.Client.Disk
import Whix.Client.StoragePath

/-!
# The feed with its cache

The cells of the feed, the prefetches, the caches directory they share and the bucket they
download from.  Here the cell's two assumptions are discharged: what is cached when it is
configured is what `Disk` retrieves, and the texts it takes for references are those that the
storage of the app accepts.  Uploads by any device add objects to the bucket, and the system may
remove files from the caches directory at any time.
-/

namespace Whix

open FileTrees

/-- What the feed uses of the system and of its libraries. -/
structure FeedPlatform (Data Image : Type) where
  storage : FIRStorage
  nsURL : String → Option NSURL
  files : Disk.FileSystem
  /-- `UIImage(data:)` -/
  uiImage : Data → Option Image
  /-- whether `URL(string:)` accepts the text -/
  isURL : String → Bool
  /-- `formatter.string(from: timestamp.dateValue())` -/
  time : Timestamp → String

namespace FeedPlatform

variable {Data Image : Type} (G : FeedPlatform Data Image)

/-- `storage.reference(forURL: contentUrl)` -/
def reference (contentUrl : String) : Except StorageException FIRStoragePath :=
  G.storage.referenceForURL G.nsURL contentUrl

/-- `gsReference.fullPath` -/
def fullPath (contentUrl : String) : String :=
  match G.reference contentUrl with
  | .ok gsReference => gsReference.fullPath
  | .error _ => ""

/-- The platform of the cells. -/
def cellPlatform : CellPlatform Data Image where
  isReference contentUrl :=
    match G.reference contentUrl with
    | .ok _ => true
    | .error _ => false
  uiImage := G.uiImage
  isURL := G.isURL
  time := G.time

end FeedPlatform

/-- The feed of a device, and the bucket of the app. -/
structure FeedApp (Data Image : Type) where
  cells : List (Cell Data Image)
  disk : FileTree FileName Data
  /-- the objects of the bucket, by their full paths -/
  objects : String → Option Data
  /-- the full paths that are being prefetched -/
  prefetches : List String
  /-- the app has trapped outside the cells -/
  trapped : Bool

/-- What can happen to the feed. -/
inductive FeedAppEvent (Data : Type) where
  /-- The collection view makes another cell. -/
  | newCell
  /-- A cell is configured with a document. -/
  | configure (k : ℕ) (doc : QueryDocumentSnapshot)
  /-- A download of a cell completes, or fails. -/
  | downloaded (k i : ℕ) (success : Bool)
  /-- Something else happens to a cell. -/
  | cell (k : ℕ) (e : CellEvent Data)
  /-- A row is prefetched. -/
  | prefetch (doc : QueryDocumentSnapshot)
  /-- The download of a prefetch completes, or fails. -/
  | prefetched (i : ℕ) (success : Bool)
  /-- An upload is stored in the bucket. -/
  | stored (path : String) (data : Data)
  /-- The system removes a file or a folder from the caches directory. -/
  | purge (first : FileName) (names : List FileName)

/-- The event needs nothing from outside the cell. -/
def CellEvent.isLocal {Data : Type} : CellEvent Data → Bool
  | .configure .. | .downloaded .. => false
  | _ => true

namespace FeedApp

variable {Data Image : Type} (G : FeedPlatform Data Image) (a : FeedApp Data Image)

/-- What the cache has for a content. -/
def cached (contentUrl : String) : Option Data :=
  (Disk.retrieve G.files a.disk (G.fullPath contentUrl) .caches).toOption

/-- `try Disk.save(data!, to: .caches, as: …)`; an error is printed only. -/
def saved (path : String) (data : Option Data) : FileTree FileName Data :=
  match data with
  | some data => (Disk.save G.files a.disk data .caches path).2
  | none => a.disk

/-- What `getData(maxSize:)` delivers. -/
def getData (path : String) (success : Bool) : Option Data :=
  if success then a.objects path else none

/-- `configure(with:)` of the cell at `k` -/
def configure (k : ℕ) (doc : QueryDocumentSnapshot) : Option (FeedApp Data Image) := do
  let cell ← a.cells[k]?
  let cached := match doc.data.content with
    | .string contentUrl => a.cached G contentUrl
    | _ => none
  let cell ← cellStep G.cellPlatform cell (.configure doc cached)
  return { a with cells := a.cells.set k cell }

/-- Something that happens to the cell at `k` -/
def onCell (k : ℕ) (e : CellEvent Data) : Option (FeedApp Data Image) := do
  let cell ← a.cells[k]?
  let cell ← cellStep G.cellPlatform cell e
  return { a with cells := a.cells.set k cell }

/-- The completion of the download at `i` of the cell at `k` -/
def downloaded (k i : ℕ) (success : Bool) : Option (FeedApp Data Image) := do
  let cell ← a.cells[k]?
  let download ← cell.downloads[i]?
  let path := G.fullPath download.contentUrl
  let data := a.getData path success
  let cell ← cellStep G.cellPlatform cell (.downloaded i data)
  return { a with cells := a.cells.set k cell, disk := a.saved G path data }

/-- `tableView(_:prefetchRowsAt:)` for one row -/
def prefetch (doc : QueryDocumentSnapshot) : FeedApp Data Image :=
  match doc.data.content with
  | .string contentUrl =>
      match G.reference contentUrl with
      | .ok gsReference =>
          if Disk.exists G.files a.disk gsReference.fullPath .caches then a
          else { a with prefetches := a.prefetches ++ [gsReference.fullPath] }
      | .error _ => { a with trapped := true }
  | _ => { a with trapped := true }

end FeedApp

/-- One step of the feed, as long as the app has not trapped. -/
def feedAppStep {Data Image : Type} (G : FeedPlatform Data Image) (a : FeedApp Data Image)
    (e : FeedAppEvent Data) : Option (FeedApp Data Image) :=
  if a.trapped || a.cells.any Cell.trapped then none else
    match e with
    | .newCell => some { a with cells := a.cells ++ [.start] }
    | .configure k doc => a.configure G k doc
    | .downloaded k i success => a.downloaded G k i success
    | .cell k e => if e.isLocal then a.onCell G k e else none
    | .prefetch doc => some (a.prefetch G doc)
    | .prefetched i success => do
        let path ← a.prefetches[i]?
        return { a with
          prefetches := a.prefetches.eraseIdx i
          disk := a.saved G path (a.getData path success) }
    | .stored path data => some { a with objects := Function.update a.objects path (some data) }
    | .purge first names => do
        let location ← G.files.location .caches
        return { a with disk := a.disk.remove (location ++ first :: names) (by simp) }

/-- What one step does, by its event. -/
inductive FeedEffect {Data Image : Type} (G : FeedPlatform Data Image) (a : FeedApp Data Image) :
    FeedAppEvent Data → FeedApp Data Image → Prop
  | newCell : FeedEffect G a .newCell { a with cells := a.cells ++ [.start] }
  | configure {k doc cached cell cell'} (hcell : a.cells[k]? = some cell)
      (hcached : ∀ contentUrl, doc.data.content = .string contentUrl →
        cached = a.cached G contentUrl)
      (hstep : cellStep G.cellPlatform cell (.configure doc cached) = some cell') :
      FeedEffect G a (.configure k doc) { a with cells := a.cells.set k cell' }
  | downloaded {k i success cell cell' download} (hcell : a.cells[k]? = some cell)
      (hdownload : cell.downloads[i]? = some download)
      (hstep : cellStep G.cellPlatform cell
        (.downloaded i (a.getData (G.fullPath download.contentUrl) success)) = some cell') :
      FeedEffect G a (.downloaded k i success)
        { a with
          cells := a.cells.set k cell'
          disk := a.saved G (G.fullPath download.contentUrl)
            (a.getData (G.fullPath download.contentUrl) success) }
  | cell {k e cell cell'} (hcell : a.cells[k]? = some cell) (hlocal : e.isLocal = true)
      (hstep : cellStep G.cellPlatform cell e = some cell') :
      FeedEffect G a (.cell k e) { a with cells := a.cells.set k cell' }
  | prefetch {doc} : FeedEffect G a (.prefetch doc) (a.prefetch G doc)
  | prefetched {i success path} (hpath : a.prefetches[i]? = some path) :
      FeedEffect G a (.prefetched i success)
        { a with
          prefetches := a.prefetches.eraseIdx i
          disk := a.saved G path (a.getData path success) }
  | stored {path data} :
      FeedEffect G a (.stored path data)
        { a with objects := Function.update a.objects path (some data) }
  | purge {first names location} (hlocation : G.files.location .caches = some location) :
      FeedEffect G a (.purge first names)
        { a with disk := a.disk.remove (location ++ first :: names) (by simp) }

lemma feed_effect {Data Image : Type} {G : FeedPlatform Data Image} {a b : FeedApp Data Image}
    {e : FeedAppEvent Data} (h : feedAppStep G a e = some b) : FeedEffect G a e b := by
  unfold feedAppStep at h
  split at h
  · simp at h
  cases e with
  | newCell => exact Option.some.inj h ▸ .newCell
  | configure k doc =>
      obtain ⟨cell, hcell, h⟩ := Option.bind_eq_some_iff.mp h
      obtain ⟨cell', hstep, h⟩ := Option.bind_eq_some_iff.mp h
      refine Option.some.inj h ▸ .configure hcell (fun contentUrl hcontent => ?_) hstep
      rw [hcontent]
  | downloaded k i success =>
      obtain ⟨cell, hcell, h⟩ := Option.bind_eq_some_iff.mp h
      obtain ⟨download, hdownload, h⟩ := Option.bind_eq_some_iff.mp h
      obtain ⟨cell', hstep, h⟩ := Option.bind_eq_some_iff.mp h
      exact Option.some.inj h ▸ .downloaded hcell hdownload hstep
  | cell k e =>
      obtain ⟨hlocal, h⟩ := Option.ite_none_right_eq_some.mp h
      obtain ⟨cell, hcell, h⟩ := Option.bind_eq_some_iff.mp h
      obtain ⟨cell', hstep, h⟩ := Option.bind_eq_some_iff.mp h
      exact Option.some.inj h ▸ .cell hcell hlocal hstep
  | prefetch doc => exact Option.some.inj h ▸ .prefetch
  | prefetched i success =>
      obtain ⟨path, hpath, h⟩ := Option.bind_eq_some_iff.mp h
      exact Option.some.inj h ▸ .prefetched hpath
  | stored path data => exact Option.some.inj h ▸ .stored
  | purge first names =>
      obtain ⟨location, hlocation, h⟩ := Option.bind_eq_some_iff.mp h
      exact Option.some.inj h ▸ .purge hlocation

end Whix
