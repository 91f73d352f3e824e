import Whix.Client.Disk
import Whix.Framework.Runs

/-!
# The disk cache as a store

`save` and `retrieve` are compared with a store that maps files to data.  What matters of a path
is the list of names it is cut into once invalid characters are left out (`names`), as long as no
name is one of the two dots (`IsPlain`): `sameFile_iff` says when two plain paths share a file, and
`save_exact` when a save succeeds and what every plain path retrieves after it.  A failed save
changes what no plain path retrieves, although it may have made folders.  (A path with dots may
retrieve another thing then, because it is followed through the folders on the way.)

Where a path leads when it is saved to is another matter: `retrieve_last_saved` allows paths with
dots there, and compares positions.
-/

namespace Whix

open FileTrees Runs

namespace Disk

variable {Data : Type} {S : FileSystem}

/-! ## Valid paths -/

/-- The names of the folders and of the file that a path stands for. -/
def names (S : FileSystem) (path : String) : List FileName :=
  Paths.components '/' (path.toList.filter fun c => !invalidCharacters S c)

/-- The path stands for some file, and no name on the way is one of the dots. -/
def IsPlain (S : FileSystem) (path : String) : Prop :=
  names S path ≠ [] ∧ ∀ name ∈ names S path, name ≠ ['.'] ∧ name ≠ ['.', '.']

instance (path : String) : Decidable (IsPlain S path) := inferInstanceAs (Decidable (_ ∧ _))

/-- Slashes at the beginning are no part of any name. -/
lemma components_removeSlashesAtBeginning (s : List Char) :
    Paths.components '/' (removeSlashesAtBeginning s) = Paths.components '/' s := by
  fun_induction removeSlashesAtBeginning s with
  | case1 => rfl
  | case2 string ih => rw [ih, Paths.components_cons_self]
  | case3 c string hc => rfl

/-- A plain path is valid. -/
lemma getValidFilePath_of_isPlain {path : String} (h : IsPlain S path) :
    ∃ validPath, getValidFilePath S path = .ok validPath ∧
      moves validPath = (names S path).map .into := by
  obtain ⟨hne, hplain⟩ := h
  have hnames : Paths.components '/' (removeSlashesAtBeginning
      (path.toList.filter fun c => !invalidCharacters S c)) = names S path :=
    components_removeSlashesAtBeginning _
  set validFileName := removeSlashesAtBeginning
    (path.toList.filter fun c => !invalidCharacters S c) with hvalid
  have hempty : String.ofList validFileName ≠ "" := by
    intro hempty
    rw [← String.toList_inj, String.toList_ofList] at hempty
    rw [hempty] at hnames
    exact hne (hnames.symm.trans Paths.components_nil)
  have hdot : String.ofList validFileName ≠ "." := by
    intro hdot
    rw [← String.toList_inj, String.toList_ofList] at hdot
    rw [hdot] at hnames
    exact (hplain ['.'] (by rw [← hnames]; decide)).1 rfl
  refine ⟨String.ofList validFileName, if_pos ⟨hempty, hdot⟩, ?_⟩
  rw [moves, String.toList_ofList, hnames]
  refine List.map_congr_left fun name hname => ?_
  rw [move, if_neg (hplain name hname).1, if_neg (hplain name hname).2]

/-- The URL of a plain path. -/
lemma createURL_of_isPlain {path : String} (h : IsPlain S path) {directory : Directory}
    {location : List FileName} (hlocation : S.location directory = some location) :
    createURL S (some path) directory = .ok ⟨location, (names S path).map .into⟩ := by
  obtain ⟨validPath, hvalid, hmoves⟩ := getValidFilePath_of_isPlain h
  simp only [createURL, Option.mapM_some, hvalid, hlocation, ← hmoves]
  rfl

/-! ## Saving and retrieving -/

section Save

variable {t : FileTree FileName Data} {directory : Directory} {location : List FileName}

lemma read_createSubfolders (url : URL) (q : List FileName) :
    (createSubfoldersBeforeCreatingFile t url).2.read q = t.read q := by
  simp only [createSubfoldersBeforeCreatingFile]
  split
  · rfl
  · exact FileTree.read_makeFolders ..

variable (S t directory) in
/-- What a save does to the files: it puts the value where the URL leads, or nothing anywhere. -/
lemma save_files (value : Data) (path : String) :
    ((save S t value directory path).1 ≠ .ok () ∧
        ∀ q, (save S t value directory path).2.read q = t.read q) ∨
      ∃ url, createURL S (some path) directory = .ok url ∧
        (save S t value directory path).1 = .ok () ∧
        ∀ q, (save S t value directory path).2.read q =
          if q = url.position then some value else t.read q := by
  unfold save
  split
  · exact Or.inl ⟨by simp, fun _ => rfl⟩
  rename_i url hurl
  have hread : ∀ q, (createSubfoldersBeforeCreatingFile t url).2.read q = t.read q :=
    read_createSubfolders url
  split
  · rename_i t' hfolders
    rw [hfolders] at hread
    exact Or.inl ⟨by simp, hread⟩
  · rename_i t' hfolders
    rw [hfolders] at hread
    split
    · rename_i t'' hwrite
      refine Or.inr ⟨url, hurl, rfl, fun q => ?_⟩
      unfold write at hwrite
      split at hwrite
      · rename_i name hlast
        obtain ⟨above, hpath⟩ := List.getLast?_eq_some_iff.mp hlast
        have hposition : url.position = destination url.directory url.path.dropLast ++ [name] := by
          rw [URL.position, hpath, destination_append, List.dropLast_concat]
          rfl
        rw [FileTree.read_write hwrite, hposition, hread]
      · simp at hwrite
    · exact Or.inl ⟨by simp, hread⟩

/-- What a plain path retrieves is the file at its position. -/
lemma retrieve_toOption {path : String} (h : IsPlain S path)
    (hlocation : S.location directory = some location) :
    (retrieve S t path directory).toOption = t.read (location ++ names S path) := by
  set url : URL := ⟨location, (names S path).map .into⟩ with hurl
  have hposition : url.position = location ++ names S path := destination_into ..
  have hretrieve : retrieve S t path directory =
      if fileExists t url then (t.read url.position).elim (.error .fileManager) .ok
      else .error .noFileFound := by
    rw [retrieve, getExistingFileURL, createURL_of_isPlain h hlocation, ← hurl]
    change (Except.bind (if fileExists t url then .ok url else .error DiskError.noFileFound) _) = _
    split
    · cases hread : t.read url.position with
      | none =>
          simp only [Except.bind, hread]
          rfl
      | some data =>
          simp only [Except.bind, hread]
          rfl
    · rfl
  rw [hretrieve, ← hposition]
  cases hread : t.read url.position with
  | none => split <;> rfl
  | some data =>
      have hexists : t.Exists (location ++ names S path) := by
        rw [← hposition, FileTree.Exists, (t.read_eq_some_iff).mp hread]
        simp
      have hfile : fileExists t url = true :=
        decide_eq_true ⟨t.open_of_exists hexists, hposition ▸ hexists⟩
      rw [if_pos hfile]
      rfl

/-- The folders above the file of a plain path can be made if no file is in the way. -/
lemma createSubfolders_iff {above : List FileName} {name : FileName}
    {r : Bool × FileTree FileName Data}
    (hdir : t.IsDirectory location)
    (hr : createSubfoldersBeforeCreatingFile t ⟨location, (above ++ [name]).map .into⟩ = r) :
    (r.1 = true ↔ ∀ q, q <+: location ++ above → t.read q = none) ∧
      (r.1 = true → r.2.IsDirectory (location ++ above)) ∧
      (r.2.IsDirectory (location ++ above ++ [name]) ↔
        t.IsDirectory (location ++ above ++ [name])) := by
  simp only [createSubfoldersBeforeCreatingFile, List.map_append, List.map_singleton,
    List.dropLast_concat] at hr
  split at hr
  · rename_i hexists
    obtain rfl := hr
    obtain ⟨-, hsub⟩ := of_decide_eq_true hexists
    rw [URL.position, destination_into] at hsub
    exact ⟨iff_of_true rfl fun q hq => t.read_above_directory hsub hq, fun _ => hsub, Iff.rfl⟩
  · obtain rfl := hr
    have hclear : t.Clear location (above.map .into) ↔ _ :=
      t.clear_into_iff fun q hq => t.read_above_directory hdir hq
    refine ⟨(FileTree.makeFolders_fst_iff t location _ hdir).trans hclear, fun h => ?_, ?_⟩
    · simpa using (FileTree.open_makeFolders t location (above.map .into) hdir h).2
    · rw [FileTree.IsDirectory, FileTree.IsDirectory, FileTree.node_makeFolders_into]
      intro hprefix
      have hlength := hprefix.length_le
      simp only [List.length_append, List.length_singleton] at hlength
      omega

lemma write_into (t : FileTree FileName Data) (value : Data) (above : List FileName)
    (name : FileName) :
    write t value ⟨location, (above ++ [name]).map .into⟩ =
      t.write (location ++ above) name value := by
  simp [write]

/-- A save to a plain path succeeds exactly when no file is where a folder is needed, and no folder
where the file is to be. -/
lemma save_ok_iff (value : Data) {path : String} (h : IsPlain S path)
    (hlocation : S.location directory = some location) (hdir : t.IsDirectory location) :
    (save S t value directory path).1 = .ok () ↔
      (∀ q, q <+: location ++ names S path → q ≠ location ++ names S path → t.read q = none) ∧
        ¬ t.IsDirectory (location ++ names S path) := by
  rcases (names S path).eq_nil_or_concat' with hnil | ⟨above, name, hnames⟩
  · exact absurd hnil h.1
  have hprefix : ∀ q, q <+: location ++ names S path ∧ q ≠ location ++ names S path ↔
      q <+: location ++ above := by
    intro q
    rw [hnames, ← List.append_assoc, List.prefix_concat_iff]
    constructor
    · rintro ⟨hq | hq, hne⟩
      · exact absurd hq hne
      · exact hq
    · intro hq
      refine ⟨Or.inr hq, ?_⟩
      rintro rfl
      have hlength := hq.length_le
      simp only [List.length_append, List.length_singleton] at hlength
      omega
  have habove : (∀ q, q <+: location ++ names S path → q ≠ location ++ names S path →
      t.read q = none) ↔ ∀ q, q <+: location ++ above → t.read q = none :=
    forall_congr' fun q => by rw [← hprefix, and_imp]
  rw [habove, hnames, ← List.append_assoc, save, createURL_of_isPlain h hlocation, hnames]
  simp only
  split
  · rename_i t' hfolders
    obtain ⟨hok, -, -⟩ := createSubfolders_iff hdir hfolders
    exact iff_of_false (by simp) fun hclear => by simpa using hok.mpr hclear.1
  · rename_i t' hfolders
    obtain ⟨hok, hdir', hposition⟩ := createSubfolders_iff hdir hfolders
    rw [and_iff_right (hok.mp rfl), ← hposition, write_into]
    have hwrite : (t'.write (location ++ above) name value).isSome ↔ _ := FileTree.write_isSome_iff
    rw [and_iff_right (hdir' rfl)] at hwrite
    rw [← hwrite]
    cases t'.write (location ++ above) name value with
    | none => simp
    | some t'' => simp

lemma isDirectory_save (value : Data) (path : String) {q : List FileName}
    (hq : t.IsDirectory q) : (save S t value directory path).2.IsDirectory q := by
  unfold save
  split
  · exact hq
  rename_i url hurl
  have hfolders' : (createSubfoldersBeforeCreatingFile t url).2.IsDirectory q := by
    simp only [createSubfoldersBeforeCreatingFile]
    split
    · exact hq
    · exact FileTree.isDirectory_makeFolders t _ _ hq
  split
  · rename_i t' hfolders
    rwa [hfolders] at hfolders'
  · rename_i t' hfolders
    rw [hfolders] at hfolders'
    split
    · rename_i t'' hwrite
      unfold write at hwrite
      split at hwrite
      · exact (FileTree.isDirectory_write hwrite q).mpr hfolders'
      · simp at hwrite
    · exact hfolders'

/-- Two plain paths share a file: they are the same text once invalid characters and slashes too
many are left out. -/
def SameFile (S : FileSystem) (path path' : String) : Prop :=
  Paths.standardized '/' (path.toList.filter fun c => !invalidCharacters S c) =
    Paths.standardized '/' (path'.toList.filter fun c => !invalidCharacters S c)

instance (path path' : String) : Decidable (SameFile S path path') :=
  inferInstanceAs (Decidable (_ = _))

lemma sameFile_iff {path path' : String} :
    SameFile S path path' ↔ names S path = names S path' := by
  constructor
  · intro h
    exact congrArg Paths.Path.parts (Paths.Path.text_injective h)
  · intro h
    exact congrArg Paths.Path.text (Paths.Path.ext h)

/-- The position that a path leads to. -/
def filePosition (S : FileSystem) (directory : Directory) (path : String) :
    Option (List FileName) :=
  (createURL S (some path) directory).toOption.map URL.position

lemma filePosition_of_isPlain {path : String} (h : IsPlain S path)
    (hlocation : S.location directory = some location) :
    filePosition S directory path = some (location ++ names S path) := by
  rw [filePosition, createURL_of_isPlain h hlocation, ← destination_into]
  rfl

/-- What a plain path retrieves after a save to any path. -/
lemma retrieve_save (hlocation : S.location directory = some location)
    (t : FileTree FileName Data) (value : Data) (saved : String) {path : String}
    (h : IsPlain S path) :
    (retrieve S (save S t value directory saved).2 path directory).toOption =
      if (save S t value directory saved).1 = .ok () ∧
          filePosition S directory path = filePosition S directory saved then some value
      else (retrieve S t path directory).toOption := by
  rw [retrieve_toOption h hlocation, retrieve_toOption h hlocation,
    filePosition_of_isPlain h hlocation]
  rcases save_files S t directory value saved with
    ⟨hfailed, hread⟩ | ⟨url, hurl, hok, hread⟩
  · rw [if_neg fun hsame => hfailed hsame.1, hread]
  · have hposition : filePosition S directory saved = some url.position := by
      rw [filePosition, hurl]
      rfl
    simp only [hok, hread, hposition, true_and, Option.some.injEq]

/-- **A save, exactly.**  In any tree of files, a save to a plain path succeeds if and only if no
file is where a folder is needed and no folder where the file is to be.  If it succeeds, then a
plain path retrieves the saved value when it shares the file, and else what it did before; if it
fails, then every plain path retrieves what it did before. -/
theorem save_exact (value : Data) {path : String} (h : IsPlain S path)
    (hlocation : S.location directory = some location) (hdir : t.IsDirectory location) :
    ((save S t value directory path).1 = .ok () ↔
      (∀ q, q <+: location ++ names S path → q ≠ location ++ names S path → t.read q = none) ∧
        ¬ t.IsDirectory (location ++ names S path)) ∧
    ∀ path', IsPlain S path' →
      (retrieve S (save S t value directory path).2 path' directory).toOption =
        if (save S t value directory path).1 = .ok () ∧ SameFile S path' path then some value
        else (retrieve S t path' directory).toOption := by
  refine ⟨save_ok_iff value h hlocation hdir, fun path' h' => ?_⟩
  rw [retrieve_save hlocation t value path h', filePosition_of_isPlain h' hlocation,
    filePosition_of_isPlain h hlocation]
  simp only [Option.some.injEq, List.append_cancel_left_eq, sameFile_iff]

end Save

/-! ## Many saves -/

/-- A save as a step of the disk; it may fail. -/
def saveStep (S : FileSystem) (directory : Directory) (t : FileTree FileName Data)
    (e : Data × String) : Option (FileTree FileName Data) :=
  some (save S t e.1 directory e.2).2

/-- The saves that succeeded, the last one first. -/
def recordSaved (S : FileSystem) (directory : Directory) (t : FileTree FileName Data)
    (saved : List (String × Data)) (e : Data × String) (_ : FileTree FileName Data) :
    List (String × Data) :=
  if (save S t e.1 directory e.2).1 = .ok () then (e.2, e.1) :: saved else saved

/-- What the log of saves has for the position that a path leads to. -/
def lastSaved (S : FileSystem) (directory : Directory) (saved : List (String × Data))
    (path : String) : Option Data :=
  (saved.find? fun entry =>
    filePosition S directory path = filePosition S directory entry.1).map Prod.snd

/-- **The disk refines a log of saves.**  In a directory that the app has access to, after any
sequence of saves to any paths, each of which may succeed or fail, a plain path retrieves the value
that was saved last among the successful saves that led to the same position, and without one what
it retrieved at the beginning. -/
theorem retrieve_last_saved {directory : Directory} {location : List FileName}
    (hlocation : S.location directory = some location) {t₀ : FileTree FileName Data}
    (r : Execution (withHistory (recordSaved S directory) (saveStep S directory)) (t₀, []))
    {path : String} (h : IsPlain S path) :
    (retrieve S r.final.1 path directory).toOption =
      (lastSaved S directory r.final.2 path).or (retrieve S t₀ path directory).toOption := by
  refine invariant_run (J := fun s : FileTree FileName Data × List (String × Data) =>
    (retrieve S s.1 path directory).toOption =
      (lastSaved S directory s.2 path).or (retrieve S t₀ path directory).toOption) ?_ rfl r.ran
  rintro ⟨t, log⟩ ⟨value, saved⟩ u hlog hstep
  obtain rfl := Option.some.inj hstep
  rw [retrieve_save hlocation t value saved h, hlog]
  change _ = (lastSaved S directory (if (save S t value directory saved).1 = .ok () then
    (saved, value) :: log else log) path).or _
  by_cases hok : (save S t value directory saved).1 = .ok ()
  · by_cases hsame : filePosition S directory path = filePosition S directory saved
    · rw [if_pos ⟨hok, hsame⟩, if_pos hok, lastSaved,
        List.find?_cons_of_pos (by simpa using hsame)]
      rfl
    · rw [if_neg fun hboth => hsame hboth.2, if_pos hok, lastSaved, lastSaved,
        List.find?_cons_of_neg (by simpa using hsame)]
  · rw [if_neg fun hboth => hok hboth.1, if_neg hok]

/-! ## Two saves -/

/-- A file system whose only invalid characters are the colon and line breaks, with every
directory at `Library/Caches`. -/
def plainSystem : FileSystem where
  location _ := some ["Library".toList, "Caches".toList]
  illegalCharacters _ := false
  controlCharacters _ := false

/-- The folders of a new app. -/
def newApp : FileTree FileName ℕ :=
  (FileTree.empty.mkdir [] "Library".toList).mkdir ["Library".toList] "Caches".toList

lemma newApp_caches : newApp.IsDirectory ["Library".toList, "Caches".toList] := by
  decide +kernel

theorem save_exact_at :
    ((save plainSystem newApp 1 .caches "a/b.jpg").1 = .ok () ↔
      (∀ q, q <+: ["Library".toList, "Caches".toList] ++ names plainSystem "a/b.jpg" →
          q ≠ ["Library".toList, "Caches".toList] ++ names plainSystem "a/b.jpg" →
            newApp.read q = none) ∧
        ¬ newApp.IsDirectory
          (["Library".toList, "Caches".toList] ++ names plainSystem "a/b.jpg")) ∧
    ∀ path', IsPlain plainSystem path' →
      (retrieve plainSystem (save plainSystem newApp 1 .caches "a/b.jpg").2 path'
          .caches).toOption =
        if (save plainSystem newApp 1 .caches "a/b.jpg").1 = .ok () ∧
            SameFile plainSystem path' "a/b.jpg" then some 1
        else (retrieve plainSystem newApp path' .caches).toOption :=
  save_exact 1 (by decide +kernel) rfl newApp_caches

/-- Neither the dot nor the colon makes a difference, so the second save replaces what the first one
saved. -/
def savedTwice : Execution (withHistory (recordSaved plainSystem .caches)
    (saveStep plainSystem .caches)) (newApp, []) :=
  .ofEvents _ [(1, "a.jpg"), (2, "./a:.jpg")] rfl

theorem savedTwice_retrieve :
    (retrieve plainSystem savedTwice.final.1 "a.jpg" .caches).toOption =
      (lastSaved plainSystem .caches savedTwice.final.2 "a.jpg").or
        (retrieve plainSystem newApp "a.jpg" .caches).toOption :=
  retrieve_last_saved rfl savedTwice (by decide +kernel)

example : lastSaved plainSystem .caches savedTwice.final.2 "a.jpg" = some 2 := by decide +kernel

end Disk

end Whix
