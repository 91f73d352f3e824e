import Whix.Client.Session
import Whix.Framework.Paths

/-!
# Paths of the storage service

`FIRStoragePath` is a bucket and an object of it, and the texts that stand for one: the `gs://`
URLs that posts hold as their content, and the `https://` URLs of the service.  The texts are read
with an `NSScanner`, which skips white space before each thing it scans, and with `NSURL`, whose
parsing is the parameter `U`.

What a raised `NSException` says is kept (`StorageException`); nothing catches one, so to raise it
ends the app.
-/

namespace Whix

/-- What `NSURL` reads off a text. -/
structure NSURL where
  host : Option String
  pathComponents : List String

/-- The exceptions of `FIRStoragePath` and `FIRStorage`. -/
inductive StorageException where
  /-- "URL scheme must be one of gs://, http://, or https:// " -/
  | scheme
  /-- "URI must be in the form of gs://<bucket>/<path/to/object>" -/
  | gsForm
  /-- "URL must be in the form of http[s]://firebasestorage.googleapis.com/v0/b/<bucket>/o/…" -/
  | httpForm
  /-- "Provided bucket: … does not match the Storage bucket of the current instance: …" -/
  | bucket (provided current : String)
  /-- "Storage bucket cannot be initialized with a path" -/
  | withPath
  deriving DecidableEq

/-! ## Scanning -/

namespace Scanner

/-- Past the characters a scanner skips. -/
def skip (s : List Char) : List Char := s.dropWhile CharacterSet.whitespacesAndNewlines

/-- `scanString`: is `t` next, in any case, and what is left? -/
def scanString (t s : List Char) : Bool × List Char :=
  if ((skip s).take t.length).map Char.toLower = t.map Char.toLower then
    (true, (skip s).drop t.length)
  else (false, s)

/-- `scanUpToString` for a single character: what comes before it, unless there is nothing, and
what is left. -/
def scanUpTo (stop : Char) (s : List Char) : Option (List Char) × List Char :=
  let scanned := (skip s).takeWhile (· ≠ stop)
  if scanned = [] then (none, s) else (some scanned, (skip s).dropWhile (· ≠ stop))

/-- The scanner reads this text up to the stop whole: it begins with nothing that is skipped, and
does not contain the stop. -/
structure Reads (stop : Char) (s : List Char) : Prop where
  head : ∃ c, s.head? = some c ∧ CharacterSet.whitespacesAndNewlines c = false
  stop : stop ∉ s

variable {stop : Char} {s t : List Char}

lemma skip_sublist (s : List Char) : (skip s).Sublist s := List.dropWhile_sublist _

lemma skip_of_head {c : Char} (h : s.head? = some c)
    (hc : CharacterSet.whitespacesAndNewlines c = false) : skip s = s := by
  cases s with
  | nil => rfl
  | cons d s =>
      obtain rfl := Option.some.inj h
      rw [skip, List.dropWhile_cons_of_neg (by simp [hc])]

lemma scanUpTo_append {rest : List Char} (h : Reads stop s)
    (hrest : ∀ c, rest.head? = some c → c = stop) : scanUpTo stop (s ++ rest) = (some s, rest) := by
  obtain ⟨c, hhead, hc⟩ := h.head
  have hne : s ≠ [] := by
    rintro rfl
    simp at hhead
  have hskip : skip (s ++ rest) = s ++ rest := by
    refine skip_of_head (c := c) ?_ hc
    rw [List.head?_append_of_ne_nil _ hne, hhead]
  have hs : ∀ d ∈ s, decide (d ≠ stop) = true := by
    intro d hd
    rw [decide_eq_true_eq]
    rintro rfl
    exact h.stop hd
  have htake : rest.takeWhile (· ≠ stop) = [] ∧ rest.dropWhile (· ≠ stop) = rest := by
    cases rest with
    | nil => exact ⟨rfl, rfl⟩
    | cons d rest =>
        obtain rfl := hrest d rfl
        simp
  rw [scanUpTo, hskip, List.takeWhile_append_of_pos hs, List.dropWhile_append_of_pos hs, htake.1,
    htake.2, List.append_nil, if_neg hne]

/-- What is left begins with the stop, unless nothing is left. -/
lemma head?_of_scanUpTo {rest : List Char} (h : scanUpTo stop s = (some t, rest)) :
    ∀ c, rest.head? = some c → c = stop := by
  rw [scanUpTo] at h
  split at h
  · simp at h
  obtain rfl := (Prod.mk.inj h).2
  intro c hc
  have hnot := List.head?_dropWhile_not (fun d => decide (d ≠ stop)) (skip s)
  rw [hc] at hnot
  simpa using hnot

/-- Over a slash. -/
lemma scanString_slash (h : ∀ c, s.head? = some c → c = '/') : (scanString ['/'] s).2 = s.tail := by
  cases s with
  | nil => rfl
  | cons c s =>
      obtain rfl := h c rfl
      have hskip : skip ('/' :: s) = '/' :: s := skip_of_head rfl (by decide)
      rw [scanString, hskip]
      rfl

/-- What was scanned up to a stop. -/
lemma reads_of_scanUpTo (h : (scanUpTo stop s).1 = some t) : Reads stop t ∧ t.Sublist s := by
  rw [scanUpTo] at h
  split at h
  · simp at h
  rename_i hne
  obtain rfl := Option.some.inj h
  refine ⟨⟨?_, ?_⟩, (List.takeWhile_sublist _).trans (skip_sublist s)⟩
  · have hnot := List.head?_dropWhile_not CharacterSet.whitespacesAndNewlines s
    cases hskip : skip s with
    | nil => simp [hskip] at hne
    | cons c rest =>
        rw [← skip, hskip] at hnot
        refine ⟨c, ?_, by simpa using hnot⟩
        rw [hskip] at hne
        by_cases hc : c = stop
        · simp [hc] at hne
        · simp [hc]
  · intro hmem
    have hstop := List.mem_takeWhile_imp hmem
    simp at hstop

end Scanner

/-! ## Paths -/

/-- `standardizedPathForString`: without leading, trailing and repeated slashes. -/
def standardizedPathForString (s : String) : String :=
  String.ofList (Paths.standardized '/' s.toList)

lemma standardizedPathForString_idem (s : String) :
    standardizedPathForString (standardizedPathForString s) = standardizedPathForString s := by
  simp [standardizedPathForString]

/-- `stringByDeletingLastPathComponent`, of a standardized text -/
def stringByDeletingLastPathComponent (s : String) : String :=
  String.ofList (Paths.deletingLast '/' s.toList)

/-- `lastPathComponent`, of a standardized text -/
def lastPathComponent (s : String) : String := String.ofList (Paths.last '/' s.toList)

/-- A bucket, and an object of it or none. -/
structure FIRStoragePath where
  bucket : String
  object : Option String
  standardized : ∀ o ∈ object, standardizedPathForString o = o

namespace FIRStoragePath

@[ext] lemma ext {p q : FIRStoragePath} (hbucket : p.bucket = q.bucket)
    (hobject : p.object = q.object) : p = q := by
  cases p
  cases q
  subst hbucket hobject
  rfl

/-- `initWithBucket:object:` -/
def initWithBucket (bucket : String) (object : Option String) : FIRStoragePath where
  bucket := bucket
  object := object.map standardizedPathForString
  standardized := by
    simp only [Option.mem_def, Option.map_eq_some_iff]
    rintro o ⟨text, -, rfl⟩
    exact standardizedPathForString_idem text

/-- `pathFromGSURI:` -/
def pathFromGSURI (aURIString : String) : Except StorageException FIRStoragePath :=
  let (isGSURI, s) := Scanner.scanString "gs://".toList aURIString.toList
  let (bucketName, s) := Scanner.scanUpTo '/' s
  let (_, s) := Scanner.scanString ['/'] s
  let (objectName, _) := Scanner.scanUpTo '\n' s
  match isGSURI, bucketName with
  | true, some bucketName =>
      .ok (initWithBucket (String.ofList bucketName) (objectName.map String.ofList))
  | _, _ => .error .gsForm

/-- What a `gs://` text is read as: a bucket name, and an object name after the next slash. -/
lemma pathFromGSURI_gs (rest : String) :
    pathFromGSURI ("gs://" ++ rest) =
      match Scanner.scanUpTo '/' rest.toList with
      | (some bucketName, s) =>
          .ok (initWithBucket (String.ofList bucketName)
            ((Scanner.scanUpTo '\n' s.tail).1.map String.ofList))
      | (none, _) => .error .gsForm := by
  have hscheme : Scanner.scanString "gs://".toList ("gs://" ++ rest).toList =
      (true, rest.toList) := by
    rw [String.toList_append]
    rfl
  rw [pathFromGSURI, hscheme]
  rcases hbucket : Scanner.scanUpTo '/' rest.toList with ⟨_ | bucketName, s⟩
  · simp only [hbucket]
  · simp only [hbucket, Scanner.scanString_slash (Scanner.head?_of_scanUpTo hbucket)]

/-- `kFIRStorageHost` -/
def kFIRStorageHost : String := "firebasestorage.googleapis.com"

/-- `pathFromHTTPURL:`, on what `NSURL` reads off the text, if it can. -/
def pathFromHTTPURL (httpsURL : Option NSURL) : Except StorageException FIRStoragePath :=
  let pathComponents := (httpsURL.filter fun url => url.host = some kFIRStorageHost).elim []
    NSURL.pathComponents
  let bucketName := pathComponents[3]?.getD ""
  let objectName := "/".intercalate (pathComponents.drop 5)
  if bucketName = "" then .error .httpForm
  else .ok (initWithBucket bucketName (if objectName = "" then none else some objectName))

/-- `pathFromString:` -/
def pathFromString (U : String → Option NSURL) (string : String) :
    Except StorageException FIRStoragePath :=
  if "gs://".toList.isPrefixOf string.toList then pathFromGSURI string
  else if "http://".toList.isPrefixOf string.toList ∨
      "https://".toList.isPrefixOf string.toList then
    pathFromHTTPURL (U string)
  else .error .scheme

variable (p : FIRStoragePath)

/-- `stringValue` -/
def stringValue : String := "gs://" ++ p.bucket ++ "/" ++ p.object.getD ""

/-- `child:`, where the components appended are standardized with the rest. -/
def child (path : String) : FIRStoragePath :=
  if path = "" then initWithBucket p.bucket p.object
  else
    match p.object with
    | none => initWithBucket p.bucket (some path)
    | some object => initWithBucket p.bucket (some (object ++ "/" ++ path))

/-- `parent`; there is none of a path without an object name. -/
def parent : Option FIRStoragePath :=
  if p.object.getD "" = "" then none
  else some (initWithBucket p.bucket (p.object.map stringByDeletingLastPathComponent))

/-- `root` -/
def root : FIRStoragePath := initWithBucket p.bucket none

/-- `fullPath` of a reference -/
def fullPath : String := p.object.getD ""

/-- `name` of a reference -/
def name : String := (p.object.map lastPathComponent).getD ""

end FIRStoragePath

/-! ## The storage of the app -/

/-- A `FIRStorage`. -/
structure FIRStorage where
  storageBucket : String
  deriving DecidableEq

namespace FIRStorage

open FIRStoragePath

/-- `storageForApp:URL:` -/
def storageForApp (url : String) : Except StorageException FIRStorage :=
  if url = "" then .ok ⟨""⟩
  else
    match pathFromGSURI url with
    | .error _ => .error .gsForm
    | .ok path =>
        if path.object ≠ none ∧ path.object ≠ some "" then .error .withPath
        else .ok ⟨path.bucket⟩

/-- `storage` for the options of the default app -/
def storage (storageBucket : String) : Except StorageException FIRStorage :=
  storageForApp (if storageBucket = "" then "" else "gs://" ++ storageBucket)

variable (s : FIRStorage)

/-- `reference` -/
def reference : FIRStoragePath := initWithBucket s.storageBucket none

/-- `referenceForURL:` -/
def referenceForURL (U : String → Option NSURL) (string : String) :
    Except StorageException FIRStoragePath := do
  let path ← pathFromString U string
  if s.storageBucket = "" then return path
  if path.bucket ≠ s.storageBucket then
    throw (.bucket path.bucket s.storageBucket)
  return path

end FIRStorage

/-! ## The names of uploads -/

/-- The letters of `randomString`. -/
def letters : List Char :=
  "abcdefghijklmnopqrstuvwxyzABCDEFGHIJKLMNOPQRSTUVWXYZ0123456789".toList

/-- `randomString(length:)`, for the elements picked at random. -/
def randomString (pick : ℕ → Fin letters.length) (length : ℕ) : String :=
  String.ofList ((List.range length).map fun i => letters.get (pick i))

lemma mem_randomString {pick : ℕ → Fin letters.length} {length : ℕ} {c : Char}
    (h : c ∈ (randomString pick length).toList) : c ∈ letters := by
  rw [randomString, String.toList_ofList, List.mem_map] at h
  obtain ⟨i, -, rfl⟩ := h
  exact List.get_mem _ _

end Whix
