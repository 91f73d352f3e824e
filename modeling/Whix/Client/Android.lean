import Whix.Client.Cell

/-!
# The Android reader

The Android client reads the collection `post` once and makes a `WhixPost` of every document, by
casting what `doc.get(field)` delivers.  A cast that fails throws out of the loop, and nothing
catches it.

`JavaObject` has what Firestore delivers for the fields of a post: strings, timestamps, geo points,
array lists and document references as such, `null` as no object, and any other value as an object
that fits none of the casts.
-/

namespace Whix

open Js

/-- What is thrown on the way. -/
inductive Throwable where
  | classCastException
  | indexOutOfBoundsException
  deriving DecidableEq

/-- An object that `doc.get(field)` delivers. -/
inductive JavaObject where
  | string (s : String)
  | timestamp (t : Timestamp)
  | geoPoint (p : GeoPoint)
  | arrayList (references : List DocumentReference)
  | documentReference (ref : DocumentReference)
  /-- a `Boolean`, a number, a `Map`, or a list of other objects -/
  | other (v : Value)

namespace JavaObject

/-- What is delivered for a value. -/
def ofValue : Value → Option JavaObject
  | .null => none
  | .string s => some (.string s)
  | v => some (.other v)

/-- The object as a `String`. -/
def asString : JavaObject → Option String
  | string s => some s
  | _ => none

/-- The object as a `Timestamp`. -/
def asTimestamp : JavaObject → Option Timestamp
  | timestamp t => some t
  | _ => none

/-- The object as an `ArrayList<DocumentReference>`. -/
def asArrayList : JavaObject → Option (List DocumentReference)
  | arrayList references => some references
  | _ => none

/-- The object as a `GeoPoint`. -/
def asGeoPoint : JavaObject → Option GeoPoint
  | geoPoint p => some p
  | _ => none

end JavaObject

/-- `(T) object`: `null` is of every type. -/
def castTo {α : Type} (as : JavaObject → Option α) : Option JavaObject → Except Throwable (Option α)
  | none => .ok none
  | some object =>
      match as object with
      | some a => .ok (some a)
      | none => .error .classCastException

/-- `doc.get(field)` -/
def QueryDocumentSnapshot.get (doc : QueryDocumentSnapshot) (field : String) : Option JavaObject :=
  match field with
  | "content" => JavaObject.ofValue doc.data.content
  | "date" => some (.timestamp doc.data.date)
  | "likes" => some (.arrayList doc.data.likes)
  | "likesCount" => some (.other (.number doc.data.likesCount))
  | "locationid" => some (.geoPoint doc.data.locationid)
  | "userid" => some (.documentReference doc.data.userid)
  | _ => none

/-- A `WhixPost`; a field that was `null` is `none`. -/
structure WhixPost where
  key : String
  content : Option String
  date : Option Timestamp
  likes : Option (List DocumentReference)
  location : Option GeoPoint
  author : Option String

/-- `new WhixPost(doc)` -/
def WhixPost.new (doc : QueryDocumentSnapshot) : Except Throwable WhixPost := do
  let content ← castTo JavaObject.asString (doc.get "content")
  let date ← castTo JavaObject.asTimestamp (doc.get "date")
  let likes ← castTo JavaObject.asArrayList (doc.get "likes")
  let location ← castTo JavaObject.asGeoPoint (doc.get "locationid")
  let author ← castTo JavaObject.asString (doc.get "userid")
  return { key := doc.documentID.val, content, date, likes, location, author }

/-- The arguments of a `FeedFragments`. -/
structure FragmentArgs where
  filetype : ℕ
  fileuri : Option String

/-- `FeedFragments.IMAGE` -/
def FragmentArgs.IMAGE : ℕ := 2

/-- A `CollectionPagerAdapter`. -/
structure CollectionPagerAdapter where
  whixPosts : List WhixPost

namespace CollectionPagerAdapter

variable (adapter : CollectionPagerAdapter)

/-- The body of the loop in `onComplete`. -/
def addDocument (document : QueryDocumentSnapshot) : Except Throwable CollectionPagerAdapter := do
  let post ← WhixPost.new document
  return { adapter with whixPosts := adapter.whixPosts ++ [post] }

/-- `onComplete`: a failed task leaves the adapter as it is. -/
def onComplete {ε : Type} (task : Except ε (List QueryDocumentSnapshot)) :
    Except Throwable CollectionPagerAdapter :=
  match task with
  | .ok documents => documents.foldlM addDocument adapter
  | .error _ => .ok adapter

/-- `getItem` -/
def getItem (i : ℕ) : Except Throwable FragmentArgs :=
  match adapter.whixPosts[i]? with
  | some post => .ok { filetype := FragmentArgs.IMAGE, fileuri := post.content }
  | none => .error .indexOutOfBoundsException

/-- `getCount` -/
def getCount : ℕ := adapter.whixPosts.length

end CollectionPagerAdapter

/-! ## The casts on a stored post -/

/-- A cast that does not succeed throws a `ClassCastException`. -/
lemma castTo_error {α : Type} {as : JavaObject → Option α} {object : Option JavaObject}
    {e : Throwable} (h : castTo as object = .error e) : e = .classCastException := by
  unfold castTo at h
  split at h
  · simp at h
  · split at h
    · simp at h
    · exact (Except.error.inj h).symm

section Casts

variable (doc : QueryDocumentSnapshot)

@[simp] lemma castTo_date :
    castTo JavaObject.asTimestamp (doc.get "date") = .ok (some doc.data.date) := rfl

@[simp] lemma castTo_likes :
    castTo JavaObject.asArrayList (doc.get "likes") = .ok (some doc.data.likes) := rfl

@[simp] lemma castTo_location :
    castTo JavaObject.asGeoPoint (doc.get "locationid") = .ok (some doc.data.locationid) := rfl

/-- The author of a post is stored as a reference, and a reference is no string. -/
@[simp] lemma castTo_author :
    castTo JavaObject.asString (doc.get "userid") = .error .classCastException := rfl

end Casts

end Whix
