import Whix.Backend.Server
import Whix.Client.Android

/-!
# What the Android reader makes of the posts

The reader and the writer of a post each have their own idea of its fields.  They agree on all but
one: the reader takes `userid` for a string, the functions write a document reference.  So the
first document already throws out of the loop (`new_throws`), and the reader decodes a collection
exactly when there is nothing to decode.
-/

namespace Whix

open Js Runs

/-- The post has what the document has, the author by the path of the reference. -/
structure WhixPost.Matches (post : WhixPost) (doc : QueryDocumentSnapshot) : Prop where
  key : post.key = doc.documentID.val
  content : post.content.map JavaObject.string = doc.get "content"
  date : post.date = some doc.data.date
  likes : post.likes = some doc.data.likes
  location : post.location = some doc.data.locationid
  author : post.author = some doc.data.userid.path

/-- The completion handler runs through, and leaves one post for each document, whose content
`getItem` passes on. -/
def Decodes (documents : List QueryDocumentSnapshot) : Prop :=
  ∃ adapter : CollectionPagerAdapter,
    CollectionPagerAdapter.onComplete ⟨[]⟩ (.ok documents : Except Throwable _) = .ok adapter ∧
    adapter.getCount = documents.length ∧
    ∀ i doc, documents[i]? = some doc → ∃ post, adapter.whixPosts[i]? = some post ∧
      post.Matches doc ∧ adapter.getItem i = .ok ⟨FragmentArgs.IMAGE, post.content⟩

/-- The result of `collection("post").get()`. -/
def Store.postSnapshots (s : Store) : List QueryDocumentSnapshot :=
  s.post.docs.map fun d => ⟨d.1, d.2⟩

/-- No document of a post can be read. -/
lemma WhixPost.new_throws (doc : QueryDocumentSnapshot) :
    WhixPost.new doc = .error .classCastException := by
  rcases hcontent : castTo JavaObject.asString (doc.get "content") with e | content
  · obtain rfl := castTo_error hcontent
    rw [WhixPost.new, hcontent]
    rfl
  · rw [WhixPost.new, hcontent, castTo_date, castTo_likes, castTo_location, castTo_author]
    rfl

/-- So the loop does not get past its first document. -/
lemma onComplete_throws (adapter : CollectionPagerAdapter) (doc : QueryDocumentSnapshot)
    (documents : List QueryDocumentSnapshot) :
    adapter.onComplete (.ok (doc :: documents) : Except Throwable _) =
      .error .classCastException := by
  rw [CollectionPagerAdapter.onComplete, List.foldlM_cons, CollectionPagerAdapter.addDocument,
    WhixPost.new_throws]
  rfl

lemma decodes_iff (documents : List QueryDocumentSnapshot) :
    Decodes documents ↔ documents = [] := by
  constructor
  · rintro ⟨adapter, hadapter, -, -⟩
    cases documents with
    | nil => rfl
    | cons doc documents =>
        rw [onComplete_throws] at hadapter
        simp at hadapter
  · rintro rfl
    exact ⟨⟨[]⟩, rfl, rfl, by simp⟩

/-- **The Android reader, exactly.**  In every run of the backend from empty collections, the
completion handler decodes the posts that have been committed if and only if there are none. -/
theorem posts_decoded_iff {P : Platform} (r : ServerRun P .empty) :
    Decodes r.final.store.postSnapshots ↔ r.final.store.post.docs = [] := by
  rw [decodes_iff, Store.postSnapshots, List.map_eq_nil_iff]

/-- Ada registers and posts a photo. -/
def onePost : ServerRun .plain .empty :=
  .ofEvents _
    [.invoke (.login (loginData "ada@whix.io" "ada")), .advance 0 (.commit idA),
      .advance 0 (.commit idA), .advance 0 (.commit idA), .advance 0 (.commit idA),
      .invoke (.post 0 (postData "https://whix.io/photo.jpg" "ada" 55 (-4))),
      .advance 1 (.commit idB), .advance 1 (.commit idB)]
    (by decide)

/-- Her post cannot be read. -/
theorem post_not_decoded :
    ¬ ∀ r : ServerRun .plain .empty, Decodes r.final.store.postSnapshots := by
  intro h
  have hdocs : onePost.final.store.post.docs = [] := by
    have hdecodes := (decodes_iff _).mp (h onePost)
    rwa [Store.postSnapshots, List.map_eq_nil_iff] at hdecodes
  have hone : onePost.final.store.post.docs.length = 1 := by decide +kernel
  rw [hdocs] at hone
  simp at hone

end Whix
