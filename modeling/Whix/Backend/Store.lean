import Mathlib.Data.String.Basic
import Mathlib.Order.Lattice
import Whix.Framework.Collection
import Whix.Framework.JavaScript

/-!
# The document store

The two Firestore collections the functions use, `users` and `post`, and the operations the
functions await on them.  `perform` gives an operation its answer and its effect, each operation
atomic and on the latest committed state; an operation may also be rejected, and then it has not
written.

Documents created with `add` get automatic identifiers (`AutoId`): twenty alphanumeric
characters, so never the text `null`.  A `DocumentReference` is the path it was made from.
-/

namespace Whix

open Js

/-- An automatic document identifier. -/
structure AutoId where
  val : String
  wellFormed : val.length = 20 ∧ val.toList.all Char.isAlphanum = true
  deriving DecidableEq

namespace AutoId

lemma val_injective : Function.Injective AutoId.val := by
  rintro ⟨s, _⟩ ⟨t, _⟩ rfl
  rfl

instance : LinearOrder AutoId := LinearOrder.lift' AutoId.val val_injective

/-- The identifier with this text, if the text is one. -/
def ofString? (s : String) : Option AutoId :=
  if h : s.length = 20 ∧ s.toList.all Char.isAlphanum = true then some ⟨s, h⟩ else none

@[simp] lemma ofString?_val (id : AutoId) : ofString? id.val = some id := by
  simp only [ofString?, dif_pos id.wellFormed]

lemma val_ne_null (id : AutoId) : id.val ≠ "null" := by
  intro h
  have hlen := id.wellFormed.1
  rw [h] at hlen
  exact absurd hlen (by decide)

end AutoId

/-! ## Documents -/

/-- `db.doc(path)`. -/
structure DocumentReference where
  path : String
  deriving DecidableEq

/-- `db.doc("/users/" + userId)`; string concatenation renders a missing identifier as
`null`. -/
def userRef (userId : Option AutoId) : DocumentReference :=
  ⟨"/users/" ++ match userId with
    | some id => id.val
    | none => "null"⟩

@[simp] lemma userRef_inj {u v : Option AutoId} : userRef u = userRef v ↔ u = v := by
  constructor
  · intro h
    have htext := String.append_right_inj _ |>.mp (DocumentReference.mk.inj h)
    match u, v, htext with
    | some a, some b, htext => exact congrArg some (AutoId.val_injective htext)
    | some a, none, htext => exact absurd htext a.val_ne_null
    | none, some b, htext => exact absurd htext.symm b.val_ne_null
    | none, none, _ => rfl
  · rintro rfl
    rfl

/-- A geographical point, as `GeoPoint(latitude, longitude)` stores it. -/
structure GeoPoint where
  latitude : ℚ
  longitude : ℚ
  deriving DecidableEq

/-- A point in time, in milliseconds. -/
abbrev Timestamp := ℕ

/-- A document of `users`. -/
structure UserDoc where
  email : String
  gravatar : String
  username : String
  deriving DecidableEq

/-- A document of `post`. -/
structure PostDoc where
  content : Value
  date : Timestamp
  likes : List DocumentReference
  likesCount : ℤ
  locationid : GeoPoint
  userid : DocumentReference

/-- The two collections. -/
structure Store where
  users : Collection AutoId UserDoc
  post : Collection AutoId PostDoc

/-- The empty collections. -/
def Store.empty : Store := ⟨.empty, .empty⟩

/-! ## Operations -/

/-- The fields of `users` that queries filter on. -/
inductive UserField where
  | email
  | username
  deriving DecidableEq

/-- The text a user document holds in a field. -/
def UserDoc.field (doc : UserDoc) : UserField → String
  | .email => doc.email
  | .username => doc.username

/-- A conjunction of `where(field, "==", value)` filters. -/
abbrev Query := List (UserField × Value)

/-- Does a user document pass all filters? -/
def Query.admits (q : Query) (doc : UserDoc) : Bool :=
  q.all fun f => f.2.isString (doc.field f.1)

/-- The operations the functions await. -/
inductive Op where
  /-- `users.where(…).get()` -/
  | getUsers (q : Query)
  /-- `users.add(doc)` -/
  | addUser (doc : UserDoc)
  /-- `post.add(doc)` -/
  | addPost (doc : PostDoc)
  /-- `post.doc(path).get()` -/
  | getPost (path : String)
  /-- `post.doc(path).update({ likes, likesCount })` -/
  | updatePost (path : String) (likes : List DocumentReference) (likesCount : ℤ)

/-- What a fulfilled operation delivers: the documents of a query snapshot, the identifier of the
new document, or the data of a document snapshot. -/
abbrev Op.Payload : Op → Type
  | .getUsers _ => List (AutoId × UserDoc)
  | .addUser _ => AutoId
  | .addPost _ => AutoId
  | .getPost _ => Option PostDoc
  | .updatePost .. => Unit

/-- The outcome of an operation: its promise is fulfilled or rejected. -/
abbrev Op.Res (o : Op) : Type := Except Error o.Payload

/-- What the service decides about one operation: to commit it, under a new automatic identifier
if it creates a document, or to reject it. -/
inductive Outcome where
  | commit (autoId : AutoId)
  | reject
  deriving DecidableEq

/-- The post that a path below the collection `post` leads to. -/
def Store.postAt (s : Store) (path : String) : Option (AutoId × PostDoc) := do
  let id ← AutoId.ofString? path
  let doc ← s.post.get? id
  return (id, doc)

lemma postAt_eq_some_iff {s : Store} {path : String} {id : AutoId} {doc : PostDoc} :
    s.postAt path = some (id, doc) ↔
      AutoId.ofString? path = some id ∧ s.post.get? id = some doc := by
  simp only [Store.postAt, Option.bind_eq_bind, Option.bind_eq_some_iff, Option.pure_def,
    Option.some.injEq, Prod.mk.injEq]
  constructor
  · rintro ⟨id', hid, doc', hdoc, rfl, rfl⟩
    exact ⟨hid, hdoc⟩
  · rintro ⟨hid, hdoc⟩
    exact ⟨id, hid, doc, hdoc, rfl, rfl⟩

/-- Answer and effect of a committed operation. -/
def Op.commit (autoId : AutoId) (s : Store) : (o : Op) → o.Res × Store
  | .getUsers q => (.ok (s.users.select q.admits), s)
  | .addUser doc =>
      match s.users.add autoId doc with
      | some users => (.ok autoId, { s with users })
      | none => (.error (.service "ALREADY_EXISTS"), s)
  | .addPost doc =>
      match s.post.add autoId doc with
      | some post => (.ok autoId, { s with post })
      | none => (.error (.service "ALREADY_EXISTS"), s)
  | .getPost path => (.ok ((s.postAt path).map Prod.snd), s)
  | .updatePost path likes likesCount =>
      match s.postAt path with
      | some (id, _) =>
          (.ok (), { s with post := s.post.modify id fun doc => { doc with likes, likesCount } })
      | none => (.error (.service "NOT_FOUND"), s)

/-- Answer and effect of an operation under the outcome the service chose. -/
def perform (env : Outcome) (o : Op) (s : Store) : o.Res × Store :=
  match env with
  | .commit autoId => o.commit autoId s
  | .reject => (.error (.service "UNAVAILABLE"), s)

end Whix
