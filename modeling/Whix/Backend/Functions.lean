import Mathlib.Data.Rat.Lemmas
import Whix.Framework.Program
import Whix.Backend.Store

/-!
# The callable functions

`login`, `post`, `like` and `unlike` as programs over the operations of `Backend/Store.lean`, one
`await` each.  A call is answered with a value, or rejects when something is thrown outside its
`try` block; what is thrown inside is caught and answered with `null`.

`Platform` holds what the functions use of their packages: `md5`, and the checks that the
Firestore library makes on its arguments before it sends anything.
-/

namespace Whix

open Js

/-- What the functions use of the packages they require. -/
structure Platform where
  /-- `md5(text)` -/
  md5 : String → String
  /-- whether `where(field, "==", value)` accepts the value -/
  queryable : Value → Bool
  /-- whether `add` accepts the value as a field -/
  storable : Value → Bool
  /-- `new GeoPoint(lat, lon)`, unless it throws -/
  geoPoint : Value → Value → Option GeoPoint
  /-- the path below `post` that `post.doc(postId)` leads to, unless it throws -/
  docPath : Value → Option String
  queryable_string : ∀ s, queryable (.string s) = true
  storable_string : ∀ s, storable (.string s) = true
  storable_undefined : storable .undefined = false
  geoPoint_eq_some_iff : ∀ lat lon p, geoPoint lat lon = some p ↔
    lat = .number p.latitude ∧ lon = .number p.longitude ∧
      -90 ≤ p.latitude ∧ p.latitude ≤ 90 ∧ -180 ≤ p.longitude ∧ p.longitude ≤ 180
  docPath_autoId : ∀ id : AutoId, docPath (.string id.val) = some id.val

/-- A platform to run examples on: it knows the digests of the addresses they use, and takes a
post identifier for the path as it stands. -/
def Platform.plain : Platform where
  md5 text :=
    if text = "ada@whix.io" then "38a4092773fdb107ee3815833b6bab7c"
    else if text = "bob@whix.io" then "d04929f5cc9739515668027773e504f6"
    else ""
  queryable
    | .undefined => false
    | _ => true
  storable
    | .undefined => false
    | _ => true
  geoPoint
    | .number lat, .number lon =>
        if -90 ≤ lat ∧ lat ≤ 90 ∧ -180 ≤ lon ∧ lon ≤ 180 then some ⟨lat, lon⟩ else none
    | _, _ => none
  docPath
    | .string path => if path = "" then none else some path
    | _ => none
  queryable_string _ := rfl
  storable_string _ := rfl
  storable_undefined := rfl
  geoPoint_eq_some_iff lat lon p := by
    cases lat with
    | number lat =>
        cases lon with
        | number lon =>
            obtain ⟨latitude, longitude⟩ := p
            simp only [Option.ite_none_right_eq_some, Option.some.injEq, GeoPoint.mk.injEq,
              Value.number.injEq]
            constructor
            · rintro ⟨hbounds, rfl, rfl⟩
              exact ⟨rfl, rfl, hbounds⟩
            · rintro ⟨rfl, rfl, hbounds⟩
              exact ⟨hbounds, rfl, rfl⟩
        | _ => simp
    | _ => simp
  docPath_autoId id := by
    have hne : id.val ≠ "" := by
      intro h
      have hlen := id.wellFormed.1
      rw [h] at hlen
      exact absurd hlen (by decide)
    simp [hne]

/-- An `async` function: it awaits operations, and what it throws rejects its promise. -/
abbrev Async (α : Type) := ExceptT Error (Prog Op Op.Res) α

/-- `await` a Firestore operation. -/
def await (o : Op) : Async o.Payload :=
  ExceptT.mk (Prog.perform o)

/-- `await users.where(…).get()` -/
def getUsers (q : Query) : Async (List (AutoId × UserDoc)) := await (.getUsers q)

/-- `await users.add(doc)` -/
def addUser (doc : UserDoc) : Async AutoId := await (.addUser doc)

/-- `await post.add(doc)` -/
def addPost (doc : PostDoc) : Async AutoId := await (.addPost doc)

/-- `await post.doc(path).get()` -/
def getPost (path : String) : Async (Option PostDoc) := await (.getPost path)

/-- `await post.doc(path).update({ likes, likesCount })` -/
def updatePost (path : String) (likes : List DocumentReference) (likesCount : ℤ) : Async Unit :=
  await (.updatePost path likes likesCount)

/-- The value of a synchronous library call, which throws if its arguments are invalid. -/
def orThrow {α : Type} : Option α → Except Error α
  | some a => .ok a
  | none => .error (.service "invalid-argument")

/-- `querySnapshot.forEach(doc => { userId = doc.id })`, starting from `null`. -/
def lastId (querySnapshot : List (AutoId × UserDoc)) : Option AutoId :=
  querySnapshot.foldl (fun _ doc => some doc.1) none

/-- An identifier, or `null`, as a reply. -/
def idReply : Option AutoId → Value
  | some id => .string id.val
  | none => .null

/-- `postDoc.data()`, read for its properties: it throws if the document does not exist. -/
def dataOf (postDoc : Option PostDoc) : Except Error PostDoc :=
  match postDoc with
  | some data => .ok data
  | none => .error .typeError

/-- The array and the counter that `toggleLike` makes of the ones it read.  The array that was
read holds fresh reference objects, and `db.doc` makes another one. -/
def toggled (like : Bool) (ref : DocumentReference) (likes : List DocumentReference)
    (likesCount : ℤ) : List DocumentReference × ℤ :=
  let likesArray := alloc 0 likes
  let doc : Obj DocumentReference := ⟨likes.length, ref⟩
  if like then
    ((likesArray ++ [doc]).map Obj.val, likesCount + 1)
  else
    ((splice likesArray (indexOf likesArray doc) 1).map Obj.val, likesCount - 1)

/-- `data.name.trim()` -/
def trimmedMember (data : Value) (name : String) : Except Error String := do
  (← data.member name).trim

/-- What `trim` makes of a string. -/
def trimmed (s : String) : String := Text.strip Value.isWhiteSpace s

variable (P : Platform)

/-- `query.where(field, "==", value)`. -/
def whereEq (q : Query) (field : UserField) (value : Value) : Except Error Query :=
  if P.queryable value then .ok (q ++ [(field, value)])
  else .error (.service "invalid-argument")

/-- The document `login` creates. -/
def account (email username : String) : UserDoc where
  email := email
  gravatar := "https://www.gravatar.com/avatar/" ++ P.md5 email ++ ".jpg?d=retro"
  username := username

/-- `exports.login` -/
def login (data : Value) : Async Value := do
  let email ← trimmedMember data "email"
  let username ← trimmedMember data "username"
  try
    let byEmail ← whereEq P [] .email (.string email)
    let querySnapshot ← getUsers (← whereEq P byEmail .username (.string username))
    if querySnapshot.length > 0 then
      pure (idReply (lastId querySnapshot))
    else
      let emailQuerySnapshot ← getUsers (← whereEq P [] .email (.string email))
      let usernameQuerySnapshot ← getUsers (← whereEq P [] .username (.string username))
      if emailQuerySnapshot.length = 0 ∧ usernameQuerySnapshot.length = 0 then
        let id ← addUser (account P email username)
        pure (idReply (some id))
      else
        pure .null
  catch _ => pure .null

/-- `exports.post`, called when `new Date()` is `now`. -/
def post (now : Timestamp) (data : Value) : Async Value := do
  let contenturl ← data.member "contenturl"
  let username ← data.member "username"
  let lat ← data.member "lat"
  let lon ← data.member "lon"
  try
    let querySnapshot ← getUsers (← whereEq P [] .username username)
    let userId := lastId querySnapshot
    let locationid ← orThrow (P.geoPoint lat lon)
    if P.storable contenturl then
      let id ← addPost
        { content := contenturl
          date := now
          likes := []
          likesCount := 0
          locationid
          userid := userRef userId }
      pure (idReply (some id))
    else
      throw (.service "invalid-argument")
  catch _ => pure .null

/-- `toggleLike` -/
def toggleLike (data : Value) (like : Bool) : Async Value := do
  let username ← data.member "username"
  let postId ← data.member "postId"
  try
    let querySnapshot ← getUsers (← whereEq P [] .username username)
    let userId := lastId querySnapshot
    let path ← orThrow (P.docPath postId)
    let postDoc ← dataOf (← getPost path)
    let (likes, likesCount) := toggled like (userRef userId) postDoc.likes postDoc.likesCount
    updatePost path likes likesCount
    pure (.number likesCount)
  catch _ => pure .null

/-- A call of one of the exported functions. -/
inductive Request where
  | login (data : Value)
  | post (now : Timestamp) (data : Value)
  | like (data : Value)
  | unlike (data : Value)

/-- The data of a `login` call, as the clients send it. -/
def loginData (email username : String) : Value :=
  .object [("email", .string email), ("username", .string username)]

@[simp] lemma loginData_email (email username : String) :
    trimmedMember (loginData email username) "email" = .ok (trimmed email) := rfl

@[simp] lemma loginData_username (email username : String) :
    trimmedMember (loginData email username) "username" = .ok (trimmed username) := rfl

/-- The data of a `post` call, as the clients send it. -/
def postData (contenturl username : String) (lat lon : ℚ) : Value :=
  .object [("contenturl", .string contenturl), ("username", .string username),
    ("lat", .number lat), ("lon", .number lon)]

/-- The data of a `like` or `unlike` call. -/
def likeData (username : String) (postId : AutoId) : Value :=
  .object [("username", .string username), ("postId", .string postId.val)]

/-- What a call answers: a value, or the error it rejects with. -/
abbrev Reply := Except Error Value

/-- The program that serves a request. -/
def handle : Request → Prog Op Op.Res Reply
  | .login data => (login P data).run
  | .post now data => (post P now data).run
  | .like data => (toggleLike P data true).run
  | .unlike data => (toggleLike P data false).run

/-! ## The programs with their `try` blocks resolved

Each function once more, as the tree of its operations and their outcomes.  These equations are
what the rest of the development unfolds. -/

@[simp] lemma run_getUsers (q : Query) :
    (getUsers q).run = (.op (.getUsers q) .ret : Prog Op Op.Res _) := rfl

@[simp] lemma run_addUser (doc : UserDoc) :
    (addUser doc).run = (.op (.addUser doc) .ret : Prog Op Op.Res _) := rfl

@[simp] lemma run_addPost (doc : PostDoc) :
    (addPost doc).run = (.op (.addPost doc) .ret : Prog Op Op.Res _) := rfl

@[simp] lemma run_getPost (path : String) :
    (getPost path).run = (.op (.getPost path) .ret : Prog Op Op.Res _) := rfl

@[simp] lemma run_updatePost (path : String) (likes : List DocumentReference) (n : ℤ) :
    (updatePost path likes n).run = (.op (.updatePost path likes n) .ret : Prog Op Op.Res _) := rfl

/-- The filters of `login`'s first query. -/
abbrev pairQuery (email username : String) : Query :=
  [(.email, .string email), (.username, .string username)]

/-- The filters of `login`'s second query. -/
abbrev emailQuery (email : String) : Query := [(.email, .string email)]

/-- The filters of `login`'s third query, and of the only query of the other functions. -/
abbrev usernameQuery (username : Value) : Query := [(.username, username)]

lemma login_run_of_error {data : Value} {e : Error}
    (h : trimmedMember data "email" = .error e ∨ trimmedMember data "username" = .error e) :
    ∃ e, (login P data).run = .ret (.error e) := by
  unfold login
  simp only [ExceptT.run_bind, Prog.run_liftM, Prog.ret_bind]
  rcases hemail : trimmedMember data "email" with e' | email
  · exact ⟨e', rfl⟩
  · rw [h.resolve_left (by simp [hemail])]
    exact ⟨e, rfl⟩

lemma login_run {data : Value} {email username : String}
    (hemail : trimmedMember data "email" = .ok email)
    (husername : trimmedMember data "username" = .ok username) :
    (login P data).run =
      .op (.getUsers (pairQuery email username)) fun
        | .error _ => .ret (.ok .null)
        | .ok docs =>
          if docs.length > 0 then .ret (.ok (idReply (lastId docs)))
          else .op (.getUsers (emailQuery email)) fun
            | .error _ => .ret (.ok .null)
            | .ok byEmail => .op (.getUsers (usernameQuery (.string username))) fun
              | .error _ => .ret (.ok .null)
              | .ok byUsername =>
                if byEmail.length = 0 ∧ byUsername.length = 0 then
                  .op (.addUser (account P email username)) fun
                    | .error _ => .ret (.ok .null)
                    | .ok id => .ret (.ok (idReply (some id)))
                else .ret (.ok .null) := by
  unfold login
  simp only [ExceptT.run_bind, Prog.run_liftM, Prog.run_tryCatch, run_getUsers, Prog.pure_eq,
    Prog.ret_bind, Prog.op_bind, ExceptT.run_pure, whereEq, P.queryable_string, if_true, hemail,
    husername, List.nil_append, List.singleton_append]
  congr 1; funext r; rcases r with e | docs
  · rfl
  dsimp only
  split
  · rfl
  simp only [ExceptT.run_bind, Prog.run_liftM, run_getUsers, Prog.ret_bind, Prog.op_bind]
  congr 1; funext r; rcases r with e | byEmail
  · rfl
  simp only [Prog.op_bind]
  congr 1; funext r; rcases r with e | byUsername
  · rfl
  dsimp only
  split
  · simp only [ExceptT.run_bind, run_addUser, Prog.op_bind, Prog.ret_bind]
    congr 1; funext r; rcases r with e | id <;> rfl
  · rfl

/-- The lookup that `post`, `like` and `unlike` begin with: `k` gets the accounts with this
username, and a failure ends the call with `null`. -/
def withUser (username : Value) (k : List (AutoId × UserDoc) → Prog Op Op.Res Reply) :
    Prog Op Op.Res Reply :=
  match whereEq P [] .username username with
  | .error _ => .ret (.ok .null)
  | .ok q => .op (.getUsers q) fun
    | .error _ => .ret (.ok .null)
    | .ok docs => k docs

lemma post_run_of_error {now : Timestamp} {data : Value}
    (h : ∀ name, data.member name = .error .typeError) :
    (post P now data).run = .ret (.error .typeError) := by
  simp only [post, ExceptT.run_bind, Prog.run_liftM, Prog.ret_bind, h, Prog.pure_eq]

lemma post_run {now : Timestamp} {data : Value} {props : String → Value}
    (h : ∀ name, data.member name = .ok (props name)) :
    (post P now data).run = withUser P (props "username") fun docs =>
      match P.geoPoint (props "lat") (props "lon") with
      | none => .ret (.ok .null)
      | some locationid =>
        if P.storable (props "contenturl") then
          .op (.addPost
            { content := props "contenturl", date := now, likes := [], likesCount := 0,
              locationid, userid := userRef (lastId docs) }) fun
            | .error _ => .ret (.ok .null)
            | .ok id => .ret (.ok (idReply (some id)))
        else .ret (.ok .null) := by
  simp only [withUser, post, ExceptT.run_bind, Prog.run_liftM, Prog.run_tryCatch, run_getUsers,
    Prog.pure_eq, Prog.ret_bind, ExceptT.run_pure, h]
  rcases whereEq P [] .username (props "username") with e | q
  · rfl
  simp only [Prog.op_bind, Prog.ret_bind]
  congr 1; funext r; rcases r with e | docs
  · rfl
  dsimp only
  rcases P.geoPoint (props "lat") (props "lon") with - | locationid
  · rfl
  simp only [orThrow]
  split
  · simp only [ExceptT.run_bind, run_addPost, Prog.op_bind, Prog.ret_bind]
    congr 1; funext r; rcases r with e | id <;> rfl
  · rfl

lemma toggleLike_run_of_error {data : Value} {like : Bool}
    (h : ∀ name, data.member name = .error .typeError) :
    (toggleLike P data like).run = .ret (.error .typeError) := by
  simp only [toggleLike, ExceptT.run_bind, Prog.run_liftM, Prog.ret_bind, h, Prog.pure_eq]

lemma toggleLike_run {data : Value} {like : Bool} {props : String → Value}
    (h : ∀ name, data.member name = .ok (props name)) :
    (toggleLike P data like).run = withUser P (props "username") fun docs =>
      match P.docPath (props "postId") with
      | none => .ret (.ok .null)
      | some path => .op (.getPost path) fun
        | .error _ | .ok none => .ret (.ok .null)
        | .ok (some postDoc) =>
          let updated := toggled like (userRef (lastId docs)) postDoc.likes postDoc.likesCount
          .op (.updatePost path updated.1 updated.2) fun
            | .error _ => .ret (.ok .null)
            | .ok _ => .ret (.ok (.number updated.2)) := by
  simp only [withUser, toggleLike, ExceptT.run_bind, Prog.run_liftM, Prog.run_tryCatch,
    run_getUsers, run_getPost, run_updatePost, Prog.pure_eq, Prog.ret_bind, ExceptT.run_pure, h]
  rcases whereEq P [] .username (props "username") with e | q
  · rfl
  simp only [Prog.op_bind, Prog.ret_bind]
  congr 1; funext r; rcases r with e | docs
  · rfl
  dsimp only
  rcases P.docPath (props "postId") with - | path
  · rfl
  simp only [orThrow, Prog.op_bind]
  congr 1; funext r; rcases r with e | - | postDoc
  · rfl
  · rfl
  simp only [dataOf, Prog.op_bind]
  congr 1; funext r; rcases r with e | - <;> rfl

/-! ## The array and counter updates -/

lemma lastId_eq (querySnapshot : List (AutoId × UserDoc)) :
    lastId querySnapshot = querySnapshot.getLast?.map Prod.fst := by
  rcases List.eq_nil_or_concat querySnapshot with rfl | ⟨docs, doc, rfl⟩
  · rfl
  · simp [lastId]

@[simp] lemma toggled_like (ref : DocumentReference) (likes : List DocumentReference) (n : ℤ) :
    toggled true ref likes n = (likes ++ [ref], n + 1) := by
  simp [toggled]

/-- The reference to remove is a fresh object, so `indexOf` does not find it, and `splice` takes
the last element off instead. -/
@[simp] lemma toggled_unlike (ref : DocumentReference) (likes : List DocumentReference) (n : ℤ) :
    toggled false ref likes n = (likes.dropLast, n - 1) := by
  simp [toggled, indexOf_alloc_fresh, splice_neg_one, List.map_dropLast]

end Whix
