import Whix.Backend.Server

/-!
# Calls served one at a time

`serve` runs one call alone.  For `login` its outcome is one of four (`LoginOutcome`); for a
well-formed `like` or `unlike` on an existing post it is the update that `toggled` computes from
the post as it stands (`serve_likeCall`).
-/

namespace Whix

open Js Prog

/-- Serve one call while nothing else touches the store. -/
def serve (P : Platform) (env : Outcome) (req : Request) (s : Store) : Reply × Store :=
  (handle P req).eval (perform env) s

/-- Accounts survive any call. -/
lemma serve_account_persists {P : Platform} (env : Outcome) (req : Request) {s : Store}
    {id : AutoId} {doc : UserDoc} (h : s.users.get? id = some doc) :
    (serve P env req s).2.users.get? id = some doc := by
  refine eval_invariant (I := fun s : Store => s.users.get? id = some doc) (fun o s hs => ?_) _ h
  cases env with
  | reject => exact hs
  | commit autoId =>
      cases o with
      | addUser doc' =>
          simp only [perform, Op.commit]
          split
          · rename_i users hadd
            exact Collection.get?_add_of_some hadd hs
          · exact hs
      | addPost doc' =>
          simp only [perform, Op.commit]
          split <;> exact hs
      | updatePost path likes n =>
          simp only [perform, Op.commit]
          split <;> exact hs
      | getUsers q => exact hs
      | getPost path => exact hs

/-- The account that the functions take a username for: the last one the query finds. -/
def accountOf (users : Collection AutoId UserDoc) (username : String) : Option AutoId :=
  lastId (users.select (usernameQuery (.string username)).admits)

lemma emailQuery_admits (email : String) (doc : UserDoc) :
    (emailQuery email).admits doc = true ↔ doc.email = email := by
  simp only [Query.admits, List.all_cons, List.all_nil, Bool.and_true, Value.isString_iff,
    Value.string.injEq, UserDoc.field]
  exact eq_comm

lemma usernameQuery_admits (username : String) (doc : UserDoc) :
    (usernameQuery (.string username)).admits doc = true ↔ doc.username = username := by
  simp only [Query.admits, List.all_cons, List.all_nil, Bool.and_true, Value.isString_iff,
    Value.string.injEq, UserDoc.field]
  exact eq_comm

lemma pairQuery_admits (email username : String) (doc : UserDoc) :
    (pairQuery email username).admits doc = true ↔ doc.email = email ∧ doc.username = username := by
  simp only [Query.admits, List.all_cons, List.all_nil, Bool.and_true, Bool.and_eq_true,
    Value.isString_iff, Value.string.injEq, UserDoc.field]
  exact and_congr eq_comm eq_comm

/-- The identifier the functions pick is one of those the query found. -/
lemma mem_of_lastId {docs : List (AutoId × UserDoc)} {id : AutoId} (h : lastId docs = some id) :
    ∃ doc, (id, doc) ∈ docs := by
  rw [lastId_eq, Option.map_eq_some_iff] at h
  obtain ⟨⟨id', doc⟩, hlast, rfl⟩ := h
  exact ⟨doc, List.mem_of_getLast? hlast⟩

lemma accountOf_eq_some {users : Collection AutoId UserDoc} {username : String} {id : AutoId}
    (h : accountOf users username = some id) :
    ∃ doc, users.get? id = some doc ∧ doc.username = username := by
  obtain ⟨doc, hdoc⟩ := mem_of_lastId h
  rw [Collection.mem_select, usernameQuery_admits] at hdoc
  exact ⟨doc, hdoc⟩

lemma accountOf_eq_none_iff {users : Collection AutoId UserDoc} {username : String} :
    accountOf users username = none ↔
      ∀ id doc, users.get? id = some doc → doc.username ≠ username := by
  rw [accountOf, lastId_eq, Option.map_eq_none_iff, List.getLast?_eq_none_iff,
    Collection.select_eq_nil_iff]
  refine forall₂_congr fun id doc => imp_congr_right fun _ => ?_
  rw [← Bool.not_eq_true, usernameQuery_admits]

/-- No two accounts have the same username. -/
def UniqueUsernames (users : Collection AutoId UserDoc) : Prop :=
  ∀ i j a b, users.get? i = some a → users.get? j = some b → a.username = b.username → i = j

/-- With unique usernames, the functions pick an account exactly for its username. -/
lemma accountOf_eq_some_iff {users : Collection AutoId UserDoc} (hunique : UniqueUsernames users)
    {u : AutoId} {doc : UserDoc} (hdoc : users.get? u = some doc) (username : String) :
    accountOf users username = some u ↔ doc.username = username := by
  constructor
  · intro h
    obtain ⟨doc', hdoc', rfl⟩ := accountOf_eq_some h
    rw [Option.some.inj (hdoc.symm.trans hdoc')]
  · rintro rfl
    rcases h : accountOf users doc.username with - | v
    · exact absurd rfl (accountOf_eq_none_iff.mp h u doc hdoc)
    · obtain ⟨doc', hdoc', hname⟩ := accountOf_eq_some h
      rw [hunique u v doc doc' hdoc hdoc' hname.symm]

/-! ## Login -/

variable {P : Platform}

/-- Some account has exactly this pair. -/
def Registered (users : Collection AutoId UserDoc) (email username : String) : Prop :=
  ∃ id doc, users.get? id = some doc ∧ doc.email = email ∧ doc.username = username

/-- No account has this e-mail, and none has this username. -/
def Available (users : Collection AutoId UserDoc) (email username : String) : Prop :=
  ∀ id doc, users.get? id = some doc → doc.email ≠ email ∧ doc.username ≠ username

/-- What one login with the trimmed pair `email`, `username` answers, and the store it leaves. -/
inductive LoginOutcome (P : Platform) (env : Outcome) (s : Store) (email username : String) :
    Reply → Store → Prop
  | found {id doc} (hdoc : s.users.get? id = some doc) (hemail : doc.email = email)
      (husername : doc.username = username) :
      LoginOutcome P env s email username (.ok (.string id.val)) s
  | registered {id users} (henv : env = .commit id)
      (havailable : Available s.users email username)
      (hadd : s.users.add id (account P email username) = some users) :
      LoginOutcome P env s email username (.ok (.string id.val)) { s with users }
  | refused (hpair : ¬ Registered s.users email username)
      (htaken : ¬ Available s.users email username) :
      LoginOutcome P env s email username (.ok .null) s
  | unavailable (h : ∀ id, env = .commit id → ∃ doc, s.users.get? id = some doc) :
      LoginOutcome P env s email username (.ok .null) s

lemma select_pairQuery_eq_nil_iff {users : Collection AutoId UserDoc} {email username : String} :
    users.select (pairQuery email username).admits = [] ↔ ¬ Registered users email username := by
  rw [Collection.select_eq_nil_iff]
  constructor
  · rintro h ⟨id, doc, hdoc, hpair⟩
    have hno := h id doc hdoc
    rw [(pairQuery_admits email username doc).mpr hpair] at hno
    simp at hno
  · intro h id doc hdoc
    rw [← Bool.not_eq_true, pairQuery_admits]
    exact fun hpair => h ⟨id, doc, hdoc, hpair⟩

lemma available_iff {users : Collection AutoId UserDoc} {email username : String} :
    Available users email username ↔
      users.select (emailQuery email).admits = [] ∧
        users.select (usernameQuery (.string username)).admits = [] := by
  simp only [Collection.select_eq_nil_iff, ← Bool.not_eq_true, emailQuery_admits,
    usernameQuery_admits]
  constructor
  · intro h
    exact ⟨fun id doc hdoc => (h id doc hdoc).1, fun id doc hdoc => (h id doc hdoc).2⟩
  · rintro ⟨hemail, husername⟩ id doc hdoc
    exact ⟨hemail id doc hdoc, husername id doc hdoc⟩

/-- A login served alone has one of the four outcomes. -/
lemma serve_login {data : Value} {email username : String}
    (hemail : trimmedMember data "email" = .ok email)
    (husername : trimmedMember data "username" = .ok username) (env : Outcome) (s : Store) :
    LoginOutcome P env s email username (serve P env (.login data) s).1
      (serve P env (.login data) s).2 := by
  rw [serve, handle, login_run P hemail husername]
  cases env with
  | reject => exact .unavailable (by simp)
  | commit autoId =>
      simp only [eval_op, perform, Op.commit]
      split
      · rename_i hpos
        obtain ⟨id, hid⟩ := lastId_ne_none hpos
        obtain ⟨doc, hdoc⟩ := mem_of_lastId hid
        rw [Collection.mem_select, pairQuery_admits] at hdoc
        rw [hid]
        exact .found hdoc.1 hdoc.2.1 hdoc.2.2
      rename_i hempty
      have hpair : ¬ Registered s.users email username :=
        select_pairQuery_eq_nil_iff.mp (by simpa using hempty)
      simp only [eval_op, perform, Op.commit, List.length_eq_zero_iff]
      split
      · rename_i havailable
        simp only [eval_op, perform, Op.commit]
        rcases hadd : s.users.add autoId (account P email username) with - | users
        · refine .unavailable fun id hid => ?_
          obtain rfl := Outcome.commit.inj hid
          exact Collection.add_eq_none_iff.mp hadd
        · exact .registered rfl (available_iff.mpr havailable) hadd
      · rename_i htaken
        exact .refused hpair (mt available_iff.mp htaken)

/-- The same for the data that the clients send. -/
lemma serve_loginData (email username : String) (env : Outcome) (s : Store) :
    LoginOutcome P env s (trimmed email) (trimmed username)
      (serve P env (.login (loginData email username)) s).1
      (serve P env (.login (loginData email username)) s).2 :=
  serve_login (loginData_email email username) (loginData_username email username) env s

/-- A login does not take a username that is in use. -/
lemma LoginOutcome.uniqueUsernames {env : Outcome} {s s' : Store} {email username : String}
    {reply : Reply} (h : LoginOutcome P env s email username reply s')
    (hunique : UniqueUsernames s.users) : UniqueUsernames s'.users := by
  cases h with
  | found => exact hunique
  | @registered id users henv havailable hadd =>
      intro i j a b ha hb hname
      rw [Collection.get?_of_add hadd] at ha hb
      split at ha <;> split at hb
      · rename_i hi hj
        rw [hi, hj]
      · obtain rfl := Option.some.inj ha
        exact absurd hname.symm (havailable j b hb).2
      · obtain rfl := Option.some.inj hb
        exact absurd hname (havailable i a ha).2
      · exact hunique i j a b ha hb hname
  | refused => exact hunique
  | unavailable => exact hunique

/-! ## Posting -/

/-- What one call of `post` with this username answers, and the store it leaves. -/
inductive PostOutcome (s : Store) (username : String) : Reply → Store → Prop
  | posted {id doc post} (hadd : s.post.add id doc = some post)
      (huserid : doc.userid = userRef (accountOf s.users username)) :
      PostOutcome s username (.ok (.string id.val)) { s with post }
  | failed : PostOutcome s username (.ok .null) s

/-- A post served alone has one of the two outcomes. -/
lemma serve_post {data : Value} {username : String}
    (husername : data.member "username" = .ok (.string username)) (now : Timestamp)
    (env : Outcome) (s : Store) :
    PostOutcome s username (serve P env (.post now data) s).1
      (serve P env (.post now data) s).2 := by
  rcases data.member_cases with hdata | ⟨props, hprops⟩
  · rw [hdata] at husername
    simp at husername
  have hname : props "username" = .string username :=
    Except.ok.inj ((hprops "username").symm.trans husername)
  rw [serve, handle, post_run P hprops, hname]
  simp only [withUser, whereEq, P.queryable_string, if_true, List.nil_append, eval_op]
  cases env with
  | reject => exact .failed
  | commit autoId =>
      simp only [perform, Op.commit]
      split
      · exact .failed
      · split
        · simp only [eval_op, perform, Op.commit]
          generalize hdoc : PostDoc.mk _ _ _ _ _ _ = doc
          have huserid : doc.userid = userRef (accountOf s.users username) := hdoc ▸ rfl
          rcases hadd : s.post.add autoId doc with - | post
          · exact .failed
          · exact .posted hadd huserid
        · exact .failed

/-! ## Like and unlike -/

/-- A well-formed call of `like` or `unlike` on the post `postId`. -/
structure LikeCall (postId : AutoId) where
  like : Bool
  data : Value
  username : String
  member_username : data.member "username" = .ok (.string username)
  member_postId : data.member "postId" = .ok (.string postId.val)

namespace LikeCall

variable {postId : AutoId}

/-- The request of the call. -/
def request (call : LikeCall postId) : Request := .toggle call.like call.data

lemma request_ne_login (call : LikeCall postId) (data : Value) : call.request ≠ .login data := by
  rw [request, Request.toggle]
  split <;> simp

lemma request_ne_post (call : LikeCall postId) (now : Timestamp) (data : Value) :
    call.request ≠ .post now data := by
  rw [request, Request.toggle]
  split <;> simp

/-- The call with these arguments and nothing else in its data. -/
def of (like : Bool) (username : String) (postId : AutoId) : LikeCall postId where
  like := like
  data := likeData username postId
  username := username
  member_username := rfl
  member_postId := rfl

/-- The array and the counter that the call makes of the ones it reads. -/
def toggle (call : LikeCall postId) (users : Collection AutoId UserDoc)
    (likes : List DocumentReference) (likesCount : ℤ) : List DocumentReference × ℤ :=
  toggled call.like (userRef (accountOf users call.username)) likes likesCount

/-- The post after the call. -/
def update (call : LikeCall postId) (users : Collection AutoId UserDoc) (doc : PostDoc) :
    PostDoc :=
  let updated := call.toggle users doc.likes doc.likesCount
  { doc with likes := updated.1, likesCount := updated.2 }

lemma props_eq {call : LikeCall postId} {props : String → Value}
    (h : ∀ name, call.data.member name = .ok (props name)) :
    props "username" = .string call.username ∧ props "postId" = .string postId.val := by
  have husername := (h "username").symm.trans call.member_username
  have hpostId := (h "postId").symm.trans call.member_postId
  exact ⟨Except.ok.inj husername, Except.ok.inj hpostId⟩

lemma exists_props (call : LikeCall postId) :
    ∃ props : String → Value, ∀ name, call.data.member name = .ok (props name) := by
  rcases call.data.member_cases with h | h
  · have husername := (h "username").symm.trans call.member_username
    simp at husername
  · exact h

end LikeCall

/-- A `like` or `unlike` served alone updates the post it finds, and answers the new counter. -/
lemma serve_likeCall {postId : AutoId} (call : LikeCall postId) (autoId : AutoId) {s : Store}
    {doc : PostDoc} (hdoc : s.post.get? postId = some doc) :
    serve P (.commit autoId) call.request s =
      (.ok (.number (call.update s.users doc).likesCount),
        { s with post := s.post.modify postId fun doc' =>
          { doc' with
            likes := (call.update s.users doc).likes
            likesCount := (call.update s.users doc).likesCount } }) := by
  obtain ⟨props, hprops⟩ := call.exists_props
  obtain ⟨husername, hpostId⟩ := LikeCall.props_eq hprops
  have hpost : s.postAt postId.val = some (postId, doc) :=
    postAt_eq_some_iff.mpr ⟨AutoId.ofString?_val postId, hdoc⟩
  simp only [serve, LikeCall.request, handle_toggle, toggleLike_run P hprops, husername, hpostId,
    withUser, whereEq, P.queryable_string, P.docPath_autoId, if_true, eval_op, perform, Op.commit,
    hpost, Option.map_some, List.nil_append, eval_ret]
  rfl

/-- A store with a post as `post` creates it. -/
structure Published where
  store : Store
  postId : AutoId
  doc : PostDoc
  stored : store.post.get? postId = some doc
  unliked : doc.likes = []
  uncounted : doc.likesCount = 0

/-- Two accounts, and a post by the first. -/
def twoUsers : Published where
  store :=
    { users :=
        ⟨[(idA, account .plain "ada@whix.io" "ada"), (idB, account .plain "bob@whix.io" "bob")],
          by decide⟩
      post :=
        ⟨[(idA, { content := .string "https://whix.io/photo.jpg", date := 0, likes := [],
                  likesCount := 0, locationid := ⟨55, -4⟩, userid := userRef (some idA) })],
          by decide⟩ }
  postId := idA
  doc := { content := .string "https://whix.io/photo.jpg", date := 0, likes := [],
           likesCount := 0, locationid := ⟨55, -4⟩, userid := userRef (some idA) }
  stored := by rfl
  unliked := rfl
  uncounted := rfl

end Whix
