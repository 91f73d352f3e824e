import Whix.Framework.Interleaving
import Whix.Backend.Functions

/-!
# The backend under concurrent calls

The backend is the pool of `Framework/Interleaving.lean` over the store: calls arrive in any
number, and at each step one of them has its next operation performed or rejected.

`Justified` says for each writing operation how a call comes to issue it: from which request,
after which answers, and with which data.  `Answered` says what the operations of a call have been
when it is answered.  `handle_obeys` proves both for every request by running through the program
text once; everything known about the backend under concurrency is derived from these two.
-/

namespace Whix

open Js Prog Interleaving Runs

/-- The backend in the middle of serving calls. -/
abbrev Server := Pool Request Outcome Op Op.Res Store Reply

/-- The operations performed so far, newest first. -/
abbrev Log := History Request Outcome Op Op.Res

/-- One performed operation. -/
abbrev LogEntry := Entry Request Outcome Op Op.Res

/-- A call arrives, or one call's next operation is carried out. -/
abbrev ServerEvent := Event Request Outcome

/-- One step of the backend. -/
abbrev serverStep (P : Platform) : Server → ServerEvent → Option Server :=
  Pool.step (handle P) perform

/-- The `like` or `unlike` request for `data`. -/
def Request.toggle (like : Bool) (data : Value) : Request :=
  if like then .like data else .unlike data

@[simp] lemma handle_toggle (P : Platform) (like : Bool) (data : Value) :
    handle P (.toggle like data) = (toggleLike P data like).run := by
  cases like <;> rfl

lemma Request.toggle_inj {like₁ like₂ : Bool} {data₁ data₂ : Value} :
    Request.toggle like₁ data₁ = .toggle like₂ data₂ ↔ like₁ = like₂ ∧ data₁ = data₂ := by
  cases like₁ <;> cases like₂ <;> simp [Request.toggle]

/-! ## What a call has done when it writes, and when it answers -/

/-- A users query that was answered with `docs`. -/
abbrev asked (q : Query) (docs : List (AutoId × UserDoc)) : Σ o, Op.Res o :=
  ⟨.getUsers q, .ok docs⟩

/-- A read of a post that was answered with `postDoc`. -/
abbrev saw (path : String) (postDoc : Option PostDoc) : Σ o, Op.Res o :=
  ⟨.getPost path, .ok postDoc⟩

lemma asked_inj {q q' : Query} {docs docs' : List (AutoId × UserDoc)} :
    asked q docs = asked q' docs' ↔ q = q' ∧ docs = docs' := by
  constructor
  · intro h
    obtain ⟨hq, hdocs⟩ := Sigma.mk.inj h
    obtain rfl := Op.getUsers.inj hq
    exact ⟨rfl, Except.ok.inj (eq_of_heq hdocs)⟩
  · rintro ⟨rfl, rfl⟩
    rfl

lemma saw_inj {path path' : String} {postDoc postDoc' : Option PostDoc} :
    saw path postDoc = saw path' postDoc' ↔ path = path' ∧ postDoc = postDoc' := by
  constructor
  · intro h
    obtain ⟨hpath, hdoc⟩ := Sigma.mk.inj h
    obtain rfl := Op.getPost.inj hpath
    exact ⟨rfl, Except.ok.inj (eq_of_heq hdoc)⟩
  · rintro ⟨rfl, rfl⟩
    rfl

/-- Is this a write that was committed? -/
def isWrite : (Σ o, Op.Res o) → Bool
  | ⟨.addUser _, .ok _⟩ | ⟨.addPost _, .ok _⟩ | ⟨.updatePost .., .ok _⟩ => true
  | _ => false

variable (P : Platform)

/-- A call of `login` comes to create `doc` after its three queries found nothing. -/
def CreatesUser (req : Request) (path : Path Op Op.Res) (doc : UserDoc) : Prop :=
  ∃ data email username, req = .login data ∧
    trimmedMember data "email" = .ok email ∧ trimmedMember data "username" = .ok username ∧
    doc = account P email username ∧
    path = [asked (usernameQuery (.string username)) [], asked (emailQuery email) [],
      asked (pairQuery email username) []]

/-- A call of `post` comes to create `doc` after looking its user up. -/
def CreatesPost (req : Request) (path : Path Op Op.Res) (doc : PostDoc) : Prop :=
  ∃ now data, ∃ props : String → Value, ∃ docs locationid, req = .post now data ∧
    (∀ name, data.member name = .ok (props name)) ∧ P.storable (props "contenturl") = true ∧
    P.geoPoint (props "lat") (props "lon") = some locationid ∧
    doc = { content := props "contenturl", date := now, likes := [], likesCount := 0, locationid,
            userid := userRef (lastId docs) } ∧
    path = [asked (usernameQuery (props "username")) docs]

/-- A call of `like` or `unlike` comes to write an array and a counter that it made of the ones it
read. -/
def UpdatesPost (req : Request) (path : Path Op Op.Res) (postPath : String)
    (likes : List DocumentReference) (likesCount : ℤ) : Prop :=
  ∃ like data, ∃ props : String → Value, ∃ docs postDoc, req = .toggle like data ∧
    (∀ name, data.member name = .ok (props name)) ∧
    P.docPath (props "postId") = some postPath ∧
    (likes, likesCount) =
      toggled like (userRef (lastId docs)) postDoc.likes postDoc.likesCount ∧
    path = [saw postPath (some postDoc), asked (usernameQuery (props "username")) docs]

/-- How a call comes to issue an operation. -/
def Justified (req : Request) (path : Path Op Op.Res) : Op → Prop
  | .getUsers _ | .getPost _ => True
  | .addUser doc => CreatesUser P req path doc
  | .addPost doc => CreatesPost P req path doc
  | .updatePost postPath likes likesCount => UpdatesPost P req path postPath likes likesCount

/-- What a call has done when it is answered. -/
inductive Answered : Request → Path Op Op.Res → Reply → Prop
  /-- `login` found the account. -/
  | found {data email username docs id} (hemail : trimmedMember data "email" = .ok email)
      (husername : trimmedMember data "username" = .ok username) (hid : lastId docs = some id) :
      Answered (.login data) [asked (pairQuery email username) docs] (.ok (.string id.val))
  /-- `login` created the account. -/
  | registered {data doc path id} :
      Answered (.login data) (⟨.addUser doc, .ok id⟩ :: path) (.ok (.string id.val))
  /-- `post` created the post. -/
  | posted {now data doc path id} :
      Answered (.post now data) (⟨.addPost doc, .ok id⟩ :: path) (.ok (.string id.val))
  /-- `like` or `unlike` updated the post. -/
  | counted {like data postPath likes likesCount path} :
      Answered (.toggle like data) (⟨.updatePost postPath likes likesCount, .ok ()⟩ :: path)
        (.ok (.number likesCount))
  /-- The call failed and has written nothing. -/
  | failed {req path reply} (hreply : reply = .ok .null ∨ ∃ e, reply = .error e)
      (hpath : ∀ x ∈ path, isWrite x = false) : Answered req path reply

variable {P}

/-- An answer other than `null` is not that of a failed call. -/
lemma not_failed {v : Value} (hv : v ≠ .null) :
    ¬((.ok v : Reply) = .ok .null ∨ ∃ e, (.ok v : Reply) = .error e) := by
  rintro (h | ⟨e, h⟩)
  · exact hv (Except.ok.inj h)
  · simp at h

/-- A call that has written nothing may answer `null`. -/
lemma obeys_null {req : Request} {path : Path Op Op.Res}
    (hpath : ∀ x ∈ path, isWrite x = false) :
    Obeys (Justified P req) (Answered req) path (.ret (.ok .null)) :=
  obeys_ret.mpr (.failed (Or.inl rfl) hpath)

lemma lastId_ne_none {docs : List (AutoId × UserDoc)} (h : docs.length > 0) :
    ∃ id, lastId docs = some id := by
  have hne : docs ≠ [] := List.ne_nil_of_length_pos h
  exact ⟨_, by rw [lastId_eq, List.getLast?_eq_some_getLast hne, Option.map_some]⟩

lemma login_obeys (data : Value) :
    Obeys (Justified P (.login data)) (Answered (.login data)) [] (login P data).run := by
  rcases hemail : trimmedMember data "email" with e | email
  · obtain ⟨e', h⟩ := login_run_of_error P (Or.inl hemail)
    exact h ▸ .failed (Or.inr ⟨e', rfl⟩) (by simp)
  rcases husername : trimmedMember data "username" with e | username
  · obtain ⟨e', h⟩ := login_run_of_error P (Or.inr husername)
    exact h ▸ .failed (Or.inr ⟨e', rfl⟩) (by simp)
  rw [login_run P hemail husername]
  refine obeys_op.mpr ⟨trivial, fun r => ?_⟩
  rcases r with e | docs
  · exact obeys_null (by simp [isWrite])
  dsimp only
  split
  · rename_i hpos
    obtain ⟨id, hid⟩ := lastId_ne_none hpos
    rw [hid]
    exact .found hemail husername hid
  rename_i hempty
  obtain rfl : docs = [] := by simpa using hempty
  refine obeys_op.mpr ⟨trivial, fun r => ?_⟩
  rcases r with e | byEmail
  · exact obeys_null (by simp [isWrite])
  refine obeys_op.mpr ⟨trivial, fun r => ?_⟩
  rcases r with e | byUsername
  · exact obeys_null (by simp [isWrite])
  dsimp only
  split
  · rename_i hfree
    obtain ⟨rfl, rfl⟩ : byEmail = [] ∧ byUsername = [] := by simpa using hfree
    refine obeys_op.mpr ⟨⟨data, email, username, rfl, hemail, husername, rfl, rfl⟩, fun r => ?_⟩
    rcases r with e | id
    · exact obeys_null (by simp [isWrite])
    · exact .registered
  · exact obeys_null (by simp [isWrite])

lemma whereEq_eq_ok {username : Value} {q : Query}
    (h : whereEq P [] .username username = .ok q) : q = usernameQuery username := by
  rw [whereEq] at h
  split at h
  · exact (Except.ok.inj h).symm
  · simp at h

/-- A call that looks its user up goes on with what it has found. -/
lemma withUser_obeys {req : Request} {username : Value}
    {k : List (AutoId × UserDoc) → Prog Op Op.Res Reply}
    (hk : ∀ docs, Obeys (Justified P req) (Answered req) [asked (usernameQuery username) docs]
      (k docs)) :
    Obeys (Justified P req) (Answered req) [] (withUser P username k) := by
  unfold withUser
  rcases hq : whereEq P [] .username username with e | q
  · exact obeys_null (by simp)
  obtain rfl := whereEq_eq_ok hq
  refine obeys_op.mpr ⟨trivial, fun r => ?_⟩
  rcases r with e | docs
  · exact obeys_null (by simp [isWrite])
  · exact hk docs

lemma post_obeys (now : Timestamp) (data : Value) :
    Obeys (Justified P (.post now data)) (Answered (.post now data)) []
      (post P now data).run := by
  rcases data.member_cases with hdata | ⟨props, hdata⟩
  · rw [post_run_of_error P hdata]
    exact .failed (Or.inr ⟨_, rfl⟩) (by simp)
  rw [post_run P hdata]
  refine withUser_obeys fun docs => ?_
  rcases hlocation : P.geoPoint (props "lat") (props "lon") with - | locationid
  · exact obeys_null (by simp [isWrite])
  dsimp only
  split
  · rename_i hcontent
    refine obeys_op.mpr
      ⟨⟨now, data, props, docs, locationid, rfl, hdata, hcontent, hlocation, rfl, rfl⟩,
        fun r => ?_⟩
    rcases r with e | id
    · exact obeys_null (by simp [isWrite])
    · exact .posted
  · exact obeys_null (by simp [isWrite])

lemma toggleLike_obeys (like : Bool) (data : Value) :
    Obeys (Justified P (.toggle like data)) (Answered (.toggle like data)) []
      (toggleLike P data like).run := by
  rcases data.member_cases with hdata | ⟨props, hdata⟩
  · rw [toggleLike_run_of_error P hdata]
    exact .failed (Or.inr ⟨_, rfl⟩) (by simp)
  rw [toggleLike_run P hdata]
  refine withUser_obeys fun docs => ?_
  rcases hpath : P.docPath (props "postId") with - | path
  · exact obeys_null (by simp [isWrite])
  refine obeys_op.mpr ⟨trivial, fun r => ?_⟩
  rcases r with e | - | postDoc
  · exact obeys_null (by simp [isWrite])
  · exact obeys_null (by simp [isWrite])
  refine obeys_op.mpr ⟨⟨like, data, props, docs, postDoc, rfl, hdata, hpath, rfl, rfl⟩, fun r => ?_⟩
  rcases r with e | -
  · exact obeys_null (by simp [isWrite])
  · exact .counted

/-- Every request's program issues justified operations only, and answers accordingly. -/
theorem handle_obeys (req : Request) :
    Obeys (Justified P req) (Answered req) [] (handle P req) := by
  cases req with
  | login data => exact login_obeys data
  | post now data => exact post_obeys now data
  | like data => exact toggleLike_obeys true data
  | unlike data => exact toggleLike_obeys false data

/-- A run of the backend from the store `s₀`. -/
abbrev ServerRun (P : Platform) (s₀ : Store) := Execution (serverStep P) (Pool.start s₀)

/-- In every run of the backend, the log is lawful and leads to the store, and every call obeys at
its own place in the log. -/
theorem ServerRun.coherent {s₀ : Store} (r : ServerRun P s₀) :
    Coherent (Justified P) Answered perform s₀ r.final :=
  coherent_of_run handle_obeys r.ran

/-- A lawful history of the backend. -/
abbrev LawfulLog (P : Platform) (s₀ : Store) (log : Log) : Prop :=
  Lawful perform (Justified P) s₀ log

/-- The store a log leads to. -/
abbrev storeAfter (s₀ : Store) (log : Log) : Store := storeAt perform s₀ log

/-! ## Data for the examples -/

/-- Identifiers for the documents of the examples. -/
def idA : AutoId := ⟨"AAAAAAAAAAAAAAAAAAAA", by decide⟩

@[inherit_doc idA]
def idB : AutoId := ⟨"BBBBBBBBBBBBBBBBBBBB", by decide⟩

end Whix
