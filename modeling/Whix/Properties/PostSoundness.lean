import Whix.Backend.Effects
import Whix.Properties.LoginSoundness

/-!
# The posts are the answered calls of `post`

Posts are never removed, and of a post only the likes and their number ever change
(`PostsKept`).  A call of `post` performs its write as its last operation, so it has been answered
as soon as its post exists, and an identifier is never given out twice.  Together this makes the
collection `post` a record of the calls: `posts_sound` gives the call of every post and the post
of every call.
-/

namespace Whix

open Js Prog Interleaving Runs

variable {P : Platform} {s₀ : Store}

/-- Two versions of one post: they differ in their likes only. -/
structure PostDoc.SamePost (doc doc' : PostDoc) : Prop where
  content : doc'.content = doc.content
  date : doc'.date = doc.date
  locationid : doc'.locationid = doc.locationid
  userid : doc'.userid = doc.userid

/-- Call `c` has looked a username up: its query was answered with the accounts that had the
username at that point of the log, and the call took the last of them, or none if there were
none. -/
def LookedUp (s₀ : Store) (log : Log) (c : ℕ) (username : Value) (account : Option AutoId) :
    Prop :=
  ∃ en older docs, en :: older <:+ log ∧ en.call = c ∧
    en.done = asked (usernameQuery username) docs ∧
    docs = (storeAfter s₀ older).users.select (usernameQuery username).admits ∧
    account = lastId docs

/-- The post says what call `c` was told: the content, the time of the call, the place, and the
account that the call found when it looked the username up. -/
structure PostDoc.MadeFor (P : Platform) (s₀ : Store) (t : Server) (c : ℕ) (now : Timestamp)
    (data : Value) (doc : PostDoc) : Prop where
  content : data.member "contenturl" = .ok doc.content
  date : doc.date = now
  locationid : ∃ lat lon, data.member "lat" = .ok lat ∧ data.member "lon" = .ok lon ∧
    P.geoPoint lat lon = some doc.locationid
  userid : ∃ username account, data.member "username" = .ok username ∧
    LookedUp s₀ t.log c username account ∧ doc.userid = userRef account
  /-- The account, if one was found, is still there and has the username. -/
  author : ∀ id, doc.userid = userRef (some id) → ∃ user, t.store.users.get? id = some user ∧
    data.member "username" = .ok (.string user.username)

/-- The call has been answered with the identifier. -/
def PostedAs (t : Server) (c : ℕ) (id : AutoId) (now : Timestamp) (data : Value) : Prop :=
  t.calls[c]? = some (.post now data, .ret (.ok (.string id.val)))

/-- The posts of the store and the calls of `post` in a state of the backend. -/
structure PostsRecorded (P : Platform) (s₀ : Store) (t : Server) : Prop where
  /-- An answer other than `null` is the identifier of a post made for the call. -/
  answers : ∀ (c : ℕ) now data (v : Value), t.calls[c]? = some (.post now data, .ret (.ok v)) →
    v ≠ .null → ∃ id doc, v = .string id.val ∧ t.store.post.get? id = some doc ∧
      doc.MadeFor P s₀ t c now data
  /-- A post that was not there at the beginning is the answer of one call. -/
  calls : ∀ id doc, s₀.post.get? id = none → t.store.post.get? id = some doc →
    ∃! c, ∃ now data, PostedAs t c id now data

/-- A post that exists at one point of the run exists at every later point, with other likes at
most. -/
def PostsKept (r : ServerRun P s₀) : Prop :=
  ∀ es later t t', es ++ later <+: r.events →
    run (serverStep P) (Pool.start s₀) es = some t → run (serverStep P) t later = some t' →
    ∀ id doc, t.store.post.get? id = some doc →
      ∃ doc', t'.store.post.get? id = some doc' ∧ doc.SamePost doc'

namespace PostDoc.SamePost

variable {doc doc' doc'' : PostDoc}

lemma refl (doc : PostDoc) : doc.SamePost doc := ⟨rfl, rfl, rfl, rfl⟩

lemma trans (h : doc.SamePost doc') (h' : doc'.SamePost doc'') : doc.SamePost doc'' :=
  ⟨h'.content.trans h.content, h'.date.trans h.date, h'.locationid.trans h.locationid,
    h'.userid.trans h.userid⟩

lemma madeFor {t : Server} {c : ℕ} {now : Timestamp} {data : Value}
    (h : doc.SamePost doc') (hmade : doc.MadeFor P s₀ t c now data) :
    doc'.MadeFor P s₀ t c now data := by
  refine ⟨?_, h.date.trans hmade.date, ?_, ?_, ?_⟩
  · rw [h.content]
    exact hmade.content
  · rw [h.locationid]
    exact hmade.locationid
  · rw [h.userid]
    exact hmade.userid
  · rw [h.userid]
    exact hmade.author

end PostDoc.SamePost

/-! ## Posts over a history -/

section History

variable {log : Log} {en : LogEntry} {id : AutoId} {doc : PostDoc}

/-- Posts are never removed, and only their likes are changed. -/
lemma post_persists {newer older : Log} (hlaw : LawfulLog P s₀ (newer ++ older))
    (h : (storeAfter s₀ older).post.get? id = some doc) :
    ∃ doc', (storeAfter s₀ (newer ++ older)).post.get? id = some doc' ∧ doc.SamePost doc' := by
  induction newer with
  | nil => exact ⟨doc, h, .refl doc⟩
  | cons en newer ih =>
      rw [List.cons_append] at hlaw ⊢
      obtain ⟨doc', hdoc', hsame⟩ := ih hlaw.1
      have heffect := entry_effect hlaw
      generalize storeAfter s₀ (en :: (newer ++ older)) = s' at heffect ⊢
      cases heffect with
      | addUser => exact ⟨doc', hdoc', hsame⟩
      | addPost hdone hcall hadd => exact ⟨doc', Collection.get?_add_of_some hadd hdoc', hsame⟩
      | @updatePost postPath likes likesCount id' doc'' hdone hcall hpost =>
          simp only [Collection.get?_modify]
          split
          · rw [hdoc', Option.map_some]
            exact ⟨_, rfl, hsame.trans ⟨rfl, rfl, rfl, rfl⟩⟩
          · exact ⟨doc', hdoc', hsame⟩
      | idle => exact ⟨doc', hdoc', hsame⟩

/-- A committed `add` leaves its document under the identifier it delivered. -/
lemma post_since {newer older : Log} (hlaw : LawfulLog P s₀ (newer ++ en :: older))
    (hdone : en.done = ⟨.addPost doc, .ok id⟩) :
    ∃ doc', (storeAfter s₀ (newer ++ en :: older)).post.get? id = some doc' ∧
      doc.SamePost doc' := by
  obtain ⟨post, hadd, hstore⟩ := (entry_effect (hlaw.of_suffix ⟨newer, rfl⟩)).of_addPost hdone
  refine post_persists hlaw ?_
  rw [hstore]
  exact Collection.get?_add_self hadd

/-- A post that was not there at the beginning was added by an entry of the log. -/
lemma post_origin (hnew : s₀.post.get? id = none) (hlaw : LawfulLog P s₀ log)
    (h : (storeAfter s₀ log).post.get? id = some doc) :
    ∃ en ∈ log, ∃ doc₀, en.done = ⟨.addPost doc₀, .ok id⟩ := by
  induction log generalizing doc with
  | nil => simp [storeAfter, hnew] at h
  | cons en log ih =>
      have hlift : ∀ doc, (storeAfter s₀ log).post.get? id = some doc →
          ∃ en' ∈ en :: log, ∃ doc₀, en'.done = ⟨.addPost doc₀, .ok id⟩ := by
        intro doc h
        obtain ⟨en', hmem, hdone⟩ := ih hlaw.1 h
        exact ⟨en', List.mem_cons_of_mem en hmem, hdone⟩
      have heffect := entry_effect hlaw
      generalize storeAfter s₀ (en :: log) = s' at heffect h
      cases heffect with
      | addUser => exact hlift doc h
      | @addPost doc₀ id' post hdone hcall hadd =>
          simp only [Collection.get?_of_add hadd] at h
          split at h
          · rename_i hid
            exact ⟨en, List.mem_cons_self, doc₀, hid ▸ hdone⟩
          · exact hlift doc h
      | @updatePost postPath likes likesCount id' doc' hdone hcall hpost =>
          simp only [Collection.get?_modify] at h
          split at h
          · obtain ⟨doc'', hdoc'', -⟩ := Option.map_eq_some_iff.mp h
            exact hlift doc'' hdoc''
          · exact hlift doc h
      | idle => exact hlift doc h

/-- A call has looked up what its query was answered with. -/
lemma lookedUp_of_asked (hlaw : LawfulLog P s₀ log) {c : ℕ} {username : Value}
    {docs : List (AutoId × UserDoc)} (h : asked (usernameQuery username) docs ∈ pathOf c log) :
    LookedUp s₀ log c username (lastId docs) := by
  obtain ⟨newer, en, older, rfl, hcall, hdone⟩ := exists_entry_of_mem_pathOf h
  have hsuffix : en :: older <:+ newer ++ en :: older := ⟨newer, rfl⟩
  exact ⟨en, older, docs, hsuffix, hcall, hdone, docs_eq_select (hlaw.of_suffix hsuffix) hdone,
    rfl⟩

/-- The account that was found still exists, and has the username. -/
lemma LookedUp.account (hlaw : LawfulLog P s₀ log) {c : ℕ} {username : Value} {u : AutoId}
    (h : LookedUp s₀ log c username (some u)) :
    ∃ user, (storeAfter s₀ log).users.get? u = some user ∧ username = .string user.username := by
  obtain ⟨en, older, docs, ⟨newer, rfl⟩, rfl, hdone, -, hlast⟩ := h
  have hasked : asked (usernameQuery username) docs ∈ pathOf en.call (newer ++ en :: older) :=
    mem_pathOf.mpr ⟨en, by simp, rfl, hdone⟩
  obtain ⟨user, huser, hadmits⟩ := account_of_asked hlaw hasked hlast.symm
  simp only [Query.admits, List.all_cons, List.all_nil, Bool.and_true, Value.isString_iff,
    UserDoc.field] at hadmits
  exact ⟨user, huser, hadmits⟩

/-- An identifier is given out once. -/
lemma post_added_once (hlaw : LawfulLog P s₀ log) {en' : LogEntry} {doc' : PostDoc}
    (hmem : en ∈ log) (hdone : en.done = ⟨.addPost doc, .ok id⟩)
    (hmem' : en' ∈ log) (hdone' : en'.done = ⟨.addPost doc', .ok id⟩) : en = en' := by
  -- of two additions, the later one would have found the identifier taken
  have hlater : ∀ {newer older : Log} {e e' : LogEntry} {d d' : PostDoc},
      LawfulLog P s₀ (newer ++ e :: older) → e.done = ⟨.addPost d, .ok id⟩ →
      e'.done = ⟨.addPost d', .ok id⟩ → e' ∉ older := by
    intro newer older e e' d d' hlaw he he' hbefore
    have hlaw : LawfulLog P s₀ (e :: older) := hlaw.of_suffix ⟨newer, rfl⟩
    obtain ⟨post, hadd, -⟩ := (entry_effect hlaw).of_addPost he
    obtain ⟨recent, first, rfl⟩ := List.append_of_mem hbefore
    obtain ⟨doc'', hdoc'', -⟩ := post_since hlaw.1 he'
    rw [Collection.get?_eq_none_of_add hadd] at hdoc''
    simp at hdoc''
  obtain ⟨newer, older, rfl⟩ := List.append_of_mem hmem
  rcases List.mem_append.mp hmem' with hnewer | hrest
  · obtain ⟨recent, first, rfl⟩ := List.append_of_mem hnewer
    rw [List.append_assoc, List.cons_append] at hlaw
    exact absurd (by simp) (hlater hlaw hdone' hdone)
  · rcases List.mem_cons.mp hrest with heq | hbefore
    · exact heq.symm
    · exact absurd hbefore (hlater hlaw hdone hdone')

end History

/-! ## Calls end with their write -/

/-- The call has not written yet. -/
def HasOnlyRead (path : Path Op Op.Res) : Prop := ∀ x ∈ path, isWrite x = false

/-- The program issues operations only as long as it has not written. -/
abbrev WritesLast (path : Path Op Op.Res) (p : Prog Op Op.Res Reply) : Prop :=
  Obeys (fun path _ => HasOnlyRead path) (fun _ _ => True) path p

lemma login_writesLast (data : Value) : WritesLast [] (login P data).run := by
  rcases hemail : trimmedMember data "email" with e | email
  · obtain ⟨e', h⟩ := login_run_of_error P (Or.inl hemail)
    exact h ▸ trivial
  rcases husername : trimmedMember data "username" with e | username
  · obtain ⟨e', h⟩ := login_run_of_error P (Or.inr husername)
    exact h ▸ trivial
  rw [login_run P hemail husername]
  refine obeys_op.mpr ⟨by simp [HasOnlyRead], fun r => ?_⟩
  rcases r with e | docs
  · trivial
  dsimp only
  split
  · trivial
  refine obeys_op.mpr ⟨by simp [HasOnlyRead, isWrite], fun r => ?_⟩
  rcases r with e | byEmail
  · trivial
  refine obeys_op.mpr ⟨by simp [HasOnlyRead, isWrite], fun r => ?_⟩
  rcases r with e | byUsername
  · trivial
  dsimp only
  split
  · refine obeys_op.mpr ⟨by simp [HasOnlyRead, isWrite], fun r => ?_⟩
    cases r <;> trivial
  · trivial

lemma withUser_writesLast (username : Value) {k : List (AutoId × UserDoc) → Prog Op Op.Res Reply}
    (hk : ∀ q docs, WritesLast [asked q docs] (k docs)) :
    WritesLast [] (withUser P username k) := by
  unfold withUser
  rcases whereEq P [] .username username with e | q
  · trivial
  refine obeys_op.mpr ⟨by simp [HasOnlyRead], fun r => ?_⟩
  rcases r with e | docs
  · trivial
  · exact hk q docs

lemma post_writesLast (now : Timestamp) (data : Value) : WritesLast [] (post P now data).run := by
  rcases data.member_cases with hdata | ⟨props, hdata⟩
  · rw [post_run_of_error P hdata]
    trivial
  rw [post_run P hdata]
  refine withUser_writesLast _ fun q docs => ?_
  rcases P.geoPoint (props "lat") (props "lon") with - | locationid
  · trivial
  dsimp only
  split
  · refine obeys_op.mpr ⟨by simp [HasOnlyRead, isWrite], fun r => ?_⟩
    cases r <;> trivial
  · trivial

lemma toggleLike_writesLast (like : Bool) (data : Value) :
    WritesLast [] (toggleLike P data like).run := by
  rcases data.member_cases with hdata | ⟨props, hdata⟩
  · rw [toggleLike_run_of_error P hdata]
    trivial
  rw [toggleLike_run P hdata]
  refine withUser_writesLast _ fun q docs => ?_
  rcases P.docPath (props "postId") with - | path
  · trivial
  refine obeys_op.mpr ⟨by simp [HasOnlyRead, isWrite], fun r => ?_⟩
  rcases r with e | - | postDoc
  · trivial
  · trivial
  refine obeys_op.mpr ⟨by simp [HasOnlyRead, isWrite], fun r => ?_⟩
  cases r <;> trivial

/-- Every call performs its write last. -/
lemma handle_writesLast (req : Request) : WritesLast [] (handle P req) := by
  cases req with
  | login data => exact login_writesLast data
  | post now data => exact post_writesLast now data
  | like data => exact toggleLike_writesLast true data
  | unlike data => exact toggleLike_writesLast false data

/-- An answer of `post` other than `null` comes from the post that the call added. -/
lemma Answered.post_cases {now : Timestamp} {data v : Value} {path : Path Op Op.Res}
    (h : Answered (.post now data) path (.ok v)) (hv : v ≠ .null) :
    ∃ doc id, v = .string id.val ∧ ⟨.addPost doc, .ok id⟩ ∈ path := by
  generalize hreq : Request.post now data = req at h
  generalize hreply : (.ok v : Reply) = reply at h
  cases h with
  | found => simp at hreq
  | registered => simp at hreq
  | posted => exact ⟨_, _, Except.ok.inj hreply, List.mem_cons_self⟩
  | @counted like => cases like <;> simp [Request.toggle] at hreq
  | failed hnull => exact absurd (hreply ▸ hnull) (not_failed hv)

/-- What a call has written is one thing. -/
lemma write_unique {log : Log} (hlaw : LawfulLog P s₀ log) {c : ℕ} {x y : Σ o, Op.Res o}
    (hx : x ∈ pathOf c log) (hxwrite : isWrite x = true) (hy : y ∈ pathOf c log)
    (hywrite : isWrite y = true) : x = y := by
  obtain ⟨-, en, -, -, -, rfl, hen⟩ := writesOf_eq_singleton hlaw hx hxwrite
  obtain ⟨-, en', -, -, -, rfl, hen'⟩ := writesOf_eq_singleton hlaw hy hywrite
  obtain rfl : en = en' := List.singleton_inj.mp (hen.symm.trans hen')
  rfl

/-- The answer of a call of `post` that has added a post. -/
lemma Answered.posted_reply {log : Log} (hlaw : LawfulLog P s₀ log) {c : ℕ} {now : Timestamp}
    {data : Value} {reply : Reply} (h : Answered (.post now data) (pathOf c log) reply)
    {doc : PostDoc} {id : AutoId} (hadded : ⟨.addPost doc, .ok id⟩ ∈ pathOf c log) :
    reply = .ok (.string id.val) := by
  generalize hreq : Request.post now data = req at h
  generalize hpath : pathOf c log = path at h
  cases h with
  | found => simp at hreq
  | registered => simp at hreq
  | @posted now data doc' path' id' =>
      have hsame := write_unique hlaw hadded rfl (hpath ▸ List.mem_cons_self) rfl
      obtain ⟨hdoc, hid⟩ := Sigma.mk.inj hsame
      obtain rfl := Op.addPost.inj hdoc
      rw [Except.ok.inj (eq_of_heq hid)]
  | @counted like => cases like <;> simp [Request.toggle] at hreq
  | failed hnull hread =>
      have hwrite := hread _ (hpath ▸ hadded)
      simp [isWrite] at hwrite

section Calls

variable {t : Server} (hcoherent : Coherent (Justified P) Answered perform s₀ t)

include hcoherent

/-- A post that a call has added says what the call was told. -/
lemma madeFor_of_added {c : ℕ} {now : Timestamp} {data : Value} {p : Prog Op Op.Res Reply}
    (hcall : t.calls[c]? = some (.post now data, p)) {doc : PostDoc} {id : AutoId}
    (h : ⟨.addPost doc, .ok id⟩ ∈ pathOf c t.log) :
    ∃ doc', t.store.post.get? id = some doc' ∧ doc'.MadeFor P s₀ t c now data := by
  obtain ⟨newer, en, older, hlog, rfl, hdone⟩ := exists_entry_of_mem_pathOf h
  have hlaw : LawfulLog P s₀ (newer ++ en :: older) := hlog ▸ hcoherent.lawful
  have hreq : en.req = .post now data := hcoherent.req_eq (by simp [hlog]) hcall
  obtain ⟨now', data', props, docs, locationid, hreq', hdata, -, hlocation, rfl, hpath⟩ :
      CreatesPost P en.req (pathOf en.call older) doc :=
    justified_of_done (hlaw.of_suffix ⟨newer, rfl⟩) hdone
  obtain ⟨rfl, rfl⟩ := Request.post.inj (hreq.symm.trans hreq')
  obtain ⟨doc', hdoc', hsame⟩ := post_since hlaw hdone
  have hasked : asked (usernameQuery (props "username")) docs ∈ pathOf en.call t.log := by
    obtain ⟨query, hmem, hquery⟩ := mem_pathOf.mp (hpath ▸ List.mem_singleton_self _)
    exact mem_pathOf.mpr ⟨query, hlog ▸ by simp [hmem], hquery⟩
  have hlooked := lookedUp_of_asked hcoherent.lawful hasked
  refine ⟨doc', by rw [hcoherent.store_eq, hlog, hdoc'], hsame.madeFor
    ⟨hdata _, rfl, ⟨props "lat", props "lon", hdata _, hdata _, hlocation⟩,
      ⟨_, _, hdata _, hlooked, rfl⟩, fun u hu => ?_⟩⟩
  rw [userRef_inj.mp hu] at hlooked
  obtain ⟨user, huser, hname⟩ := hlooked.account hcoherent.lawful
  exact ⟨user, hcoherent.store_eq ▸ huser, by rw [hdata, hname]⟩

/-- A call that has added a post has been answered with its identifier. -/
lemma postedAs_of_added
    (hlast : Coherent (fun _ path _ => HasOnlyRead path) (fun _ _ (_ : Reply) => True) perform
      s₀ t) {en : LogEntry} (hmem : en ∈ t.log) {doc : PostDoc} {id : AutoId}
    (hdone : en.done = ⟨.addPost doc, .ok id⟩) :
    ∃ now data, PostedAs t en.call id now data := by
  have hadded : ⟨.addPost doc, .ok id⟩ ∈ pathOf en.call t.log :=
    mem_pathOf.mpr ⟨en, hmem, rfl, hdone⟩
  obtain ⟨newer, older, hlog⟩ := List.append_of_mem hmem
  have hlaw : LawfulLog P s₀ (en :: older) :=
    Lawful.of_suffix (hlog ▸ hcoherent.lawful) ⟨newer, rfl⟩
  obtain ⟨now, data, props, docs, locationid, hreq, -⟩ :
      CreatesPost P en.req (pathOf en.call older) doc := justified_of_done hlaw hdone
  obtain ⟨p, hcall⟩ := hcoherent.logged en hmem
  rw [hreq] at hcall
  cases p with
  | op o k =>
      have hread := (hlast.obeys en.call _ _ hcall).1 _ hadded
      simp [isWrite] at hread
  | ret reply =>
      refine ⟨now, data, ?_⟩
      rw [PostedAs, hcall]
      have hanswered : Answered (.post now data) (pathOf en.call t.log) reply :=
        hcoherent.obeys en.call _ _ hcall
      rw [hanswered.posted_reply hcoherent.lawful hadded]

lemma postsRecorded_of_coherent
    (hlast : Coherent (fun _ path _ => HasOnlyRead path) (fun _ _ (_ : Reply) => True) perform
      s₀ t) : PostsRecorded P s₀ t := by
  refine ⟨fun c now data v hcall hv => ?_, fun id doc hnew hdoc => ?_⟩
  · have hanswered : Answered (.post now data) (pathOf c t.log) (.ok v) :=
      hcoherent.obeys c _ _ hcall
    obtain ⟨doc, id, rfl, hadded⟩ := hanswered.post_cases hv
    obtain ⟨doc', hdoc', hmade⟩ := madeFor_of_added hcoherent hcall hadded
    exact ⟨id, doc', rfl, hdoc', hmade⟩
  · rw [hcoherent.store_eq] at hdoc
    obtain ⟨en, hmem, doc₀, hdone⟩ := post_origin hnew hcoherent.lawful hdoc
    refine ⟨en.call, postedAs_of_added hcoherent hlast hmem hdone, ?_⟩
    rintro c ⟨now, data, hcall⟩
    -- another call with this answer would have added the identifier again
    have hanswered : Answered (.post now data) (pathOf c t.log) (.ok (.string id.val)) :=
      hcoherent.obeys c _ _ hcall
    obtain ⟨doc', id', hid, hadded⟩ := hanswered.post_cases (by simp)
    obtain rfl := AutoId.val_injective (Value.string.inj hid)
    obtain ⟨en', hmem', rfl, hdone'⟩ := mem_pathOf.mp hadded
    rw [post_added_once hcoherent.lawful hmem hdone hmem' hdone']

end Calls

lemma postsKept (r : ServerRun P s₀) : PostsKept r := by
  rintro es later t t' - hrun hlater id doc hdoc
  have hrun' : run (serverStep P) (Pool.start s₀) (es ++ later) = some t' := by
    rw [run_append, hrun, Option.bind_some, hlater]
  have ht := coherent_of_run handle_obeys hrun
  have ht' := coherent_of_run handle_obeys hrun'
  obtain ⟨newer, hlog⟩ := log_suffix_of_run hlater
  rw [ht.store_eq] at hdoc
  rw [ht'.store_eq, ← hlog]
  exact post_persists (hlog ▸ ht'.lawful) hdoc

/-- **Post soundness.**  In every run of the backend, from any store, of any calls in any
interleaving and with any operations rejected: what a call of `post` has answered other than
`null` is from then on the identifier of a post with the call's content, time and place, and of the
account that the call found under the username, or of none if its query found none; every post that
was not there at the beginning is the answer of exactly one call; and of a post nothing but its
likes ever changes. -/
theorem posts_sound (r : ServerRun P s₀) : r.Always (PostsRecorded P s₀) ∧ PostsKept r := by
  refine ⟨fun es _ t hrun => ?_, postsKept r⟩
  exact postsRecorded_of_coherent (coherent_of_run handle_obeys hrun)
    (coherent_of_run handle_writesLast hrun)

end Whix
