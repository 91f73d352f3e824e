import Whix.Backend.Server

/-!
# What an entry of the log says about the store

`entry_effect` is the inversion of one committed step of the backend: an entry of a lawful log
either creates an account, creates a post, updates a post, or leaves the store alone, and in each
writing case the call came to it as `Justified` says.  The reads deliver what the store held at
their place in the log.
-/

namespace Whix

open Js Prog Interleaving

variable {P : Platform} {s₀ : Store} {log : Log} {en : LogEntry}

/-- The effect of an entry on the store, with how its call came to it. -/
inductive EntryEffect (P : Platform) (en : LogEntry) (path : Path Op Op.Res) (s : Store) :
    Store → Prop
  | addUser {doc id users} (hdone : en.done = ⟨.addUser doc, .ok id⟩)
      (hcall : CreatesUser P en.req path doc) (hadd : s.users.add id doc = some users) :
      EntryEffect P en path s { s with users }
  | addPost {doc id post} (hdone : en.done = ⟨.addPost doc, .ok id⟩)
      (hcall : CreatesPost P en.req path doc) (hadd : s.post.add id doc = some post) :
      EntryEffect P en path s { s with post }
  | updatePost {postPath likes likesCount id doc}
      (hdone : en.done = ⟨.updatePost postPath likes likesCount, .ok ()⟩)
      (hcall : UpdatesPost P en.req path postPath likes likesCount)
      (hpost : s.postAt postPath = some (id, doc)) :
      EntryEffect P en path s
        { s with post := s.post.modify id fun doc => { doc with likes, likesCount } }
  | idle (hdone : isWrite en.done = false) : EntryEffect P en path s s

/-- Every entry of a lawful log has one of the four effects. -/
theorem entry_effect (hlaw : LawfulLog P s₀ (en :: log)) :
    EntryEffect P en (pathOf en.call log) (storeAfter s₀ log) (storeAfter s₀ (en :: log)) := by
  obtain ⟨c, req, env, o, res⟩ := en
  obtain ⟨-, hres, hcall⟩ := hlaw
  change EntryEffect P _ _ (storeAfter s₀ log) (perform env o (storeAfter s₀ log)).2
  simp only at hres hcall
  rcases hperform : perform env o (storeAfter s₀ log) with ⟨r, s'⟩
  rw [storeAfter] at hperform
  rw [hperform] at hres
  subst hres
  cases env with
  | reject =>
      obtain ⟨rfl, rfl⟩ := Prod.mk.inj hperform
      exact .idle (by cases o <;> rfl)
  | commit autoId =>
      cases o with
      | getUsers q =>
          obtain ⟨rfl, rfl⟩ := Prod.mk.inj hperform
          exact .idle rfl
      | getPost path =>
          obtain ⟨rfl, rfl⟩ := Prod.mk.inj hperform
          exact .idle rfl
      | addUser doc =>
          simp only [perform, Op.commit] at hperform
          split at hperform <;> obtain ⟨rfl, rfl⟩ := Prod.mk.inj hperform
          · exact .addUser rfl hcall ‹_›
          · exact .idle rfl
      | addPost doc =>
          simp only [perform, Op.commit] at hperform
          split at hperform <;> obtain ⟨rfl, rfl⟩ := Prod.mk.inj hperform
          · exact .addPost rfl hcall ‹_›
          · exact .idle rfl
      | updatePost path likes likesCount =>
          simp only [perform, Op.commit] at hperform
          split at hperform <;> obtain ⟨rfl, rfl⟩ := Prod.mk.inj hperform
          · exact .updatePost rfl hcall ‹_›
          · exact .idle rfl

/-- A committed `add` creates its document under the identifier it delivered. -/
lemma EntryEffect.of_addUser {path : Path Op Op.Res} {s s' : Store}
    (h : EntryEffect P en path s s') {doc : UserDoc} {id : AutoId}
    (hdone : en.done = ⟨.addUser doc, .ok id⟩) :
    ∃ users, s.users.add id doc = some users ∧ s' = { s with users } := by
  cases h with
  | addUser hdone' hcall hadd =>
      obtain ⟨hdoc, hid⟩ := Sigma.mk.inj (hdone.symm.trans hdone')
      obtain rfl := Op.addUser.inj hdoc
      obtain rfl := Except.ok.inj (eq_of_heq hid)
      exact ⟨_, hadd, rfl⟩
  | addPost hdone' => rw [hdone] at hdone'; simp at hdone'
  | updatePost hdone' => rw [hdone] at hdone'; simp at hdone'
  | idle hdone' => rw [hdone] at hdone'; simp [isWrite] at hdone'

@[inherit_doc EntryEffect.of_addUser]
lemma EntryEffect.of_addPost {path : Path Op Op.Res} {s s' : Store}
    (h : EntryEffect P en path s s') {doc : PostDoc} {id : AutoId}
    (hdone : en.done = ⟨.addPost doc, .ok id⟩) :
    ∃ post, s.post.add id doc = some post ∧ s' = { s with post } := by
  cases h with
  | addPost hdone' hcall hadd =>
      obtain ⟨hdoc, hid⟩ := Sigma.mk.inj (hdone.symm.trans hdone')
      obtain rfl := Op.addPost.inj hdoc
      obtain rfl := Except.ok.inj (eq_of_heq hid)
      exact ⟨_, hadd, rfl⟩
  | addUser hdone' => rw [hdone] at hdone'; simp at hdone'
  | updatePost hdone' => rw [hdone] at hdone'; simp at hdone'
  | idle hdone' => rw [hdone] at hdone'; simp [isWrite] at hdone'

/-- A committed update changes the array and the counter of the post under its path. -/
lemma EntryEffect.of_updatePost {path : Path Op Op.Res} {s s' : Store}
    (h : EntryEffect P en path s s') {postPath : String} {likes : List DocumentReference}
    {likesCount : ℤ} (hdone : en.done = ⟨.updatePost postPath likes likesCount, .ok ()⟩) :
    UpdatesPost P en.req path postPath likes likesCount ∧
      ∃ id doc, s.postAt postPath = some (id, doc) ∧
        s' = { s with post := s.post.modify id fun doc => { doc with likes, likesCount } } := by
  cases h with
  | updatePost hdone' hcall hpost =>
      obtain ⟨rfl, rfl, rfl⟩ := Op.updatePost.inj (Sigma.mk.inj (hdone.symm.trans hdone')).1
      exact ⟨hcall, _, _, hpost, rfl⟩
  | addUser hdone' => rw [hdone] at hdone'; simp at hdone'
  | addPost hdone' => rw [hdone] at hdone'; simp at hdone'
  | idle hdone' => rw [hdone] at hdone'; simp [isWrite] at hdone'

/-- A users query delivers what the collection held at its place in the log. -/
lemma docs_eq_select (hlaw : LawfulLog P s₀ (en :: log)) {q : Query}
    {docs : List (AutoId × UserDoc)} (hdone : en.done = asked q docs) :
    docs = (storeAfter s₀ log).users.select q.admits := by
  obtain ⟨c, req, env, o, res⟩ := en
  obtain ⟨-, hres, -⟩ := hlaw
  obtain ⟨rfl, hdocs⟩ := Sigma.mk.inj hdone
  obtain rfl := eq_of_heq hdocs
  cases env with
  | reject => simp [perform] at hres
  | commit autoId => exact Except.ok.inj hres

/-- A read of a post delivers what the collection held at its place in the log. -/
lemma data_eq_postAt (hlaw : LawfulLog P s₀ (en :: log)) {path : String}
    {postDoc : Option PostDoc} (hdone : en.done = saw path postDoc) :
    postDoc = ((storeAfter s₀ log).postAt path).map Prod.snd := by
  obtain ⟨c, req, env, o, res⟩ := en
  obtain ⟨-, hres, -⟩ := hlaw
  obtain ⟨rfl, hdata⟩ := Sigma.mk.inj hdone
  obtain rfl := eq_of_heq hdata
  cases env with
  | reject => simp [perform] at hres
  | commit autoId => exact Except.ok.inj hres

/-! ## Accounts over a history -/

/-- Accounts are never changed or removed. -/
lemma account_persists {newer older : Log} (hlaw : LawfulLog P s₀ (newer ++ older))
    {id : AutoId} {doc : UserDoc} (h : (storeAfter s₀ older).users.get? id = some doc) :
    (storeAfter s₀ (newer ++ older)).users.get? id = some doc := by
  induction newer with
  | nil => exact h
  | cons en newer ih =>
      rw [List.cons_append] at hlaw ⊢
      have ih := ih hlaw.1
      have heffect := entry_effect hlaw
      generalize storeAfter s₀ (en :: (newer ++ older)) = s' at heffect ⊢
      cases heffect with
      | @addUser doc' id' users hdone hcall hadd =>
          exact Collection.get?_add_of_some hadd ih
      | addPost => exact ih
      | updatePost => exact ih
      | idle => exact ih

/-- A committed `add` leaves its document under the identifier it delivered. -/
lemma get?_of_addUser (hlaw : LawfulLog P s₀ (en :: log)) {doc : UserDoc} {id : AutoId}
    (hdone : en.done = ⟨.addUser doc, .ok id⟩) :
    (storeAfter s₀ (en :: log)).users.get? id = some doc := by
  obtain ⟨users, hadd, hstore⟩ := (entry_effect hlaw).of_addUser hdone
  rw [hstore]
  exact Collection.get?_add_self hadd

/-- And it stays there. -/
lemma account_since {newer older : Log} (hlaw : LawfulLog P s₀ (newer ++ en :: older))
    {doc : UserDoc} {id : AutoId} (hdone : en.done = ⟨.addUser doc, .ok id⟩) :
    (storeAfter s₀ (newer ++ en :: older)).users.get? id = some doc :=
  account_persists hlaw (get?_of_addUser (hlaw.of_suffix ⟨newer, rfl⟩) hdone)

/-- Starting from no accounts, every account was added by an entry of the log. -/
lemma account_origin (hempty : s₀.users = .empty) (hlaw : LawfulLog P s₀ log) {id : AutoId}
    {doc : UserDoc} (h : (storeAfter s₀ log).users.get? id = some doc) :
    ∃ newer other older, log = newer ++ other :: older ∧
      other.done = ⟨.addUser doc, .ok id⟩ := by
  induction log with
  | nil => simp [storeAfter, hempty] at h
  | cons en log ih =>
      have ih := ih hlaw.1
      have heffect := entry_effect hlaw
      have hlift : (storeAfter s₀ log).users.get? id = some doc →
          ∃ newer other older, en :: log = newer ++ other :: older ∧
            other.done = ⟨.addUser doc, .ok id⟩ := by
        intro h
        obtain ⟨newer, other, older, rfl, hdone⟩ := ih h
        exact ⟨en :: newer, other, older, rfl, hdone⟩
      generalize storeAfter s₀ (en :: log) = s' at heffect h
      cases heffect with
      | @addUser doc' id' users hdone hcall hadd =>
          simp only [Collection.get?_of_add hadd] at h
          split at h
          · rename_i hid
            subst hid
            obtain rfl := Option.some.inj h
            exact ⟨[], en, log, rfl, hdone⟩
          · exact hlift h
      | addPost => exact hlift h
      | updatePost => exact hlift h
      | idle => exact hlift h

/-! ## What a call has read before -/

/-- A read that a call made before its place in the log delivered a post as it was stored at an
earlier place. -/
lemma snapshot_stored (hlaw : LawfulLog P s₀ log) {c : ℕ} {path : String} {postDoc : PostDoc}
    (h : saw path (some postDoc) ∈ pathOf c log) :
    ∃ id older, older <:+ log ∧ (storeAfter s₀ older).post.get? id = some postDoc := by
  obtain ⟨newer, read, older, rfl, -, hdone⟩ := exists_entry_of_mem_pathOf h
  have hread := data_eq_postAt (hlaw.of_suffix ⟨newer, rfl⟩) hdone
  obtain ⟨⟨id, doc⟩, hpost, rfl⟩ := Option.map_eq_some_iff.mp hread.symm
  exact ⟨id, older, ⟨newer ++ [read], by simp⟩, (postAt_eq_some_iff.mp hpost).2⟩

/-- A users query that a call made before its place in the log delivered what an earlier store
held. -/
lemma docs_selected (hlaw : LawfulLog P s₀ log) {c : ℕ} {q : Query}
    {docs : List (AutoId × UserDoc)} (h : asked q docs ∈ pathOf c log) :
    ∃ newer older, log = newer ++ older ∧
      docs = (storeAfter s₀ older).users.select q.admits := by
  obtain ⟨newer, query, older, rfl, -, hdone⟩ := exists_entry_of_mem_pathOf h
  exact ⟨newer ++ [query], older, by simp, docs_eq_select (hlaw.of_suffix ⟨newer, rfl⟩) hdone⟩

/-- The accounts it delivered still exist. -/
lemma docs_stored (hlaw : LawfulLog P s₀ log) {c : ℕ} {q : Query}
    {docs : List (AutoId × UserDoc)} (h : asked q docs ∈ pathOf c log) {id : AutoId}
    {doc : UserDoc} (hmem : (id, doc) ∈ docs) :
    (storeAfter s₀ log).users.get? id = some doc := by
  obtain ⟨newer, older, rfl, rfl⟩ := docs_selected hlaw h
  exact account_persists hlaw (Collection.mem_select.mp hmem).1

/-! ## Committed writes -/

/-- How the call of an entry came to issue its operation. -/
lemma justified_of_done (hlaw : LawfulLog P s₀ (en :: log)) {o : Op} {res : o.Res}
    (hdone : en.done = ⟨o, res⟩) : Justified P en.req (pathOf en.call log) o :=
  (Sigma.mk.inj hdone).1 ▸ hlaw.2.2

/-- An entry that writes nothing leaves the store as it is. -/
lemma storeAfter_eq_of_not_write (hlaw : LawfulLog P s₀ (en :: log))
    (h : isWrite en.done = false) : storeAfter s₀ (en :: log) = storeAfter s₀ log := by
  have heffect := entry_effect hlaw
  generalize storeAfter s₀ (en :: log) = s' at heffect ⊢
  cases heffect with
  | addUser hdone => simp [hdone, isWrite] at h
  | addPost hdone => simp [hdone, isWrite] at h
  | updatePost hdone => simp [hdone, isWrite] at h
  | idle => rfl

/-- A call that writes has only read before. -/
lemma read_only_before_write (hlaw : LawfulLog P s₀ (en :: log)) (h : isWrite en.done = true) :
    ∀ x ∈ pathOf en.call log, isWrite x = false := by
  obtain ⟨c, req, env, o, res⟩ := en
  have hissued : Justified P req (pathOf c log) o := justified_of_done hlaw rfl
  cases o with
  | getUsers q => simp [Entry.done, isWrite] at h
  | getPost path => simp [Entry.done, isWrite] at h
  | addUser doc =>
      obtain ⟨data, email, username, -, -, -, -, hpath⟩ := hissued
      simp [hpath, isWrite]
  | addPost doc =>
      obtain ⟨now, data, props, docs, locationid, -, -, -, -, -, hpath⟩ := hissued
      simp [hpath, isWrite]
  | updatePost path likes n =>
      obtain ⟨like, data, props, docs, postDoc, -, -, -, -, hpath⟩ := hissued
      simp [hpath, isWrite]

/-- The committed writes of a call, newest first. -/
def writesOf (c : ℕ) (log : Log) : List LogEntry :=
  log.filter fun en => en.call = c && isWrite en.done

lemma writesOf_eq_nil_iff {c : ℕ} :
    writesOf c log = [] ↔ ∀ x ∈ pathOf c log, isWrite x = false := by
  simp only [writesOf, List.filter_eq_nil_iff, Bool.and_eq_true, decide_eq_true_eq, not_and,
    Bool.not_eq_true, mem_pathOf]
  constructor
  · rintro h x ⟨en, hen, hcall, rfl⟩
    exact h en hen hcall
  · intro h en hen hcall
    exact h en.done ⟨en, hen, hcall, rfl⟩

/-- No call writes twice. -/
lemma writesOf_length_le_one (hlaw : LawfulLog P s₀ log) (c : ℕ) :
    (writesOf c log).length ≤ 1 := by
  induction log with
  | nil => simp [writesOf]
  | cons en log ih =>
      have ih := ih hlaw.1
      rw [writesOf, List.filter_cons]
      split
      · rename_i h
        simp only [Bool.and_eq_true, decide_eq_true_eq] at h
        obtain ⟨rfl, hwrite⟩ := h
        have hnone : writesOf en.call log = [] :=
          writesOf_eq_nil_iff.mpr (read_only_before_write hlaw hwrite)
        rw [← writesOf, hnone]
        simp
      · exact ih

/-- The write of a call that has written. -/
lemma writesOf_eq_singleton (hlaw : LawfulLog P s₀ log) {c : ℕ} {x : Σ o, Op.Res o}
    (h : x ∈ pathOf c log) (hwrite : isWrite x = true) :
    ∃ newer en older, log = newer ++ en :: older ∧ en.call = c ∧ en.done = x ∧
      writesOf c log = [en] := by
  obtain ⟨newer, en, older, rfl, hcall, rfl⟩ := exists_entry_of_mem_pathOf h
  refine ⟨newer, en, older, rfl, hcall, rfl, ?_⟩
  have hmem : en ∈ writesOf c (newer ++ en :: older) := by
    simp [writesOf, hcall, hwrite]
  have hlength := writesOf_length_le_one hlaw c
  obtain ⟨en', hen'⟩ := List.length_eq_one_iff.mp
    (le_antisymm hlength (List.length_pos_of_mem hmem))
  rw [hen', List.mem_singleton] at hmem
  rw [hen', hmem]

/-! ## Committed updates -/

/-- The entry is a committed update by a `like` or `unlike` call, which came to it with the
reference `ref` of its caller after reading the post as `postDoc`. -/
def CommitsToggle (en : LogEntry) (older : Log) (like : Bool) (ref : DocumentReference)
    (postDoc : PostDoc) : Prop :=
  ∃ data postPath likes likesCount q docs, en.req = .toggle like data ∧
    en.done = ⟨.updatePost postPath likes likesCount, .ok ()⟩ ∧
    pathOf en.call older = [saw postPath (some postDoc), asked q docs] ∧
    ref = userRef (lastId docs)

lemma CommitsToggle.unique {older : Log} {like₁ like₂ : Bool} {ref₁ ref₂ : DocumentReference}
    {postDoc₁ postDoc₂ : PostDoc} (h₁ : CommitsToggle en older like₁ ref₁ postDoc₁)
    (h₂ : CommitsToggle en older like₂ ref₂ postDoc₂) :
    like₁ = like₂ ∧ ref₁ = ref₂ ∧ postDoc₁ = postDoc₂ := by
  obtain ⟨data₁, path₁, likes₁, n₁, q₁, docs₁, hreq₁, -, hpath₁, rfl⟩ := h₁
  obtain ⟨data₂, path₂, likes₂, n₂, q₂, docs₂, hreq₂, -, hpath₂, rfl⟩ := h₂
  rw [hreq₁, Request.toggle_inj] at hreq₂
  obtain ⟨hsaw, hasked⟩ := List.cons.inj (hpath₁.symm.trans hpath₂)
  obtain ⟨-, rfl⟩ := asked_inj.mp (List.singleton_inj.mp hasked)
  exact ⟨hreq₂.1, rfl, Option.some.inj (saw_inj.mp hsaw).2⟩

/-- How a call comes to update a post, in the form the properties use. -/
lemma UpdatesPost.commitsToggle {older : Log} {postPath : String}
    {likes : List DocumentReference} {likesCount : ℤ}
    (hdone : en.done = ⟨.updatePost postPath likes likesCount, .ok ()⟩)
    (hcall : UpdatesPost P en.req (pathOf en.call older) postPath likes likesCount) :
    ∃ like ref postDoc, CommitsToggle en older like ref postDoc ∧
      saw postPath (some postDoc) ∈ pathOf en.call older ∧
      toggled like ref postDoc.likes postDoc.likesCount = (likes, likesCount) := by
  obtain ⟨like, data, props, docs, postDoc, hreq, -, -, htoggled, hpath⟩ := hcall
  exact ⟨like, userRef (lastId docs), postDoc,
    ⟨data, postPath, likes, likesCount, _, docs, hreq, hdone, hpath, rfl⟩,
    by simp [hpath], htoggled.symm⟩

end Whix
