import Whix.Properties.LoginSoundness

/-!
# What a reply says about the writes of its call

The clients tell success from failure by one thing only: whether the reply is `null`.
`replies_tell_writes` is what they can rely on.  A call that answers `null`, or rejects, has
written nothing, whichever of its operations was rejected and whatever ran in between.  A call
with another answer has written exactly once, and `Wrote` says what; only a `login` that found
its account writes nothing.
-/

namespace Whix

open Js Prog Interleaving Runs

variable {P : Platform} {s₀ : Store}

/-- The one write of a call of `req` that answers `v`, as it changes the store. -/
inductive Wrote (P : Platform) (s : Store) : Request → Value → Store → Prop
  /-- `login` creates an account under the identifier it answers. -/
  | login {data id doc users} (hadd : s.users.add id doc = some users) :
      Wrote P s (.login data) (.string id.val) { s with users }
  /-- `post` creates a post under the identifier it answers. -/
  | post {now data id doc post} (hadd : s.post.add id doc = some post) :
      Wrote P s (.post now data) (.string id.val) { s with post }
  /-- `like` and `unlike` change the array and the counter of the post they name, and answer the
  counter. -/
  | toggle {like data postId path id doc likes} {likesCount : ℤ}
      (hnamed : data.member "postId" = .ok postId) (hpath : P.docPath postId = some path)
      (hpost : s.postAt path = some (id, doc)) :
      Wrote P s (.toggle like data) (.number likesCount)
        { s with post := s.post.modify id fun doc => { doc with likes, likesCount } }

/-- A call of `login` that answers the identifier of an account it has found. -/
def FoundAccount (users : Collection AutoId UserDoc) (req : Request) (v : Value) : Prop :=
  ∃ data id doc, req = .login data ∧ v = .string id.val ∧ users.get? id = some doc ∧
    trimmedMember data "email" = .ok doc.email ∧
    trimmedMember data "username" = .ok doc.username

/-- What a finished call has written, by its reply. -/
inductive WritesTold (P : Platform) (s₀ : Store) (log : Log) (c : ℕ) (req : Request) : Reply → Prop
  | failed {reply} (hreply : reply = .ok .null ∨ ∃ e, reply = .error e)
      (hnone : writesOf c log = []) : WritesTold P s₀ log c req reply
  | found {v} (hfound : FoundAccount (storeAfter s₀ log).users req v)
      (hnone : writesOf c log = []) : WritesTold P s₀ log c req (.ok v)
  | wrote {v en older} (hv : v ≠ .null) (hone : writesOf c log = [en])
      (hplace : en :: older <:+ log)
      (hwrote : Wrote P (storeAfter s₀ older) req v (storeAfter s₀ (en :: older))) :
      WritesTold P s₀ log c req (.ok v)

/-! ## Finished calls -/

section Finished

variable {t : Server} (hcoherent : Coherent (Justified P) Answered perform s₀ t) {c : ℕ}
  {req : Request} {p : Prog Op Op.Res Reply} (hcall : t.calls[c]? = some (req, p))

include hcoherent hcall

/-- Where a call has written, and what the write did. -/
lemma exists_write {x : Σ o, Op.Res o} (h : x ∈ pathOf c t.log) (hwrite : isWrite x = true) :
    ∃ en older, writesOf c t.log = [en] ∧ en :: older <:+ t.log ∧ en.req = req ∧ en.done = x ∧
      EntryEffect P en (pathOf en.call older) (storeAfter s₀ older)
        (storeAfter s₀ (en :: older)) := by
  obtain ⟨newer, en, older, hlog, rfl, hdone, hone⟩ :=
    writesOf_eq_singleton hcoherent.lawful h hwrite
  have hplace : en :: older <:+ t.log := ⟨newer, hlog.symm⟩
  exact ⟨en, older, hone, hplace, hcoherent.req_eq (by simp [hlog]) hcall, hdone,
    entry_effect (hcoherent.lawful.of_suffix hplace)⟩

end Finished

/-- What a call has written is what its reply tells. -/
lemma writesTold_of_answered {t : Server}
    (hcoherent : Coherent (Justified P) Answered perform s₀ t) {c : ℕ} {req : Request}
    {reply : Reply} (hcall : t.calls[c]? = some (req, .ret reply)) :
    WritesTold P s₀ t.log c req reply := by
  have hanswered : Answered req (pathOf c t.log) reply := hcoherent.obeys c _ _ hcall
  generalize hpath : pathOf c t.log = path at hanswered
  cases hanswered with
  | failed hreply hreads =>
      exact .failed hreply (writesOf_eq_nil_iff.mpr (hpath ▸ hreads))
  | @found data email username docs id hemail husername hid =>
      have hasked : asked (pairQuery email username) docs ∈ pathOf c t.log := by simp [hpath]
      obtain ⟨doc, hdoc, hadmits⟩ := account_of_asked hcoherent.lawful hasked hid
      obtain ⟨rfl, rfl⟩ := (pairQuery_admits email username doc).mp hadmits
      refine .found ⟨data, id, doc, rfl, rfl, hdoc, hemail, husername⟩ ?_
      exact writesOf_eq_nil_iff.mpr (by simp [hpath, isWrite])
  | @registered data doc rest id =>
      obtain ⟨en, older, hone, hplace, hreq, hdone, heffect⟩ :=
        exists_write hcoherent hcall (x := ⟨.addUser doc, .ok id⟩) (by simp [hpath]) rfl
      obtain ⟨users, hadd, hstore⟩ := heffect.of_addUser hdone
      exact .wrote (by simp) hone hplace (hstore ▸ .login hadd)
  | @posted now data doc rest id =>
      obtain ⟨en, older, hone, hplace, hreq, hdone, heffect⟩ :=
        exists_write hcoherent hcall (x := ⟨.addPost doc, .ok id⟩) (by simp [hpath]) rfl
      obtain ⟨post, hadd, hstore⟩ := heffect.of_addPost hdone
      exact .wrote (by simp) hone hplace (hstore ▸ .post hadd)
  | @counted like data postPath likes likesCount rest =>
      obtain ⟨en, older, hone, hplace, hreq, hdone, heffect⟩ :=
        exists_write hcoherent hcall (x := ⟨.updatePost postPath likes likesCount, .ok ()⟩)
          (by simp [hpath]) rfl
      obtain ⟨hupdates, id, doc, hpost, hstore⟩ := heffect.of_updatePost hdone
      obtain ⟨like', data', props, docs, postDoc, htoggle, hprops, hdocPath, -, -⟩ := hupdates
      obtain ⟨rfl, rfl⟩ := Request.toggle_inj.mp (hreq.symm.trans htoggle)
      exact .wrote (by simp) hone hplace (hstore ▸ .toggle (hprops "postId") hdocPath hpost)

/-- **Replies tell the writes.**  In every run of the backend, from any store, of any calls in any
interleaving and with any operations rejected: a call that has answered `null` or rejected has
written nothing, and one with another answer has made the one write that its answer tells, or is
a `login` that found its account.  What is not a write leaves the store as it is. -/
theorem replies_tell_writes (r : ServerRun P s₀) :
    (∀ c req reply, r.final.calls[c]? = some (req, .ret reply) →
      WritesTold P s₀ r.final.log c req reply) ∧
    ∀ en older, en :: older <:+ r.final.log → isWrite en.done = false →
      storeAfter s₀ (en :: older) = storeAfter s₀ older := by
  constructor
  · intro c req reply hcall
    exact writesTold_of_answered r.coherent hcall
  · intro en older hplace hread
    exact storeAfter_eq_of_not_write (r.coherent.lawful.of_suffix hplace) hread

end Whix
