import Whix.Backend.Effects
import Whix.Backend.Sequential

/-!
# What a login answer is worth

Overlapping calls can register one pair twice (`Properties/AccountUniqueness.lean`), but they
cannot mix accounts up.  Whatever else runs at the same time and whichever operations are
rejected, an identifier that `login` answers is that of an account with the call's own trimmed
arguments (`LoginsAnswered`), accounts stay as they are once they exist (`AccountsKept`), and no
call adds two of them.
-/

namespace Whix

open Js Prog Interleaving Runs

variable {P : Platform} {s₀ : Store}

/-- Every call of `login` that has been answered, and not with `null`, has the identifier of an
account with the call's trimmed arguments. -/
def LoginsAnswered (t : Server) : Prop :=
  ∀ data (v : Value), (Request.login data, Prog.ret (.ok v)) ∈ t.calls → v ≠ .null →
    ∃ id doc, v = .string id.val ∧ t.store.users.get? id = some doc ∧
      trimmedMember data "email" = .ok doc.email ∧
      trimmedMember data "username" = .ok doc.username

/-- An account that exists at one point of the run exists unchanged at every later point. -/
def AccountsKept (r : ServerRun P s₀) : Prop :=
  ∀ es later t t', es ++ later <+: r.events →
    run (serverStep P) (Pool.start s₀) es = some t → run (serverStep P) t later = some t' →
    ∀ id doc, t.store.users.get? id = some doc → t'.store.users.get? id = some doc

/-- Is this an account that was added? -/
def addsUser : (Σ o, Op.Res o) → Bool
  | ⟨.addUser _, .ok _⟩ => true
  | _ => false

/-- The accounts that a call has added. -/
def accountsAddedBy (c : ℕ) (log : Log) : List LogEntry :=
  log.filter fun en => en.call = c && addsUser en.done

/-! ## Answers -/

/-- The identifier of the last document found is that of an account which passes the filters. -/
lemma account_of_asked {log : Log} (hlaw : LawfulLog P s₀ log) {c : ℕ} {q : Query}
    {docs : List (AutoId × UserDoc)} (h : asked q docs ∈ pathOf c log) {id : AutoId}
    (hid : lastId docs = some id) :
    ∃ doc, (storeAfter s₀ log).users.get? id = some doc ∧ q.admits doc = true := by
  obtain ⟨doc, hmem⟩ := mem_of_lastId hid
  obtain ⟨newer, older, -, hdocs⟩ := docs_selected hlaw h
  refine ⟨doc, docs_stored hlaw h hmem, ?_⟩
  rw [hdocs, Collection.mem_select] at hmem
  exact hmem.2

/-- An account that a call of `login` has added has the call's trimmed arguments. -/
lemma account_of_added {t : Server} (hcoherent : Coherent (Justified P) Answered perform s₀ t)
    {c : ℕ} {data : Value} {p : Prog Op Op.Res Reply}
    (hcall : t.calls[c]? = some (.login data, p)) {doc : UserDoc} {id : AutoId}
    (h : ⟨.addUser doc, .ok id⟩ ∈ pathOf c t.log) :
    (storeAfter s₀ t.log).users.get? id = some doc ∧
      trimmedMember data "email" = .ok doc.email ∧
      trimmedMember data "username" = .ok doc.username := by
  obtain ⟨newer, en, older, hlog, rfl, hdone⟩ := exists_entry_of_mem_pathOf h
  have hlaw : LawfulLog P s₀ (newer ++ en :: older) := hlog ▸ hcoherent.lawful
  have hreq : en.req = .login data := hcoherent.req_eq (by simp [hlog]) hcall
  obtain ⟨data', email, username, hreq', hemail, husername, rfl, -⟩ :
      CreatesUser P en.req (pathOf en.call older) doc :=
    justified_of_done (hlaw.of_suffix ⟨newer, rfl⟩) hdone
  obtain rfl := Request.login.inj (hreq.symm.trans hreq')
  exact ⟨hlog ▸ account_since hlaw hdone, hemail, husername⟩

/-- An answer of `login` other than `null` comes from an account that the call found or added. -/
lemma Answered.login_cases {data v : Value} {path : Path Op Op.Res}
    (h : Answered (.login data) path (.ok v)) (hv : v ≠ .null) :
    (∃ email username docs id, v = .string id.val ∧ lastId docs = some id ∧
        trimmedMember data "email" = .ok email ∧ trimmedMember data "username" = .ok username ∧
        path = [asked (pairQuery email username) docs]) ∨
      ∃ doc id rest, v = .string id.val ∧ path = ⟨.addUser doc, .ok id⟩ :: rest := by
  generalize hreq : Request.login data = req at h
  generalize hreply : (.ok v : Reply) = reply at h
  cases h with
  | @found data' email username docs id hemail husername hid =>
      obtain rfl := Request.login.inj hreq
      exact Or.inl ⟨email, username, docs, id, Except.ok.inj hreply, hid, hemail, husername, rfl⟩
  | registered => exact Or.inr ⟨_, _, _, Except.ok.inj hreply, rfl⟩
  | posted => simp at hreq
  | @counted like => cases like <;> simp [Request.toggle] at hreq
  | failed hnull => exact absurd (hreply ▸ hnull) (not_failed hv)

lemma loginsAnswered_of_coherent {t : Server}
    (hcoherent : Coherent (Justified P) Answered perform s₀ t) : LoginsAnswered t := by
  intro data v hmem hv
  obtain ⟨c, hcall⟩ := List.getElem?_of_mem hmem
  have hanswered : Answered (.login data) (pathOf c t.log) (.ok v) :=
    hcoherent.obeys c _ _ hcall
  rw [hcoherent.store_eq]
  rcases hanswered.login_cases hv with
    ⟨email, username, docs, id, rfl, hid, hemail, husername, hpath⟩ | ⟨doc, id, rest, rfl, hpath⟩
  · have hasked : asked (pairQuery email username) docs ∈ pathOf c t.log := by simp [hpath]
    obtain ⟨doc, hdoc, hadmits⟩ := account_of_asked hcoherent.lawful hasked hid
    obtain ⟨rfl, rfl⟩ := (pairQuery_admits email username doc).mp hadmits
    exact ⟨id, doc, rfl, hdoc, hemail, husername⟩
  · have hadded : ⟨.addUser doc, .ok id⟩ ∈ pathOf c t.log := by simp [hpath]
    exact ⟨id, doc, rfl, account_of_added hcoherent hcall hadded⟩

/-! ## Accounts -/

lemma accountsKept (r : ServerRun P s₀) : AccountsKept r := by
  rintro es later t t' - hrun hlater id doc hdoc
  have hrun' : run (serverStep P) (Pool.start s₀) (es ++ later) = some t' := by
    rw [run_append, hrun, Option.bind_some, hlater]
  have ht := coherent_of_run handle_obeys hrun
  have ht' := coherent_of_run handle_obeys hrun'
  obtain ⟨newer, hlog⟩ := log_suffix_of_run hlater
  rw [ht.store_eq] at hdoc
  rw [ht'.store_eq, ← hlog]
  exact account_persists (hlog ▸ ht'.lawful) hdoc

lemma accountsAddedBy_length_le_one {log : Log} (hlaw : LawfulLog P s₀ log) (c : ℕ) :
    (accountsAddedBy c log).length ≤ 1 := by
  have hsub : (accountsAddedBy c log).Sublist (writesOf c log) := by
    refine List.monotone_filter_right log fun en hen => ?_
    simp only [Bool.and_eq_true, decide_eq_true_eq] at hen ⊢
    refine ⟨hen.1, ?_⟩
    obtain ⟨c, req, env, o, res⟩ := en
    cases o <;> cases res <;> simp_all [addsUser, Entry.done, isWrite]
  exact hsub.length_le.trans (writesOf_length_le_one hlaw c)

/-- **Login soundness.**  In every run of the backend, from any store, of any calls in any
interleaving and with any operations rejected: an identifier that a call of `login` has answered
is from then on that of an account with the call's trimmed arguments, no account is ever changed
or removed, and no call adds more than one. -/
theorem logins_sound (r : ServerRun P s₀) :
    r.Always LoginsAnswered ∧ AccountsKept r ∧
      ∀ c, (accountsAddedBy c r.final.log).length ≤ 1 := by
  refine ⟨?_, accountsKept r, accountsAddedBy_length_le_one r.coherent.lawful⟩
  intro es _ t hrun
  exact loginsAnswered_of_coherent (coherent_of_run handle_obeys hrun)

end Whix
