import Whix.Backend.Sequential
import Whix.Properties.AccountUniqueness

/-!
# Sequential login is an account directory

Calls of `login`, one at a time from empty collections.  The directory keeps the answers given so
far; `loginStep` serves one more call, for which the service has an automatic identifier ready
that no account carries yet.

`KeepsAnswers` is the invariant: accounts are unique, and an answered identifier is that of an
account with the call's trimmed pair.  Both together make identifiers and pairs correspond.
-/

namespace Whix

open Js Runs

/-- A call of `login`, and the identifier its account gets if it creates one. -/
structure LoginCall where
  email : String
  username : String
  autoId : AutoId

/-- An answered call: its trimmed arguments and the reply. -/
structure LoginAnswer where
  email : String
  username : String
  reply : Reply

/-- The store and the answers given so far, newest first. -/
structure Directory where
  store : Store
  answers : List LoginAnswer

/-- No accounts and no calls yet. -/
def Directory.start : Directory := ⟨.empty, []⟩

/-- The directory after one more call. -/
def Directory.login (P : Platform) (t : Directory) (call : LoginCall) : Directory :=
  let served := serve P (.commit call.autoId) (.login (loginData call.email call.username)) t.store
  { store := served.2
    answers := ⟨trimmed call.email, trimmed call.username, served.1⟩ :: t.answers }

/-- Serve one call; automatic identifiers are new. -/
def loginStep (P : Platform) (t : Directory) (call : LoginCall) : Option Directory :=
  match t.store.users.get? call.autoId with
  | none => some (t.login P call)
  | some _ => none

/-- A sequence of login calls from empty collections. -/
abbrev DirectoryRun (P : Platform) := Execution (loginStep P) Directory.start

variable {P : Platform}

lemma loginStep_eq_some {t t' : Directory} {call : LoginCall} :
    loginStep P t call = some t' ↔
      t.store.users.get? call.autoId = none ∧ t.login P call = t' := by
  rw [loginStep]
  split <;> simp_all

/-- What one call answers and does. -/
lemma login_outcome (P : Platform) (t : Directory) (call : LoginCall) :
    ∃ reply, (t.login P call).answers =
        ⟨trimmed call.email, trimmed call.username, reply⟩ :: t.answers ∧
      LoginOutcome P (.commit call.autoId) t.store (trimmed call.email) (trimmed call.username)
        reply (t.login P call).store :=
  ⟨_, rfl, serve_loginData _ _ _ _⟩

/-- Accounts are unique, and an answered identifier is that of an account with the call's pair. -/
structure KeepsAnswers (t : Directory) : Prop where
  unique : UniqueAccounts t.store.users
  answered : ∀ a ∈ t.answers, ∀ id, a.reply = .ok (.string id) →
    ∃ autoId doc, autoId.val = id ∧ t.store.users.get? autoId = some doc ∧
      doc.email = a.email ∧ doc.username = a.username

lemma keepsAnswers_start : KeepsAnswers Directory.start where
  unique := by intro i j a b ha; simp [Directory.start, Store.empty] at ha
  answered := by simp [Directory.start]

lemma keepsAnswers_step {t t' : Directory} {call : LoginCall} (h : KeepsAnswers t)
    (hstep : loginStep P t call = some t') : KeepsAnswers t' := by
  obtain ⟨-, rfl⟩ := loginStep_eq_some.mp hstep
  obtain ⟨reply, hanswers, houtcome⟩ := login_outcome P t call
  generalize (t.login P call) = t' at *
  obtain ⟨store, answers⟩ := t'
  dsimp only at hanswers houtcome
  subst hanswers
  cases houtcome with
  | @found id doc hdoc hemail husername =>
      refine ⟨h.unique, ?_⟩
      simp only [List.forall_mem_cons]
      refine ⟨fun i hi => ?_, h.answered⟩
      simp only [Except.ok.injEq, Value.string.injEq] at hi
      exact ⟨id, doc, hi, hdoc, hemail, husername⟩
  | @registered id users henv havailable hadd =>
      refine ⟨(uniqueAccounts_add_iff hadd h.unique).mpr havailable, ?_⟩
      simp only [List.forall_mem_cons]
      refine ⟨fun i hi => ?_, fun a ha i hi => ?_⟩
      · simp only [Except.ok.injEq, Value.string.injEq] at hi
        exact ⟨id, _, hi, Collection.get?_add_self hadd, rfl, rfl⟩
      · obtain ⟨autoId, doc, hval, hdoc, hpair⟩ := h.answered a ha i hi
        exact ⟨autoId, doc, hval, Collection.get?_add_of_some hadd hdoc, hpair⟩
  | refused => exact ⟨h.unique, by simpa using h.answered⟩
  | unavailable => exact ⟨h.unique, by simpa using h.answered⟩

lemma DirectoryRun.keepsAnswers (r : DirectoryRun P) : KeepsAnswers r.final :=
  invariant_run (fun _ _ _ h hstep => keepsAnswers_step h hstep) keepsAnswers_start r.ran

/-- An answered identifier determines the pair, and the pair the identifier. -/
lemma KeepsAnswers.id_eq_iff {t : Directory} (h : KeepsAnswers t) {a b : LoginAnswer}
    (ha : a ∈ t.answers) (hb : b ∈ t.answers) {i j : String} (hi : a.reply = .ok (.string i))
    (hj : b.reply = .ok (.string j)) :
    i = j ↔ (a.email, a.username) = (b.email, b.username) := by
  obtain ⟨idA, docA, rfl, hA, hemailA, husernameA⟩ := h.answered a ha i hi
  obtain ⟨idB, docB, rfl, hB, hemailB, husernameB⟩ := h.answered b hb j hj
  rw [AutoId.val_injective.eq_iff, ← hemailA, ← husernameA, ← hemailB, ← husernameB,
    Prod.mk.injEq]
  constructor
  · rintro rfl
    obtain rfl := Option.some.inj (hA.symm.trans hB)
    exact ⟨rfl, rfl⟩
  · rintro ⟨hemail, -⟩
    exact h.unique idA idB docA docB hA hB (Or.inl hemail)

/-- When one call is answered with an identifier, and what it does otherwise. -/
lemma login_answers {t : Directory} {call : LoginCall}
    (hnew : t.store.users.get? call.autoId = none) :
    ∃ reply, (t.login P call).answers =
        ⟨trimmed call.email, trimmed call.username, reply⟩ :: t.answers ∧
      ((∃ id, reply = .ok (.string id)) ↔
        Registered t.store.users (trimmed call.email) (trimmed call.username) ∨
          Available t.store.users (trimmed call.email) (trimmed call.username)) ∧
      ((¬ ∃ id, reply = .ok (.string id)) →
        reply = .ok .null ∧ (t.login P call).store = t.store) := by
  obtain ⟨reply, hanswers, houtcome⟩ := login_outcome P t call
  refine ⟨reply, hanswers, ?_⟩
  generalize (t.login P call).store = store at houtcome
  cases houtcome with
  | @found id doc hdoc hemail husername =>
      have hid : ∃ id' : String, Except.ok (Value.string id.val) = (.ok (.string id') : Reply) :=
        ⟨id.val, rfl⟩
      exact ⟨iff_of_true hid (Or.inl ⟨id, doc, hdoc, hemail, husername⟩),
        fun hno => absurd hid hno⟩
  | @registered id users henv havailable hadd =>
      have hid : ∃ id' : String, Except.ok (Value.string id.val) = (.ok (.string id') : Reply) :=
        ⟨id.val, rfl⟩
      exact ⟨iff_of_true hid (Or.inr havailable), fun hno => absurd hid hno⟩
  | refused hpair htaken => simp [hpair, htaken]
  | unavailable h =>
      obtain ⟨doc, hdoc⟩ := h call.autoId rfl
      rw [hnew] at hdoc
      simp at hdoc

/-- **The account directory.**  After any sequence of login calls: a further call is answered with
an identifier exactly when its trimmed pair is registered or both its parts are unused, and is
otherwise answered `null` and leaves the store as it was; and of two answered identifiers one is
the other exactly when their trimmed pairs agree. -/
theorem account_directory (r : DirectoryRun P) :
    (∀ call, r.final.store.users.get? call.autoId = none →
      ∃ t reply, loginStep P r.final call = some t ∧
        t.answers = ⟨trimmed call.email, trimmed call.username, reply⟩ :: r.final.answers ∧
        ((∃ id, reply = .ok (.string id)) ↔
          Registered r.final.store.users (trimmed call.email) (trimmed call.username) ∨
            Available r.final.store.users (trimmed call.email) (trimmed call.username)) ∧
        ((¬ ∃ id, reply = .ok (.string id)) → reply = .ok .null ∧ t.store = r.final.store)) ∧
    ∀ a ∈ r.final.answers, ∀ b ∈ r.final.answers, ∀ i j, a.reply = .ok (.string i) →
      b.reply = .ok (.string j) → (i = j ↔ (a.email, a.username) = (b.email, b.username)) := by
  constructor
  · intro call hnew
    obtain ⟨reply, hanswers, hrest⟩ := login_answers (P := P) hnew
    exact ⟨_, reply, loginStep_eq_some.mpr ⟨hnew, rfl⟩, hanswers, hrest⟩
  · intro a ha b hb i j hi hj
    exact r.keepsAnswers.id_eq_iff ha hb hi hj

/-- Ada has registered. -/
def adaRegistered : DirectoryRun .plain := .ofEvents _ [⟨" ada@whix.io", "ada ", idA⟩] (by rfl)

/-- She is recognised whatever white space she types around her data. -/
theorem account_directory_at :
    ∃ t reply id, loginStep .plain adaRegistered.final ⟨"ada@whix.io\n", " ada", idB⟩ = some t ∧
      t.answers = ⟨trimmed "ada@whix.io\n", trimmed " ada", reply⟩ :: adaRegistered.final.answers ∧
      reply = .ok (.string id) := by
  have hregistered : Registered adaRegistered.final.store.users (trimmed "ada@whix.io\n")
      (trimmed " ada") :=
    ⟨idA, account .plain "ada@whix.io" "ada", by rfl, by decide, by decide⟩
  obtain ⟨t, reply, hstep, hanswers, hid, -⟩ :=
    (account_directory adaRegistered).1 ⟨"ada@whix.io\n", " ada", idB⟩ (by rfl)
  obtain ⟨id, hreply⟩ := hid.mpr (Or.inl hregistered)
  exact ⟨t, reply, id, hstep, hanswers, hreply⟩

end Whix
