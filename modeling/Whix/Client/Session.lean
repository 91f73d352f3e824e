import Whix.Backend.Sequential
import Whix.Framework.Runs

/-!
# Logging in and out

The login screens of one client, what it stores about the logged-in user, and the backend they
call.  Every presentation of the login screen makes a new `LoginForm`; a form stays alive while
one of its calls is outstanding, also after its screen is gone.

A call carries the texts of the fields at the tap.  Its reply may arrive at any time and in any
order with others; the handler then stores the identifier of the reply, and the username that the
form's field holds at that moment.

`W` is the set of characters that the client trims, `.whitespacesAndNewlines` of its library.
-/

namespace Whix

open Js Runs

/-- The code points of the Unicode category Z. -/
def CharacterSet.separators (c : Char) : Bool :=
  let n := c.toNat
  n == 0x20 || n == 0xA0 || n == 0x1680 || (0x2000 ≤ n && n ≤ 0x200A) || n == 0x2028 ||
    n == 0x2029 || n == 0x202F || n == 0x205F || n == 0x3000

/-- `CharacterSet.whitespacesAndNewlines`: category Z, the tab, U+000A to U+000D, and U+0085. -/
def CharacterSet.whitespacesAndNewlines (c : Char) : Bool :=
  let n := c.toNat
  separators c || n == 0x9 || (0xA ≤ n && n ≤ 0xD) || n == 0x85

/-- A `LoginViewController`: its two text fields, and whether its login button is enabled. -/
structure LoginForm where
  emailField : String
  usernameField : String
  isEnabled : Bool

/-- `checkBtnStatus` -/
def LoginForm.checkBtnStatus (form : LoginForm) : LoginForm :=
  if form.emailField = "" ∨ Text.contains form.emailField "@" = false then
    { form with isEnabled := false }
  else if form.usernameField = "" then
    { form with isEnabled := false }
  else
    { form with isEnabled := true }

/-- `viewDidLoad`, with the fields of the storyboard. -/
def LoginForm.viewDidLoad : LoginForm :=
  LoginForm.checkBtnStatus { emailField := "", usernameField := "", isEnabled := true }

/-- The two text fields. -/
inductive LoginField where
  | emailField
  | usernameField
  deriving DecidableEq

/-- The user changes the text of a field, and `textFieldDidChange` is called. -/
def LoginForm.edit (form : LoginForm) (field : LoginField) (text : String) : LoginForm :=
  match field with
  | .emailField => { form with emailField := text }.checkBtnStatus
  | .usernameField => { form with usernameField := text }.checkBtnStatus

@[simp] lemma LoginForm.checkBtnStatus_emailField (form : LoginForm) :
    form.checkBtnStatus.emailField = form.emailField := by
  unfold checkBtnStatus
  split
  · rfl
  · split <;> rfl

@[simp] lemma LoginForm.checkBtnStatus_usernameField (form : LoginForm) :
    form.checkBtnStatus.usernameField = form.usernameField := by
  unfold checkBtnStatus
  split
  · rfl
  · split <;> rfl

/-- What the login button is enabled for. -/
lemma LoginForm.checkBtnStatus_isEnabled_iff (form : LoginForm) :
    form.checkBtnStatus.isEnabled = true ↔
      form.emailField ≠ "" ∧ Text.contains form.emailField "@" = true ∧
        form.usernameField ≠ "" := by
  unfold checkBtnStatus
  split
  · rename_i hemail
    refine iff_of_false Bool.false_ne_true fun h => ?_
    rcases hemail with hempty | hat
    · exact h.1 hempty
    · exact Bool.false_ne_true (hat.symm.trans h.2.1)
  · rename_i hemail
    rw [not_or, Bool.not_eq_false] at hemail
    split
    · rename_i husername
      exact iff_of_false Bool.false_ne_true fun h => h.2.2 husername
    · exact iff_of_true rfl ⟨hemail.1, hemail.2, ‹_›⟩

/-- What the client stores about the logged-in user. -/
structure UserDefaults where
  loggedInUserId : Option String
  loggedInUsername : Option String

/-- An outstanding call of `login`: the form it was made from, its arguments, and its reply once
the backend has served it. -/
structure LoginTask where
  form : ℕ
  email : String
  username : String
  reply : Option Reply

/-- A client and the backend's store. -/
structure Session where
  defaults : UserDefaults
  forms : List LoginForm
  calls : List LoginTask
  store : Store

/-- What can happen to a client's session. -/
inductive SessionEvent where
  /-- The login screen is presented. -/
  | showLogin
  /-- The user edits a field. -/
  | edit (form : ℕ) (field : LoginField) (text : String)
  /-- The user taps the login button, or the return key in the username field. -/
  | tapLogin (form : ℕ)
  /-- The backend serves a call. -/
  | execute (call : ℕ) (env : Outcome)
  /-- The reply of a call arrives. -/
  | deliver (call : ℕ)
  /-- An error arrives instead of a reply. -/
  | fail (call : ℕ)
  /-- The user logs out. -/
  | logout
  /-- The backend serves a call of another client. -/
  | serveOther (req : Request) (env : Outcome)

namespace Session

/-- Nobody is logged in. -/
def start (s₀ : Store) : Session := ⟨⟨none, none⟩, [], [], s₀⟩

variable (s : Session)

/-- A new login screen. -/
def showLogin : Session := { s with forms := s.forms ++ [.viewDidLoad] }

/-- `onLoginClicked` on the form at `i`. -/
def onLoginClicked (i : ℕ) (form : LoginForm) : Session :=
  let form := form.checkBtnStatus
  let s := { s with forms := s.forms.set i form }
  if form.isEnabled then
    { s with calls := s.calls ++ [⟨i, form.emailField, form.usernameField, none⟩] }
  else s

/-- The backend serves the call at `j`. -/
def execute (P : Platform) (j : ℕ) (call : LoginTask) (env : Outcome) : Session :=
  let served := serve P env (.login (loginData call.email call.username)) s.store
  { s with store := served.2, calls := s.calls.set j { call with reply := some served.1 } }

/-- The completion handler of a call that was answered with `reply`; `form` is the call's form as
it is now. -/
def onReply (W : Char → Bool) (form : LoginForm) (reply : Reply) : Session :=
  match reply with
  | .ok (.string userId) =>
      { s with defaults :=
          { loggedInUserId := some userId
            loggedInUsername := some (Text.strip W form.usernameField) } }
  | _ => s

/-- Selecting the logout row of `ProfileController`: both values are cleared, and the login screen
is shown. -/
def logout : Session := { s with defaults := ⟨none, none⟩ }.showLogin

section Fields

@[simp] lemma logout_defaults : s.logout.defaults = ⟨none, none⟩ := rfl

@[simp] lemma onLoginClicked_defaults (i : ℕ) (form : LoginForm) :
    (s.onLoginClicked i form).defaults = s.defaults := by
  rw [onLoginClicked]
  split <;> rfl

@[simp] lemma onLoginClicked_store (i : ℕ) (form : LoginForm) :
    (s.onLoginClicked i form).store = s.store := by
  rw [onLoginClicked]
  split <;> rfl

/-- A tap adds at most one call, which has not been served yet. -/
lemma onLoginClicked_calls (i : ℕ) (form : LoginForm) :
    (s.onLoginClicked i form).calls = s.calls ∨
      ∃ call, call.reply = none ∧ (s.onLoginClicked i form).calls = s.calls ++ [call] := by
  rw [onLoginClicked]
  split
  · exact Or.inr ⟨_, rfl, rfl⟩
  · exact Or.inl rfl

lemma mem_calls_onLoginClicked {i : ℕ} {form : LoginForm} {call : LoginTask}
    (h : call ∈ (s.onLoginClicked i form).calls) : call ∈ s.calls ∨ call.reply = none := by
  rcases s.onLoginClicked_calls i form with heq | ⟨call', hnone, heq⟩
  · exact Or.inl (heq ▸ h)
  · rw [heq] at h
    rcases List.mem_append.mp h with h | h
    · exact Or.inl h
    · exact Or.inr (List.mem_singleton.mp h ▸ hnone)

variable (W : Char → Bool) (form : LoginForm) (reply : Reply)

@[simp] lemma onReply_calls : (s.onReply W form reply).calls = s.calls := by
  unfold onReply
  split <;> rfl

@[simp] lemma onReply_store : (s.onReply W form reply).store = s.store := by
  unfold onReply
  split <;> rfl

lemma onReply_defaults_of_id (userId : String) :
    (s.onReply W form (.ok (.string userId))).defaults =
      ⟨some userId, some (Text.strip W form.usernameField)⟩ := rfl

/-- Only a reply with an identifier changes what is stored. -/
lemma onReply_defaults_of_not_id (h : ∀ userId, reply ≠ .ok (.string userId)) :
    (s.onReply W form reply).defaults = s.defaults := by
  unfold onReply
  split
  · exact absurd rfl (h _)
  · rfl

end Fields

end Session

/-- One step of a client and the backend. -/
def sessionStep (P : Platform) (W : Char → Bool) (s : Session) : SessionEvent → Option Session
  | .showLogin => some s.showLogin
  | .edit i field text => do
      let form ← s.forms[i]?
      return { s with forms := s.forms.set i (form.edit field text) }
  | .tapLogin i => do
      let form ← s.forms[i]?
      return s.onLoginClicked i form
  | .execute j env => do
      let call ← s.calls[j]?
      match call.reply with
      | none => return s.execute P j call env
      | some _ => none
  | .deliver j => do
      let call ← s.calls[j]?
      let form ← s.forms[call.form]?
      let reply ← call.reply
      return { s with calls := s.calls.eraseIdx j }.onReply W form reply
  | .fail j => do
      let _ ← s.calls[j]?
      return { s with calls := s.calls.eraseIdx j }
  | .logout => some s.logout
  | .serveOther req env => some { s with store := (serve P env req s.store).2 }

/-- What one step does, by its event. -/
inductive SessionEffect (P : Platform) (W : Char → Bool) (s : Session) :
    SessionEvent → Session → Prop
  | showLogin : SessionEffect P W s .showLogin s.showLogin
  | edit {i field text form} (hform : s.forms[i]? = some form) :
      SessionEffect P W s (.edit i field text)
        { s with forms := s.forms.set i (form.edit field text) }
  | tapLogin {i form} (hform : s.forms[i]? = some form) :
      SessionEffect P W s (.tapLogin i) (s.onLoginClicked i form)
  | execute {j env call} (hcall : s.calls[j]? = some call) (hreply : call.reply = none) :
      SessionEffect P W s (.execute j env) (s.execute P j call env)
  | deliver {j call form reply} (hcall : s.calls[j]? = some call)
      (hform : s.forms[call.form]? = some form) (hreply : call.reply = some reply) :
      SessionEffect P W s (.deliver j)
        ({ s with calls := s.calls.eraseIdx j }.onReply W form reply)
  | fail {j call} (hcall : s.calls[j]? = some call) :
      SessionEffect P W s (.fail j) { s with calls := s.calls.eraseIdx j }
  | logout : SessionEffect P W s .logout s.logout
  | serveOther {req env} :
      SessionEffect P W s (.serveOther req env)
        { s with store := (serve P env req s.store).2 }

lemma session_effect {P : Platform} {W : Char → Bool} {s t : Session} {e : SessionEvent}
    (h : sessionStep P W s e = some t) : SessionEffect P W s e t := by
  cases e with
  | showLogin => exact Option.some.inj h ▸ .showLogin
  | logout => exact Option.some.inj h ▸ .logout
  | serveOther req env => exact Option.some.inj h ▸ .serveOther
  | edit i field text =>
      obtain ⟨form, hform, h⟩ := Option.bind_eq_some_iff.mp h
      exact Option.some.inj h ▸ .edit hform
  | tapLogin i =>
      obtain ⟨form, hform, h⟩ := Option.bind_eq_some_iff.mp h
      exact Option.some.inj h ▸ .tapLogin hform
  | execute j env =>
      obtain ⟨call, hcall, h⟩ := Option.bind_eq_some_iff.mp h
      split at h
      · rename_i hreply
        exact Option.some.inj h ▸ .execute hcall hreply
      · simp at h
  | deliver j =>
      obtain ⟨call, hcall, h⟩ := Option.bind_eq_some_iff.mp h
      obtain ⟨form, hform, h⟩ := Option.bind_eq_some_iff.mp h
      obtain ⟨reply, hreply, h⟩ := Option.bind_eq_some_iff.mp h
      exact Option.some.inj h ▸ .deliver hcall hform hreply
  | fail j =>
      obtain ⟨call, hcall, h⟩ := Option.bind_eq_some_iff.mp h
      exact Option.some.inj h ▸ .fail hcall

/-- Exactness of a condition on delivered identifiers, for what holds anyway when none comes. -/
lemma Session.delivered_iff {s : Session} {j : ℕ} {call : LoginTask} {form : LoginForm}
    {reply : Reply} (hcall : s.calls[j]? = some call) (hform : s.forms[call.form]? = some form)
    (hreply : call.reply = some reply) {A : Prop} {Q : LoginTask → LoginForm → Prop}
    (hid : ∀ userId, reply = .ok (.string userId) → (A ↔ Q call form))
    (hnot : (∀ userId, reply ≠ .ok (.string userId)) → A) :
    A ↔ ∀ call form userId, s.calls[j]? = some call → s.forms[call.form]? = some form →
      call.reply = some (.ok (.string userId)) → Q call form := by
  constructor
  · intro hA call' form' userId hcall' hform' hreply'
    obtain rfl := Option.some.inj (hcall.symm.trans hcall')
    obtain rfl := Option.some.inj (hform.symm.trans hform')
    exact (hid userId (Option.some.inj (hreply.symm.trans hreply'))).mp hA
  · intro hQ
    by_cases h : ∃ userId, reply = .ok (.string userId)
    · obtain ⟨userId, rfl⟩ := h
      exact (hid userId rfl).mpr (hQ call form userId hcall hform hreply)
    · exact hnot (not_exists.mp h)

/-- What is stored about the logged-in user after an event. -/
def Session.storedAfter (W : Char → Bool) (s : Session) : SessionEvent → UserDefaults
  | .deliver j =>
      match s.calls[j]? with
      | some call =>
          match s.forms[call.form]?, call.reply with
          | some form, some reply => (s.onReply W form reply).defaults
          | _, _ => s.defaults
      | none => s.defaults
  | .logout => ⟨none, none⟩
  | _ => s.defaults

lemma sessionStep_defaults {P : Platform} {W : Char → Bool} {s t : Session} {e : SessionEvent}
    (h : sessionStep P W s e = some t) : t.defaults = s.storedAfter W e := by
  cases session_effect h with
  | tapLogin hform => exact s.onLoginClicked_defaults _ _
  | deliver hcall hform hreply =>
      simp only [Session.storedAfter, hcall, hform, hreply]
      unfold Session.onReply
      split <;> rfl
  | showLogin | edit | execute | fail | logout | serveOther => rfl

/-- An identifier is stored exactly when a username is. -/
def UserDefaults.Paired (d : UserDefaults) : Prop :=
  d.loggedInUserId = none ↔ d.loggedInUsername = none

lemma UserDefaults.Paired.eq_none {d : UserDefaults} (h : d.Paired)
    (hid : d.loggedInUserId = none) : d = ⟨none, none⟩ := by
  obtain ⟨userId, username⟩ := d
  obtain rfl : userId = none := hid
  obtain rfl : username = none := h.mp rfl
  rfl

/-- What is stored stays, is taken away by a logout, or comes from a reply. -/
lemma Session.storedAfter_cases (W : Char → Bool) (s : Session) (e : SessionEvent) :
    s.storedAfter W e = s.defaults ∨ (e = .logout ∧ s.storedAfter W e = ⟨none, none⟩) ∨
      ∃ userId username, s.storedAfter W e = ⟨some userId, some username⟩ := by
  unfold Session.storedAfter
  split
  · split
    · split
      · unfold Session.onReply
        split
        · exact Or.inr (Or.inr ⟨_, _, rfl⟩)
        · exact Or.inl rfl
      · exact Or.inl rfl
    · exact Or.inl rfl
  · exact Or.inr (Or.inl ⟨rfl, rfl⟩)
  · exact Or.inl rfl

lemma Session.storedAfter_paired {W : Char → Bool} {s : Session} (h : s.defaults.Paired)
    (e : SessionEvent) : (s.storedAfter W e).Paired := by
  rcases s.storedAfter_cases W e with heq | ⟨-, heq⟩ | ⟨userId, username, heq⟩
  · exact heq ▸ h
  · simp [heq, UserDefaults.Paired]
  · simp [heq, UserDefaults.Paired]

/-- Only a logout takes a stored identifier away. -/
lemma Session.storedAfter_id_ne_none {W : Char → Bool} {s : Session} {e : SessionEvent}
    (he : e ≠ .logout) (h : s.defaults.loggedInUserId ≠ none) :
    (s.storedAfter W e).loggedInUserId ≠ none := by
  rcases s.storedAfter_cases W e with heq | ⟨hlogout, -⟩ | ⟨userId, username, heq⟩
  · exact heq ▸ h
  · exact absurd hlogout he
  · simp [heq]

end Whix
