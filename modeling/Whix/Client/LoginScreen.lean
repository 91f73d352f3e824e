import Whix.Backend.Server
import Whix.Client.Session

/-!
# A login screen in front of the concurrent backend

One `LoginViewController` whose calls go to the backend of `Backend/Server.lean`, which carries
them out operation by operation, among any calls of others.  The form can be submitted in two
ways, by the login button and by the return key of the username field, and the fields stay
editable while calls are outstanding.  Each call is kept with the texts that the fields held when
it was made (`Submission`).

The form and its calls are those of `Client/Session.lean`, where the backend serves a call at once
(`onLoginClicked_sends`).
-/

namespace Whix

open Js Interleaving Runs

/-- A call of the login screen, by its number at the backend, with the texts it was made with. -/
structure Submission where
  call : ℕ
  email : String
  username : String

/-- A login screen and the backend. -/
structure LoginScreen where
  form : LoginForm
  server : Server
  submissions : List Submission

/-- What can happen to a login screen and to the backend. -/
inductive LoginScreenEvent where
  /-- The user edits a field. -/
  | edit (field : LoginField) (text : String)
  /-- The user taps the login button. -/
  | tapButton
  /-- The user taps the return key in a field. -/
  | returnKey (field : LoginField)
  /-- The backend takes a step, for this screen or for others. -/
  | backend (e : ServerEvent)

namespace LoginScreen

/-- The screen is presented, before any call. -/
def start (s₀ : Store) : LoginScreen := ⟨.viewDidLoad, Pool.start s₀, []⟩

variable (P : Platform) (s : LoginScreen)

/-- `onLoginClicked` -/
def onLoginClicked : LoginScreen :=
  let form := s.form.checkBtnStatus
  if form.isEnabled then
    { form
      server := s.server.invoke (handle P) (.login (loginData form.emailField form.usernameField))
      submissions :=
        s.submissions ++ [⟨s.server.calls.length, form.emailField, form.usernameField⟩] }
  else { s with form }

/-- `textFieldShouldReturn`: in the e-mail field the return key moves on to the username field, and
there it submits the form. -/
def textFieldShouldReturn (textField : LoginField) : LoginScreen :=
  match textField with
  | .emailField => s
  | .usernameField => s.onLoginClicked P

/-- The screen makes the calls that a session's form makes. -/
theorem onLoginClicked_sends (session : Session) (i : ℕ) :
    ∃ sent, (session.onLoginClicked i s.form).calls = session.calls ++ sent ∧
      (s.onLoginClicked P).server.calls = s.server.calls ++ sent.map fun call =>
        let req := Request.login (loginData call.email call.username)
        (req, handle P req) := by
  unfold onLoginClicked Session.onLoginClicked
  dsimp only
  split
  · exact ⟨_, rfl, rfl⟩
  · exact ⟨[], by simp, by simp⟩

end LoginScreen

/-- One step of a login screen and the backend.  A button that is disabled cannot be tapped. -/
def loginScreenStep (P : Platform) (s : LoginScreen) : LoginScreenEvent → Option LoginScreen
  | .edit field text => some { s with form := s.form.edit field text }
  | .tapButton => if s.form.isEnabled then some (s.onLoginClicked P) else none
  | .returnKey field => some (s.textFieldShouldReturn P field)
  | .backend e => (serverStep P s.server e).map fun server => { s with server }

/-- What one step can do. -/
inductive LoginScreenEffect (P : Platform) (s : LoginScreen) : LoginScreen → Prop
  /-- Only the form changes, or nothing. -/
  | form {form} : LoginScreenEffect P s { s with form }
  /-- The form passes the check, and the call is made. -/
  | submitted {form : LoginForm} (hat : Text.contains form.emailField "@" = true) :
      LoginScreenEffect P s
        { form
          server :=
            s.server.invoke (handle P) (.login (loginData form.emailField form.usernameField))
          submissions :=
            s.submissions ++ [⟨s.server.calls.length, form.emailField, form.usernameField⟩] }
  | served {e server} (hserver : serverStep P s.server e = some server) :
      LoginScreenEffect P s { s with server }

section Effect

variable {P : Platform} {s t : LoginScreen} {e : LoginScreenEvent}

lemma LoginScreen.onLoginClicked_effect (P : Platform) (s : LoginScreen) :
    LoginScreenEffect P s (s.onLoginClicked P) := by
  unfold onLoginClicked
  dsimp only
  split
  · rename_i henabled
    have hat := ((LoginForm.checkBtnStatus_isEnabled_iff _).mp henabled).2.1
    exact .submitted (by rwa [LoginForm.checkBtnStatus_emailField])
  · exact .form

lemma loginScreen_effect (h : loginScreenStep P s e = some t) : LoginScreenEffect P s t := by
  cases e with
  | edit field text => exact Option.some.inj h ▸ .form
  | tapButton =>
      simp only [loginScreenStep, Option.ite_none_right_eq_some] at h
      exact Option.some.inj h.2 ▸ s.onLoginClicked_effect P
  | returnKey field =>
      obtain rfl := Option.some.inj h
      cases field with
      | emailField => exact .form
      | usernameField => exact s.onLoginClicked_effect P
  | backend e =>
      obtain ⟨server, hserver, rfl⟩ := Option.map_eq_some_iff.mp h
      exact .served hserver

end Effect

end Whix
