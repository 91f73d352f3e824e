import Whix.Backend.Server
import Whix.Client.Device

/-!
# Phones and the backend

Any number of phones with the app, and the one backend they call.  A call that an app makes becomes
a call of the backend, which is served among all others, one operation at a time; its reply may
reach the phone or an error instead, also when the call has been served or goes on being served.
Calls that come from elsewhere arrive as well.

The store in a phone's session is not used here: its events are left out, and the replies come from
the backend.  `callers` keeps where each call comes from, which no step reads.
-/

namespace Whix

open Js Prog Interleaving Runs

/-- Where a call of the backend comes from. -/
inductive Caller where
  | login (phone : ℕ) (task : LoginTask)
  | post (phone : ℕ) (task : PostTask)
  | other

/-- A phone, and the calls of the backend that its outstanding calls wait for. -/
structure Phone where
  device : Device
  logins : List ℕ
  posts : List ℕ

/-- Phones and the backend. -/
structure Network where
  phones : List Phone
  server : Server
  callers : List Caller

/-- What can happen. -/
inductive NetworkEvent where
  /-- Something happens on a phone; a `post` call that it makes is served at `now`. -/
  | phone (i : ℕ) (e : DeviceEvent) (now : Timestamp)
  /-- The backend has answered the phone's `login` call at `j`. -/
  | loginAnswered (i j : ℕ)
  /-- The reply of the phone's `post` call at `k` arrives. -/
  | postAnswered (i k : ℕ)
  /-- The backend performs the next operation of a call. -/
  | advance (c : ℕ) (env : Outcome)
  /-- A call from elsewhere arrives. -/
  | other (req : Request)

/-- Does the event happen on the phone, and not in the backend? -/
def DeviceEvent.isLocal : DeviceEvent → Bool
  | .session (.execute ..) => false
  | .session (.serveOther ..) => false
  | .postReplied _ (some _) => false
  | _ => true

/-- The outstanding `login` calls, or what waits for them, after an event that ends one. -/
def DeviceEvent.dropLogin {α : Type} (e : DeviceEvent) (calls : List α) : List α :=
  match e with
  | .session (.deliver j) => calls.eraseIdx j
  | .session (.fail j) => calls.eraseIdx j
  | _ => calls

/-- The outstanding `post` calls, or what waits for them, after an event that ends one. -/
def DeviceEvent.dropPost {α : Type} (e : DeviceEvent) (posts : List α) : List α :=
  match e with
  | .postReplied k _ => posts.eraseIdx k
  | _ => posts

namespace Phone

variable (p : Phone)

/-- The app after its installation. -/
def launch : Phone := ⟨.launch .empty, [], []⟩

/-- The phone after an event that took its app to `d`. -/
def after (e : DeviceEvent) (d : Device) : Phone :=
  ⟨d, e.dropLogin p.logins, e.dropPost p.posts⟩

/-- The `login` call that the app has made when it has come to `d`. -/
def newLogin (d : Device) : Option LoginTask :=
  d.session.calls[p.device.session.calls.length]?

/-- The `post` call that the app has made when it has come to `d`. -/
def newPost (d : Device) : Option PostTask := d.posts[p.device.posts.length]?

/-- The `login` call at `j` has been answered. -/
def withReply (j : ℕ) (task : LoginTask) (reply : Reply) : Phone :=
  { p with
    device.session.calls := p.device.session.calls.set j { task with reply := some reply } }

end Phone

namespace Network

variable (P : Platform) (n : Network)

/-- `phones` phones, and a backend that nobody has called. -/
def launch (phones : ℕ) (s₀ : Store) : Network where
  phones := List.replicate phones .launch
  server := .start s₀
  callers := []

/-- The phone at `i` becomes `p`. -/
def setPhone (i : ℕ) (p : Phone) : Network := { n with phones := n.phones.set i p }

/-- A call arrives at the backend. -/
def call (req : Request) (caller : Caller) : Network :=
  { n with server := n.server.invoke (handle P) req, callers := n.callers ++ [caller] }

/-- The phone at `i` after an event that took its app to `d`, and the call it has made, if any. -/
def onPhone (i : ℕ) (p : Phone) (e : DeviceEvent) (now : Timestamp) (d : Device) : Network :=
  let c := n.server.calls.length
  let p' := p.after e d
  match p.newLogin d, p.newPost d with
  | some task, _ =>
      (n.setPhone i { p' with logins := p'.logins ++ [c] }).call P
        (.login (loginData task.email task.username)) (.login i task)
  | none, some task =>
      (n.setPhone i { p' with posts := p'.posts ++ [c] }).call P
        (.post now (postData task.contenturl task.username task.lat task.lon)) (.post i task)
  | none, none => n.setPhone i p'

/-- What a call of the backend has been answered with. -/
def reply? (c : ℕ) : Option Reply :=
  match n.server.calls[c]? with
  | some (_, .ret reply) => some reply
  | _ => none

end Network

/-- One step of the phones and the backend. -/
def networkStep (P : Platform) (W : Char → Bool) (n : Network) : NetworkEvent → Option Network
  | .phone i e now => do
      let p ← n.phones[i]?
      if e.isLocal then
        let d ← deviceStep P W p.device e
        return n.onPhone P i p e now d
      else none
  | .loginAnswered i j => do
      let p ← n.phones[i]?
      let task ← p.device.session.calls[j]?
      let c ← p.logins[j]?
      let reply ← n.reply? c
      return n.setPhone i (p.withReply j task reply)
  | .postAnswered i k => do
      let p ← n.phones[i]?
      let c ← p.posts[k]?
      let reply ← n.reply? c
      let d ← deviceStep P W p.device (.postReplied k (some reply))
      return n.setPhone i (p.after (.postReplied k (some reply)) d)
  | .advance c env => (serverStep P n.server (.advance c env)).map fun server => { n with server }
  | .other req => some (n.call P req .other)

end Whix
