import Whix.Backend.Effects
import Whix.Backend.Sequential

/-!
# Account uniqueness under concurrent logins

`login` looks for an account with its e-mail, then for one with its username, and only then adds
one.  `UniqueAccounts` is what these checks are for.  Nothing holds the two answers valid until the
add is carried out, so another call may add a conflicting account in between, and then the
collection has two (`accounts_not_unique`).

`accounts_unique_iff` says that this is the only way: the accounts stay unique through a run
exactly when every add is `Isolated` from conflicting ones, that is, no account with its e-mail
was added after its own e-mail query, and none with its username after its own username query.
-/

namespace Whix

open Js Prog Interleaving Runs

variable {P : Platform}

/-- No two accounts share an e-mail, and no two share a username. -/
def UniqueAccounts (users : Collection AutoId UserDoc) : Prop :=
  ∀ i j a b, users.get? i = some a → users.get? j = some b →
    a.email = b.email ∨ a.username = b.username → i = j

/-- If the entry adds an account, then every older add of an account with the same e-mail is
older than this call's e-mail query, and every older add of one with the same username is older
than this call's username query. -/
def Isolated (en : LogEntry) (older : Log) : Prop :=
  ∀ doc id, en.done = ⟨.addUser doc, .ok id⟩ →
    ∀ newer other oldest doc' id', older = newer ++ other :: oldest →
      other.done = ⟨.addUser doc', .ok id'⟩ →
        (doc'.email = doc.email →
          ∃ query ∈ newer, query.call = en.call ∧ query.op = .getUsers (emailQuery doc.email)) ∧
        (doc'.username = doc.username →
          ∃ query ∈ newer, query.call = en.call ∧
            query.op = .getUsers (usernameQuery (.string doc.username)))

/-- Adding to unique accounts keeps them unique exactly when the new account conflicts with
none. -/
lemma uniqueAccounts_add_iff {users users' : Collection AutoId UserDoc} {id : AutoId}
    {doc : UserDoc} (hadd : users.add id doc = some users') (huniq : UniqueAccounts users) :
    UniqueAccounts users' ↔
      ∀ j b, users.get? j = some b → b.email ≠ doc.email ∧ b.username ≠ doc.username := by
  have hfree : users.get? id = none := Collection.get?_eq_none_of_add hadd
  have hget := Collection.get?_of_add hadd
  constructor
  · intro h j b hb
    have hne : j ≠ id := by
      rintro rfl
      rw [hfree] at hb
      simp at hb
    have hb' : users'.get? j = some b := Collection.get?_add_of_some hadd hb
    have hdoc : users'.get? id = some doc := Collection.get?_add_self hadd
    exact ⟨fun he => hne (h j id b doc hb' hdoc (Or.inl he)),
      fun hu => hne (h j id b doc hb' hdoc (Or.inr hu))⟩
  · intro h i j a b ha hb hab
    rw [hget] at ha hb
    split at ha <;> split at hb
    · rename_i hi hj
      rw [hi, hj]
    · obtain rfl := Option.some.inj ha
      obtain ⟨he, hu⟩ := h j b hb
      exact absurd hab (by simp [he.symm, hu.symm])
    · obtain rfl := Option.some.inj hb
      obtain ⟨he, hu⟩ := h i a ha
      exact absurd hab (by simp [he, hu])
    · exact huniq i j a b ha hb hab

/-! ## What the queries of an adding call rule out -/

section Window

variable {log : Log} {en : LogEntry} {doc : UserDoc}

/-- The queries of a call that adds an account found nothing. -/
lemma queries_empty (hcall : CreatesUser P en.req (pathOf en.call log) doc) {query : LogEntry}
    (hmem : query ∈ log) (hquery : query.call = en.call) {q : Query}
    (hop : query.op = .getUsers q) : query.done = asked q [] := by
  obtain ⟨data, email, username, -, -, -, -, hpath⟩ := hcall
  have hdone : query.done ∈ pathOf en.call log := mem_pathOf.mpr ⟨query, hmem, hquery, rfl⟩
  obtain ⟨c, req, env, o, res⟩ := query
  obtain rfl : o = .getUsers q := hop
  simp only [hpath, Entry.done, List.mem_cons, Sigma.mk.injEq, Op.getUsers.injEq,
    List.not_mem_nil, or_false] at hdone
  rcases hdone with ⟨rfl, h⟩ | ⟨rfl, h⟩ | ⟨rfl, h⟩ <;> rw [Entry.done, eq_of_heq h]

/-- An account that a query of the adding call would have found is newer than the query. -/
lemma not_admitted {newer oldest : Log} {other : LogEntry}
    (hlaw : LawfulLog P .empty log) (hcall : CreatesUser P en.req (pathOf en.call log) doc)
    (hlog : log = newer ++ other :: oldest) {doc' : UserDoc} {id' : AutoId}
    (hother : other.done = ⟨.addUser doc', .ok id'⟩) {q : Query}
    (hquery : ∃ query ∈ newer, query.call = en.call ∧ query.op = .getUsers q) :
    q.admits doc' = false := by
  obtain ⟨query, hmem, hown, hop⟩ := hquery
  have hdone : query.done = asked q [] := queries_empty hcall (by simp [hlog, hmem]) hown hop
  obtain ⟨between₁, between₂, rfl⟩ := List.append_of_mem hmem
  -- At the query's place in the log the other account was there already.
  have hlaw' : LawfulLog P .empty (query :: (between₂ ++ other :: oldest)) :=
    hlaw.of_suffix ⟨between₁, by simp [hlog]⟩
  have hthere : (storeAfter .empty (between₂ ++ other :: oldest)).users.get? id' = some doc' :=
    account_since hlaw'.1 hother
  exact Collection.select_eq_nil_iff.mp (docs_eq_select hlaw' hdone).symm id' doc' hthere

end Window

/-! ## One entry, and a whole run -/

/-- One entry keeps the accounts unique exactly when it is isolated. -/
lemma uniqueAccounts_step {en : LogEntry} {log : Log} (hlaw : LawfulLog P .empty (en :: log))
    (huniq : UniqueAccounts (storeAfter .empty log).users) :
    UniqueAccounts (storeAfter .empty (en :: log)).users ↔ Isolated en log := by
  have heffect := entry_effect hlaw
  have hvacuous : (∀ doc id, en.done ≠ ⟨.addUser doc, .ok id⟩) → Isolated en log :=
    fun h doc id hdone => absurd hdone (h doc id)
  generalize storeAfter .empty (en :: log) = s' at heffect ⊢
  cases heffect with
  | addPost hdone => exact iff_of_true huniq (hvacuous (by simp [hdone]))
  | updatePost hdone => exact iff_of_true huniq (hvacuous (by simp [hdone]))
  | idle hdone =>
      refine iff_of_true huniq (hvacuous fun doc id h => ?_)
      rw [h] at hdone
      simp [isWrite] at hdone
  | @addUser doc id users hdone hcall hadd =>
      rw [uniqueAccounts_add_iff hadd huniq]
      constructor
      · intro h doc₁ id₁ hdone₁ newer other oldest doc' id' hlog hother
        obtain rfl : doc = doc₁ := Op.addUser.inj (Sigma.mk.inj (hdone.symm.trans hdone₁)).1
        subst hlog
        have hthere : (storeAfter .empty (newer ++ other :: oldest)).users.get? id' = some doc' :=
          account_since hlaw.1 hother
        exact ⟨fun he => absurd he (h id' doc' hthere).1,
          fun hu => absurd hu (h id' doc' hthere).2⟩
      · intro h j b hb
        obtain ⟨newer, other, oldest, hlog, hother⟩ := account_origin rfl hlaw.1 hb
        obtain ⟨hemail, husername⟩ := h doc id hdone newer other oldest b j hlog hother
        constructor
        · intro he
          have hno := not_admitted hlaw.1 hcall hlog hother (hemail he)
          rw [(emailQuery_admits _ _).mpr he] at hno
          simp at hno
        · intro hu
          have hno := not_admitted hlaw.1 hcall hlog hother (husername hu)
          rw [(usernameQuery_admits _ _).mpr hu] at hno
          simp at hno

/-- **Account uniqueness, exactly.**  In every run from empty collections, of any calls in any
interleaving and with any operations rejected, the accounts are unique in every state reached if
and only if every add of an account was isolated from conflicting ones. -/
theorem accounts_unique_iff (r : ServerRun P .empty) :
    r.Always (fun t => UniqueAccounts t.store.users) ↔
      ∀ en older, en :: older <:+ r.final.log → Isolated en older :=
  always_store_iff (P := fun s => UniqueAccounts s.users) handle_obeys
    (by intro i j a b ha; simp [Store.empty] at ha)
    (fun _ log hlaw hP => uniqueAccounts_step hlaw (hP log (List.suffix_refl log))) r

/-! ## A double login -/

/-- Two taps on the login button: both calls finish their queries before either adds. -/
def doubleLogin : List ServerEvent :=
  let call : ServerEvent := .invoke (.login (loginData "ada@whix.io" "ada"))
  let readBy (c : ℕ) : List ServerEvent := List.replicate 3 (.advance c (.commit idA))
  [call, call] ++ readBy 0 ++ readBy 1 ++ [.advance 0 (.commit idA), .advance 1 (.commit idB)]

/-- Two overlapping calls with the same data leave two accounts with one e-mail. -/
theorem accounts_not_unique :
    ¬ ∀ r : ServerRun .plain .empty, UniqueAccounts r.final.store.users := by
  intro h
  let r : ServerRun .plain .empty := .ofEvents _ doubleLogin (by decide)
  have hA : r.final.store.users.get? idA = some (account .plain "ada@whix.io" "ada") := by rfl
  have hB : r.final.store.users.get? idB = some (account .plain "ada@whix.io" "ada") := by rfl
  exact absurd (h r idA idB _ _ hA hB (Or.inl rfl)) (by decide)

end Whix
