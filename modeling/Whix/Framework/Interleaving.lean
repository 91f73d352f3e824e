import Whix.Framework.Program
import Whix.Framework.Runs

/-!
# Interleaved execution with a history

A `Pool` is a set of calls that run the programs of their requests against one shared store, one
atomic operation at a time and in any order: `Pool.step` takes the next operation of any
unfinished call.  Every operation is recorded in the `log`, a history variable that no program
reads.

Because a program sees the store only through the results of its operations, the log says
everything about a run.  `Lawful` is the resulting local law of a log: each entry carries the
result its operation has on the store the older entries lead to (`storeAt`), and each operation is
one its own call may issue at that point (`pathOf`).  `lawful_of_run` derives the law for every
run from the program logic of the single calls, and properties of the store are then proved by
induction on the log, one entry at a time.

`always_store_iff` is the log form of the exactness rule of `Framework/Runs.lean`.
-/

namespace Interleaving

open Prog Runs

variable {Op Env Req σ α : Type} {Res : Op → Type}

/-- One performed operation: the call that issued it, the request that call serves, what the
environment chose, the operation and its result. -/
structure Entry (Req Env Op : Type) (Res : Op → Type) where
  call : ℕ
  req : Req
  env : Env
  op : Op
  res : Res op

/-- The operation of an entry with its result. -/
def Entry.done (en : Entry Req Env Op Res) : Σ o, Res o := ⟨en.op, en.res⟩

/-- The operations performed so far, newest first. -/
abbrev History (Req Env Op : Type) (Res : Op → Type) := List (Entry Req Env Op Res)

/-- The operations of call `c` in a history. -/
def pathOf (c : ℕ) (log : History Req Env Op Res) : Path Op Res :=
  (log.filter fun en => en.call = c).map Entry.done

@[simp] lemma pathOf_nil (c : ℕ) : pathOf c ([] : History Req Env Op Res) = [] := rfl

lemma pathOf_cons_of_eq {c : ℕ} {en : Entry Req Env Op Res} (h : en.call = c)
    (log : History Req Env Op Res) :
    pathOf c (en :: log) = en.done :: pathOf c log := by
  simp [pathOf, h]

lemma pathOf_cons_of_ne {c : ℕ} {en : Entry Req Env Op Res} (h : en.call ≠ c)
    (log : History Req Env Op Res) : pathOf c (en :: log) = pathOf c log := by
  simp [pathOf, h]

lemma mem_pathOf {c : ℕ} {log : History Req Env Op Res} {x : Σ o, Res o} :
    x ∈ pathOf c log ↔ ∃ en ∈ log, en.call = c ∧ en.done = x := by
  simp [pathOf, and_assoc]

/-- The concurrent state: the store, the calls with what each still has to do, and the log. -/
structure Pool (Req Env Op : Type) (Res : Op → Type) (σ α : Type) where
  store : σ
  calls : List (Req × Prog Op Res α)
  log : History Req Env Op Res

/-- A new call arrives, or call `c` performs its next operation. -/
inductive Event (Req Env : Type) where
  | invoke (req : Req)
  | advance (c : ℕ) (env : Env)
  deriving DecidableEq

/-- The pool in which nothing has been called yet. -/
def Pool.start (s₀ : σ) : Pool Req Env Op Res σ α := ⟨s₀, [], []⟩

variable (handle : Req → Prog Op Res α) (exec : Env → (o : Op) → σ → Res o × σ)

/-- A new call for `req`, which has not done anything yet. -/
def Pool.invoke (s : Pool Req Env Op Res σ α) (req : Req) : Pool Req Env Op Res σ α :=
  { s with calls := s.calls ++ [(req, handle req)] }

/-- Call `c`, serving `req`, performs `o` and continues with `k`. -/
def Pool.advance (s : Pool Req Env Op Res σ α) (c : ℕ) (env : Env) (req : Req) (o : Op)
    (k : Res o → Prog Op Res α) : Pool Req Env Op Res σ α where
  store := (exec env o s.store).2
  calls := s.calls.set c (req, k (exec env o s.store).1)
  log := ⟨c, req, env, o, (exec env o s.store).1⟩ :: s.log

section PoolFields

variable (s : Pool Req Env Op Res σ α)

@[simp] lemma Pool.invoke_store (req : Req) : (s.invoke handle req).store = s.store := rfl

@[simp] lemma Pool.invoke_calls (req : Req) :
    (s.invoke handle req).calls = s.calls ++ [(req, handle req)] := rfl

@[simp] lemma Pool.invoke_log (req : Req) : (s.invoke handle req).log = s.log := rfl

variable (c : ℕ) (env : Env) (req : Req) (o : Op) (k : Res o → Prog Op Res α)

@[simp] lemma Pool.advance_store :
    (s.advance exec c env req o k).store = (exec env o s.store).2 := rfl

@[simp] lemma Pool.advance_calls :
    (s.advance exec c env req o k).calls =
      s.calls.set c (req, k (exec env o s.store).1) := rfl

@[simp] lemma Pool.advance_log :
    (s.advance exec c env req o k).log = ⟨c, req, env, o, (exec env o s.store).1⟩ :: s.log := rfl

end PoolFields

/-- One atomic step of the pool. -/
def Pool.step (s : Pool Req Env Op Res σ α) : Event Req Env → Option (Pool Req Env Op Res σ α)
  | .invoke req => some (s.invoke handle req)
  | .advance c env =>
      match s.calls[c]? with
      | some (req, .op o k) => some (s.advance exec c env req o k)
      | _ => none

/-- The store that a history leads to from `s₀`. -/
def storeAt (s₀ : σ) : History Req Env Op Res → σ
  | [] => s₀
  | en :: log => (exec en.env en.op (storeAt s₀ log)).2

/-- The law of a history: every result is the one its operation has at that point, and every
operation is one its call may issue after what it did before. -/
def Lawful (J : Req → Path Op Res → Op → Prop) (s₀ : σ) : History Req Env Op Res → Prop
  | [] => True
  | en :: log =>
      Lawful J s₀ log ∧ en.res = (exec en.env en.op (storeAt exec s₀ log)).1 ∧
        J en.req (pathOf en.call log) en.op

variable {handle exec} {J : Req → Path Op Res → Op → Prop} {R : Req → Path Op Res → α → Prop}
  {s₀ : σ}

@[simp] lemma storeAt_nil : storeAt exec s₀ ([] : History Req Env Op Res) = s₀ := rfl

@[simp] lemma storeAt_cons (en : Entry Req Env Op Res) (log : History Req Env Op Res) :
    storeAt exec s₀ (en :: log) = (exec en.env en.op (storeAt exec s₀ log)).2 := rfl

lemma Lawful.of_suffix {log h : History Req Env Op Res} (hlaw : Lawful exec J s₀ log)
    (hs : h <:+ log) : Lawful exec J s₀ h := by
  induction log with
  | nil => exact List.suffix_nil.mp hs ▸ hlaw
  | cons en log ih =>
      rcases List.suffix_cons_iff.mp hs with rfl | hs
      · exact hlaw
      · exact ih hlaw.1 hs

/-- What a call did, it did at some place in the log. -/
lemma exists_entry_of_mem_pathOf {c : ℕ} {log : History Req Env Op Res} {x : Σ o, Res o}
    (h : x ∈ pathOf c log) :
    ∃ newer en older, log = newer ++ en :: older ∧ en.call = c ∧ en.done = x := by
  obtain ⟨en, hen, hcall, hdone⟩ := mem_pathOf.mp h
  obtain ⟨newer, older, hlog⟩ := List.append_of_mem hen
  exact ⟨newer, en, older, hlog, hcall, hdone⟩

/-! ## Every run keeps the law -/

/-- What a run knows about its log and its calls. -/
structure Coherent (J : Req → Path Op Res → Op → Prop) (R : Req → Path Op Res → α → Prop)
    (exec : Env → (o : Op) → σ → Res o × σ) (s₀ : σ) (s : Pool Req Env Op Res σ α) : Prop where
  lawful : Lawful exec J s₀ s.log
  store_eq : s.store = storeAt exec s₀ s.log
  obeys : ∀ c req p, s.calls[c]? = some (req, p) → Obeys (J req) (R req) (pathOf c s.log) p
  logged : ∀ en ∈ s.log, ∃ p, s.calls[en.call]? = some (en.req, p)

lemma coherent_start : Coherent J R exec s₀ (Pool.start s₀) where
  lawful := trivial
  store_eq := rfl
  obeys := by simp [Pool.start]
  logged := by simp [Pool.start]

/-- What one step can do: invoke a call, or perform the next operation of an unfinished one. -/
lemma step_cases {s t : Pool Req Env Op Res σ α} {e : Event Req Env}
    (h : Pool.step handle exec s e = some t) :
    (∃ req, e = .invoke req ∧ t = s.invoke handle req) ∨
    (∃ c env req o k, e = .advance c env ∧ s.calls[c]? = some (req, .op o k) ∧
      t = s.advance exec c env req o k) := by
  cases e with
  | invoke req => exact Or.inl ⟨req, rfl, by simpa [Pool.step] using h.symm⟩
  | advance c env =>
      simp only [Pool.step] at h
      split at h
      · rename_i req o k hc
        exact Or.inr ⟨c, env, req, o, k, rfl, hc, by simpa using h.symm⟩
      · simp at h

lemma Pool.invoke_kept {s : Pool Req Env Op Res σ α} {c : ℕ} {req : Req} {p : Prog Op Res α}
    (hc : s.calls[c]? = some (req, p)) (req' : Req) :
    (s.invoke handle req').calls[c]? = some (req, p) := by
  rw [Pool.invoke_calls, List.getElem?_append_left (List.getElem?_eq_some_iff.mp hc).1, hc]

lemma Pool.advance_kept {s : Pool Req Env Op Res σ α} {c d : ℕ} {env : Env} {req req' : Req}
    {o : Op} {k : Res o → Prog Op Res α} {p : Prog Op Res α}
    (hd : s.calls[d]? = some (req', .op o k)) (hc : s.calls[c]? = some (req, p)) :
    ∃ p', (s.advance exec d env req' o k).calls[c]? = some (req, p') := by
  by_cases hdc : d = c
  · subst hdc
    obtain ⟨rfl, -⟩ := Prod.mk.inj (Option.some.inj (hc.symm.trans hd))
    have hlt := (List.getElem?_eq_some_iff.mp hc).1
    exact ⟨_, by rw [Pool.advance_calls, List.getElem?_set_self hlt]⟩
  · exact ⟨p, by rw [Pool.advance_calls, List.getElem?_set_ne hdc, hc]⟩

/-- A call serves one request throughout. -/
lemma request_kept {s t : Pool Req Env Op Res σ α} {e : Event Req Env}
    (h : Pool.step handle exec s e = some t) {c : ℕ} {req : Req} {p : Prog Op Res α}
    (hc : s.calls[c]? = some (req, p)) : ∃ p', t.calls[c]? = some (req, p') := by
  rcases step_cases h with ⟨req', -, rfl⟩ | ⟨d, env, req', o, k, -, hd, rfl⟩
  · exact ⟨p, Pool.invoke_kept hc req'⟩
  · exact Pool.advance_kept hd hc

lemma Coherent.invoke {s : Pool Req Env Op Res σ α} (hs : Coherent J R exec s₀ s)
    (hobeys : ∀ req, Obeys (J req) (R req) [] (handle req)) (req : Req) :
    Coherent J R exec s₀ (s.invoke handle req) where
  lawful := hs.lawful
  store_eq := hs.store_eq
  obeys := by
    intro c req' p hc
    rcases Nat.lt_or_ge c s.calls.length with hlt | hge
    · rw [Pool.invoke_calls, List.getElem?_append_left hlt] at hc
      exact hs.obeys c req' p hc
    · -- The new call sits past every logged one, so it has no history yet.
      have hnew : (req', p) = (req, handle req) := by
        rw [Pool.invoke_calls, List.getElem?_append_right hge] at hc
        exact (List.mem_singleton.mp (List.mem_of_getElem? hc))
      obtain ⟨rfl, rfl⟩ := Prod.mk.inj hnew
      have hpath : pathOf c s.log = [] := by
        refine List.eq_nil_iff_forall_not_mem.mpr fun x hx => ?_
        obtain ⟨en, hen, rfl, -⟩ := mem_pathOf.mp hx
        obtain ⟨q, hq⟩ := hs.logged en hen
        exact absurd (List.getElem?_eq_some_iff.mp hq).1 (Nat.not_lt.mpr hge)
      rw [Pool.invoke_log, hpath]
      exact hobeys _
  logged := by
    intro en hen
    obtain ⟨p, hp⟩ := hs.logged en hen
    exact ⟨p, Pool.invoke_kept hp req⟩

lemma Coherent.advance {s : Pool Req Env Op Res σ α} (hs : Coherent J R exec s₀ s)
    {c : ℕ} {env : Env} {req : Req} {o : Op} {k : Res o → Prog Op Res α}
    (hc : s.calls[c]? = some (req, .op o k)) :
    Coherent J R exec s₀ (s.advance exec c env req o k) where
  lawful := ⟨hs.lawful, by rw [← hs.store_eq], (hs.obeys c req _ hc).1⟩
  store_eq := by simp only [Pool.advance_store, Pool.advance_log, storeAt_cons, ← hs.store_eq]
  obeys := by
    intro d req' p hd
    by_cases hdc : c = d
    · subst hdc
      have hlt := (List.getElem?_eq_some_iff.mp hc).1
      rw [Pool.advance_calls, List.getElem?_set_self hlt, Option.some.injEq, Prod.mk.injEq] at hd
      obtain ⟨rfl, rfl⟩ := hd
      rw [Pool.advance_log, pathOf_cons_of_eq (by rfl)]
      exact (hs.obeys c req _ hc).2 _
    · rw [Pool.advance_calls, List.getElem?_set_ne hdc] at hd
      rw [Pool.advance_log, pathOf_cons_of_ne hdc]
      exact hs.obeys d req' p hd
  logged := by
    intro en hen
    have hreq : ∃ p, s.calls[en.call]? = some (en.req, p) := by
      rcases List.mem_cons.mp hen with rfl | hen
      · exact ⟨_, hc⟩
      · exact hs.logged en hen
    obtain ⟨p, hp⟩ := hreq
    exact Pool.advance_kept hc hp

/-- **The interleaving rule.**  If every request's program obeys `J` and `R` on its own, then in
every run, however the calls are interleaved, the log is lawful, the store is the one the log
leads to, and every call obeys at its own place in the log. -/
theorem coherent_of_run (hobeys : ∀ req, Obeys (J req) (R req) [] (handle req))
    {es : List (Event Req Env)} {s : Pool Req Env Op Res σ α}
    (h : run (Pool.step handle exec) (Pool.start s₀) es = some s) : Coherent J R exec s₀ s := by
  refine invariant_run (J := Coherent J R exec s₀) ?_ coherent_start h
  intro t e t' ht hstep
  rcases step_cases hstep with ⟨req, -, rfl⟩ | ⟨c, env, req, o, k, -, hc, rfl⟩
  · exact ht.invoke hobeys req
  · exact ht.advance hc

/-- An entry carries the request of its call. -/
lemma Coherent.req_eq {s : Pool Req Env Op Res σ α} (hs : Coherent J R exec s₀ s)
    {en : Entry Req Env Op Res} (hen : en ∈ s.log) {req : Req} {p : Prog Op Res α}
    (hc : s.calls[en.call]? = some (req, p)) : en.req = req := by
  obtain ⟨p', hp'⟩ := hs.logged en hen
  exact (Prod.mk.inj (Option.some.inj (hp'.symm.trans hc))).1

/-- Every call of a run was invoked in it. -/
lemma invoked_of_mem_calls {es : List (Event Req Env)} {s : Pool Req Env Op Res σ α}
    (h : run (Pool.step handle exec) (Pool.start s₀) es = some s) {req : Req}
    {p : Prog Op Res α} (hmem : (req, p) ∈ s.calls) : Event.invoke req ∈ es := by
  induction es using List.reverseRecOn generalizing s p with
  | nil =>
      rw [run_nil, Option.some.injEq] at h
      subst h
      simp [Pool.start] at hmem
  | append_singleton es e ih =>
      obtain ⟨u, hu, hstep⟩ := run_snoc_eq_some.mp h
      rw [List.mem_append]
      rcases step_cases hstep with ⟨req', rfl, rfl⟩ | ⟨c, env, req', o, k, rfl, hc, rfl⟩
      · rcases List.mem_append.mp hmem with hmem | hmem
        · exact Or.inl (ih hu hmem)
        · obtain ⟨rfl, -⟩ := Prod.mk.inj (List.mem_singleton.mp hmem)
          exact Or.inr (List.mem_singleton_self _)
      · rcases List.mem_or_eq_of_mem_set hmem with hmem | heq
        · exact Or.inl (ih hu hmem)
        · obtain ⟨rfl, -⟩ := Prod.mk.inj heq
          exact Or.inl (ih hu (List.mem_of_getElem? hc))

/-- The log of a run only grows. -/
lemma log_suffix_of_run {s t : Pool Req Env Op Res σ α} {es : List (Event Req Env)}
    (h : run (Pool.step handle exec) s es = some t) : s.log <:+ t.log := by
  refine invariant_run (J := fun u => s.log <:+ u.log) ?_ (List.suffix_refl _) h
  intro u e u' hu hstep
  rcases step_cases hstep with ⟨req, -, rfl⟩ | ⟨c, env, req, o, k, -, -, rfl⟩
  · exact hu
  · exact hu.trans (List.suffix_cons _ _)

/-! ## Properties of the store along a run -/

/-- The stores a run passes through are the stores of the suffixes of its log. -/
lemma always_store_iff_suffix (hobeys : ∀ req, Obeys (J req) (R req) [] (handle req))
    {P : σ → Prop} {es : List (Event Req Env)} {s : Pool Req Env Op Res σ α}
    (h : run (Pool.step handle exec) (Pool.start s₀) es = some s) :
    Always (Pool.step handle exec) (fun t => P t.store) (Pool.start s₀) es ↔
      ∀ log, log <:+ s.log → P (storeAt exec s₀ log) := by
  induction es using List.reverseRecOn generalizing s with
  | nil =>
      rw [run_nil, Option.some.injEq] at h
      subst h
      simp [Always, Pool.start]
  | append_singleton es e ih =>
      have hlast : s.store = storeAt exec s₀ s.log := (coherent_of_run hobeys h).store_eq
      obtain ⟨u, hu, hstep⟩ := run_snoc_eq_some.mp h
      have hP : (∀ t, run (Pool.step handle exec) (Pool.start s₀) (es ++ [e]) = some t →
          P t.store) ↔ P (storeAt exec s₀ s.log) := by
        simp only [h, Option.some.injEq, forall_eq', hlast]
      rw [always_snoc, ih hu, hP]
      rcases step_cases hstep with ⟨req, -, rfl⟩ | ⟨c, env, req, o, k, -, -, rfl⟩
      · exact and_iff_left_of_imp fun hlog => hlog _ (List.suffix_refl _)
      · simp only [Pool.advance_log, List.suffix_cons_iff, forall_eq_or_imp]
        exact and_comm

/-- The exactness rule on histories: if an entry keeps `P` exactly when it meets `A`, whatever
`P`-history it is added to, then a history keeps `P` exactly when all its entries meet `A`. -/
lemma suffix_iff_forall_entry {P : σ → Prop}
    {A : Entry Req Env Op Res → History Req Env Op Res → Prop} (h0 : P s₀)
    (hstep : ∀ en log, Lawful exec J s₀ (en :: log) →
      (∀ h, h <:+ log → P (storeAt exec s₀ h)) → (P (storeAt exec s₀ (en :: log)) ↔ A en log))
    {log : History Req Env Op Res} (hlaw : Lawful exec J s₀ log) :
    (∀ h, h <:+ log → P (storeAt exec s₀ h)) ↔ ∀ en h, en :: h <:+ log → A en h := by
  induction log with
  | nil => simp [h0]
  | cons en log ih =>
      have ih := ih hlaw.1
      simp only [List.suffix_cons_iff, forall_eq_or_imp, List.cons.injEq]
      constructor
      · rintro ⟨hlast, hP⟩ en' h (⟨rfl, rfl⟩ | hs)
        · exact (hstep _ _ hlaw hP).mp hlast
        · exact ih.mp hP en' h hs
      · intro hA
        have hP := ih.mpr fun en' h hs => hA en' h (Or.inr hs)
        exact ⟨(hstep _ _ hlaw hP).mpr (hA en log (Or.inl ⟨rfl, rfl⟩)), hP⟩

/-- **The exactness rule for interleavings.**  A run keeps `P` in all its stores exactly when
every entry of its log meets `A`. -/
theorem always_store_iff (hobeys : ∀ req, Obeys (J req) (R req) [] (handle req))
    {P : σ → Prop} {A : Entry Req Env Op Res → History Req Env Op Res → Prop} (h0 : P s₀)
    (hstep : ∀ en log, Lawful exec J s₀ (en :: log) →
      (∀ h, h <:+ log → P (storeAt exec s₀ h)) → (P (storeAt exec s₀ (en :: log)) ↔ A en log))
    (r : Execution (Pool.step handle exec) (Pool.start s₀)) :
    r.Always (fun t => P t.store) ↔ ∀ en log, en :: log <:+ r.final.log → A en log :=
  (always_store_iff_suffix hobeys r.ran).trans
    (suffix_iff_forall_entry h0 hstep (coherent_of_run hobeys r.ran).lawful)

end Interleaving
