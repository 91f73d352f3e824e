import Mathlib.Data.Sigma.Basic
import Mathlib.Tactic.Common

/-!
# Programs over atomic operations

`Prog Op Res α` is the syntax of a program that performs operations `o : Op` one at a time, each
answered by a result in `Res o`, and finally returns an `α`: the shape of an asynchronous
function that awaits a service.  What the operations do is left open.  `Prog.eval` runs a program
alone against a store; `Framework/Interleaving.lean` runs many of them together.

`Prog.Obeys J R` is the program logic.  It is a statement about the program text only: whatever
the results are, every operation the program issues satisfies `J`, which may speak about the
operations performed before it and their answers, and everything it returns satisfies `R`.  The
rules `obeys_ret` and `obeys_op` are its symbolic execution.
-/

/-- A program that performs operations `o : Op`, is answered in `Res o`, and returns an `α`. -/
inductive Prog (Op : Type) (Res : Op → Type) (α : Type) where
  | ret (a : α)
  | op (o : Op) (k : Res o → Prog Op Res α)

namespace Prog

variable {Op : Type} {Res : Op → Type} {α β σ : Type}

/-- Run `p`, then the program `f` makes of its value. -/
protected def bind (p : Prog Op Res α) (f : α → Prog Op Res β) : Prog Op Res β :=
  match p with
  | ret a => f a
  | op o k => op o fun r => (k r).bind f

instance : Monad (Prog Op Res) where
  pure := ret
  bind := Prog.bind

@[simp] lemma pure_eq (a : α) : (pure a : Prog Op Res α) = ret a := rfl

@[simp] lemma ret_bind (a : α) (f : α → Prog Op Res β) : (ret a >>= f) = f a := rfl

@[simp] lemma op_bind (o : Op) (k : Res o → Prog Op Res α) (f : α → Prog Op Res β) :
    (op o k >>= f) = op o fun r => k r >>= f := rfl

/-- Perform `o` and return its result. -/
def perform (o : Op) : Prog Op Res (Res o) :=
  op o ret

section Exceptions

variable {ε : Type}

/-! A program that may throw is an `ExceptT ε (Prog Op Res)`; these are the rules that bring its
`try` blocks into the plain form. -/

lemma run_liftM (x : Except ε α) : (liftM x : ExceptT ε (Prog Op Res) α).run = ret x := rfl

lemma run_tryCatch (x : ExceptT ε (Prog Op Res) α) (h : ε → ExceptT ε (Prog Op Res) α) :
    (tryCatch x h).run =
      x.run >>= fun r => match r with
        | .ok a => ret (.ok a)
        | .error e => (h e).run := by
  refine congrArg (x.run >>= ·) (funext fun r => ?_)
  cases r <;> rfl

end Exceptions

/-! ## Running a program alone -/

/-- The value of `p` and the store it leaves when nothing else touches the store. -/
def eval (exec : (o : Op) → σ → Res o × σ) : Prog Op Res α → σ → α × σ
  | ret a, s => (a, s)
  | op o k, s => (k (exec o s).1).eval exec (exec o s).2

section Eval

variable (exec : (o : Op) → σ → Res o × σ)

@[simp] lemma eval_ret (a : α) (s : σ) : (ret a : Prog Op Res α).eval exec s = (a, s) := rfl

@[simp] lemma eval_op (o : Op) (k : Res o → Prog Op Res α) (s : σ) :
    (op o k).eval exec s = (k (exec o s).1).eval exec (exec o s).2 := rfl

/-- What every operation preserves, a program run alone preserves. -/
lemma eval_invariant {I : σ → Prop} {exec : (o : Op) → σ → Res o × σ}
    (hexec : ∀ o s, I s → I (exec o s).2) (p : Prog Op Res α) {s : σ} (h : I s) :
    I (p.eval exec s).2 := by
  induction p generalizing s with
  | ret a => exact h
  | op o k ih => exact ih _ (hexec o s h)

end Eval

/-! ## The program logic -/

/-- What a program has done so far: its operations and their results, newest first. -/
abbrev Path (Op : Type) (Res : Op → Type) := List (Σ o : Op, Res o)

/-- Continuing from `path`, every operation `p` issues satisfies `J` at the path before it, and
every value it returns satisfies `R` at the whole path. -/
def Obeys (J : Path Op Res → Op → Prop) (R : Path Op Res → α → Prop) :
    Path Op Res → Prog Op Res α → Prop
  | path, ret a => R path a
  | path, op o k => J path o ∧ ∀ r, Obeys J R (⟨o, r⟩ :: path) (k r)

variable {J : Path Op Res → Op → Prop} {R : Path Op Res → α → Prop} {path : Path Op Res}

@[simp] lemma obeys_ret {a : α} : Obeys J R path (ret a) ↔ R path a := Iff.rfl

@[simp] lemma obeys_op {o : Op} {k : Res o → Prog Op Res α} :
    Obeys J R path (op o k) ↔ J path o ∧ ∀ r, Obeys J R (⟨o, r⟩ :: path) (k r) := Iff.rfl

end Prog
