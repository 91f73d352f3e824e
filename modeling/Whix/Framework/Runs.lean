import Mathlib.Data.List.Infix
import Mathlib.Data.List.Induction
import Mathlib.Tactic.Common

/-!
# Runs of a deterministic labelled transition system

A system is a partial step function `step : σ → ε → Option σ`: in a state it either takes an
event to the next state or does not enable it.  Nondeterminism lives in the events, so a run is
just a list of events, and a concrete run can be evaluated.  An `Execution` is a list of events
that is enabled throughout.

Two predicates speak about a run as a whole.  `Always step P s es` says that `P` holds in every
state the run passes through, and `Along step C s es` that every event is taken in a state where
the step condition `C` holds.  `always_iff_along` is the rule the client properties rest on: when
one step keeps `P` exactly if it meets `C`, a whole run keeps `P` exactly if all its steps
meet `C`.  What a property has to know about the past is a history variable (`withHistory`).
-/

namespace Runs

variable {σ ε : Type*} (step : σ → ε → Option σ)

/-- The state after the events `es`, or `none` once one of them is not enabled. -/
def run (s : σ) (es : List ε) : Option σ :=
  es.foldlM step s

/-- `P` holds in every state that the run of `es` from `s` passes through. -/
def Always (P : σ → Prop) (s : σ) (es : List ε) : Prop :=
  ∀ pre, pre <+: es → ∀ t, run step s pre = some t → P t

/-- Every event of the run of `es` from `s` meets `C` in the state it is taken in. -/
def Along (C : σ → ε → Prop) (s : σ) (es : List ε) : Prop :=
  ∀ pre e, pre ++ [e] <+: es → ∀ t t', run step s pre = some t → step t e = some t' → C t e

/-- A completed run: its events are all enabled, and it ends in `final`. -/
structure Execution (s₀ : σ) where
  events : List ε
  final : σ
  ran : run step s₀ events = some final

/-- The execution of a list of events that are all enabled. -/
def Execution.ofEvents {s₀ : σ} (es : List ε) (h : (run step s₀ es).isSome) :
    Execution step s₀ where
  events := es
  final := (run step s₀ es).get h
  ran := by simp

variable {step}

/-- `P` holds in every state of the execution. -/
def Execution.Always {s₀ : σ} (r : Execution step s₀) (P : σ → Prop) : Prop :=
  Runs.Always step P s₀ r.events

@[simp] lemma run_nil (s : σ) : run step s [] = some s := rfl

lemma run_cons (s : σ) (e : ε) (es : List ε) :
    run step s (e :: es) = (step s e).bind fun t => run step t es := rfl

@[simp] lemma run_singleton (s : σ) (e : ε) : run step s [e] = step s e := by
  rw [run_cons]
  exact Option.bind_fun_some _

lemma run_append (s : σ) (es es' : List ε) :
    run step s (es ++ es') = (run step s es).bind fun t => run step t es' := by
  simp only [run, List.foldlM_append, Option.bind_eq_bind]

lemma run_snoc_eq_some {s u : σ} {es : List ε} {e : ε} :
    run step s (es ++ [e]) = some u ↔ ∃ t, run step s es = some t ∧ step t e = some u := by
  simp [run_append, run_cons, Option.bind_eq_some_iff]

/-- The history rule: what relates the initial state to no events, and is preserved by every step of
the run, relates every state to the events that have led to it. -/
theorem history_run {J : List ε → σ → Prop} {s t : σ} {es : List ε} (h0 : J [] s)
    (hstep : ∀ pre e u u', pre ++ [e] <+: es → J pre u → step u e = some u' → J (pre ++ [e]) u')
    (h : run step s es = some t) : J es t := by
  induction es using List.reverseRecOn generalizing t with
  | nil =>
      rw [run_nil, Option.some.injEq] at h
      exact h ▸ h0
  | append_singleton es e ih =>
      obtain ⟨u, hu, hut⟩ := run_snoc_eq_some.mp h
      have hpre : es <+: es ++ [e] := List.prefix_append es [e]
      refine hstep es e u t (List.prefix_refl _) ?_ hut
      exact ih (fun pre e' u u' hpre' => hstep pre e' u u' (hpre'.trans hpre)) hu

/-- The invariant rule: what holds initially and is preserved by every step holds after every
run. -/
theorem invariant_run {J : σ → Prop} (hstep : ∀ t e t', J t → step t e = some t' → J t')
    {s t : σ} {es : List ε} (h0 : J s) (h : run step s es = some t) : J t :=
  history_run (J := fun _ => J) h0 (fun _ e u u' _ => hstep u e u') h

/-- Every prefix of an execution runs too. -/
lemma Execution.run_prefix {s₀ : σ} (r : Execution step s₀) {pre : List ε}
    (h : pre <+: r.events) : ∃ t, run step s₀ pre = some t := by
  obtain ⟨rest, hrest⟩ := h
  have hran := r.ran
  rw [← hrest, run_append, Option.bind_eq_some_iff] at hran
  obtain ⟨t, ht, -⟩ := hran
  exact ⟨t, ht⟩

lemma Always.of_prefix {P : σ → Prop} {s : σ} {pre es : List ε} (h : Always step P s es)
    (hpre : pre <+: es) : Always step P s pre :=
  fun p hp t ht => h p (hp.trans hpre) t ht

lemma Along.of_prefix {C : σ → ε → Prop} {s : σ} {pre es : List ε} (h : Along step C s es)
    (hpre : pre <+: es) : Along step C s pre :=
  fun p e hp t t' ht ht' => h p e (hp.trans hpre) t t' ht ht'

lemma Always.last {P : σ → Prop} {s t : σ} {es : List ε} (h : Always step P s es)
    (ht : run step s es = some t) : P t :=
  h es (List.prefix_refl es) t ht

lemma always_snoc {P : σ → Prop} {s : σ} {es : List ε} {e : ε} :
    Always step P s (es ++ [e]) ↔
      Always step P s es ∧ ∀ t, run step s (es ++ [e]) = some t → P t := by
  constructor
  · intro h
    exact ⟨h.of_prefix (List.prefix_append es [e]), fun t ht => h.last ht⟩
  · rintro ⟨h, hlast⟩ pre hpre t ht
    rcases List.prefix_concat_iff.mp hpre with rfl | hpre
    · exact hlast t ht
    · exact h pre hpre t ht

/-- The invariant rule under a step condition: what holds initially and is preserved by every step
that meets `C` holds throughout a run whose steps all meet `C`. -/
theorem always_of_along {J : σ → Prop} {C : σ → ε → Prop}
    (hstep : ∀ t e t', J t → C t e → step t e = some t' → J t') {s : σ} (h0 : J s) {es : List ε}
    (h : Along step C s es) : Always step J s es := by
  induction es using List.reverseRecOn with
  | nil =>
      intro pre hpre t ht
      rw [List.prefix_nil.mp hpre, run_nil, Option.some.injEq] at ht
      exact ht ▸ h0
  | append_singleton es e ih =>
      have hes : Always step J s es := ih (h.of_prefix (List.prefix_append es [e]))
      refine always_snoc.mpr ⟨hes, fun t' ht' => ?_⟩
      obtain ⟨t, ht, hstep'⟩ := run_snoc_eq_some.mp ht'
      exact hstep t e t' (hes.last ht) (h es e (List.prefix_refl _) t t' ht hstep') hstep'

/-- What every step requires of the state it is taken in, a whole run keeps if it ends with it. -/
lemma always_iff_last {P : σ → Prop} (hstep : ∀ t e t', step t e = some t' → P t) {s t : σ}
    {es : List ε} (h : run step s es = some t) : Always step P s es ↔ P t := by
  constructor
  · intro halways
    exact halways.last h
  · intro hlast
    induction es using List.reverseRecOn generalizing t with
    | nil =>
        intro pre hpre u hu
        obtain rfl := List.prefix_nil.mp hpre
        obtain rfl : t = u := Option.some.inj (h.symm.trans hu)
        exact hlast
    | append_singleton es e ih =>
        obtain ⟨u, hu, hut⟩ := run_snoc_eq_some.mp h
        refine always_snoc.mpr ⟨ih hu (hstep u e t hut), fun t' ht' => ?_⟩
        obtain rfl : t = t' := Option.some.inj (h.symm.trans ht')
        exact hlast

/-- A check of every step of a run, which can be evaluated. -/
def checks (step : σ → ε → Option σ) (c : σ → ε → Bool) : σ → List ε → Bool
  | _, [] => true
  | s, e :: es =>
      match step s e with
      | none => true
      | some t => c s e && checks step c t es

lemma along_cons {C : σ → ε → Prop} {s : σ} {e : ε} {es : List ε}
    (h : ∀ t, step s e = some t → C s e ∧ Along step C t es) : Along step C s (e :: es) := by
  rintro (_ | ⟨e', pre⟩) e'' hpre t t' ht ht'
  · obtain ⟨rfl, -⟩ := List.cons_prefix_cons.mp hpre
    obtain rfl : s = t := Option.some.inj ht
    exact (h t' ht').1
  · obtain ⟨rfl, hrest⟩ := List.cons_prefix_cons.mp hpre
    rw [run_cons, Option.bind_eq_some_iff] at ht
    obtain ⟨u, hu, ht⟩ := ht
    exact (h u hu).2 pre e'' hrest t t' ht ht'

/-- A run that passes a check meets what the check guarantees. -/
lemma along_of_checks {C : σ → ε → Prop} {c : σ → ε → Bool} (hc : ∀ s e, c s e = true → C s e)
    {s : σ} {es : List ε} (h : checks step c s es = true) : Along step C s es := by
  induction es generalizing s with
  | nil =>
      intro pre e hpre
      simp at hpre
  | cons e es ih =>
      refine along_cons fun t ht => ?_
      simp only [checks, ht, Bool.and_eq_true] at h
      exact ⟨hc s e h.1, ih h.2⟩

/-- The simulation rule: what a function makes of one step, it makes of a whole run. -/
theorem run_map {τ : Type*} {step' : τ → ε → Option τ} {f : σ → τ}
    (h : ∀ s e, (step s e).map f = step' (f s) e) (s : σ) (es : List ε) :
    (run step s es).map f = run step' (f s) es := by
  induction es generalizing s with
  | nil => rfl
  | cons e es ih =>
      rw [run_cons, run_cons, ← h, Option.map_bind, Option.bind_map]
      exact Option.bind_congr fun t _ => ih t

section History

variable {η : Type*} (record : σ → η → ε → σ → η)

/-- The system with a history variable: `record` keeps book of every step, and no step reads it. -/
def withHistory (step : σ → ε → Option σ) (s : σ × η) (e : ε) : Option (σ × η) :=
  (step s.1 e).map fun t => (t, record s.1 s.2 e t)

/-- A history variable neither adds runs nor takes any away. -/
theorem run_withHistory (s : σ × η) (es : List ε) :
    (run (withHistory record step) s es).map Prod.fst = run step s.1 es :=
  run_map (fun s e => by simp [withHistory, Function.comp_def]) s es

/-- A step condition that does not read the history holds along a run with it. -/
lemma along_withHistory {C : σ → ε → Prop} {s : σ} {es : List ε} (h : Along step C s es)
    (h₀ : η) : Along (withHistory record step) (fun x e => C x.1 e) (s, h₀) es := by
  intro pre e hpre x x' hx hx'
  have hrun : run step s pre = some x.1 := by
    rw [← run_withHistory record (s, h₀) pre, hx, Option.map_some]
  obtain ⟨t, ht, -⟩ := Option.map_eq_some_iff.mp hx'
  exact h pre e hpre x.1 t hrun ht

/-- A run with a history variable that starts as `h₀`. -/
def Execution.withHistory {s₀ : σ} (r : Execution step s₀) (h₀ : η) :
    Execution (Runs.withHistory record step) (s₀, h₀) :=
  .ofEvents _ r.events <| by
    rw [← Option.isSome_map, run_withHistory, r.ran, Option.isSome_some]

end History

section Exact

variable {J P : σ → Prop} {C : σ → ε → Prop} {s : σ}

/-- A run that keeps `P` throughout keeps any `J` that `P`-steps preserve. -/
lemma Always.invariant (hJ : ∀ t e t', J t → P t → step t e = some t' → P t' → J t')
    (h0 : J s) {es : List ε} (h : Always step P s es) {t : σ} (ht : run step s es = some t) :
    J t := by
  induction es using List.reverseRecOn generalizing t with
  | nil =>
      rw [run_nil, Option.some.injEq] at ht
      exact ht ▸ h0
  | append_singleton es e ih =>
      obtain ⟨u, hu, hut⟩ := run_snoc_eq_some.mp ht
      have hes : Always step P s es := h.of_prefix (List.prefix_append es [e])
      exact hJ u e t (ih hes hu) (hes.last hu) hut (h.last ht)

/-- **The exactness rule.**  `J` carries whatever else the argument knows about the states.  If
from a state satisfying `J` and `P` a step reaches a `P`-state exactly when it meets `C`, then a
run stays in `P`-states exactly when all its steps meet `C`. -/
theorem always_iff_along (h0 : J s) (hP0 : P s)
    (hJ : ∀ t e t', J t → P t → step t e = some t' → P t' → J t')
    (hstep : ∀ t e t', J t → P t → step t e = some t' → (P t' ↔ C t e)) (es : List ε) :
    Always step P s es ↔ Along step C s es := by
  constructor
  · intro h pre e hpre t t' ht ht'
    have hsnoc : Always step P s (pre ++ [e]) := h.of_prefix hpre
    have hinit : Always step P s pre := hsnoc.of_prefix (List.prefix_append pre [e])
    have hrun : run step s (pre ++ [e]) = some t' := run_snoc_eq_some.mpr ⟨t, ht, ht'⟩
    exact (hstep t e t' (hinit.invariant hJ h0 ht) (hinit.last ht) ht').mp (hsnoc.last hrun)
  · intro h
    induction es using List.reverseRecOn with
    | nil =>
        intro pre hpre t ht
        rw [List.prefix_nil.mp hpre, run_nil, Option.some.injEq] at ht
        exact ht ▸ hP0
    | append_singleton es e ih =>
        have hes : Always step P s es := ih (h.of_prefix (List.prefix_append es [e]))
        refine always_snoc.mpr ⟨hes, fun t' ht' => ?_⟩
        obtain ⟨t, ht, hstep'⟩ := run_snoc_eq_some.mp ht'
        exact (hstep t e t' (hes.invariant hJ h0 ht) (hes.last ht) hstep').mpr
          (h es e (List.prefix_refl _) t t' ht hstep')

/-- Two step conditions that agree under an invariant hold along the same runs. -/
theorem along_congr {D : σ → ε → Prop} (h0 : J s)
    (hJ : ∀ t e t', J t → step t e = some t' → J t')
    (hCD : ∀ t e t', J t → step t e = some t' → (C t e ↔ D t e)) (es : List ε) :
    Along step C s es ↔ Along step D s es := by
  refine forall₃_congr fun pre e _ => forall₃_congr fun t t' ht => ?_
  exact imp_congr_right fun hstep => hCD t e t' (invariant_run hJ h0 ht) hstep

end Exact

end Runs
