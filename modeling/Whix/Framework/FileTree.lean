import Mathlib.Data.List.Infix
import Mathlib.Logic.Function.Basic
import Mathlib.Tactic.Common

/-!
# Trees of files

A file tree says of every position, a list of names from the root, whether there is a directory, a
file, or nothing; the parent of everything in it is a directory.  A path is a list of moves, and
where it leads is a matter of the text alone (`destination`), while whether one can go there
depends on the directories on the way (`FileTree.Open`).

`read` is the tree as a map from positions to the contents of files.  The lemmas say of every
operation what it does to that map: making directories does nothing to it, and a file that is
written or removed changes it at that file only.
-/

namespace FileTrees

variable {ν α : Type*}

/-- What is at a position. -/
inductive Node (α : Type*) where
  | directory
  | file (contents : α)

/-- A tree of files: the root is a directory, and so is the parent of whatever there is. -/
structure FileTree (ν α : Type*) where
  node : List ν → Option (Node α)
  root : node [] = some .directory
  parent : ∀ p x, node (p ++ [x]) ≠ none → node p = some .directory

/-- One component of a path. -/
inductive Move (ν : Type*) where
  | stay
  | up
  | into (x : ν)

/-- Where a move leads from a position; nothing is above the root. -/
def Move.target : Move ν → List ν → List ν
  | stay, p => p
  | up, p => p.dropLast
  | into x, p => p ++ [x]

/-- Where a path leads from a position. -/
def destination (p : List ν) (moves : List (Move ν)) : List ν :=
  moves.foldl (fun p m => m.target p) p

@[simp] lemma destination_nil (p : List ν) : destination p [] = p := rfl

@[simp] lemma destination_cons (p : List ν) (m : Move ν) (moves : List (Move ν)) :
    destination p (m :: moves) = destination (m.target p) moves := rfl

lemma destination_append (p : List ν) (moves moves' : List (Move ν)) :
    destination p (moves ++ moves') = destination (destination p moves) moves' :=
  List.foldl_append

/-- A path without dots leads down. -/
@[simp] lemma destination_into (p names : List ν) :
    destination p (names.map .into) = p ++ names := by
  induction names generalizing p with
  | nil => simp
  | cons x names ih =>
      rw [List.map_cons, destination_cons, ih, Move.target, List.append_assoc,
        List.singleton_append]

namespace FileTree

variable (t : FileTree ν α)

/-- There is something at the position. -/
def Exists (p : List ν) : Prop := t.node p ≠ none

/-- There is a directory at the position. -/
def IsDirectory (p : List ν) : Prop := t.node p = some .directory

instance (p : List ν) : Decidable (t.IsDirectory p) :=
  match h : t.node p with
  | some .directory => isTrue h
  | some (.file _) => isFalse (by simp [IsDirectory, h])
  | none => isFalse (by simp [IsDirectory, h])

instance (p : List ν) : Decidable (t.Exists p) :=
  decidable_of_iff ((t.node p).isSome) Option.isSome_iff_ne_none

/-- The contents of the file at a position. -/
def read (p : List ν) : Option α :=
  match t.node p with
  | some (.file contents) => some contents
  | _ => none

lemma read_eq_some_iff {p : List ν} {contents : α} :
    t.read p = some contents ↔ t.node p = some (.file contents) := by
  unfold read
  split
  · simp_all
  · simp_all

lemma read_congr {t t' : FileTree ν α} {p : List ν} (h : t.node p = t'.node p) :
    t.read p = t'.read p := by
  rw [read, read, h]

lemma read_of_isDirectory {p : List ν} (h : t.IsDirectory p) : t.read p = none := by
  rw [read, h]

/-- The directories down to a directory. -/
lemma isDirectory_of_prefix {p q : List ν} (hpq : p <+: q) (h : t.IsDirectory q) :
    t.IsDirectory p := by
  induction q using List.reverseRecOn with
  | nil => rwa [List.prefix_nil.mp hpq]
  | append_singleton q x ih =>
      rcases List.prefix_concat_iff.mp hpq with rfl | hpq
      · exact h
      · exact ih hpq (t.parent q x (by rw [h]; simp))

/-- Nothing is below a file. -/
lemma not_exists_below {p q : List ν} (hpq : p <+: q) (hne : p ≠ q)
    (h : ¬ t.IsDirectory p) : ¬ t.Exists q := by
  intro hq
  obtain ⟨rest, rfl⟩ := hpq
  rcases rest.eq_nil_or_concat' with rfl | ⟨rest, x, rfl⟩
  · simp at hne
  · rw [← List.append_assoc] at hq
    exact h (t.isDirectory_of_prefix (List.prefix_append p rest) (t.parent _ x hq))

/-- The tree with nothing but its root. -/
def empty : FileTree ν α where
  node
    | [] => some .directory
    | _ :: _ => none
  root := rfl
  parent p x h := by cases p <;> simp at h

/-! ## Going along a path -/

/-- Every move of the path is made in a directory. -/
def Open (t : FileTree ν α) : List ν → List (Move ν) → Prop
  | _, [] => True
  | p, m :: moves => t.IsDirectory p ∧ Open t (m.target p) moves

instance decidableOpen (t : FileTree ν α) :
    ∀ (p : List ν) (moves : List (Move ν)), Decidable (t.Open p moves)
  | _, [] => instDecidableTrue
  | p, m :: moves =>
      have := decidableOpen t (m.target p) moves
      inferInstanceAs (Decidable (_ ∧ _))

/-- No file is in the way. -/
def Clear (t : FileTree ν α) : List ν → List (Move ν) → Prop
  | _, [] => True
  | p, m :: moves => t.read (m.target p) = none ∧ Clear t (m.target p) moves

lemma clear_congr {t t' : FileTree ν α} (h : ∀ q, t'.read q = t.read q) {p : List ν}
    {moves : List (Move ν)} : t'.Clear p moves ↔ t.Clear p moves := by
  induction moves generalizing p with
  | nil => rfl
  | cons m moves ih => rw [Clear, Clear, h, ih]

/-- What is above something that exists is a directory. -/
lemma isDirectory_above {p q : List ν} (hpq : p <+: q) (hne : p ≠ q) (h : t.Exists q) :
    t.IsDirectory p := by
  by_contra hnot
  exact t.not_exists_below hpq hne hnot h

/-- The way down to something that exists is open. -/
lemma open_of_exists {p names : List ν} (h : t.Exists (p ++ names)) :
    t.Open p (names.map .into) := by
  induction names generalizing p with
  | nil => trivial
  | cons x names ih =>
      have hsplit : p ++ x :: names = p ++ [x] ++ names := by simp
      exact ⟨t.isDirectory_above (List.prefix_append p _) (by simp) h, ih (hsplit ▸ h)⟩

/-- The way down is clear when there is no file anywhere on it. -/
lemma clear_into_iff {p names : List ν} (hp : ∀ q, q <+: p → t.read q = none) :
    t.Clear p (names.map .into) ↔ ∀ q, q <+: p ++ names → t.read q = none := by
  induction names generalizing p with
  | nil => simpa [Clear] using hp
  | cons x names ih =>
      have hsplit : p ++ x :: names = p ++ [x] ++ names := by simp
      rw [List.map_cons, Clear, Move.target, hsplit]
      constructor
      · rintro ⟨hx, hclear⟩
        refine (ih fun q hq => ?_).mp hclear
        rcases List.prefix_concat_iff.mp hq with rfl | hq
        · exact hx
        · exact hp q hq
      · intro h
        refine ⟨h _ (List.prefix_append _ names), (ih fun q hq => ?_).mpr h⟩
        exact h q (hq.trans (List.prefix_append _ names))

lemma read_above_directory {p q : List ν} (hp : t.IsDirectory p) (hq : q <+: p) :
    t.read q = none :=
  t.read_of_isDirectory (t.isDirectory_of_prefix hq hp)

lemma isDirectory_target {t : FileTree ν α} {p : List ν} {m : Move ν} (hm : ∀ x, m ≠ .into x)
    (hp : t.IsDirectory p) : t.IsDirectory (m.target p) := by
  cases m with
  | stay => exact hp
  | up => exact t.isDirectory_of_prefix (List.dropLast_prefix p) hp
  | into x => exact absurd rfl (hm x)

/-! ## Changing a tree -/

variable [DecidableEq ν]

/-- Put a directory or a file below a directory, where there is none. -/
def place (p : List ν) (x : ν) (n : Node α) (hp : t.IsDirectory p)
    (hleaf : ¬ t.IsDirectory (p ++ [x])) : FileTree ν α where
  node := Function.update t.node (p ++ [x]) (some n)
  root := by
    rw [Function.update_of_ne (by simp)]
    exact t.root
  parent q y hq := by
    by_cases heq : q ++ [y] = p ++ [x]
    · obtain ⟨rfl, -⟩ := List.append_inj' heq rfl
      rw [Function.update_of_ne (by simp)]
      exact hp
    · rw [Function.update_of_ne heq] at hq
      have hdir := t.parent q y hq
      rw [Function.update_of_ne]
      · exact hdir
      · rintro rfl
        exact hleaf hdir

section Place

variable {t} {p q : List ν} {x : ν} {n : Node α} {hp : t.IsDirectory p}
  {hleaf : ¬ t.IsDirectory (p ++ [x])}

@[simp] lemma node_place_self : (t.place p x n hp hleaf).node (p ++ [x]) = some n :=
  Function.update_self ..

lemma node_place_of_ne (h : q ≠ p ++ [x]) : (t.place p x n hp hleaf).node q = t.node q :=
  Function.update_of_ne h ..

end Place

/-- Make a directory, unless there is something already. -/
def mkdir (p : List ν) (x : ν) : FileTree ν α :=
  if h : t.IsDirectory p ∧ ¬ t.Exists (p ++ [x]) then
    t.place p x .directory h.1 fun hdir => h.2 (by rw [Exists, hdir]; simp)
  else t

/-- Write a file; a directory is not replaced. -/
def write (p : List ν) (x : ν) (contents : α) : Option (FileTree ν α) :=
  if h : t.IsDirectory p ∧ ¬ t.IsDirectory (p ++ [x]) then
    some (t.place p x (.file contents) h.1 h.2)
  else none

/-- Remove what is at a position and below it. -/
def remove (p : List ν) (hp : p ≠ []) : FileTree ν α where
  node q := if p <+: q then none else t.node q
  root := by
    rw [if_neg (by simpa using hp)]
    exact t.root
  parent q x hq := by
    have hnot : ¬ p <+: q ++ [x] := by
      intro h
      simp [h] at hq
    have hnot' : ¬ p <+: q := fun h => hnot (h.trans (List.prefix_append q [x]))
    rw [if_neg hnot] at hq
    rw [if_neg hnot']
    exact t.parent q x hq

lemma node_remove {t : FileTree ν α} {p : List ν} (hp : p ≠ []) (q : List ν) :
    (t.remove p hp).node q = if p <+: q then none else t.node q := rfl

/-- Go along a path and make the directories that are missing on the way.  A file in the way stops
this. -/
def makeFolders (t : FileTree ν α) : List ν → List (Move ν) → Bool × FileTree ν α
  | _, [] => (true, t)
  | p, .into x :: moves =>
      let t := t.mkdir p x
      if t.IsDirectory (p ++ [x]) then makeFolders t (p ++ [x]) moves else (false, t)
  | p, m :: moves => makeFolders t (m.target p) moves

section Lemmas

variable {t} {p q : List ν} {x : ν} {contents : α}

lemma read_mkdir (p : List ν) (x : ν) (q : List ν) : (t.mkdir p x).read q = t.read q := by
  unfold mkdir
  split
  · rename_i h
    by_cases heq : q = p ++ [x]
    · subst heq
      rw [Exists, ne_eq, not_not] at h
      rw [read, read, node_place_self, h.2]
    · exact read_congr (node_place_of_ne heq)
  · rfl

lemma isDirectory_mkdir (hq : t.IsDirectory q) : (t.mkdir p x).IsDirectory q := by
  unfold mkdir
  split
  · rename_i h
    rw [IsDirectory, node_place_of_ne]
    · exact hq
    · rintro rfl
      exact h.2 (by rw [Exists, hq]; simp)
  · exact hq

lemma write_isSome_iff :
    (t.write p x contents).isSome ↔ t.IsDirectory p ∧ ¬ t.IsDirectory (p ++ [x]) := by
  unfold write
  split <;> simp_all

/-- A file that is written changes the files at its position only. -/
lemma read_write {t' : FileTree ν α} (h : t.write p x contents = some t') (q : List ν) :
    t'.read q = if q = p ++ [x] then some contents else t.read q := by
  rw [write] at h
  split at h
  · obtain rfl := Option.some.inj h
    by_cases heq : q = p ++ [x]
    · rw [if_pos heq, heq, read_eq_some_iff, node_place_self]
    · rw [if_neg heq]
      exact read_congr (node_place_of_ne heq)
  · simp at h

lemma isDirectory_write {t' : FileTree ν α} (h : t.write p x contents = some t') (q : List ν) :
    t'.IsDirectory q ↔ t.IsDirectory q := by
  rw [write] at h
  split at h
  · rename_i hdir
    obtain rfl := Option.some.inj h
    by_cases heq : q = p ++ [x]
    · subst heq
      exact iff_of_false (by simp [IsDirectory]) hdir.2
    · rw [IsDirectory, IsDirectory, node_place_of_ne heq]
  · simp at h

lemma read_remove (hp : p ≠ []) (q : List ν) :
    (t.remove p hp).read q = if p <+: q then none else t.read q := by
  by_cases h : p <+: q
  · rw [if_pos h, read, node_remove, if_pos h]
  · rw [if_neg h]
    exact read_congr (by rw [node_remove, if_neg h])

/-- Making directories leaves the files alone. -/
lemma read_makeFolders (t : FileTree ν α) (p : List ν) (moves : List (Move ν)) (q : List ν) :
    (t.makeFolders p moves).2.read q = t.read q := by
  fun_induction makeFolders t p moves with
  | case1 t p => rfl
  | case2 t p x moves t' h ih => rw [ih, read_mkdir]
  | case3 t p x moves t' h => exact read_mkdir p x q
  | case4 t p m moves _ ih => exact ih

/-- And the directories that are there. -/
lemma isDirectory_makeFolders (t : FileTree ν α) (p : List ν) (moves : List (Move ν))
    (hq : t.IsDirectory q) : (t.makeFolders p moves).2.IsDirectory q := by
  fun_induction makeFolders t p moves with
  | case1 t p => exact hq
  | case2 t p x moves t' h ih => exact ih (isDirectory_mkdir hq)
  | case3 t p x moves t' h => exact isDirectory_mkdir hq
  | case4 t p m moves _ ih => exact ih hq

/-- A directory can be made where there is no file. -/
lemma isDirectory_mkdir_self_iff (hp : t.IsDirectory p) :
    (t.mkdir p x).IsDirectory (p ++ [x]) ↔ t.read (p ++ [x]) = none := by
  constructor
  · intro h
    rw [← read_mkdir p x]
    exact read_of_isDirectory _ h
  · intro h
    unfold mkdir
    split
    · simp [IsDirectory]
    · rename_i hnot
      have hexists : t.Exists (p ++ [x]) := by
        by_contra hfree
        exact hnot ⟨hp, hfree⟩
      obtain ⟨n, hn⟩ := Option.ne_none_iff_exists'.mp hexists
      cases n with
      | directory => exact hn
      | file contents =>
          rw [(read_eq_some_iff t).mpr hn] at h
          simp at h

/-- Making the directories of a path succeeds exactly when no file is in the way. -/
lemma makeFolders_fst_iff (t : FileTree ν α) (p : List ν) (moves : List (Move ν))
    (hp : t.IsDirectory p) : (t.makeFolders p moves).1 = true ↔ t.Clear p moves := by
  fun_induction makeFolders t p moves with
  | case1 t p => exact iff_of_true rfl trivial
  | case2 t p x moves t' h ih =>
      rw [ih h, Clear, clear_congr fun q => read_mkdir p x q]
      exact (and_iff_right ((isDirectory_mkdir_self_iff hp).mp h)).symm
  | case3 t p x moves t' h =>
      refine iff_of_false (by simp) ?_
      rintro ⟨hfree, -⟩
      exact h ((isDirectory_mkdir_self_iff hp).mpr hfree)
  | case4 t p m moves hm ih =>
      have hdir := isDirectory_target hm hp
      rw [ih hdir, Clear]
      exact (and_iff_right (read_of_isDirectory t hdir)).symm

lemma node_mkdir_of_ne (h : q ≠ p ++ [x]) : (t.mkdir p x).node q = t.node q := by
  unfold mkdir
  split
  · exact node_place_of_ne h
  · rfl

/-- Directories are made on the way only. -/
lemma node_makeFolders_into {names : List ν} (h : ¬ q <+: p ++ names) :
    (t.makeFolders p (names.map .into)).2.node q = t.node q := by
  induction names generalizing t p with
  | nil => rfl
  | cons y names ih =>
      have hsplit : p ++ y :: names = p ++ [y] ++ names := by simp
      rw [hsplit] at h
      have hne : q ≠ p ++ [y] := by
        rintro rfl
        exact h (List.prefix_append _ names)
      rw [List.map_cons, makeFolders]
      split
      · rw [ih h, node_mkdir_of_ne hne]
      · exact node_mkdir_of_ne hne

/-- When it succeeds, the path is open. -/
lemma open_makeFolders (t : FileTree ν α) (p : List ν) (moves : List (Move ν))
    (hp : t.IsDirectory p) (h : (t.makeFolders p moves).1 = true) :
    (t.makeFolders p moves).2.Open p moves ∧
      (t.makeFolders p moves).2.IsDirectory (destination p moves) := by
  fun_induction makeFolders t p moves with
  | case1 t p => exact ⟨trivial, hp⟩
  | case2 t p x moves t' hx ih =>
      obtain ⟨hopen, hdir⟩ := ih hx h
      exact ⟨⟨isDirectory_makeFolders t' _ moves (isDirectory_mkdir hp), hopen⟩, hdir⟩
  | case3 t p x moves t' hx => simp at h
  | case4 t p m moves hm ih =>
      obtain ⟨hopen, hdir⟩ := ih (isDirectory_target hm hp) h
      exact ⟨⟨isDirectory_makeFolders t _ moves hp, hopen⟩, hdir⟩

end Lemmas

end FileTree

end FileTrees
