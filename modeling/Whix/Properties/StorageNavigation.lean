import Whix.Client.StoragePath
import Whix.Framework.Runs

/-!
# Navigating in the storage

A reference of the storage leads to others: `child` below it, `parent` above it and `root`.  A
`FIRStoragePath` computes them on the text of its object; a `Place` has the list of its components
instead.  `navigation_refines` says that the texts do what the lists do, however one navigates.

One difference is left: a path without an object is not one with an empty object, though their URLs
are the same.  `child_parents` tells when the way down and up again leads back to an equal path.
-/

namespace Whix

open Runs

/-- What a reference is asked for. -/
inductive Navigation where
  | child (path : String)
  | parent
  | root

/-- The reference asked for, unless it has no parent. -/
def navigate (p : FIRStoragePath) : Navigation → Option FIRStoragePath
  | .child path => some (p.child path)
  | .parent => p.parent
  | .root => some p.root

/-- A place in a bucket. -/
structure Place where
  bucket : String
  path : Paths.Path '/'
  /-- the place has been given an object, if only an empty one -/
  hasObject : Bool
  deriving DecidableEq

/-- The next place, unless there is none above. -/
def Place.move (l : Place) : Navigation → Option Place
  | .child path =>
      some { l with
        path := l.path.append (.parse '/' path.toList)
        hasObject := l.hasObject || path ≠ "" }
  | .parent => if l.path.parts = [] then none else some { l with path := l.path.up }
  | .root => some { l with path := .root, hasObject := false }

/-- The text of a place. -/
def Place.url (l : Place) : String := "gs://" ++ l.bucket ++ "/" ++ String.ofList l.path.text

namespace FIRStoragePath

variable (p : FIRStoragePath)

/-- The place of a path. -/
def place : Place := ⟨p.bucket, .parse '/' p.fullPath.toList, p.object.isSome⟩

/-- A path has the text of its place. -/
lemma fullPath_toList : p.fullPath.toList = p.place.path.text := by
  change p.fullPath.toList = Paths.standardized '/' p.fullPath.toList
  cases hobject : p.object with
  | none =>
      rw [fullPath, hobject]
      rfl
  | some o =>
      have ho := congrArg String.toList (p.standardized o hobject)
      rw [standardizedPathForString, String.toList_ofList] at ho
      rw [fullPath, hobject, Option.getD_some, ho]

lemma stringValue_eq_url : p.stringValue = p.place.url := by
  rw [Place.url, ← fullPath_toList, String.ofList_toList]
  rfl

lemma name_eq : p.name = String.ofList p.place.path.name := by
  rw [← p.place.path.text_last.1, ← fullPath_toList, FIRStoragePath.name, fullPath]
  cases p.object <;> rfl

/-- A path is its place. -/
lemma place_injective : Function.Injective place := by
  intro p q h
  obtain ⟨hbucket, hpath, hobject⟩ := Place.mk.inj h
  have htext : p.fullPath = q.fullPath := by
    rw [← String.toList_inj, fullPath_toList, fullPath_toList, h]
  refine FIRStoragePath.ext hbucket ?_
  rw [fullPath, fullPath] at htext
  cases hp : p.object <;> cases hq : q.object <;> simp_all

lemma place_initWithBucket (bucket : String) (object : Option String) :
    (initWithBucket bucket object).place =
      ⟨bucket, .parse '/' (object.getD "").toList, object.isSome⟩ := by
  cases object with
  | none => rfl
  | some o => simp [place, initWithBucket, fullPath, standardizedPathForString]

variable {p}

lemma place_none (h : p.object = none) : p.place = ⟨p.bucket, .root, false⟩ := by
  rw [place, fullPath, h]
  rfl

lemma place_some {o : String} (h : p.object = some o) :
    p.place = ⟨p.bucket, .parse '/' o.toList, true⟩ := by
  rw [place, fullPath, h]
  rfl

variable (p)

lemma place_child (path : String) : some (p.child path).place = p.place.move (.child path) := by
  unfold child
  split
  case isTrue hpath =>
    rw [place_initWithBucket, Place.move, hpath]
    refine congrArg some (Place.mk.injEq .. |>.mpr ⟨rfl, ?_, ?_⟩)
    · exact Paths.Path.ext (List.append_nil _).symm
    · simp [place]
  case isFalse hpath =>
    cases hobject : p.object with
    | none =>
        change some (initWithBucket p.bucket (some path)).place = _
        rw [place_initWithBucket, place_none hobject, Place.move]
        simp only [hpath, ne_eq, not_false_eq_true, decide_true, Bool.or_true]
        rfl
    | some o =>
        have htext : (o ++ "/" ++ path).toList = o.toList ++ '/' :: path.toList := by
          simp [String.toList_append]
        change some (initWithBucket p.bucket (some (o ++ "/" ++ path))).place = _
        rw [place_initWithBucket, place_some hobject, Option.getD_some, htext,
          Paths.Path.parse_append]
        rfl

lemma place_parent : p.parent.map place = p.place.move .parent := by
  have hroot : p.object.getD "" = "" ↔ p.place.path.parts = [] := by
    rw [← Paths.Path.text_eq_nil_iff, ← fullPath_toList, String.toList_eq_nil_iff]
    rfl
  rw [parent, Place.move]
  by_cases hparts : p.place.path.parts = []
  · rw [if_pos (hroot.mpr hparts), if_pos hparts]
    rfl
  · rw [if_neg (hparts ∘ hroot.mp), if_neg hparts, Option.map_some, place_initWithBucket]
    cases hobject : p.object with
    | none =>
        rw [hobject] at hroot
        exact absurd (hroot.mp rfl) hparts
    | some o =>
        have ho : o.toList = p.place.path.text := by
          rw [← fullPath_toList, fullPath, hobject, Option.getD_some]
        rw [Option.map_some, Option.getD_some, stringByDeletingLastPathComponent,
          String.toList_ofList, ho, p.place.path.text_last.2, Paths.Path.parse_text]
        rw [place_some hobject]
        rfl

lemma place_navigate (c : Navigation) : (navigate p c).map place = p.place.move c := by
  cases c with
  | child path => exact p.place_child path
  | parent => exact p.place_parent
  | root => rfl

end FIRStoragePath

lemma run_navigate (p : FIRStoragePath) (cs : List Navigation) :
    (run navigate p cs).map FIRStoragePath.place = run Place.move p.place cs :=
  run_map FIRStoragePath.place_navigate p cs

/-- **Navigation, exactly.**  However one navigates from a path, there is a path to come to exactly
if there is a place, the path is that of the place, and its URL, full path and name are those of the
place. -/
theorem navigation_refines (p : FIRStoragePath) (cs : List Navigation) :
    (run navigate p cs).map (fun q => (q.place, q.stringValue, q.fullPath, q.name)) =
      (run Place.move p.place cs).map fun l =>
        (l, l.url, String.ofList l.path.text, String.ofList l.path.name) := by
  rw [← run_navigate, Option.map_map]
  refine Option.map_congr fun q _ => ?_
  rw [Function.comp_apply, q.stringValue_eq_url, q.name_eq, ← q.fullPath_toList,
    String.ofList_toList]

/-! ## Down and up again -/

/-- As many steps up as there are components lead back. -/
lemma Place.run_parents (l : Place) (q : Paths.Path '/') :
    run Place.move { l with path := l.path.append q } (List.replicate q.parts.length .parent) =
      some l := by
  induction hn : q.parts.length generalizing q with
  | zero =>
      have hq : l.path.append q = l.path :=
        Paths.Path.ext (by simp [Paths.Path.append, List.length_eq_zero_iff.mp hn])
      rw [hq]
      rfl
  | succ n ih =>
      have hne : q.parts ≠ [] := List.ne_nil_of_length_eq_add_one hn
      have hparts : (l.path.append q).parts ≠ [] := List.append_ne_nil_of_right_ne_nil _ hne
      have hup : q.up.parts.length = n := by
        rw [Paths.Path.up, List.length_dropLast, hn, Nat.add_sub_cancel]
      rw [List.replicate_succ, run_cons, Place.move, if_neg hparts, Option.bind_some]
      simp only [Paths.Path.append_up l.path hne]
      exact ih q.up hup

/-- **Down and up again.**  From a path to a child and up as many times as the child has components
one comes to a path with the same URL, which is equal to the first exactly if the child is empty or
the first has an object. -/
theorem child_parents (p : FIRStoragePath) (path : String) :
    ∃ q, run navigate p (.child path ::
          List.replicate (Paths.Path.parse '/' path.toList).parts.length .parent) = some q ∧
      q.stringValue = p.stringValue ∧ (q = p ↔ path = "" ∨ p.object ≠ none) := by
  have hback : run Place.move p.place (.child path ::
      List.replicate (Paths.Path.parse '/' path.toList).parts.length .parent) =
        some { p.place with hasObject := p.place.hasObject || path ≠ "" } := by
    rw [run_cons, Place.move, Option.bind_some]
    exact Place.run_parents { p.place with hasObject := p.place.hasObject || path ≠ "" } _
  rw [← run_navigate, Option.map_eq_some_iff] at hback
  obtain ⟨q, hq, hplace⟩ := hback
  refine ⟨q, hq, ?_, ?_⟩
  · rw [q.stringValue_eq_url, p.stringValue_eq_url, hplace]
    rfl
  · rw [← FIRStoragePath.place_injective.eq_iff, hplace]
    cases hobject : p.object with
    | none => simp [FIRStoragePath.place_none hobject]
    | some o => simp [FIRStoragePath.place_some hobject]

end Whix
