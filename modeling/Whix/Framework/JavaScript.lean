import Mathlib.Data.Rat.Defs
import Whix.Framework.Text

/-!
# The JavaScript that the functions rely on

Values as a callable function receives them, the exceptions it can meet, `String.prototype.trim`,
and the two array methods whose corner cases matter: `indexOf`, which compares objects by
identity, and `splice`, which counts a negative start from the end.

An object is modelled with its identity: two objects may hold the same contents (`val`) and still
differ (`addr`).
-/

namespace Js

/-- A JavaScript value that can travel in a request or a reply.  Numbers are the finite ones. -/
inductive Value where
  | undefined
  | null
  | bool (b : Bool)
  | number (n : ℚ)
  | string (s : String)
  | array (items : List Value)
  | object (fields : List (String × Value))

/-- What can be thrown: a `TypeError` of the language, or an error of a service under its code. -/
inductive Error where
  | typeError
  | service (code : String)
  deriving DecidableEq

namespace Value

/-- `v === s`. -/
def isString : Value → String → Bool
  | string t, s => t = s
  | _, _ => false

@[simp] lemma isString_iff {v : Value} {s : String} : v.isString s = true ↔ v = string s := by
  cases v <;> simp [isString]

/-- Property access `v.name`, for names that only own properties carry: it throws on
`undefined` and `null`, and a missing property is `undefined`. -/
def member (v : Value) (name : String) : Except Error Value :=
  match v with
  | undefined | null => .error .typeError
  | object fields => .ok ((fields.lookup name).getD undefined)
  | _ => .ok undefined

/-- Either every property access throws, or none does. -/
lemma member_cases (v : Value) :
    (∀ name, v.member name = .error .typeError) ∨
      ∃ props : String → Value, ∀ name, v.member name = .ok (props name) := by
  cases v with
  | undefined | null => exact Or.inl fun _ => rfl
  | object fields => exact Or.inr ⟨fun name => (fields.lookup name).getD undefined, fun _ => rfl⟩
  | bool _ | number _ | string _ | array _ => exact Or.inr ⟨fun _ => undefined, fun _ => rfl⟩

/-- The `WhiteSpace` and `LineTerminator` code points of ECMAScript. -/
def isWhiteSpace (c : Char) : Bool :=
  let n := c.toNat
  (0x9 ≤ n && n ≤ 0xD) || n == 0x20 || n == 0xA0 || n == 0x1680 || (0x2000 ≤ n && n ≤ 0x200A) ||
    n == 0x2028 || n == 0x2029 || n == 0x202F || n == 0x205F || n == 0x3000 || n == 0xFEFF

/-- `v.trim()`: only strings have the method. -/
def trim : Value → Except Error String
  | string s => .ok (Text.strip isWhiteSpace s)
  | _ => .error .typeError

end Value

/-! ## Objects and arrays -/

/-- An object: its identity and what it holds. -/
structure Obj (α : Type) where
  addr : ℕ
  val : α

variable {α : Type}

/-- Fresh objects holding `vals`, allocated from address `next` on. -/
def alloc (next : ℕ) : List α → List (Obj α)
  | [] => []
  | v :: vals => ⟨next, v⟩ :: alloc (next + 1) vals

/-- `xs.indexOf(x)`: the first index that holds the very object `x`, or `-1`. -/
def indexOf (xs : List (Obj α)) (x : Obj α) : ℤ :=
  match xs.findIdx? fun y => y.addr = x.addr with
  | some i => i
  | none => -1

/-- `xs.splice(start, deleteCount)`, as the array it leaves. -/
def splice (xs : List α) (start deleteCount : ℤ) : List α :=
  let len : ℤ := xs.length
  let actualStart := if start < 0 then max (len + start) 0 else min start len
  let actualDeleteCount := min (max deleteCount 0) (len - actualStart)
  xs.take actualStart.toNat ++ xs.drop (actualStart + actualDeleteCount).toNat

@[simp] lemma map_val_alloc (next : ℕ) (vals : List α) : (alloc next vals).map Obj.val = vals := by
  induction vals generalizing next with
  | nil => rfl
  | cons v vals ih => simp [alloc, ih]

lemma addr_lt_of_mem_alloc {next : ℕ} {vals : List α} {x : Obj α} (h : x ∈ alloc next vals) :
    x.addr < next + vals.length := by
  induction vals generalizing next with
  | nil => simp [alloc] at h
  | cons v vals ih =>
      rcases List.mem_cons.mp h with rfl | h
      · simp
      · have := ih h
        simp only [List.length_cons]
        omega

/-- An object allocated after an array is not found in it, whatever it holds. -/
lemma indexOf_alloc_fresh (vals : List α) (v : α) :
    indexOf (alloc 0 vals) ⟨vals.length, v⟩ = -1 := by
  have hnone : (alloc 0 vals).findIdx? (fun y => y.addr = vals.length) = none := by
    rw [List.findIdx?_eq_none_iff]
    intro x hx
    have := addr_lt_of_mem_alloc hx
    simp only [decide_eq_false_iff_not]
    omega
  simp only [indexOf, hnone]

/-- `splice(-1, 1)` removes the last element, if there is one. -/
lemma splice_neg_one (xs : List α) : splice xs (-1) 1 = xs.dropLast := by
  rcases List.eq_nil_or_concat xs with rfl | ⟨ys, y, rfl⟩
  · simp [splice]
  · have hstart : max (((ys.concat y).length : ℤ) + -1) 0 = ys.length := by
      rw [List.length_concat]
      omega
    have hcount : min (max (1 : ℤ) 0) ((ys.concat y).length - ys.length) = 1 := by
      rw [List.length_concat]
      omega
    have hend : ((ys.length : ℤ) + 1).toNat = (ys ++ [y]).length := by
      simp
    simp only [splice, if_pos (show (-1 : ℤ) < 0 by decide), hstart, hcount]
    rw [hend, List.concat_eq_append, List.drop_length, Int.toNat_natCast, List.take_left']
    · simp
    · rfl

end Js
