/-
**C strings in arrays of a fixed size.**

`CStr n` is what a `char[n]` holds that is zero from the end of its string on: a string of fewer
than `n` bytes, none of them zero. `CStr.copy n` is `strncpy` of at most `n - 1` bytes into an array
of zeros; it copies the string whole exactly if that is shorter than `n` (`copy_eq_iff`).
-/

import Mathlib.Data.List.TakeWhile

/-- A zero-padded, zero-terminated string in an array of `n` bytes. -/
structure CStr (n : Nat) where
  bytes : List UInt8
  noNul : 0 ∉ bytes
  fits : bytes.length < n
deriving DecidableEq

/-- The bytes of a string literal. -/
def ascii (chars : List Char) : List UInt8 := chars.map fun c => c.val.toUInt8

namespace CStr

variable {n : Nat}

@[ext] theorem ext {first second : CStr n} (same : first.bytes = second.bytes) :
    first = second := by
  cases first
  cases second
  cases same
  rfl

/-- An array of zeros. -/
def empty (n : Nat) (room : 0 < n) : CStr n := ⟨[], List.not_mem_nil, room⟩

/-- The string a pointer points at: the bytes before the first zero. -/
def strlen (source : List UInt8) : List UInt8 := source.takeWhile (· ≠ 0)

theorem strlen_noNul (source : List UInt8) : 0 ∉ strlen source := fun mem =>
  absurd (List.mem_takeWhile_imp mem) (by simp)

theorem strlen_of_noNul {source : List UInt8} (noNul : 0 ∉ source) : strlen source = source := by
  refine List.takeWhile_eq_self_iff.mpr fun c mem => ?_
  simp only [ne_eq, decide_not, Bool.not_eq_eq_eq_not, Bool.not_true, decide_eq_false_iff_not]
  rintro rfl
  exact noNul mem

/-- `strncpy(array, source, n - 1)` into an array of zeros. -/
def copy (n : Nat) (room : 0 < n) (source : List UInt8) : CStr n where
  bytes := (strlen source).take (n - 1)
  noNul := fun mem => strlen_noNul source (List.mem_of_mem_take mem)
  fits := by
    rw [List.length_take]
    omega

/-- What fits is copied whole. -/
theorem copy_fits {room : 0 < n} {source : List UInt8} (noNul : 0 ∉ source)
    (fits : source.length < n) : copy n room source = ⟨source, noNul, fits⟩ := by
  ext1
  show (strlen source).take (n - 1) = source
  rw [strlen_of_noNul noNul, List.take_of_length_le (by omega)]

/-- **A copy of the string of an array is that array.** -/
@[simp] theorem copy_bytes {room : 0 < n} (s : CStr n) : copy n room s.bytes = s :=
  copy_fits s.noNul s.fits

/-- A string in an array of `n` bytes, without regard to a terminator. -/
def zeroPadded (n : Nat) (source : List UInt8) : List UInt8 :=
  source ++ List.replicate (n - source.length) 0

/-- All the bytes of the array. -/
def array (s : CStr n) : List UInt8 := zeroPadded n s.bytes

theorem strlen_zeroPadded {source : List UInt8} (noNul : 0 ∉ source) :
    strlen (zeroPadded n source) = source := by
  have all : ∀ c ∈ source, (decide (c ≠ 0)) = true := by
    intro c mem
    rw [decide_eq_true_iff]
    rintro rfl
    exact noNul mem
  have none : (List.replicate (n - source.length) (0 : UInt8)).takeWhile (· ≠ 0) = [] := by
    cases n - source.length with
    | zero => rfl
    | succ k => rfl
  rw [strlen, zeroPadded, List.takeWhile_append_of_pos all, none, List.append_nil]

/-- **An array holds a string** exactly if that is the string in it. -/
theorem array_eq_iff (s : CStr n) {source : List UInt8} (noNul : 0 ∉ source) :
    s.array = zeroPadded n source ↔ s.bytes = source := by
  constructor
  · intro same
    have strings := congrArg strlen same
    rwa [array, strlen_zeroPadded s.noNul, strlen_zeroPadded noNul] at strings
  · intro same
    rw [array, same]

/-- What does not fit is not copied whole. -/
theorem copy_eq_iff {room : 0 < n} {source : List UInt8} (noNul : 0 ∉ source) :
    (copy n room source).bytes = source ↔ source.length < n := by
  constructor
  · intro same
    rw [← same]
    exact (copy n room source).fits
  · intro fits
    rw [copy_fits noNul fits]

end CStr
