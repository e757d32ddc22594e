import Mathlib.Algebra.Group.Int.Defs
import Mathlib.Algebra.Group.Nat.Defs
import Mathlib.Data.Int.Basic
import Mathlib.Logic.Function.Basic

/-!
# Framebuffers

`src/gfx/framebuffer.c`. A framebuffer is its size and, where something is drawn, the words of its
buffer; rows do not overlap, so a word is found under its column and its row.
-/

namespace DuckOs

/-- A conversion or a result of type `int`. -/
def int32 (value : Int) : Int := value.bmod (2 ^ 32)

/-- A conversion to `unsigned int`. -/
def uint32 (value : Int) : Nat := (value % 2 ^ 32).toNat

theorem int32_eq {value : Int} (hlow : -2 ^ 31 ≤ value) (hhigh : value < 2 ^ 31) :
    int32 value = value := by
  rw [int32, Int.bmod_def]
  omega

theorem int32_of_le {value : Int} (hlow : 2 ^ 31 ≤ value) (hhigh : value < 3 * 2 ^ 31) :
    int32 value = value - 2 ^ 32 := by
  rw [int32, Int.bmod_def]
  omega

theorem int32_of_lt {value : Int} (hlow : -3 * 2 ^ 31 ≤ value) (hhigh : value < -2 ^ 31) :
    int32 value = value + 2 ^ 32 := by
  rw [int32, Int.bmod_def]
  omega

theorem uint32_eq {value : Int} (hlow : 0 ≤ value) (hhigh : value < 2 ^ 32) :
    (uint32 value : Int) = value := by
  rw [uint32]
  omega

theorem uint32_int32 (value : Int) : uint32 (int32 value) = uint32 value := by
  rw [uint32, uint32, int32]
  exact congrArg Int.toNat (@Int.bmod_emod value (2 ^ 32))

theorem int32_bounds (value : Int) : -2 ^ 31 ≤ int32 value ∧ int32 value < 2 ^ 31 := by
  have hle := @Int.le_bmod value (2 ^ 32) (by decide)
  have hlt := @Int.bmod_lt value (2 ^ 32) (by decide)
  rw [int32]
  omega

structure Framebuffer where
  width : Nat
  height : Nat
  deriving DecidableEq

/-- A framebuffer with its words. `supported` is `fb_is_supported`. -/
structure Surface extends Framebuffer where
  supported : Bool
  pixel : Nat × Nat → UInt32

def fbPutPixel (fb : Surface) (x y : Nat) (color : UInt32) : Surface :=
  if !fb.supported ∨ fb.width ≤ x ∨ fb.height ≤ y then fb
  else { fb with pixel := Function.update fb.pixel (x, y) color }

def fbGetPixel (fb : Surface) (x y : Nat) : UInt32 :=
  if !fb.supported ∨ fb.width ≤ x ∨ fb.height ≤ y then 0 else fb.pixel (x, y)

@[simp]
theorem fbPutPixel_toFramebuffer (fb : Surface) (x y : Nat) (color : UInt32) :
    (fbPutPixel fb x y color).toFramebuffer = fb.toFramebuffer := by
  unfold fbPutPixel
  split
  · rfl
  · rfl

@[simp]
theorem fbPutPixel_supported (fb : Surface) (x y : Nat) (color : UInt32) :
    (fbPutPixel fb x y color).supported = fb.supported := by
  unfold fbPutPixel
  split
  · rfl
  · rfl

theorem fbPutPixel_pixel (fb : Surface) (x y : Nat) (color : UInt32) (place : Nat × Nat) :
    (fbPutPixel fb x y color).pixel place
      = if fb.supported ∧ x < fb.width ∧ y < fb.height ∧ place = (x, y) then color
        else fb.pixel place := by
  unfold fbPutPixel
  by_cases hinside : fb.supported = true ∧ x < fb.width ∧ y < fb.height
  · rw [if_neg (by simp [hinside])]
    by_cases hplace : place = (x, y)
    · rw [if_pos ⟨hinside.1, hinside.2.1, hinside.2.2, hplace⟩]
      dsimp only
      rw [hplace, Function.update_self]
    · rw [if_neg fun hall => hplace hall.2.2.2]
      exact Function.update_of_ne hplace _ _
  · rw [if_pos, if_neg fun hall => hinside ⟨hall.1, hall.2.1, hall.2.2.1⟩]
    by_contra hnot
    simp only [Bool.not_eq_true', not_or, Bool.not_eq_false, Nat.not_le] at hnot
    exact hinside hnot

end DuckOs
