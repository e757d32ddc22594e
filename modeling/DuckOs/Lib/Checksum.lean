import Mathlib.Data.Nat.ModEq
import Mathlib.Data.Set.Function

/-!
# Checksums that detect a changed symbol

A checksum folds a step over the symbols of a message. When the step loses nothing, neither of the
sum it starts from nor of the symbol it adds, messages that differ in one symbol have different sums.
Polynomials modulo a number that is coprime to their base are of this kind.
-/

namespace Checksum

variable {σ α : Type}

/-- On the sums in `sums` the step loses nothing. -/
structure Lossless (step : σ → α → σ) (sums : Set σ) : Prop where
  maps : ∀ sum ∈ sums, ∀ symbol, step sum symbol ∈ sums
  sum_injOn : ∀ symbol, Set.InjOn (fun sum => step sum symbol) sums
  symbol_injective : ∀ sum ∈ sums, Function.Injective (step sum)

namespace Lossless

variable {step : σ → α → σ} {sums : Set σ}

/-- Different sums stay different when the same symbols are added. -/
theorem foldl_injOn (hstep : Lossless step sums) (message : List α) :
    Set.InjOn (fun sum => message.foldl step sum) sums := by
  induction message with
  | nil => exact fun _ _ _ _ heq => heq
  | cons symbol rest ih =>
      intro left hleft right hright heq
      have hnext : step left symbol = step right symbol :=
        ih (hstep.maps left hleft symbol) (hstep.maps right hright symbol) heq
      exact hstep.sum_injOn symbol hleft hright hnext

/-- A message with one symbol replaced by a different one has a different sum. -/
theorem foldl_set_ne (hstep : Lossless step sums) {message : List α} {sum : σ} (hsum : sum ∈ sums)
    {index : Nat} (hindex : index < message.length) {symbol : α} (hsymbol : symbol ≠ message[index]) :
    (message.set index symbol).foldl step sum ≠ message.foldl step sum := by
  induction message generalizing sum index with
  | nil => cases hindex
  | cons head rest ih =>
      cases index with
      | zero =>
          intro heq
          have hnext : step sum symbol = step sum head :=
            hstep.foldl_injOn rest (hstep.maps sum hsum symbol) (hstep.maps sum hsum head) heq
          exact hsymbol (hstep.symbol_injective sum hsum hnext)
      | succ index =>
          exact ih (hstep.maps sum hsum head) (Nat.lt_of_succ_lt_succ hindex) hsymbol

end Lossless

/-- The step of a polynomial in `base` modulo `modulus`. -/
def polynomialStep (base modulus : Nat) (value : α → Nat) (sum : Nat) (symbol : α) : Nat :=
  (sum * base + value symbol) % modulus

theorem lossless_polynomialStep {base modulus : Nat} (hcoprime : Nat.Coprime modulus base)
    {value : α → Nat} (hvalue : Function.Injective value) (hlt : ∀ symbol, value symbol < modulus) :
    Lossless (polynomialStep base modulus value) {sum | sum < modulus} where
  maps := fun _ _ symbol => Nat.mod_lt _ ((Nat.zero_le _).trans_lt (hlt symbol))
  sum_injOn := by
    intro symbol left hleft right hright heq
    have hshifted : left * base + value symbol ≡ right * base + value symbol [MOD modulus] := heq
    have hscaled : left * base ≡ right * base [MOD modulus] := hshifted.add_right_cancel'
    have hsums : left ≡ right [MOD modulus] := Nat.ModEq.cancel_right_of_coprime hcoprime hscaled
    exact hsums.eq_of_lt_of_lt hleft hright
  symbol_injective := by
    intro sum _ left right heq
    have hshifted : sum * base + value left ≡ sum * base + value right [MOD modulus] := heq
    have hvalues : value left ≡ value right [MOD modulus] := hshifted.add_left_cancel'
    exact hvalue (hvalues.eq_of_lt_of_lt (hlt left) (hlt right))

end Checksum
