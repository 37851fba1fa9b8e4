import SpriteRenderer.Bytes

/-! # Words and their bytes

A word and its four bytes determine each other. -/

namespace SpriteRenderer.Bytes

theorem or_shiftLeft {k low : Nat} (high : Nat) (h : low < 1 <<< k) :
    low ||| high <<< k = low + high <<< k := by
  rw [Nat.one_shiftLeft] at h
  rw [Nat.or_comm, ← Nat.shiftLeft_add_eq_or_of_lt h, Nat.add_comm]

/-- The number that four bytes spell. -/
theorem toNat_toWord (a b c d : UInt8) :
    (toWord a b c d).toNat =
      a.toNat + b.toNat <<< 8 + c.toNat <<< 16 + d.toNat <<< 24 := by
  have ha := a.toNat_lt
  have hb := b.toNat_lt
  have hc := c.toNat_lt
  have hd := d.toNat_lt
  -- no byte is shifted out of the word
  have hb' : b.toNat <<< 8 < 2 ^ 32 := by omega
  have hc' : c.toNat <<< 16 < 2 ^ 32 := by omega
  have hd' : d.toNat <<< 24 < 2 ^ 32 := by omega
  have low : a.toNat ||| b.toNat <<< 8 = a.toNat + b.toNat <<< 8 := or_shiftLeft _ ha
  have middle : a.toNat ||| b.toNat <<< 8 ||| c.toNat <<< 16 =
      a.toNat + b.toNat <<< 8 + c.toNat <<< 16 := by
    rw [low, or_shiftLeft _ (by omega)]
  have shifted : (toWord a b c d).toNat =
      a.toNat ||| b.toNat <<< 8 ||| c.toNat <<< 16 ||| d.toNat <<< 24 := by
    have h8 : (8 : UInt32).toNat % 32 = 8 := rfl
    have h16 : (16 : UInt32).toNat % 32 = 16 := rfl
    have h24 : (24 : UInt32).toNat % 32 = 24 := rfl
    simp only [toWord, UInt32.toNat_or, UInt32.toNat_shiftLeft, UInt8.toNat_toUInt32, h8, h16, h24]
    rw [Nat.mod_eq_of_lt hb', Nat.mod_eq_of_lt hc', Nat.mod_eq_of_lt hd']
  rw [shifted, middle, or_shiftLeft _ (by omega)]

theorem toWord_ofWord (w : UInt32) :
    toWord w.toUInt8 (w >>> 8).toUInt8 (w >>> 16).toUInt8 (w >>> 24).toUInt8 = w := by
  have hw := w.toNat_lt
  apply UInt32.toNat_inj.mp
  rw [toNat_toWord]
  simp [Nat.shiftRight_eq_div_pow]
  omega

theorem ofWord_toWord (a b c d : UInt8) : ofWord (toWord a b c d) = [a, b, c, d] := by
  have ha := a.toNat_lt
  have hb := b.toNat_lt
  have hc := c.toNat_lt
  have hd := d.toNat_lt
  simp only [ofWord, List.cons.injEq, and_true]
  refine ⟨?_, ?_, ?_, ?_⟩
  all_goals
    apply UInt8.toNat_inj.mp
    simp [toNat_toWord, Nat.shiftRight_eq_div_pow]
    omega

/-- Bytes that make no word are at most three. -/
theorem short_or_word (bytes : List UInt8) :
    bytes.length ≤ 3 ∨ ∃ w rest, bytes = ofWord w ++ rest := by
  rcases bytes with _ | ⟨a, _ | ⟨b, _ | ⟨c, _ | ⟨d, rest⟩⟩⟩⟩
  · simp
  · simp
  · simp
  · simp
  · exact .inr ⟨toWord a b c d, rest, by simp [ofWord_toWord]⟩

@[simp] theorem ofWords_cons (w : UInt32) (ws : List UInt32) :
    ofWords (w :: ws) = ofWord w ++ ofWords ws := rfl

end SpriteRenderer.Bytes
