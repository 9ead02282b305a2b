import Mathlib.Data.List.Lex
import Mathlib.Data.String.Basic

/-!
# The order of texts and of their bytes

Texts are ordered by their characters.  Their bytes in UTF-8 are in the same order: the codes of two
characters differ first where the greater character has the greater byte (`utf8EncodeChar_lt`), so
the texts do too (`bytes_lt`).
-/

namespace Screener.Text

/-- The bytes of a text. -/
def bytes (text : String) : List UInt8 := text.toUTF8.data.toList

theorem bytes_eq (text : String) : bytes text = text.toList.flatMap String.utf8EncodeChar := by
  rw [bytes, String.toUTF8, ← String.utf8Encode_toList, List.utf8Encode]
  simp

theorem toNat_lt (c : Char) : c.toNat < 0x110000 := by
  have hvalid : c.toNat < 0xD800 ∨ 0xDFFF < c.toNat ∧ c.toNat < 0x110000 := c.valid
  omega

theorem mod_add_mod (base k n : Nat) (hbase : 0 < base) (hfits : base + k ≤ 256) :
    (n % base + k) % 256 = n % base + k := by
  have := Nat.mod_lt n hbase
  exact Nat.mod_eq_of_lt (by omega)

/-- The digits that a code of four bytes is made of are in the order of the numbers. -/
theorem digits_lt {m n : Nat} (hlt : m < n) (hn : n ≤ 0x10ffff) :
    m / 262144 % 8 < n / 262144 % 8 ∨ m / 262144 % 8 = n / 262144 % 8 ∧
      (m / 4096 % 64 < n / 4096 % 64 ∨ m / 4096 % 64 = n / 4096 % 64 ∧
        (m / 64 % 64 < n / 64 % 64 ∨ m / 64 % 64 = n / 64 % 64 ∧ m % 64 < n % 64)) := by
  have h₁ : m / 262144 ≤ n / 262144 := Nat.div_le_div_right hlt.le
  have h₂ : m / 4096 ≤ n / 4096 := Nat.div_le_div_right hlt.le
  have h₃ : m / 64 ≤ n / 64 := Nat.div_le_div_right hlt.le
  rcases h₁.lt_or_eq with h₁ | h₁
  · exact .inl (by omega)
  refine .inr ⟨by omega, ?_⟩
  rcases h₂.lt_or_eq with h₂ | h₂
  · exact .inl (by omega)
  refine .inr ⟨by omega, ?_⟩
  rcases h₃.lt_or_eq with h₃ | h₃
  · exact .inl (by omega)
  exact .inr ⟨by omega, by omega⟩

/-- The code of a lesser character comes first, whatever follows the two. -/
theorem utf8EncodeChar_lt {c d : Char} (hlt : c < d) (cs ds : List UInt8) :
    String.utf8EncodeChar c ++ cs < String.utf8EncodeChar d ++ ds := by
  have hcodes : c.val.toNat < d.val.toNat := hlt
  have hd : d.val.toNat ≤ 0x10ffff := Nat.le_of_lt_succ (toNat_lt d)
  unfold String.utf8EncodeChar
  generalize c.val.toNat = m at hcodes ⊢
  generalize d.val.toNat = n at hcodes hd ⊢
  have hdigits := digits_lt hcodes hd
  dsimp only
  -- a code has one to four bytes, so there are sixteen cases, each a matter of arithmetic
  split <;> split_ifs <;>
    simp only [List.cons_append, List.nil_append, List.cons_lt_cons_iff, UInt8.lt_iff_toNat_lt,
      ← UInt8.toNat_inj, UInt8.toNat_ofNat', Nat.reducePow,
      mod_add_mod 64 128 _ (by decide) (by decide),
      mod_add_mod 8 240 _ (by decide) (by decide)] <;>
    omega

theorem flatMap_lt {cs ds : List Char} (hlt : cs < ds) :
    cs.flatMap String.utf8EncodeChar < ds.flatMap String.utf8EncodeChar := by
  induction cs generalizing ds with
  | nil =>
      cases ds with
      | nil => exact absurd hlt (List.lt_irrefl [])
      | cons d ds =>
          obtain ⟨byte, bytes, hcode⟩ :=
            List.exists_cons_of_ne_nil (String.utf8EncodeChar_ne_nil (c := d))
          rw [List.flatMap_cons, hcode]
          exact List.nil_lt_cons _ _
  | cons c cs ih =>
      cases ds with
      | nil => exact absurd hlt (List.not_lt_nil _)
      | cons d ds =>
          rw [List.flatMap_cons, List.flatMap_cons]
          rcases List.cons_lt_cons_iff.mp hlt with hfirst | ⟨rfl, hrest⟩
          · exact utf8EncodeChar_lt hfirst _ _
          · exact List.append_left_lt (ih hrest)

/-- The bytes of texts are in the order of the texts. -/
theorem bytes_lt {s t : String} (hlt : s < t) : bytes s < bytes t := by
  rw [bytes_eq, bytes_eq]
  exact flatMap_lt (String.lt_iff_toList_lt.mp hlt)

end Screener.Text
