import DataStaging.Proofs.Files.Steps
import Mathlib.Data.String.Basic

/-!
# The order of texts and the order of bytes

Texts are ordered by their characters. Their bytes, compared from the first one on, are ordered the
same way: the lead byte tells how many bytes a character takes, and more bytes mean a larger one.

Results:
* `encodePoint_lt`: the bytes of two code points.
* `encode_lt_encode`: the bytes of two texts.
-/

namespace DataStaging.Utf8

theorem ofNat_lt_ofNat {m n : Nat} (hm : m < 256) (hn : n < 256) :
    UInt8.ofNat m < UInt8.ofNat n ↔ m < n := by
  rw [UInt8.lt_iff_toNat_lt, UInt8.toNat_ofNat', UInt8.toNat_ofNat', Nat.mod_eq_of_lt hm,
    Nat.mod_eq_of_lt hn]

theorem ofNat_eq_ofNat {m n : Nat} (hm : m < 256) (hn : n < 256) :
    UInt8.ofNat m = UInt8.ofNat n ↔ m = n := by
  rw [← UInt8.toNat_inj, UInt8.toNat_ofNat', UInt8.toNat_ofNat', Nat.mod_eq_of_lt hm,
    Nat.mod_eq_of_lt hn]

/-- Whatever follows them, the bytes of a smaller code point come before those of a larger one. -/
theorem encodePoint_lt {m n : Nat} (h : m < n) (hn : n < 0x110000) (rest rest' : Bytes) :
    encodePoint m ++ rest < encodePoint n ++ rest' := by
  unfold encodePoint
  split_ifs <;>
    simp (disch := omega) only [List.cons_append, List.nil_append, List.cons_lt_cons_iff,
      ofNat_lt_ofNat, ofNat_eq_ofNat] <;>
    omega

theorem encodeChars_lt {cs ds : List Char} (h : cs < ds) : encodeChars cs < encodeChars ds := by
  induction h with
  | @nil d ds =>
    have hne : encodeChars (d :: ds) ≠ [] := fun hnil => by cases encodeChars_eq_nil.mp hnil
    obtain ⟨b, bytes, hbytes⟩ := List.exists_cons_of_ne_nil hne
    rw [hbytes]
    exact List.nil_lt_cons b bytes
  | @cons c cs ds _ ih =>
    rw [encodeChars_cons, encodeChars_cons]
    exact List.append_left_lt ih
  | @rel c cs d ds hcd =>
    rw [encodeChars_cons, encodeChars_cons]
    exact encodePoint_lt hcd (toNat_lt d) _ _

/-- Texts and their bytes are in the same order. -/
theorem encode_lt_encode {s s' : String} (h : s < s') : encode s < encode s' :=
  encodeChars_lt (String.lt_iff_toList_lt.mp h)

end DataStaging.Utf8
