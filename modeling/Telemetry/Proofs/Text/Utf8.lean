import Mathlib.Data.List.Lex
import Mathlib.Data.String.Basic

/-! # The order of texts is the order of their bytes

Texts are compared by code points.  UTF-8 gives a greater code point greater bytes, first of all
where their lengths differ, so comparing the bytes gives the same order (`bytes_lt_iff`).

It is enough to look at the first characters in which two texts differ.  Characters of different
lengths differ in the first byte, and those of one length in the first group of six bits in which
their code points do (`utf8EncodeChar_append_lt`); what comes behind does not matter then.
-/

namespace Telemetry.Text

/-- The bytes of a text in UTF-8. -/
def bytes (s : String) : List UInt8 := s.toUTF8.data.toList

theorem bytes_eq (s : String) : bytes s = s.toList.flatMap String.utf8EncodeChar := by
  unfold bytes
  rw [String.toUTF8_eq_toByteArray, ← String.utf8Encode_toList]
  exact List.toList_data_toByteArray

/-- Greater characters have greater bytes, whatever follows them on either side. -/
theorem utf8EncodeChar_append_lt {c d : Char} (h : c < d) (s t : List UInt8) :
    String.utf8EncodeChar c ++ s < String.utf8EncodeChar d ++ t := by
  have hlt : c.val.toNat < d.val.toNat := UInt32.lt_iff_toNat_lt.mp h
  have hd : d.val.toNat < 1114112 := by
    rcases d.valid with hvalid | hvalid <;> omega
  have hbyte {m n : Nat} (hm : m < 256) (hn : n < 256) :
      UInt8.ofNat m < UInt8.ofNat n ↔ m < n := by
    rw [UInt8.lt_iff_toNat_lt, UInt8.toNat_ofNat_of_lt' hm, UInt8.toNat_ofNat_of_lt' hn]
  have hsame {m n : Nat} (hm : m < 256) (hn : n < 256) :
      UInt8.ofNat m = UInt8.ofNat n ↔ m = n := by
    rw [← UInt8.toNat_inj, UInt8.toNat_ofNat_of_lt' hm, UInt8.toNat_ofNat_of_lt' hn]
  have hdigits {n : Nat} (hn : n < 1114112) : n / 262144 % 8 = n / 262144 ∧
      n / 4096 % 64 = n / 4096 - 64 * (n / 262144) ∧ n / 64 % 64 = n / 64 - 64 * (n / 4096) := by
    omega
  unfold String.utf8EncodeChar
  generalize c.val.toNat = m at *
  generalize d.val.toNat = n at *
  obtain ⟨hm₁, hm₂, hm₃⟩ := hdigits (hlt.trans hd)
  obtain ⟨hn₁, hn₂, hn₃⟩ := hdigits hd
  -- the first byte tells the length, and after it each byte holds the next six bits
  dsimp only
  split_ifs <;>
    simp (disch := omega) only [List.cons_append, List.cons_lt_cons_iff, hbyte, hsame] <;>
    omega

theorem flatMap_utf8EncodeChar_lt {s t : List Char} (h : s < t) :
    s.flatMap String.utf8EncodeChar < t.flatMap String.utf8EncodeChar := by
  induction h with
  | @nil d t =>
    rw [List.flatMap_nil, List.flatMap_cons]
    cases hd : String.utf8EncodeChar d with
    | nil => exact absurd hd String.utf8EncodeChar_ne_nil
    | cons x xs => exact List.Lex.nil
  | rel h =>
    rw [List.flatMap_cons, List.flatMap_cons]
    exact utf8EncodeChar_append_lt h _ _
  | cons h ih =>
    rw [List.flatMap_cons, List.flatMap_cons]
    exact List.Lex.append_left _ ih _

/-- **Comparing texts and comparing their bytes come to the same.**  The one direction is by
induction on the texts, and the other follows since the order is total. -/
theorem bytes_lt_iff {s t : String} : bytes s < bytes t ↔ s < t := by
  have hmono {s t : String} (h : s < t) : bytes s < bytes t := by
    rw [bytes_eq, bytes_eq]
    exact flatMap_utf8EncodeChar_lt (String.lt_iff.mp h)
  refine ⟨fun h => ?_, hmono⟩
  rcases lt_trichotomy s t with hlt | rfl | hgt
  · exact hlt
  · exact absurd h (List.lt_irrefl _)
  · exact absurd h (List.lt_asymm (hmono hgt))

end Telemetry.Text
