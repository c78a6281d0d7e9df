-- SUMMARY: Texts are ordered as their bytes in UTF-8 are.
import RefactorAudit.Proofs.Collection.Canonical

/-!
# The order of bytes

Texts are compared character by character. That is the order of their bytes in UTF-8: a greater
character has more bytes, and then a greater first byte, or as many bytes, which hold its digits
from the greatest on.
-/

namespace RefactorAudit.Text

variable {c d : Char} {cs ds : List Char} {a b : String}

/-- The bytes of a text in UTF-8. -/
def bytes (s : String) : List UInt8 := s.toUTF8.data.toList

theorem bytes_eq (s : String) : bytes s = s.toList.flatMap String.utf8EncodeChar := by
  have h : s.toByteArray = (s.toList.flatMap String.utf8EncodeChar).toByteArray := by
    rw [← String.utf8Encode_toList, List.utf8Encode]
  simp [bytes, h]

theorem encode_append_lt (h : c < d) (xs ys : List UInt8) :
    String.utf8EncodeChar c ++ xs < String.utf8EncodeChar d ++ ys := by
  have hlt : c.toNat < d.toNat := h
  have hvalid : d.toNat.isValidChar := d.valid
  simp only [Nat.isValidChar] at hvalid
  simp only [String.utf8EncodeChar, Char.toNat_val]
  -- one case for each pair of lengths; what is left says which byte is the first that differs
  repeat' split
  all_goals
    simp (disch := omega) only [List.cons_append, List.nil_append, List.cons_lt_cons_iff,
      UInt8.lt_iff_toNat_lt, ← UInt8.toNat_inj, UInt8.toNat_ofNat', Nat.mod_eq_of_lt]
    omega

theorem flatMap_encode_lt (h : cs < ds) :
    cs.flatMap String.utf8EncodeChar < ds.flatMap String.utf8EncodeChar := by
  induction h with
  | @nil d ds =>
    obtain ⟨byte, bytes, hbytes⟩ := List.exists_cons_of_ne_nil (@String.utf8EncodeChar_ne_nil d)
    simp only [List.flatMap_cons, hbytes]
    exact List.Lex.nil
  | rel h =>
    simp only [List.flatMap_cons]
    exact encode_append_lt h _ _
  | cons _ ih =>
    simp only [List.flatMap_cons]
    exact List.append_left_lt ih

/-- The order of texts is the order of their bytes. -/
theorem bytes_lt_bytes_iff : bytes a < bytes b ↔ a < b := by
  simp only [bytes_eq]
  constructor
  · intro h
    rcases Std.lt_trichotomy a b with hlt | rfl | hgt
    · exact hlt
    · exact absurd h (List.lt_irrefl _)
    · exact absurd h (List.lt_asymm (flatMap_encode_lt hgt))
  · intro h
    exact flatMap_encode_lt h

/-- Each text is less than all behind it, byte by byte. -/
def AscendByBytes (texts : List String) : Prop := texts.Pairwise fun a b => bytes a < bytes b

theorem ascendByBytes_iff {texts : List String} :
    AscendByBytes texts ↔ Ascending.Sorted texts := by
  simp only [AscendByBytes, Ascending.Sorted, bytes_lt_bytes_iff]

theorem AscendByBytes.nodup {texts : List String} (h : AscendByBytes texts) : texts.Nodup := by
  apply List.Pairwise.imp _ h
  rintro a _ hlt rfl
  exact List.lt_irrefl _ hlt

end RefactorAudit.Text
