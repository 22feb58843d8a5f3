import Mathlib.Data.String.Basic
import Backoffice.Text.Bytes

namespace Backoffice.Text

def bytes (s : String) : List UInt8 := s.toUTF8.data.toList

theorem bytes_eq (s : String) : bytes s = s.toList.flatMap String.utf8EncodeChar := by
  conv_lhs => rw [← String.ofList_toList (s := s)]
  exact List.toList_data_toByteArray

theorem encode_append_lt {c d : Char} (h : c < d) (l r : List UInt8) :
    String.utf8EncodeChar c ++ l < String.utf8EncodeChar d ++ r := by
  have hlt : c.val.toNat < d.val.toNat := h
  have hd : d.val.toNat < 0x110000 := by
    rcases d.valid with hv | hv
    · exact Nat.lt_of_lt_of_le hv (by decide)
    · exact hv.2
  simp only [String.utf8EncodeChar]
  generalize c.val.toNat = m at *
  generalize d.val.toNat = n at *
  have h₁ : m / 64 ≤ n / 64 := Nat.div_le_div_right hlt.le
  have h₂ : m / 4096 ≤ n / 4096 := Nat.div_le_div_right hlt.le
  -- One case for each two lengths; the first byte tells the lengths apart, digits of 64 do the rest.
  split_ifs <;>
    simp only [List.cons_append, List.nil_append, List.cons_lt_cons_iff, UInt8.lt_iff_toNat_lt,
      ← UInt8.toNat_inj, UInt8.toNat_ofNat'] <;>
    simp (disch := omega) only [Nat.mod_eq_of_lt] <;> omega

theorem flatMap_encode_lt {cs ds : List Char} (h : cs < ds) :
    cs.flatMap String.utf8EncodeChar < ds.flatMap String.utf8EncodeChar := by
  induction h with
  | @nil d ds =>
    obtain ⟨b, bs, hb⟩ := List.exists_cons_of_ne_nil (String.utf8EncodeChar_ne_nil (c := d))
    rw [List.flatMap_cons, hb]
    exact List.nil_lt_cons _ _
  | rel h => exact encode_append_lt h _ _
  | cons _ ih => exact List.append_left_lt ih

/-- The order of texts is that of their bytes. -/
theorem lt_iff_bytes_lt {s t : String} : s < t ↔ bytes s < bytes t := by
  have mono {s t : String} (h : s < t) : bytes s < bytes t := by
    rw [bytes_eq, bytes_eq]
    exact flatMap_encode_lt (String.lt_iff_toList_lt.mp h)
  refine ⟨mono, fun h ↦ ?_⟩
  rcases lt_trichotomy s t with hst | rfl | hst
  · exact hst
  · exact absurd h (List.lt_irrefl _)
  · exact absurd (mono hst) (List.lt_asymm h)

theorem flatMap_encode_isPrefix {cs ds : List Char} :
    cs.flatMap String.utf8EncodeChar <+: ds.flatMap String.utf8EncodeChar ↔ cs <+: ds := by
  induction cs generalizing ds with
  | nil => simp
  | cons c cs ih =>
    cases ds with
    | nil => simp [List.prefix_nil, String.utf8EncodeChar_ne_nil]
    | cons d ds =>
      simp only [List.flatMap_cons, List.cons_prefix_cons]
      by_cases hcd : c = d
      · rw [hcd, List.prefix_append_right_inj, ih]
        exact (and_iff_right rfl).symm
      · refine iff_of_false (fun ⟨rest, h⟩ ↦ ?_) fun h ↦ hcd h.1
        rw [List.append_assoc] at h
        rcases lt_or_gt_of_ne hcd with hlt | hgt
        · exact List.lt_irrefl _ (h ▸ encode_append_lt hlt (_ ++ rest) (ds.flatMap _))
        · exact List.lt_irrefl _ (h ▸ encode_append_lt hgt (ds.flatMap _) (_ ++ rest))

theorem flatMap_encode_inj {cs ds : List Char}
    (h : cs.flatMap String.utf8EncodeChar = ds.flatMap String.utf8EncodeChar) : cs = ds :=
  (flatMap_encode_isPrefix.mp (h ▸ List.prefix_rfl)).eq_of_length_le
    (flatMap_encode_isPrefix.mp (h ▸ List.prefix_rfl)).length_le

theorem bytes_isPrefix {s t : String} : bytes s <+: bytes t ↔ s.toList <+: t.toList := by
  rw [bytes_eq, bytes_eq, flatMap_encode_isPrefix]

end Backoffice.Text
