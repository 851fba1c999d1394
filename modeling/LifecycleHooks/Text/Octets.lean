import LifecycleHooks.Text.Bytes

/-!
Texts of octets: texts that have one character for each byte. Whatever bytes they stand for, nothing
is lost, and their lengths and their order are those of the bytes.
-/

namespace LifecycleHooks.Text

def ofOctets (bytes : Bytes) : String :=
  String.ofList (bytes.map fun byte => Char.ofNat byte.toNat)

def octets (text : String) : Bytes := text.toList.map fun c => c.toNat.toUInt8

def toOctets (text : String) : String := ofOctets (encode text)

def fromOctets (text : String) : String := decodeLossy (octets text)

theorem toNat_ofNat_of_isValidChar (n : Nat) (valid : n.isValidChar) : (Char.ofNat n).toNat = n := by
  unfold Char.ofNat
  rw [dif_pos valid]
  rfl

theorem octets_ofOctets (bytes : Bytes) : octets (ofOctets bytes) = bytes := by
  have back (byte : UInt8) : (Char.ofNat byte.toNat).toNat.toUInt8 = byte := by
    have small : byte.toNat < 256 := byte.toNat_lt
    rw [toNat_ofNat_of_isValidChar _ (Or.inl (by omega))]
    exact UInt8.ofNat_toNat
  simp only [octets, ofOctets, String.toList_ofList, List.map_map]
  conv => rhs; rw [← List.map_id bytes]
  exact List.map_congr_left fun byte _ => back byte

end LifecycleHooks.Text
