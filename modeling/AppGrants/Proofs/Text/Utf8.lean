import AppGrants.Text.Octets
import Mathlib.Tactic.IntervalCases

/-! Texts as bytes: a text is what its own bytes decode to, and they have no line feeds but its own. -/
namespace AppGrants.Text

theorem toList_loop (bytes : ByteArray) (i : Nat) (taken : List UInt8) :
    ByteArray.toList.loop bytes i taken = taken.reverse ++ bytes.data.toList.drop i := by
  induction i, taken using ByteArray.toList.loop.induct bytes with
  | case1 i taken inside ih =>
    have found : bytes.get! i = bytes.data[i] := getElem!_pos bytes.data i inside
    rw [ByteArray.toList.loop,if_pos inside,ih,List.reverse_cons,List.append_assoc,found,List.drop_eq_getElem_cons inside]
    rfl
  | case2 i taken outside =>
    have none_left : bytes.data.toList.length ≤ i := Nat.le_of_not_lt outside
    rw [ByteArray.toList.loop,if_neg outside,List.drop_eq_nil_of_le none_left,List.append_nil]

theorem utf8_eq (text : String) : utf8 text = text.toList.flatMap String.utf8EncodeChar := by
  have whole : text.toUTF8.data.toList = text.toList.flatMap String.utf8EncodeChar := by
    rw [String.toUTF8_eq_toByteArray,← String.utf8Encode_toList,List.utf8Encode,List.toList_data_toByteArray]
  rw [utf8,ByteArray.toList,toList_loop,whole]
  rfl

theorem decodeTail_cons {following value : Nat} {low high : UInt8} {byte : Nat} {rest : Bytes} (small : byte < 256)
    (least : low.toNat ≤ byte) (greatest : byte ≤ high.toNat) :
    decodeTail (following + 1) value low high (UInt8.ofNat byte :: rest) =
      decodeTail following (value * 64 + byte % 64) 0x80 0xBF rest := by
  have same : (UInt8.ofNat byte).toNat = byte := UInt8.toNat_ofNat_of_lt' small
  rw [decodeTail,if_pos,same]
  simp [UInt8.le_iff_toNat_le,same,least,greatest]

theorem continuation?_two {lead : Nat} (least : 0xC2 ≤ lead) (greatest : lead ≤ 0xDF) :
    continuation? (UInt8.ofNat lead) = some (0x80,0xBF,1) := by
  interval_cases lead <;> rfl

theorem continuation?_three {lead : Nat} (least : 0xE0 ≤ lead) (greatest : lead ≤ 0xEF) :
    continuation? (UInt8.ofNat lead) =
      some (if lead = 0xE0 then 0xA0 else 0x80,if lead = 0xED then 0x9F else 0xBF,2) := by
  interval_cases lead <;> rfl

theorem continuation?_four {lead : Nat} (least : 0xF0 ≤ lead) (greatest : lead ≤ 0xF4) :
    continuation? (UInt8.ofNat lead) =
      some (if lead = 0xF0 then 0x90 else 0x80,if lead = 0xF4 then 0x8F else 0xBF,3) := by
  interval_cases lead <;> rfl

theorem decodeFirst_multibyte {lead following : Nat} {low high : UInt8} {rest : Bytes} (least : 0x80 ≤ lead) (small : lead < 256)
    (continued : continuation? (UInt8.ofNat lead) = some (low,high,following)) :
    decodeFirst (UInt8.ofNat lead) rest = decodeTail following (lead % Nat.pow 2 (6 - following)) low high rest := by
  have same : (UInt8.ofNat lead).toNat = lead := UInt8.toNat_ofNat_of_lt' small
  have large : ¬UInt8.ofNat lead < 0x80 := by
    rw [UInt8.lt_iff_toNat_lt,same]
    exact Nat.not_lt.mpr least
  simp only [decodeFirst,if_neg large,continued,leadValue,same]

section
variable {v : Nat} {rest : Bytes}

theorem decodeFirst_one (least : v ≤ 0x7F) : decodeFirst (UInt8.ofNat v) rest = (some (Char.ofNat v),rest) := by
  have same : (UInt8.ofNat v).toNat = v := UInt8.toNat_ofNat_of_lt' (Nat.lt_of_le_of_lt least (by decide))
  have small : UInt8.ofNat v < 0x80 := by
    rw [UInt8.lt_iff_toNat_lt,same]
    exact Nat.lt_of_le_of_lt least (by decide)
  rw [decodeFirst,if_pos small,same]

theorem decodeFirst_two (least : 0x80 ≤ v) (greatest : v ≤ 0x7FF) :
    decodeFirst (UInt8.ofNat (v / 64 % 32 + 0xC0)) (UInt8.ofNat (v % 64 + 0x80) :: rest) = (some (Char.ofNat v),rest) := by
  have value : (v / 64 % 32 + 0xC0) % 2 ^ 5 * 64 + (v % 64 + 0x80) % 64 = v := by omega
  rw [decodeFirst_multibyte (by omega) (by omega) (continuation?_two (by omega) (by omega))]
  rw [decodeTail_cons (by omega) (by simp) (by simp; omega),decodeTail]
  exact congrArg (fun n => (some (Char.ofNat n),rest)) value

theorem decodeFirst_three (least : 0x800 ≤ v) (greatest : v ≤ 0xFFFF) (valid : v < 0xD800 ∨ 0xDFFF < v) :
    decodeFirst (UInt8.ofNat (v / 4096 % 16 + 0xE0)) (UInt8.ofNat (v / 64 % 64 + 0x80) :: UInt8.ofNat (v % 64 + 0x80) :: rest) =
      (some (Char.ofNat v),rest) := by
  have value : ((v / 4096 % 16 + 0xE0) % 2 ^ 4 * 64 + (v / 64 % 64 + 0x80) % 64) * 64 + (v % 64 + 0x80) % 64 = v := by omega
  rw [decodeFirst_multibyte (by omega) (by omega) (continuation?_three (by omega) (by omega)),decodeTail_cons (by omega),
    decodeTail_cons (by omega) (by simp) (by simp; omega),decodeTail]
  · exact congrArg (fun n => (some (Char.ofNat n),rest)) value
  · split
    · simp
      omega
    · simp
  · split
    · simp
      omega
    · simp
      omega

theorem decodeFirst_four (least : 0x10000 ≤ v) (greatest : v ≤ 0x10FFFF) :
    decodeFirst (UInt8.ofNat (v / 262144 % 8 + 0xF0)) (UInt8.ofNat (v / 4096 % 64 + 0x80) :: UInt8.ofNat (v / 64 % 64 + 0x80) ::
      UInt8.ofNat (v % 64 + 0x80) :: rest) = (some (Char.ofNat v),rest) := by
  have value : (((v / 262144 % 8 + 0xF0) % 2 ^ 3 * 64 + (v / 4096 % 64 + 0x80) % 64) * 64 + (v / 64 % 64 + 0x80) % 64) * 64 +
    (v % 64 + 0x80) % 64 = v := by omega
  rw [decodeFirst_multibyte (by omega) (by omega) (continuation?_four (by omega) (by omega)),decodeTail_cons (by omega),
    decodeTail_cons (by omega) (by simp) (by simp; omega),decodeTail_cons (by omega) (by simp) (by simp; omega),decodeTail]
  · exact congrArg (fun n => (some (Char.ofNat n),rest)) value
  · split
    · simp
      omega
    · simp
  · split
    · simp
      omega
    · simp
      omega

end

theorem decodeFirst_encoded (c : Char) (rest : Bytes) : ∃ lead tail, String.utf8EncodeChar c = lead :: tail ∧
    decodeFirst lead (tail ++ rest) = (some c,rest) := by
  have valid : c.val.toNat < 0xD800 ∨ 0xDFFF < c.val.toNat ∧ c.val.toNat < 0x110000 := c.valid
  have same : (some (Char.ofNat c.val.toNat),rest) = (some c,rest) := congrArg (fun c => (some c,rest)) (Char.ofNat_toNat c)
  -- One case for each number of bytes; only three of them could encode a surrogate.
  unfold String.utf8EncodeChar
  dsimp only
  split
  next one => exact ⟨_,_,rfl,(decodeFirst_one one).trans same⟩
  split
  next above two => exact ⟨_,_,rfl,(decodeFirst_two (Nat.lt_of_not_le above) two).trans same⟩
  split
  next above three => exact ⟨_,_,rfl,(decodeFirst_three (Nat.lt_of_not_le above) three (by omega)).trans same⟩
  next above => exact ⟨_,_,rfl,(decodeFirst_four (Nat.lt_of_not_le above) (by omega)).trans same⟩

theorem decodeWithin_encoded {cs : List Char} {fuel : Nat} (enough : (cs.flatMap String.utf8EncodeChar).length ≤ fuel) :
    decodeWithin fuel (cs.flatMap String.utf8EncodeChar) = cs.map some := by
  induction cs generalizing fuel with
  | nil => cases fuel <;> rfl
  | cons c rest ih =>
    obtain ⟨lead,tail,encoded,decoded⟩ := decodeFirst_encoded c (rest.flatMap String.utf8EncodeChar)
    rw [List.flatMap_cons,encoded,List.cons_append] at enough ⊢
    obtain ⟨fuel,rfl⟩ := Nat.exists_eq_add_one_of_ne_zero (Nat.ne_of_gt (Nat.lt_of_lt_of_le (Nat.succ_pos _) enough))
    rw [decodeWithin,decoded,List.map_cons]
    rw [List.length_cons,List.length_append] at enough
    exact congrArg _ (ih (by omega))

theorem mapM_map_some {α : Type} (items : List α) : (items.map some).mapM id = some items := by
  induction items with
  | nil => rfl
  | cons item rest ih => simp [ih]

theorem ofUtf8?_utf8 (text : String) : ofUtf8? (utf8 text) = some text := by
  have decoded : decodeAll (utf8 text) = text.toList.map some := by
    rw [utf8_eq]
    exact decodeWithin_encoded (Nat.le_refl _)
  rw [ofUtf8?,decoded,mapM_map_some,Option.map_some,String.ofList_toList]

theorem utf8_append (first second : String) : utf8 (first ++ second) = utf8 first ++ utf8 second := by
  rw [utf8_eq,utf8_eq,utf8_eq,String.toList_append,List.flatMap_append]

/-- Of a character beyond ASCII no byte is one of ASCII. -/
theorem ascii_mem_encoded {byte : UInt8} {c : Char} (small : byte < 0x80) (member : byte ∈ String.utf8EncodeChar c) :
    c = Char.ofNat byte.toNat := by
  have high {n : Nat} (least : 0x80 ≤ n) (bound : n < 256) : byte ≠ UInt8.ofNat n := by
    rintro rfl
    rw [UInt8.lt_iff_toNat_lt,UInt8.toNat_ofNat_of_lt' bound] at small
    exact Nat.not_lt.mpr least small
  unfold String.utf8EncodeChar at member
  dsimp only at member
  split at member
  next one =>
    obtain rfl := List.mem_singleton.mp member
    rw [UInt8.toNat_ofNat_of_lt' (Nat.lt_of_le_of_lt one (by decide))]
    exact (Char.ofNat_toNat c).symm
  split at member
  · simp only [List.mem_cons,List.not_mem_nil,or_false] at member
    rcases member with member | member
    all_goals exact absurd member (high (by omega) (by omega))
  split at member
  all_goals simp only [List.mem_cons,List.not_mem_nil,or_false] at member
  · rcases member with member | member | member
    all_goals exact absurd member (high (by omega) (by omega))
  · rcases member with member | member | member | member
    all_goals exact absurd member (high (by omega) (by omega))

theorem feed_mem_utf8 {text : String} (feed : 0x0A ∈ utf8 text) : '\n' ∈ text.toList := by
  rw [utf8_eq] at feed
  obtain ⟨c,member,byte⟩ := List.mem_flatMap.mp feed
  exact ascii_mem_encoded (by decide) byte ▸ member

def octetsOfChar (c : Char) : List Char := octetsOfBytes (String.utf8EncodeChar c)

theorem octets_eq (text : String) : octets text = text.toList.flatMap octetsOfChar := by
  rw [octets,octetsOfBytes,utf8_eq,List.map_flatMap]
  rfl

theorem octets_append (first second : String) : octets (first ++ second) = octets first ++ octets second := by
  rw [octets_eq,octets_eq,octets_eq,String.toList_append,List.flatMap_append]

theorem octetsOfChar_of_ascii {c : Char} (ascii : c.toNat < 128) : octetsOfChar c = [c] := by
  have one : String.utf8EncodeChar c = [UInt8.ofNat c.toNat] := by
    unfold String.utf8EncodeChar
    exact if_pos (Nat.le_of_lt_succ ascii)
  rw [octetsOfChar,one,octetsOfBytes,List.map_singleton,UInt8.toNat_ofNat_of_lt' (Nat.lt_trans ascii (by decide)),
    Char.ofNat_toNat]

theorem octets_of_ascii {text : String} (ascii : ∀ c ∈ text.toList, c.toNat < 128) : octets text = text.toList := by
  have same : ∀ c ∈ text.toList, octetsOfChar c = [c] := fun c member => octetsOfChar_of_ascii (ascii c member)
  rw [octets_eq,List.flatMap_def,List.map_congr_left same,← List.flatMap_def,List.flatMap_singleton']

theorem octetsOfChar_ne_nil (c : Char) : octetsOfChar c ≠ [] := by
  obtain ⟨lead,tail,encoded,-⟩ := decodeFirst_encoded c []
  simp [octetsOfChar,octetsOfBytes,encoded]

/-- An octet of ASCII is the character itself. -/
theorem eq_of_mem_octetsOfChar {c octet : Char} (ascii : octet.toNat < 128) (member : octet ∈ octetsOfChar c) : octet = c := by
  obtain ⟨byte,inside,rfl⟩ := List.mem_map.mp member
  have number : (Char.ofNat byte.toNat).toNat = byte.toNat := by
    rw [Char.ofNat,dif_pos (Or.inl (Nat.lt_trans byte.toNat_lt (by decide)))]
    rfl
  rw [number] at ascii
  exact (ascii_mem_encoded (UInt8.lt_iff_toNat_lt.mpr ascii) inside).symm

end AppGrants.Text
