/-
Percent coding read back.

Every byte is read back as itself but the blank, which is written as a plus.  So a text comes back
with a plus in the place of each blank (`decode?_encode`), which is the text itself only where it
has no blank.  A reader that takes a plus for a blank first gets the text (`Query.decode_encode`).
-/
import GrantKeeper.Database.Query
import GrantKeeper.Proofs.Store.RoundTrip

namespace GrantKeeper

open Text

/-! ## Bytes of texts -/

theorem byteArray_toList_loop (data : ByteArray) (i : Nat) (read : List UInt8) :
    ByteArray.toList.loop data i read = read.reverse ++ data.data.toList.drop i := by
  fun_induction ByteArray.toList.loop data i read with
  | case1 i read h ih =>
    have hi : i < data.data.toList.length := h
    have hget : data.get! i = data.data.toList[i] := by
      show data.data[i]! = _
      rw [getElem!_pos data.data i h, Array.getElem_toList]
    rw [ih, List.drop_eq_getElem_cons hi, List.reverse_cons, List.append_assoc, hget]
    rfl
  | case2 i read h =>
    have hlength : data.data.toList.length ≤ i := Nat.le_of_not_lt h
    rw [List.drop_eq_nil_of_le hlength, List.append_nil]

theorem byteArray_toList (data : ByteArray) : data.toList = data.data.toList :=
  byteArray_toList_loop data 0 []

theorem toList_toUTF8 (s : String) : s.toUTF8.toList = s.toList.flatMap String.utf8EncodeChar := by
  show s.toByteArray.toList = _
  rw [byteArray_toList, ← String.utf8Encode_toList, List.utf8Encode, List.toList_data_toByteArray]

theorem fromUTF8?_bytes (cs : List Char) :
    String.fromUTF8? ⟨(cs.flatMap String.utf8EncodeChar).toArray⟩ = some (String.ofList cs) := by
  have hbytes : (⟨(cs.flatMap String.utf8EncodeChar).toArray⟩ : ByteArray) =
      (String.ofList cs).toUTF8 := by
    refine ByteArray.ext (Array.toList_inj.mp ?_)
    rw [← byteArray_toList, ← byteArray_toList, toList_toUTF8, String.toList_ofList,
      byteArray_toList]
  rw [hbytes, fromUTF8?_toUTF8]

/-- An ASCII character is one byte, its own number. -/
theorem utf8EncodeChar_of_ascii {c : Char} (h : c.toNat < 128) :
    String.utf8EncodeChar c = [UInt8.ofNat c.toNat] := by
  have hle : c.val.toNat ≤ 127 := Nat.le_of_lt_succ h
  rw [String.utf8EncodeChar, if_pos hle]
  rfl

/-- Among the bytes of any other character there is none of an ASCII one. -/
theorem le_of_mem_utf8EncodeChar {c : Char} (h : 128 ≤ c.toNat) {b : UInt8}
    (hb : b ∈ String.utf8EncodeChar c) : 128 ≤ b.toNat := by
  have hlong : ¬c.val.toNat ≤ 127 := Nat.not_le.mpr h
  have hbyte : ∀ n mark : Nat, 128 ≤ mark → n + mark < 256 →
      128 ≤ (UInt8.ofNat (n + mark)).toNat := by
    intro n mark hmark hsum
    rw [UInt8.toNat_ofNat', Nat.mod_eq_of_lt hsum]
    omega
  rw [String.utf8EncodeChar, if_neg hlong] at hb
  split at hb
  · simp only [List.mem_cons, List.not_mem_nil, or_false] at hb
    rcases hb with rfl | rfl <;> exact hbyte _ _ (by omega) (by omega)
  · split at hb
    · simp only [List.mem_cons, List.not_mem_nil, or_false] at hb
      rcases hb with rfl | rfl | rfl <;> exact hbyte _ _ (by omega) (by omega)
    · simp only [List.mem_cons, List.not_mem_nil, or_false] at hb
      rcases hb with rfl | rfl | rfl | rfl <;> exact hbyte _ _ (by omega) (by omega)

/-- Putting another byte for that of the blank puts the character of that byte for the blank. -/
theorem map_utf8EncodeChar {sign : Char} {byte : UInt8} (h : String.utf8EncodeChar sign = [byte])
    (c : Char) :
    (String.utf8EncodeChar c).map (fun b => if b = 0x20 then byte else b) =
      String.utf8EncodeChar (if c = ' ' then sign else c) := by
  by_cases hblank : c = ' '
  · subst hblank
    rw [if_pos rfl, h]
    rfl
  · -- The byte of a blank is not among those of a character of several bytes.
    have hkept : ∀ b ∈ String.utf8EncodeChar c, b ≠ 0x20 := by
      rintro b hb rfl
      by_cases hascii : c.toNat < 128
      · rw [utf8EncodeChar_of_ascii hascii, List.mem_singleton] at hb
        have hnat : c.toNat = ' '.toNat := by
          have hbyte := congrArg UInt8.toNat hb
          rw [UInt8.toNat_ofNat', Nat.mod_eq_of_lt (by omega)] at hbyte
          exact hbyte.symm
        exact hblank (Char.toNat_inj.mp hnat)
      · have hlarge := le_of_mem_utf8EncodeChar (Nat.le_of_not_lt hascii) hb
        exact absurd hlarge (by decide)
    rw [if_neg hblank]
    exact (List.map_congr_left fun b hb => if_neg (hkept b hb)).trans (List.map_id _)

namespace Percent

/-! ## Single bytes -/

theorem toNat_ofNat_of_lt {n : Nat} (h : n < 256) : (Char.ofNat n).toNat = n := by
  have hvalid : n.isValidChar := Or.inl (by omega)
  rw [Char.ofNat, dif_pos hvalid]
  rfl

theorem hexValue?_upperHexDigit {n : Nat} (h : n < 16) : hexValue? (upperHexDigit n) = some n := by
  have hall : ∀ n < 16, hexValue? (upperHexDigit n) = some n := by decide
  exact hall n h

theorem upperHexDigit_ne_plus {n : Nat} (h : n < 16) : upperHexDigit n ≠ '+' := by
  have hall : ∀ n < 16, upperHexDigit n ≠ '+' := by decide
  exact hall n h

/-- A byte that is written as a character is that of an ASCII character other than the signs of the
coding. -/
theorem toNat_of_isPlain {b : UInt8} (h : isPlain b = true) :
    b.toNat < 128 ∧ b.toNat ≠ '%'.toNat ∧ b.toNat ≠ '+'.toNat ∧ b.toNat ≠ ' '.toNat := by
  have hpercent : '%'.toNat = 0x25 := rfl
  have hplus : '+'.toNat = 0x2B := rfl
  have hblank : ' '.toNat = 0x20 := rfl
  simp only [isPlain, Bool.or_eq_true, Bool.and_eq_true, decide_eq_true_eq, beq_iff_eq] at h
  omega

theorem decodeBytes_cons {c : Char} (h : c ≠ '%') (rest : List Char) :
    decodeBytes (c :: rest) = String.utf8EncodeChar c ++ decodeBytes rest := by
  rw [decodeBytes.eq_2 c rest fun _ _ _ hc _ => h hc, toList_toUTF8, String.toList_singleton,
    List.flatMap_singleton]

section

/-! A reader may put another ASCII character for the plus before it decodes. -/

variable {f : Char → Char} {sign : Char} (hf : ∀ c, c ≠ '+' → f c = c) (hplus : f '+' = sign)
  (hascii : sign.toNat < 128) (hpercent : sign ≠ '%')

include hf hplus hascii hpercent

theorem decodeBytes_encodeByte (b : UInt8) (rest : List Char) :
    decodeBytes ((encodeByte b).map f ++ rest) =
      (if b = 0x20 then UInt8.ofNat sign.toNat else b) :: decodeBytes rest := by
  have hlt : b.toNat < 256 := b.toNat_lt_size
  -- A byte is written as its own character, as a plus or by two digits, and read back by that.
  unfold encodeByte
  split
  · next hplain =>
    obtain ⟨hbyte, hnotPercent, hnotPlus, hnotBlank⟩ := toNat_of_isPlain hplain
    have hnat := toNat_ofNat_of_lt hlt
    have hpercent : Char.ofNat b.toNat ≠ '%' := fun h => hnotPercent (by rw [← hnat, h])
    have hplus : Char.ofNat b.toNat ≠ '+' := fun h => hnotPlus (by rw [← hnat, h])
    have hblank : b ≠ 0x20 := fun h => hnotBlank (by rw [h]; rfl)
    rw [List.map_singleton, hf _ hplus, List.singleton_append, decodeBytes_cons hpercent,
      utf8EncodeChar_of_ascii (hnat.trans_lt hbyte), hnat, if_neg hblank, UInt8.ofNat_toNat]
    rfl
  · split
    · next hblank =>
      have hblank : b = 0x20 := UInt8.toNat_inj.mp hblank
      rw [List.map_singleton, hplus, List.singleton_append, decodeBytes_cons hpercent,
        utf8EncodeChar_of_ascii hascii, if_pos hblank]
      rfl
    · next hblank =>
      have hblank : b ≠ 0x20 := fun h => hblank (by rw [h]; rfl)
      have hhigh : b.toNat / 16 < 16 := by omega
      have hlow : b.toNat % 16 < 16 := by omega
      have hbyte : b.toNat / 16 * 16 + b.toNat % 16 = b.toNat := by omega
      rw [List.map_cons, List.map_cons, List.map_singleton, hf _ (by decide),
        hf _ (upperHexDigit_ne_plus hhigh), hf _ (upperHexDigit_ne_plus hlow)]
      simp only [List.cons_append, List.nil_append, decodeBytes, hexValue?_upperHexDigit hhigh,
        hexValue?_upperHexDigit hlow, hbyte, UInt8.ofNat_toNat, if_neg hblank]

theorem decodeBytes_flatMap (bytes : List UInt8) :
    decodeBytes ((bytes.flatMap encodeByte).map f) =
      bytes.map fun b => if b = 0x20 then UInt8.ofNat sign.toNat else b := by
  induction bytes with
  | nil => rfl
  | cons b bytes ih =>
    rw [List.flatMap_cons, List.map_append, decodeBytes_encodeByte hf hplus hascii hpercent, ih,
      List.map_cons]

/-- A written text is read as the text with the character put for the plus in the place of each
blank. -/
theorem decode?_map_encode (s : String) :
    decode? (String.ofList ((encode s).toList.map f)) =
      some (String.ofList (s.toList.map fun c => if c = ' ' then sign else c)) := by
  have hbytes : ((s.toList.flatMap String.utf8EncodeChar).map fun b =>
        if b = 0x20 then UInt8.ofNat sign.toNat else b) =
      (s.toList.map fun c => if c = ' ' then sign else c).flatMap String.utf8EncodeChar := by
    rw [List.map_flatMap, List.flatMap_map]
    congr 1
    exact funext (map_utf8EncodeChar (utf8EncodeChar_of_ascii hascii))
  rw [decode?, encode, String.toList_ofList, String.toList_ofList,
    decodeBytes_flatMap hf hplus hascii hpercent, toList_toUTF8, hbytes, fromUTF8?_bytes]

end

/-! ## Texts -/

/-- The text with a plus for every blank. -/
def blanksAsPlus (s : String) : String :=
  String.ofList (s.toList.map fun c => if c = ' ' then '+' else c)

theorem decode?_encode (s : String) : decode? (encode s) = some (blanksAsPlus s) := by
  have hread := decode?_map_encode (f := id) (fun _ _ => rfl) rfl (by decide) (by decide) s
  rwa [List.map_id, String.ofList_toList] at hread

theorem blanksAsPlus_eq_self_iff {s : String} : blanksAsPlus s = s ↔ ' ' ∉ s.toList := by
  constructor
  · intro h hblank
    have hplain : ' ' ∉ (blanksAsPlus s).toList := by
      rw [blanksAsPlus, String.toList_ofList]
      intro hmem
      obtain ⟨c, _, hc⟩ := List.mem_map.mp hmem
      split at hc
      · cases hc
      · next hother => exact hother hc
    rw [h] at hplain
    exact hplain hblank
  · intro h
    have hnone : ∀ c ∈ s.toList, c ≠ ' ' := fun c hc heq => h (heq ▸ hc)
    have hkept : (s.toList.map fun c => if c = ' ' then '+' else c) = s.toList :=
      (List.map_congr_left fun c hc => if_neg (hnone c hc)).trans (List.map_id _)
    rw [blanksAsPlus, hkept, String.ofList_toList]

theorem decode?_encode_eq_self_iff {s : String} :
    decode? (encode s) = some s ↔ ' ' ∉ s.toList := by
  rw [decode?_encode, Option.some_inj, blanksAsPlus_eq_self_iff]

/-- The characters of written forms: ASCII letters and digits and six signs. -/
def isWritten (c : Char) : Bool :=
  c.isAlphanum || ['_', '.', '-', '~', '+', '%'].contains c

theorem isWritten_of_mem_encode {s : String} {c : Char} (h : c ∈ (encode s).toList) :
    isWritten c = true := by
  have hall : ∀ n < 256, (encodeByte (UInt8.ofNat n)).all isWritten = true := by decide +kernel
  rw [encode, String.toList_ofList] at h
  obtain ⟨b, _, hb⟩ := List.mem_flatMap.mp h
  rw [← UInt8.ofNat_toNat (x := b)] at hb
  exact List.all_eq_true.mp (hall b.toNat b.toNat_lt_size) c hb

end Percent

/-- A reader of options gives the text back. -/
theorem Query.decode_encode (s : String) : Query.decode (Percent.encode s).toList = s := by
  have hread := Percent.decode?_map_encode (f := fun c => if c = '+' then ' ' else c)
    (fun c h => if_neg h) (if_pos rfl)
    (by decide) (by decide) s
  have hsame : (s.toList.map fun c => if c = ' ' then ' ' else c) = s.toList :=
    List.map_id'' (fun c => by split <;> simp_all) s.toList
  unfold Query.decode
  dsimp only
  rw [hread, hsame, String.ofList_toList, Option.getD_some]

end GrantKeeper
