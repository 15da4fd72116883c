import DocumentSchema.Text.Utf8
import Mathlib.Data.List.Basic

/-!
# Decoding what was encoded

Every character is encoded by octets that decode to it again, in whatever comes before and after, so
a text that was encoded is decoded to itself. Octets below 128 stand for nothing but the characters
with these numbers; so where a text has no line feed its octets have none.
-/

namespace DocumentSchema

/-! ## Octets of a text -/

theorem toList_byteArray (bytes : ByteArray) : bytes.toList = bytes.data.toList := by
  have hsize : bytes.data.toList.length = bytes.size := rfl
  have hloop : ∀ count index (done : List UInt8), index + count = bytes.size →
      ByteArray.toList.loop bytes index done = done.reverse ++ bytes.data.toList.drop index := by
    intro count
    induction count with
    | zero =>
      intro index done hend
      rw [ByteArray.toList.loop.eq_def, if_neg (by omega), List.drop_eq_nil_of_le (by omega),
        List.append_nil]
    | succ count ih =>
      intro index done hend
      have hindex : index < bytes.data.toList.length := by omega
      have hget : bytes.get! index = bytes.data.toList[index] := by
        rw [ByteArray.get!, getElem!_pos bytes.data index hindex]
        rfl
      rw [ByteArray.toList.loop.eq_def, if_pos (by omega), ih _ _ (by omega),
        List.drop_eq_getElem_cons hindex, hget, List.reverse_cons, List.append_assoc]
      rfl
  exact hloop bytes.size 0 [] (Nat.zero_add _)

theorem encodeText_eq (text : String) :
    encodeText text = text.toList.flatMap String.utf8EncodeChar := by
  rw [encodeText, toList_byteArray, String.toUTF8, ← String.utf8Encode_toList, List.utf8Encode]
  simp

theorem encodeText_append (first second : String) :
    encodeText (first ++ second) = encodeText first ++ encodeText second := by
  rw [encodeText_eq, encodeText_eq, encodeText_eq, String.toList_append, List.flatMap_append]

/-! ## Decoding a character -/

namespace Utf8

theorem toNat_ofNat {n : Nat} (h : n < 256) : (UInt8.ofNat n).toNat = n :=
  UInt8.toNat_ofNat_of_lt' h

theorem decodeStep_last (done : List (Option Char)) {low high value n : Nat}
    (hlow : low ≤ n % 64 + 128) (hhigh : n % 64 + 128 ≤ high) :
    decodeStep (done, some ⟨1, low, high, value⟩) (UInt8.ofNat (n % 64 + 128))
      = (some (Char.ofNat (value * 64 + n % 64)) :: done, none) := by
  rw [decodeStep, toNat_ofNat (by omega), if_pos (by simp [hlow, hhigh]), if_pos rfl,
    Nat.add_sub_cancel]

theorem decodeStep_more (done : List (Option Char)) {count low high value n : Nat}
    (hlow : low ≤ n % 64 + 128) (hhigh : n % 64 + 128 ≤ high) :
    decodeStep (done, some ⟨count + 2, low, high, value⟩) (UInt8.ofNat (n % 64 + 128))
      = (done, some ⟨count + 1, 0x80, 0xBF, value * 64 + n % 64⟩) := by
  rw [decodeStep, toNat_ofNat (by omega), if_pos (by simp [hlow, hhigh]), if_neg (by simp),
    Nat.add_sub_cancel]
  rfl

/-- A number of a character is not that of a surrogate, and is not beyond the last code point. -/
theorem toNat_val_lt (c : Char) :
    c.val.toNat < 0xD800 ∨ 0xDFFF < c.val.toNat ∧ c.val.toNat < 0x110000 := c.valid

/-- What the leading octet of two, three or four says. -/
theorem Leading.of_two {n : Nat} (hlow : 0xC2 ≤ n) (hhigh : n < 0xE0) :
    Leading.of (UInt8.ofNat n) = .owes ⟨1, 0x80, 0xBF, n - 0xC0⟩ := by
  simp only [Leading.of, toNat_ofNat (show n < 256 by omega)]
  rw [if_neg (by omega), if_neg (by omega), if_pos hhigh]

theorem Leading.of_three {n : Nat} (hlow : 0xE0 ≤ n) (hhigh : n < 0xF0) :
    Leading.of (UInt8.ofNat n) = .owes ⟨2, if n = 0xE0 then 0xA0 else 0x80,
      if n = 0xED then 0x9F else 0xBF, n - 0xE0⟩ := by
  simp only [Leading.of, toNat_ofNat (show n < 256 by omega)]
  rw [if_neg (by omega), if_neg (by omega), if_neg (by omega), if_pos hhigh]

theorem Leading.of_four {n : Nat} (hlow : 0xF0 ≤ n) (hhigh : n < 0xF5) :
    Leading.of (UInt8.ofNat n) = .owes ⟨3, if n = 0xF0 then 0x90 else 0x80,
      if n = 0xF4 then 0x8F else 0xBF, n - 0xF0⟩ := by
  simp only [Leading.of, toNat_ofNat (show n < 256 by omega)]
  rw [if_neg (by omega), if_neg (by omega), if_neg (by omega), if_neg (by omega), if_pos hhigh]

/-- **The octets of a character decode to it.** -/
theorem foldl_decodeStep_utf8EncodeChar (done : List (Option Char)) (c : Char) :
    (String.utf8EncodeChar c).foldl decodeStep (done, none) = (some c :: done, none) := by
  have hvalid := toNat_val_lt c
  have hsame : Char.ofNat c.val.toNat = c := Char.ofNat_toNat c
  rw [String.utf8EncodeChar]
  generalize c.val.toNat = v at *
  split
  · rename_i hone
    have hleading : Leading.of (UInt8.ofNat v) = .whole c := by
      simp only [Leading.of, toNat_ofNat (show v < 256 by omega)]
      rw [if_pos (by omega), hsame]
    rw [List.foldl_cons, List.foldl_nil, decodeStep, startItem, hleading]
  split
  · rename_i hone htwo
    have hleading := Leading.of_two (show 0xC2 ≤ v / 64 % 32 + 192 by omega) (by omega)
    have hvalue : (v / 64 % 32 + 192 - 0xC0) * 64 + v % 64 = v := by omega
    rw [List.foldl_cons, List.foldl_cons, List.foldl_nil, decodeStep, startItem, hleading]
    dsimp only
    rw [decodeStep_last done (by omega) (by omega), hvalue, hsame]
  split
  · rename_i hone htwo hthree
    have hleading := Leading.of_three (show 0xE0 ≤ v / 4096 % 16 + 224 by omega) (by omega)
    have hvalue : ((v / 4096 % 16 + 224 - 0xE0) * 64 + v / 64 % 64) * 64 + v % 64 = v := by omega
    rw [List.foldl_cons, List.foldl_cons, List.foldl_cons, List.foldl_nil, decodeStep, startItem,
      hleading]
    dsimp only
    rw [decodeStep_more done (by split <;> omega) (by split <;> omega),
      decodeStep_last done (by omega) (by omega), hvalue, hsame]
  · rename_i hone htwo hthree
    have hleading := Leading.of_four (show 0xF0 ≤ v / 262144 % 8 + 240 by omega) (by omega)
    have hvalue : (((v / 262144 % 8 + 240 - 0xF0) * 64 + v / 4096 % 64) * 64 + v / 64 % 64) * 64
        + v % 64 = v := by omega
    rw [List.foldl_cons, List.foldl_cons, List.foldl_cons, List.foldl_cons, List.foldl_nil,
      decodeStep, startItem, hleading]
    dsimp only
    rw [decodeStep_more done (by split <;> omega) (by split <;> omega),
      decodeStep_more done (by omega) (by omega), decodeStep_last done (by omega) (by omega),
      hvalue, hsame]

end Utf8

/-! ## Decoding a text -/

theorem foldl_decodeStep_flatMap (chars : List Char) (done : List (Option Char)) :
    (chars.flatMap String.utf8EncodeChar).foldl Utf8.decodeStep (done, none)
      = ((chars.map some).reverse ++ done, none) := by
  induction chars generalizing done with
  | nil => rfl
  | cons c rest ih =>
    rw [List.flatMap_cons, List.foldl_append, Utf8.foldl_decodeStep_utf8EncodeChar, ih,
      List.map_cons, List.reverse_cons, List.append_assoc]
    rfl

/-- **What was encoded is decoded.** -/
theorem decodeText?_encodeText (text : String) : decodeText? (encodeText text) = some text := by
  have hitems : decodeItems (encodeText text) = text.toList.map some := by
    rw [decodeItems, encodeText_eq, foldl_decodeStep_flatMap]
    simp
  have hall : (text.toList.map some).mapM id = some text.toList := by
    induction text.toList with
    | nil => rfl
    | cons c rest ih => simp [ih]
  rw [decodeText?, hitems, hall, Option.map_some, String.ofList_toList]

theorem toNat_of_mem_utf8EncodeChar {c : Char} {octet : UInt8}
    (h : octet ∈ String.utf8EncodeChar c) (hlow : octet.toNat < 128) : octet.toNat = c.toNat := by
  have hvalid := Utf8.toNat_val_lt c
  rw [String.utf8EncodeChar] at h
  rw [Char.toNat]
  generalize c.val.toNat = v at *
  have hlarge {n : Nat} (hn : 128 ≤ n) (hsmall : n < 256) (hsame : octet = UInt8.ofNat n) :
      octet.toNat = v := by
    rw [hsame, Utf8.toNat_ofNat hsmall] at hlow
    omega
  split at h
  · rw [List.mem_singleton.mp h, Utf8.toNat_ofNat (by omega)]
  · split at h
    · simp only [List.mem_cons, List.not_mem_nil, or_false] at h
      rcases h with h | h <;> exact hlarge (by omega) (by omega) h
    · split at h
      · simp only [List.mem_cons, List.not_mem_nil, or_false] at h
        rcases h with h | h | h <;> exact hlarge (by omega) (by omega) h
      · simp only [List.mem_cons, List.not_mem_nil, or_false] at h
        rcases h with h | h | h | h <;> exact hlarge (by omega) (by omega) h

/-- Where a character below 128 is not in a text, its octet is not among those of the text. -/
theorem notMem_encodeText {text : String} {octet : UInt8} (hlow : octet.toNat < 128)
    (h : ∀ c ∈ text.toList, c.toNat ≠ octet.toNat) : octet ∉ encodeText text := by
  intro hmem
  rw [encodeText_eq, List.mem_flatMap] at hmem
  obtain ⟨c, hc, hmem⟩ := hmem
  exact h c hc (toNat_of_mem_utf8EncodeChar hmem hlow).symm

theorem mem_encodeText_of_mem {text : String} {c : Char} (hlow : c.toNat < 128)
    (h : c ∈ text.toList) : UInt8.ofNat c.toNat ∈ encodeText text := by
  rw [encodeText_eq, List.mem_flatMap]
  refine ⟨c, h, ?_⟩
  rw [String.utf8EncodeChar]
  rw [Char.toNat] at hlow ⊢
  rw [if_pos (by omega)]
  exact List.mem_singleton_self _

end DocumentSchema
