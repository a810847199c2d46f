import Mathlib.Data.List.Lex

/-!
Contract: the order of names is the order of their octets in UTF-8.

Names are compared by code points, position by position. UTF-8 keeps that order: the encodings
of two different characters already differ at an octet that both have, and the smaller character
has the smaller octet there, so nothing that follows can turn the comparison round.

Owns: `ByteBelow`, and its agreement with the order of strings.
-/

namespace DeadSymbols.Text

/-- The octets of a text in UTF-8. -/
def utf8 (text : String) : List UInt8 := text.toUTF8.data.toList

/-- The first text stands strictly before the second in the order of UTF-8 octets. -/
def ByteBelow (left right : String) : Prop := utf8 left < utf8 right

theorem utf8_eq_flatMap (text : String) :
    utf8 text = text.toList.flatMap String.utf8EncodeChar := by
  unfold utf8
  rw [String.toUTF8_eq_toByteArray, ← String.utf8Encode_toList, List.utf8Encode,
    List.data_toByteArray]

/-- The octet that decides between two characters stands inside both encodings, so the texts
after them do not matter. -/
theorem utf8EncodeChar_append_lt {c d : Char} (below : c < d) (left right : List UInt8) :
    String.utf8EncodeChar c ++ left < String.utf8EncodeChar d ++ right := by
  have codes : c.val.toNat < d.val.toNat := UInt32.lt_iff_toNat_lt.mp below
  have bound : d.val.toNat < 0x110000 := by
    rcases d.valid with low | ⟨_, high⟩
    · exact Nat.lt_trans low (by decide)
    · exact high
  unfold String.utf8EncodeChar
  generalize c.val.toNat = v at codes
  generalize d.val.toNat = w at codes bound
  dsimp only
  have second (value : Nat) : value / 4096 = value / 64 / 64 := by omega
  have third (value : Nat) : value / 262144 = value / 64 / 64 / 64 := by omega
  simp only [second, third]
  -- The lengths of the encodings are the cases; the first octets are ordered by length.
  split_ifs <;>
    simp only [List.cons_append, List.nil_append, List.cons_lt_cons_iff, UInt8.lt_iff_toNat_lt,
      ← UInt8.toNat_inj, UInt8.toNat_ofNat'] <;> omega

/-- Encoding keeps the order of texts. -/
theorem flatMap_utf8EncodeChar_lt {left right : List Char} (below : left < right) :
    left.flatMap String.utf8EncodeChar < right.flatMap String.utf8EncodeChar := by
  induction below with
  | @nil d more =>
      rw [List.flatMap_nil, List.flatMap_cons]
      obtain ⟨octet, octets, encoded⟩ :=
        List.exists_cons_of_ne_nil (String.utf8EncodeChar_ne_nil (c := d))
      rw [encoded]
      exact List.Lex.nil
  | @rel c more d others smaller =>
      rw [List.flatMap_cons, List.flatMap_cons]
      exact utf8EncodeChar_append_lt smaller _ _
  | @cons c more others _ inductionHypothesis =>
      rw [List.flatMap_cons, List.flatMap_cons]
      exact List.append_left_lt inductionHypothesis

/-- The order of strings is the order of their octets. -/
theorem byteBelow_iff_lt {left right : String} : ByteBelow left right ↔ left < right := by
  have keeps {first second : String} (below : first < second) : ByteBelow first second := by
    unfold ByteBelow
    rw [utf8_eq_flatMap, utf8_eq_flatMap]
    exact flatMap_utf8EncodeChar_lt below
  constructor
  · intro octetsBelow
    apply String.not_le.mp
    intro atMost
    by_cases same : left = right
    · rw [same] at octetsBelow
      exact List.lt_irrefl _ octetsBelow
    · have above : right < left :=
        String.not_le.mp fun below => same (String.le_antisymm below atMost)
      exact List.lt_asymm octetsBelow (keeps above)
  · exact keeps

end DeadSymbols.Text
