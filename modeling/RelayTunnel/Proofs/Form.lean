import Mathlib.Data.Bool.AllAny
import Mathlib.Data.List.Forall2
import RelayTunnel.Url.Form

/-!
# Pairs in a query, written and read

Whatever the texts of the pairs are, reading the query that is written for them gives them back.
The bytes of a text need no mending, each byte is read back from its form, and no form holds the
marks that stand between names, values and pairs.
-/

namespace RelayTunnel

/-- What stands in joined parts stands in one of them or joins them. -/
theorem mem_intercalate {α : Type} {between : List α} {parts : List (List α)} {x : α}
    (member : x ∈ List.intercalate between parts) : x ∈ between ∨ ∃ part ∈ parts, x ∈ part := by
  induction parts with
  | nil => cases member
  | cons part parts ih =>
    cases parts with
    | nil => exact .inr ⟨part, List.mem_cons_self, by simpa using member⟩
    | cons next parts =>
      rw [List.intercalate_cons_cons, List.append_assoc, List.mem_append, List.mem_append] at member
      rcases member with here | mark | behind
      · exact .inr ⟨part, List.mem_cons_self, here⟩
      · exact .inl mark
      · exact (ih behind).imp_right fun ⟨other, among, member⟩ =>
          ⟨other, List.mem_cons_of_mem _ among, member⟩

/-! ## The bytes of a text -/

namespace Utf8

theorem Range.has_iff {range : Range} {byte : UInt8} :
    range.has byte = true ↔ range.low.toNat ≤ byte.toNat ∧ byte.toNat ≤ range.high.toNat := by
  simp [Range.has, UInt8.le_iff_toNat_le]

/-- The byte that carries the low six bits of a number behind other ones. -/
theorem toNat_six (n : Nat) : (UInt8.ofNat (n % 0x40 + 0x80)).toNat = n % 0x40 + 0x80 := by
  rw [UInt8.toNat_ofNat']
  omega

theorem Range.has_six {range : Range} {n : Nat} (above : range.low.toNat ≤ n % 0x40 + 0x80)
    (below : n % 0x40 + 0x80 ≤ range.high.toNat) :
    range.has (UInt8.ofNat (n % 0x40 + 0x80)) = true := by
  rw [has_iff, toNat_six]
  exact ⟨above, below⟩

theorem Range.has_tail (n : Nat) : Range.tail.has (UInt8.ofNat (n % 0x40 + 0x80)) = true :=
  has_six (Nat.le_add_left ..) (by simp only [tail, UInt8.reduceToNat]; omega)

/-- The bytes behind a leading one are those that have to follow it. -/
def Fits (lead : UInt8) (tails : Bytes) : Prop :=
  ∃ ranges, following lead = some ranges ∧
    List.Forall₂ (fun range byte => Range.has range byte = true) ranges tails

theorem fits_one {v : Nat} (most : v ≤ 0x7F) : Fits (UInt8.ofNat v) [] := by
  have lead : (UInt8.ofNat v).toNat = v := by
    rw [UInt8.toNat_ofNat']
    omega
  refine ⟨[], ?_, .nil⟩
  simp only [following, UInt8.lt_iff_toNat_lt, lead, UInt8.reduceToNat]
  exact if_pos (by omega)

theorem fits_two {v : Nat} (least : 0x7F < v) (most : v ≤ 0x7FF) :
    Fits (UInt8.ofNat (v / 64 % 0x20 + 0xC0)) [UInt8.ofNat (v % 0x40 + 0x80)] := by
  have lead : (UInt8.ofNat (v / 64 % 0x20 + 0xC0)).toNat = v / 64 + 0xC0 := by
    rw [UInt8.toNat_ofNat']
    omega
  refine ⟨[.tail], ?_, .cons (Range.has_tail _) .nil⟩
  simp only [following, UInt8.lt_iff_toNat_lt, ← UInt8.toNat_inj, lead, UInt8.reduceToNat]
  grind

theorem fits_three {v : Nat} (least : 0x7FF < v) (most : v ≤ 0xFFFF)
    (whole : v < 0xD800 ∨ 0xDFFF < v) :
    Fits (UInt8.ofNat (v / 4096 % 0x10 + 0xE0))
      [UInt8.ofNat (v / 64 % 0x40 + 0x80), UInt8.ofNat (v % 0x40 + 0x80)] := by
  have lead : (UInt8.ofNat (v / 4096 % 0x10 + 0xE0)).toNat = v / 4096 + 0xE0 := by
    rw [UInt8.toNat_ofNat']
    omega
  simp only [Fits, following, UInt8.lt_iff_toNat_lt, ← UInt8.toNat_inj, lead, UInt8.reduceToNat]
  -- behind 0xE0 a small byte would make the form too long, behind 0xED a large one a surrogate
  by_cases lowest : v / 4096 = 0
  · refine ⟨[⟨0xA0, 0xBF⟩, .tail], by grind, .cons ?_ (.cons (Range.has_tail _) .nil)⟩
    apply Range.has_six <;> simp only [UInt8.reduceToNat] <;> omega
  by_cases surrogates : v / 4096 = 0xD
  · refine ⟨[⟨0x80, 0x9F⟩, .tail], by grind, .cons ?_ (.cons (Range.has_tail _) .nil)⟩
    apply Range.has_six <;> simp only [UInt8.reduceToNat] <;> omega
  · exact ⟨[.tail, .tail], by grind, .cons (Range.has_tail _) (.cons (Range.has_tail _) .nil)⟩

theorem fits_four {v : Nat} (least : 0xFFFF < v) (most : v < 0x110000) :
    Fits (UInt8.ofNat (v / 262144 % 0x08 + 0xF0))
      [UInt8.ofNat (v / 4096 % 0x40 + 0x80), UInt8.ofNat (v / 64 % 0x40 + 0x80),
        UInt8.ofNat (v % 0x40 + 0x80)] := by
  have lead : (UInt8.ofNat (v / 262144 % 0x08 + 0xF0)).toNat = v / 262144 + 0xF0 := by
    rw [UInt8.toNat_ofNat']
    omega
  simp only [Fits, following, UInt8.lt_iff_toNat_lt, ← UInt8.toNat_inj, lead, UInt8.reduceToNat]
  have last : List.Forall₂ (fun range byte => Range.has range byte = true) [.tail, .tail]
      [UInt8.ofNat (v / 64 % 0x40 + 0x80), UInt8.ofNat (v % 0x40 + 0x80)] :=
    .cons (Range.has_tail _) (.cons (Range.has_tail _) .nil)
  -- likewise behind 0xF0, and behind 0xF4 a large byte would leave the range of characters
  by_cases lowest : v / 262144 = 0
  · refine ⟨[⟨0x90, 0xBF⟩, .tail, .tail], by grind, .cons ?_ last⟩
    apply Range.has_six <;> simp only [UInt8.reduceToNat] <;> omega
  by_cases highest : v / 262144 = 4
  · refine ⟨[⟨0x80, 0x8F⟩, .tail, .tail], by grind, .cons ?_ last⟩
    apply Range.has_six <;> simp only [UInt8.reduceToNat] <;> omega
  · exact ⟨[.tail, .tail, .tail], by grind, .cons (Range.has_tail _) last⟩

/-- The bytes of a character. -/
theorem utf8EncodeChar_fits (c : Char) :
    ∃ lead tails, String.utf8EncodeChar c = lead :: tails ∧ Fits lead tails := by
  have valid := c.valid
  simp only [UInt32.isValidChar, Nat.isValidChar] at valid
  fun_cases String.utf8EncodeChar c with
  | case1 v most => exact ⟨_, _, rfl, fits_one most⟩
  | case2 v least most => exact ⟨_, _, rfl, fits_two (Nat.not_le.mp least) most⟩
  | case3 v _ least most => exact ⟨_, _, rfl, fits_three (Nat.not_le.mp least) most (by omega)⟩
  | case4 v _ _ least => exact ⟨_, _, rfl, fits_four (Nat.not_le.mp least) (by omega)⟩

/-- Bytes that have to follow are found, whatever comes behind them. -/
theorem matchRanges_append {ranges : List Range} {tails : Bytes} (rest : Bytes)
    (fits : List.Forall₂ (fun range byte => Range.has range byte = true) ranges tails) :
    matchRanges ranges (tails ++ rest) = .complete := by
  induction fits with
  | nil => rfl
  | cons has fits ih => rw [List.cons_append, matchRanges, if_pos has, ih]

theorem mend_append {lead : UInt8} {tails : Bytes} (fits : Fits lead tails) (rest : Bytes) :
    mend (lead :: tails ++ rest) = lead :: tails ++ mend rest := by
  obtain ⟨ranges, announced, fits⟩ := fits
  have matched := matchRanges_append rest fits
  rw [List.cons_append, mend, announced]
  simp only [matched, fits.length_eq, List.take_left, List.drop_left]

/-- Characters need no mending. -/
theorem mend_flatMap (text : List Char) :
    mend (text.flatMap String.utf8EncodeChar) = text.flatMap String.utf8EncodeChar := by
  induction text with
  | nil => simp [mend]
  | cons c text ih =>
    obtain ⟨lead, tails, same, fits⟩ := utf8EncodeChar_fits c
    rw [List.flatMap_cons, same, mend_append fits, ih]

theorem encode_eq (text : String) : encode text = text.toList.flatMap String.utf8EncodeChar := by
  rw [encode, ← String.utf8Encode_toList, List.utf8Encode, List.toList_data_toByteArray]

/-- A text is what is read from its bytes. -/
theorem decodeLossy_encode (text : String) : decodeLossy (encode text) = text := by
  have whole : mend (encode text) = encode text := by rw [encode_eq, mend_flatMap]
  rw [decodeLossy, whole, decode?_encode]
  rfl

end Utf8

/-! ## The forms of bytes -/

namespace Percent

/-- The digits of numbers below sixteen. -/
def hexDigits : List Char := "0123456789ABCDEF".toList

theorem hexDigit_mem {n : Nat} (small : n < 16) : hexDigit n ∈ hexDigits := by
  have all : ∀ n : Fin 16, hexDigit n ∈ hexDigits := by decide
  exact all ⟨n, small⟩

theorem hexValue?_hexDigit {n : Nat} (small : n < 16) : hexValue? (hexDigit n) = some n := by
  have all : ∀ n : Fin 16, hexValue? (hexDigit n) = some n.val := by decide
  exact all ⟨n, small⟩

theorem escape_mem {byte : UInt8} {c : Char} (member : c ∈ escape byte) :
    c = '%' ∨ c ∈ hexDigits := by
  have small := byte.toNat_lt
  simp only [escape, List.mem_cons, List.not_mem_nil, or_false] at member
  rcases member with rfl | rfl | rfl
  · exact .inl rfl
  · exact .inr (hexDigit_mem (by omega))
  · exact .inr (hexDigit_mem (by omega))

/-- A byte is read from its digits. -/
theorem decode_escape (byte : UInt8) (rest : List Char) :
    decode (escape byte ++ rest) = byte :: decode rest := by
  have small := byte.toNat_lt
  have same : byte.toNat / 16 * 16 + byte.toNat % 16 = byte.toNat := by omega
  simp only [escape, List.cons_append, List.nil_append, decode,
    hexValue?_hexDigit (n := byte.toNat / 16) (by omega),
    hexValue?_hexDigit (n := byte.toNat % 16) (by omega), same, UInt8.ofNat_toNat]

theorem decode_cons {c : Char} (plain : c ≠ '%') (rest : List Char) :
    decode (c :: rest) = String.utf8EncodeChar c ++ decode rest := by
  rw [decode]
  rintro high low others rfl
  exact absurd rfl plain

end Percent

namespace Form

/-- The characters of forms. -/
def alphabet : List Char :=
  "0123456789ABCDEFGHIJKLMNOPQRSTUVWXYZabcdefghijklmnopqrstuvwxyz*-._+%".toList

theorem plain_mem {byte : UInt8} (plain : isPlain byte = true) :
    Char.ofNat byte.toNat ∈ alphabet ∧ Char.ofNat byte.toNat ≠ '%' ∧ Char.ofNat byte.toNat ≠ '+' ∧
      String.utf8EncodeChar (Char.ofNat byte.toNat) = [byte] := by
  have all : ∀ n : Fin 256, isPlain (UInt8.ofNat n) = true →
      Char.ofNat n ∈ alphabet ∧ Char.ofNat n ≠ '%' ∧ Char.ofNat n ≠ '+' ∧
        String.utf8EncodeChar (Char.ofNat n) = [UInt8.ofNat n] := by
    decide +kernel
  have here := all ⟨byte.toNat, byte.toNat_lt⟩
  simp only [UInt8.ofNat_toNat] at here
  exact here plain

theorem encodeByte_mem {byte : UInt8} {c : Char} (member : c ∈ encodeByte byte) :
    c ∈ alphabet := by
  have digits : ∀ d ∈ Percent.hexDigits, d ∈ alphabet := List.all_iff_forall_prop.mp (by decide)
  unfold encodeByte at member
  split at member
  · rename_i plain
    obtain rfl := List.mem_singleton.mp member
    exact (plain_mem plain).1
  · split at member
    · obtain rfl := List.mem_singleton.mp member
      decide
    · rcases Percent.escape_mem member with rfl | digit
      · decide
      · exact digits c digit

theorem encode_mem {text : String} {c : Char} (member : c ∈ encode text) : c ∈ alphabet := by
  obtain ⟨byte, -, member⟩ := List.mem_flatMap.mp member
  exact encodeByte_mem member

/-- The character that a character of a form stands for before it is read. -/
def unplus (c : Char) : Char := if c = '+' then ' ' else c

/-- A byte is read from its form. -/
theorem decode_encodeByte (byte : UInt8) (rest : List Char) :
    Percent.decode ((encodeByte byte ++ rest).map unplus) =
      byte :: Percent.decode (rest.map unplus) := by
  have digits : ∀ c ∈ '%' :: Percent.hexDigits, unplus c = c :=
    List.all_iff_forall_prop.mp (by decide)
  unfold encodeByte
  split
  · rename_i plain
    obtain ⟨-, noEscape, noPlus, bytes⟩ := plain_mem plain
    rw [List.singleton_append, List.map_cons, unplus, if_neg noPlus, Percent.decode_cons noEscape,
      bytes, List.singleton_append]
  · split
    · rename_i space
      obtain rfl : byte = 0x20 := by simpa using space
      rw [List.singleton_append, List.map_cons]
      exact Percent.decode_cons (by decide) _
    · have same : (Percent.escape byte).map unplus = Percent.escape byte := by
        refine (List.map_congr_left fun c member => ?_).trans (List.map_id _)
        exact digits c (List.mem_cons.mpr (Percent.escape_mem member))
      rw [List.map_append, same, Percent.decode_escape]

/-- A text is read from its form. -/
theorem decode_encode (text : String) : decode (encode text) = text := by
  have bytes (bytes : Bytes) :
      Percent.decode ((bytes.flatMap encodeByte).map unplus) = bytes := by
    induction bytes with
    | nil => rfl
    | cons byte bytes ih => rw [List.flatMap_cons, decode_encodeByte, ih]
  have read := bytes (Utf8.encode text)
  rw [decode, encode]
  exact (congrArg Utf8.decodeLossy read).trans (Utf8.decodeLossy_encode text)

/-! ## The marks between forms -/

theorem splitAll_of_not_mem {mark : Char} {part : List Char} (free : mark ∉ part) :
    splitAll mark part = [part] := by
  induction part with
  | nil => rfl
  | cons c part ih =>
    obtain ⟨other, free⟩ := List.ne_and_not_mem_of_not_mem_cons free
    rw [splitAll, if_neg (Ne.symm other), ih free]

theorem splitAll_append {mark : Char} {part : List Char} (rest : List Char) (free : mark ∉ part) :
    splitAll mark (part ++ mark :: rest) = part :: splitAll mark rest := by
  induction part with
  | nil => simp [splitAll]
  | cons c part ih =>
    obtain ⟨other, free⟩ := List.ne_and_not_mem_of_not_mem_cons free
    rw [List.cons_append, splitAll, if_neg (Ne.symm other), ih free]

/-- Parts without the mark are found again between the marks. -/
theorem splitAll_intercalate {mark : Char} {part : List Char} {parts : List (List Char)}
    (free : ∀ p ∈ part :: parts, mark ∉ p) :
    splitAll mark (List.intercalate [mark] (part :: parts)) = part :: parts := by
  induction parts generalizing part with
  | nil =>
    simpa using splitAll_of_not_mem (free part List.mem_cons_self)
  | cons next parts ih =>
    obtain ⟨here, behind⟩ := List.forall_mem_cons.mp free
    rw [List.intercalate_cons_cons, List.append_assoc, List.singleton_append,
      splitAll_append _ here, ih behind]

theorem decodePair_encodePair (pair : String × String) : decodePair (encodePair pair) = pair := by
  have name : ∀ c ∈ encode pair.1, decide (c ≠ '=') = true := by
    intro c member
    have marks : ∀ c ∈ alphabet, decide (c ≠ '=') = true := List.all_eq_true.mp (by decide)
    exact marks c (encode_mem member)
  have front : (encodePair pair).takeWhile (· ≠ '=') = encode pair.1 := by
    rw [encodePair, List.takeWhile_append_of_pos name]
    simp
  have behind : ((encodePair pair).dropWhile (· ≠ '=')).drop 1 = encode pair.2 := by
    rw [encodePair, List.dropWhile_append_of_pos name]
    simp
  rw [decodePair, front, behind, decode_encode, decode_encode]

theorem encodePair_mem {pair : String × String} {c : Char} (member : c ∈ encodePair pair) :
    c ∈ '=' :: alphabet := by
  rcases List.mem_append.mp member with name | value
  · exact List.mem_cons_of_mem _ (encode_mem name)
  · rcases List.mem_cons.mp value with rfl | value
    · exact List.mem_cons_self
    · exact List.mem_cons_of_mem _ (encode_mem value)

/-- The pairs of a query are those for which it was written. -/
theorem pairs_query (ps : List (String × String)) : pairs (query ps) = ps := by
  have free : ∀ part ∈ ps.map encodePair, '&' ∉ part := by
    intro part member mark
    obtain ⟨pair, -, rfl⟩ := List.mem_map.mp member
    have marks : '&' ∉ '=' :: alphabet := by decide
    exact marks (encodePair_mem mark)
  have full : (ps.map encodePair).filter (· ≠ []) = ps.map encodePair := by
    rw [List.filter_eq_self]
    intro part member
    obtain ⟨pair, -, rfl⟩ := List.mem_map.mp member
    simp [encodePair]
  have read : (ps.map encodePair).map decodePair = ps := by
    rw [List.map_map]
    exact (List.map_congr_left fun pair _ => decodePair_encodePair pair).trans (List.map_id _)
  cases ps with
  | nil => rfl
  | cons pair ps =>
    rw [pairs, query, List.map_cons, splitAll_intercalate free, ← List.map_cons, full, read]

/-- The characters of a query that was written for pairs. -/
theorem query_mem {ps : List (String × String)} {c : Char} (member : c ∈ query ps) :
    c ∈ '&' :: '=' :: alphabet := by
  rcases mem_intercalate member with mark | ⟨part, among, member⟩
  · obtain rfl := List.mem_singleton.mp mark
    exact List.mem_cons_self
  · obtain ⟨pair, -, rfl⟩ := List.mem_map.mp among
    exact List.mem_cons_of_mem _ (encodePair_mem member)

end Form

end RelayTunnel
