/-
# Proofs.Protocol.FormDecode -- form bodies read back

`decode` reads a form body as servers do: pairs between `&`, key and value around the first
`=`, `%` and two hexadecimal digits as a byte, the bytes as UTF-8.  Readers differ on `+`:
the form standard takes it for a space, others for itself.  `decode` is given what it takes
a plus sign for, and what it reads does not depend on that, because no body holds one.

The round trip has two stages.  Within a key or a value, a byte is read back from whatever
stands for it (`bytesOf_encodeByte_append`).  Around them, no key or value holds a separator,
so cutting at the separators undoes the joining (`splitOn_joinWith`).  `encode_lossless` adds
the two facts that follow: no two lists of pairs have one body, and a body is made of
unreserved characters and three marks.
-/
import SparqlRequest.Number.Written
import SparqlRequest.Proofs.Text.Split
import SparqlRequest.Protocol.Form

set_option autoImplicit false

namespace SparqlRequest

namespace Form

/-! ## A reader of form bodies -/

/-- The bytes that a key or a value stands for: `%` and two hexadecimal digits are a byte,
any other character is its UTF-8. -/
def bytesOf : Text → List UInt8
  | '%' :: high :: low :: t =>
      match Number.hexValue? high, Number.hexValue? low with
      | some h, some l => UInt8.ofNat (16 * h + l) :: bytesOf t
      | _, _ => String.utf8EncodeChar '%' ++ bytesOf (high :: low :: t)
  | c :: t => String.utf8EncodeChar c ++ bytesOf t
  | [] => []

/-- A key or a value, with `plus` for every plus sign. -/
def decodeText (plus : Char) (part : Text) : Option Text :=
  let bytes := bytesOf (part.map fun c => if c = '+' then plus else c)
  (String.fromUTF8? bytes.toByteArray).map String.toList

/-- A pair; without a `=` all of it is the key. -/
def decodePair (plus : Char) (part : Text) : Option (Text × Text) := do
  let sides := (Text.cut? '=' part).getD (part, [])
  let key ← decodeText plus sides.1
  let value ← decodeText plus sides.2
  return (key, value)

/-- The pairs of a form body, with `plus` for every plus sign; the empty body has none. -/
def decode (plus : Char) (body : Text) : Option (List (Text × Text)) :=
  if body = [] then some [] else (Text.splitOn '&' body).mapM (decodePair plus)

/-! ## Bytes -/

theorem hexValue?_hexDigit {n : Nat} (small : n < 16) : Number.hexValue? (hexDigit n) = some n := by
  have every : ∀ n < 16, Number.hexValue? (hexDigit n) = some n := by decide
  exact every n small

theorem isUnreserved_hexDigit {n : Nat} (small : n < 16) : isUnreserved (hexDigit n) = true := by
  have every : ∀ n < 16, isUnreserved (hexDigit n) = true := by decide
  exact every n small

/-- The unreserved characters, written out. -/
theorem isUnreserved_iff {c : Char} :
    isUnreserved c = true ↔
      ('A' ≤ c ∧ c ≤ 'Z') ∨ ('a' ≤ c ∧ c ≤ 'z') ∨ ('0' ≤ c ∧ c ≤ '9') ∨
        c ∈ ['-', '_', '.', '~'] := by
  have upper : c.isUpper = true ↔ 'A' ≤ c ∧ c ≤ 'Z' := decide_eq_true_iff
  have lower : c.isLower = true ↔ 'a' ≤ c ∧ c ≤ 'z' :=
    Bool.and_eq_true_iff.trans (and_congr decide_eq_true_iff decide_eq_true_iff)
  have digit : c.isDigit = true ↔ '0' ≤ c ∧ c ≤ '9' :=
    Bool.and_eq_true_iff.trans (and_congr decide_eq_true_iff decide_eq_true_iff)
  have alphanum : c.isAlphanum = ((c.isUpper || c.isLower) || c.isDigit) := rfl
  simp only [isUnreserved, alphanum, Bool.or_eq_true, decide_eq_true_eq, upper, lower, digit,
    List.mem_cons, List.not_mem_nil, or_false, or_assoc]

theorem bytesOf_of_ne {c : Char} (plain : c ≠ '%') (t : Text) :
    bytesOf (c :: t) = String.utf8EncodeChar c ++ bytesOf t := by
  rw [bytesOf]
  rintro high low rest rfl
  exact fun _ => plain rfl

theorem utf8EncodeChar_ofNat {byte : UInt8} (small : byte.toNat < 0x80) :
    String.utf8EncodeChar (Char.ofNat byte.toNat) = [byte] := by
  have valid : byte.toNat.isValidChar := Or.inl (by omega)
  have code : (Char.ofNat byte.toNat).val.toNat = byte.toNat := by
    rw [Char.ofNat, dif_pos valid]
    rfl
  have ascii : byte.toNat ≤ 0x7f := by omega
  rw [String.utf8EncodeChar, code, if_pos ascii, UInt8.ofNat_toNat]

/-- **A byte is read back from what is written for it**, in front of anything. -/
theorem bytesOf_encodeByte_append (byte : UInt8) (t : Text) :
    bytesOf (encodeByte byte ++ t) = byte :: bytesOf t := by
  by_cases plain : byte.toNat < 0x80 ∧ isUnreserved (Char.ofNat byte.toNat) = true
  · have notPercent : Char.ofNat byte.toNat ≠ '%' := by
      intro percent
      have unreserved := plain.2
      rw [percent] at unreserved
      cases unreserved
    rw [encodeByte, if_pos plain, List.singleton_append, bytesOf_of_ne notPercent,
      utf8EncodeChar_ofNat plain.1, List.singleton_append]
  · have size := byte.toNat_lt
    have high : byte.toNat / 16 < 16 := by omega
    have low : byte.toNat % 16 < 16 := by omega
    have whole : 16 * (byte.toNat / 16) + byte.toNat % 16 = byte.toNat := by omega
    rw [encodeByte, if_neg plain]
    show bytesOf ('%' :: hexDigit (byte.toNat / 16) :: hexDigit (byte.toNat % 16) :: t) = _
    rw [bytesOf, hexValue?_hexDigit high, hexValue?_hexDigit low]
    simp only [whole, UInt8.ofNat_toNat]

theorem bytesOf_flatMap_encodeByte (bytes : List UInt8) :
    bytesOf (bytes.flatMap encodeByte) = bytes := by
  induction bytes with
  | nil => rfl
  | cons byte bytes ih => rw [List.flatMap_cons, bytesOf_encodeByte_append, ih]

/-! ## Characters of a body -/

/-- A character that can stand in a key or a value of a body. -/
def isWritten (c : Char) : Bool := isUnreserved c || c = '%'

theorem isWritten_of_mem_encodeText {t : Text} {c : Char} (member : c ∈ encodeText t) :
    isWritten c = true := by
  obtain ⟨byte, _, inside⟩ := List.mem_flatMap.1 member
  have size := byte.toNat_lt
  rw [isWritten, Bool.or_eq_true, decide_eq_true_eq]
  by_cases plain : byte.toNat < 0x80 ∧ isUnreserved (Char.ofNat byte.toNat) = true
  · rw [encodeByte, if_pos plain, List.mem_singleton] at inside
    exact Or.inl (inside ▸ plain.2)
  · rw [encodeByte, if_neg plain] at inside
    simp only [List.mem_cons, List.not_mem_nil, or_false] at inside
    rcases inside with rfl | rfl | rfl
    · exact Or.inr rfl
    · exact Or.inl (isUnreserved_hexDigit (by omega))
    · exact Or.inl (isUnreserved_hexDigit (by omega))

/-- No separator comes out of a key or a value. -/
theorem not_mem_encodeText {mark : Char} (reserved : isWritten mark = false) (t : Text) :
    mark ∉ encodeText t := by
  intro member
  rw [isWritten_of_mem_encodeText member] at reserved
  cases reserved

theorem mem_encodePair {pair : Text × Text} {c : Char} (member : c ∈ encodePair pair) :
    isWritten c = true ∨ c = '=' := by
  rw [encodePair, List.mem_append, List.mem_cons] at member
  rcases member with key | rfl | value
  · exact Or.inl (isWritten_of_mem_encodeText key)
  · exact Or.inr rfl
  · exact Or.inl (isWritten_of_mem_encodeText value)

theorem encodePair_ne_nil (pair : Text × Text) : encodePair pair ≠ [] :=
  List.append_ne_nil_of_right_ne_nil _ (List.cons_ne_nil _ _)

theorem mem_joinWith {between : Text} {parts : List Text} {c : Char}
    (member : c ∈ Text.joinWith between parts) : c ∈ between ∨ ∃ part ∈ parts, c ∈ part := by
  induction parts with
  | nil => cases member
  | cons part parts ih =>
      cases parts with
      | nil => exact Or.inr ⟨part, List.mem_cons_self, member⟩
      | cons next parts =>
          rw [Text.joinWith, List.mem_append, List.mem_append] at member
          rcases member with (inside | inside) | later
          · exact Or.inr ⟨part, List.mem_cons_self, inside⟩
          · exact Or.inl inside
          · rcases ih later with inside | ⟨other, among, inside⟩
            · exact Or.inl inside
            · exact Or.inr ⟨other, List.mem_cons_of_mem part among, inside⟩

/-- A body is made of unreserved characters and the three marks of the format. -/
theorem mem_encode {pairs : List (Text × Text)} {c : Char} (member : c ∈ encode pairs) :
    isUnreserved c = true ∨ c = '%' ∨ c = '=' ∨ c = '&' := by
  rcases mem_joinWith member with between | ⟨part, among, inside⟩
  · exact Or.inr (Or.inr (Or.inr (List.mem_singleton.1 between)))
  · obtain ⟨pair, _, rfl⟩ := List.mem_map.1 among
    rcases mem_encodePair inside with written | equals
    · rw [isWritten, Bool.or_eq_true, decide_eq_true_eq] at written
      rcases written with unreserved | percent
      · exact Or.inl unreserved
      · exact Or.inr (Or.inl percent)
    · exact Or.inr (Or.inr (Or.inl equals))

/-! ## The round trip -/

/-- A key or a value is read back, whatever a plus sign is taken for. -/
theorem decodeText_encodeText (plus : Char) (t : Text) :
    decodeText plus (encodeText t) = some t := by
  have unchanged : (encodeText t).map (fun c => if c = '+' then plus else c) = encodeText t := by
    have each : ∀ c ∈ encodeText t, (if c = '+' then plus else c) = id c := by
      intro c member
      apply if_neg
      rintro rfl
      exact not_mem_encodeText rfl t member
    rw [List.map_congr_left each, List.map_id]
  have valid : (t.flatMap String.utf8EncodeChar).toByteArray.IsValidUTF8 := ⟨t, rfl⟩
  rw [decodeText, unchanged, encodeText, bytesOf_flatMap_encodeByte, String.fromUTF8?,
    dif_pos valid, Option.map_some]
  exact congrArg some String.toList_ofList

theorem decodePair_encodePair (plus : Char) (pair : Text × Text) :
    decodePair plus (encodePair pair) = some pair := by
  have cut : Text.cut? '=' (encodePair pair) = some (encodeText pair.1, encodeText pair.2) :=
    Text.cut?_eq_some_iff.2 ⟨rfl, not_mem_encodeText rfl pair.1⟩
  simp [decodePair, cut, decodeText_encodeText]

theorem mapM_decodePair (plus : Char) (pairs : List (Text × Text)) :
    (pairs.map encodePair).mapM (decodePair plus) = some pairs := by
  induction pairs with
  | nil => rfl
  | cons pair pairs ih => simp [decodePair_encodePair, ih]

/-- **What is encoded is read back**, in order, whatever a plus sign is taken for. -/
theorem decode_encode (plus : Char) (pairs : List (Text × Text)) :
    decode plus (encode pairs) = some pairs := by
  cases pairs with
  | nil => rfl
  | cons pair pairs =>
      have whole : ∀ part ∈ (pair :: pairs).map encodePair, '&' ∉ part := by
        rw [List.forall_mem_map]
        intro pair _ member
        rcases mem_encodePair member with written | equals
        · cases written
        · cases equals
      have split : Text.splitOn '&' (encode (pair :: pairs)) = (pair :: pairs).map encodePair :=
        Text.splitOn_joinWith (List.cons_ne_nil _ _) whole
      have nonempty : encode (pair :: pairs) ≠ [] := by
        intro empty
        rw [empty, List.map_cons] at split
        exact encodePair_ne_nil pair (List.cons.inj split).1.symm
      rw [decode, if_neg nonempty, split, mapM_decodePair]

/-- Different pairs have different bodies: the round trip tells them apart. -/
theorem encode_injective : Function.Injective encode := by
  intro pairs others same
  have read := decode_encode ' ' pairs
  rw [same, decode_encode] at read
  exact (Option.some.inj read).symm

/-- **A form body loses nothing.**  Both readings of a plus sign, as a space and as itself,
give the pairs back; no other pairs have the same body; and a body holds nothing but
unreserved characters and the three marks of the format. -/
theorem encode_lossless :
    (∀ plus pairs, decode plus (encode pairs) = some pairs) ∧ Function.Injective encode ∧
      ∀ pairs, ∀ c ∈ encode pairs,
        ('A' ≤ c ∧ c ≤ 'Z') ∨ ('a' ≤ c ∧ c ≤ 'z') ∨ ('0' ≤ c ∧ c ≤ '9') ∨
          c ∈ ['-', '_', '.', '~'] ∨ c = '%' ∨ c = '=' ∨ c = '&' := by
  refine ⟨decode_encode, encode_injective, fun pairs c member => ?_⟩
  rcases mem_encode member with unreserved | mark
  · rcases isUnreserved_iff.1 unreserved with upper | lower | digit | other
    · exact Or.inl upper
    · exact Or.inr (Or.inl lower)
    · exact Or.inr (Or.inr (Or.inl digit))
    · exact Or.inr (Or.inr (Or.inr (Or.inl other)))
  · exact Or.inr (Or.inr (Or.inr (Or.inr mark)))

/-- Separators, a plus sign, a NUL and a letter outside ASCII come through, and so do a pair
of nothing and a key that is given twice. -/
theorem encode_lossless_reserved :
    let pairs := [("a&b=".toList, "+ %\x00é".toList), ([], []), ("a&b=".toList, [])]
    decode ' ' (encode pairs) = some pairs ∧ decode '+' (encode pairs) = some pairs ∧
      'C' ∈ encode pairs ∧
        (('A' ≤ 'C' ∧ 'C' ≤ 'Z') ∨ ('a' ≤ 'C' ∧ 'C' ≤ 'z') ∨ ('0' ≤ 'C' ∧ 'C' ≤ '9') ∨
          'C' ∈ ['-', '_', '.', '~'] ∨ 'C' = '%' ∨ 'C' = '=' ∨ 'C' = '&') := by
  intro pairs
  have member : 'C' ∈ encode pairs := by decide +kernel
  exact ⟨encode_lossless.1 ' ' pairs, encode_lossless.1 '+' pairs, member,
    encode_lossless.2.2 pairs 'C' member⟩

end Form

end SparqlRequest
