import TableSchema.Proofs.Text.Utf8

namespace TableSchema.Text.Utf8

-- Bytes in which some text is written.
def WellFormed (bytes : List UInt8) : Prop :=
  ∃ text, encode text = bytes

-- In front of the bytes stands the beginning of a character that does not go on.
def Stuck (bytes : List UInt8) : Prop :=
  ∃ lead rest flaw length, bytes = lead :: rest ∧ readChar lead rest = .flawed flaw length

theorem Stuck.ne_nil {bytes : List UInt8} (h : Stuck bytes) : bytes ≠ [] := by
  obtain ⟨_, _, _, _, rfl, -⟩ := h
  nofun

@[simp] theorem encode_nil : encode [] = [] := rfl

@[simp] theorem encode_cons (c : Char) (text : List Char) :
    encode (c :: text) = encodeChar c ++ encode text := rfl

@[simp] theorem encode_append (front back : List Char) :
    encode (front ++ back) = encode front ++ encode back :=
  List.flatMap_append

-- Characters are read off some bytes until nothing is left or the next one is flawed.
theorem exists_encode_append (bytes : List UInt8) :
    ∃ text rest, bytes = encode text ++ rest ∧ (rest = [] ∨ Stuck rest) := by
  induction h : bytes.length using Nat.strongRecOn generalizing bytes with
  | ind count ih =>
      cases bytes with
      | nil => exact ⟨[], [], rfl, .inl rfl⟩
      | cons lead bytes =>
          cases hread : readChar lead bytes with
          | flawed flaw length =>
              exact ⟨[], lead :: bytes, rfl, .inr ⟨lead, bytes, flaw, length, rfl, hread⟩⟩
          | char c length =>
              obtain ⟨followers, rest, rfl, hspells, -⟩ := spells_of_readChar hread
              obtain ⟨text, rest, rfl, hrest⟩ := ih rest.length (by simp at h; omega) rest rfl
              refine ⟨c :: text, rest, ?_, hrest⟩
              simp only [encode_cons, encodeChar_of_spells hspells, List.cons_append,
                List.append_assoc]

/-! Decoding -/

theorem decodeFrom_skip (reversed : List Char) (position : Nat) (skipped rest : List UInt8) :
    decodeFrom reversed position skipped.length (skipped ++ rest) =
      decodeFrom reversed (position + skipped.length) 0 rest := by
  induction skipped generalizing position with
  | nil => rfl
  | cons byte skipped ih =>
      rw [List.length_cons, List.cons_append, decodeFrom, ih, Nat.add_assoc, Nat.add_comm 1]

theorem decodeFrom_encode_append (reversed : List Char) (position : Nat) (text : List Char)
    (rest : List UInt8) :
    decodeFrom reversed position 0 (encode text ++ rest) =
      decodeFrom (text.reverse ++ reversed) (position + (encode text).length) 0 rest := by
  induction text generalizing reversed position with
  | nil => rfl
  | cons c text ih =>
      obtain ⟨lead, followers, hform, hspells⟩ := exists_spells c
      have hread := readChar_of_spells hspells (encode text ++ rest)
      rw [encode_cons, hform, List.append_assoc, List.cons_append, decodeFrom]
      simp only [hread, Nat.add_sub_cancel]
      rw [decodeFrom_skip, ih]
      simp only [List.reverse_cons, List.append_assoc, List.length_append, List.length_cons,
        List.cons_append]
      congr 1
      omega

theorem decode_encode (text : List Char) : decode (encode text) = ⟨text, none⟩ := by
  have h := decodeFrom_encode_append [] 0 text []
  rw [List.append_nil] at h
  rw [decode, h, decodeFrom, List.append_nil, List.reverse_reverse]

theorem decodeLossyFrom_skip (skipped rest : List UInt8) :
    decodeLossyFrom skipped.length (skipped ++ rest) = decodeLossyFrom 0 rest := by
  induction skipped with
  | nil => rfl
  | cons byte skipped ih => rw [List.length_cons, List.cons_append, decodeLossyFrom, ih]

-- Nothing of a text that is well-formed has to be replaced.
theorem decodeLossy_encode (text : List Char) : decodeLossy (encode text) = text := by
  rw [decodeLossy]
  induction text with
  | nil => rfl
  | cons c text ih =>
      obtain ⟨lead, followers, hform, hspells⟩ := exists_spells c
      have hread := readChar_of_spells hspells (encode text)
      rw [encode_cons, hform, List.cons_append, decodeLossyFrom]
      simp only [hread, Nat.add_sub_cancel]
      rw [decodeLossyFrom_skip, ih]

theorem decode_encode_append (text : List Char) {lead : UInt8} {rest : List UInt8} {flaw : Flaw}
    {length : Nat} (h : readChar lead rest = .flawed flaw length) :
    decode (encode text ++ lead :: rest) = ⟨text, some ⟨(encode text).length, length, flaw⟩⟩ := by
  rw [decode, decodeFrom_encode_append, decodeFrom]
  simp only [h, List.append_nil, List.reverse_reverse, Nat.zero_add]

theorem fault_decode_ne_none (text : List Char) {rest : List UInt8} (h : Stuck rest) :
    (decode (encode text ++ rest)).fault ≠ none := by
  obtain ⟨lead, rest, flaw, length, rfl, hread⟩ := h
  rw [decode_encode_append text hread]
  nofun

theorem fault_decode_eq_none_iff {bytes : List UInt8} :
    (decode bytes).fault = none ↔ WellFormed bytes := by
  constructor
  · intro h
    obtain ⟨text, rest, rfl, rfl | hstuck⟩ := exists_encode_append bytes
    · exact ⟨text, (List.append_nil _).symm⟩
    · exact absurd h (fault_decode_ne_none text hstuck)
  · rintro ⟨text, rfl⟩
    rw [decode_encode]

instance (bytes : List UInt8) : Decidable (WellFormed bytes) :=
  decidable_of_iff ((decode bytes).fault = none) fault_decode_eq_none_iff

/-! Parts of well-formed bytes -/

theorem encode_injective : Function.Injective encode := by
  intro text other h
  have hdecode := congrArg decode h
  rw [decode_encode, decode_encode] at hdecode
  exact congrArg Decoded.text hdecode

theorem exists_eq_append_of_encode {front text : List Char} {rest : List UInt8}
    (h : encode front ++ rest = encode text) : ∃ back, text = front ++ back ∧ encode back = rest := by
  obtain ⟨back, rest, rfl, rfl | hstuck⟩ := exists_encode_append rest
  · refine ⟨back, ?_, (List.append_nil _).symm⟩
    rw [List.append_nil, ← encode_append] at h
    exact (encode_injective h).symm
  · rw [← List.append_assoc, ← encode_append] at h
    refine absurd ?_ (fault_decode_ne_none (front ++ back) hstuck)
    rw [h, decode_encode]

theorem wellFormed_encode_append {front : List Char} {rest : List UInt8} :
    WellFormed (encode front ++ rest) ↔ WellFormed rest := by
  constructor
  · rintro ⟨text, h⟩
    obtain ⟨back, -, hback⟩ := exists_eq_append_of_encode h.symm
    exact ⟨back, hback⟩
  · rintro ⟨back, rfl⟩
    exact ⟨front ++ back, encode_append front back⟩

theorem Stuck.not_wellFormed {bytes whole : List UInt8} (h : Stuck whole)
    (hpart : bytes <+: whole) (hne : bytes ≠ []) : ¬WellFormed bytes := by
  rintro ⟨text, rfl⟩
  obtain ⟨more, rfl⟩ := hpart
  cases text with
  | nil => exact hne rfl
  | cons c text =>
      obtain ⟨lead, rest, flaw, length, heq, hread⟩ := h
      obtain ⟨first, followers, hform, hspells⟩ := exists_spells c
      rw [encode_cons, hform, List.cons_append, List.cons_append, List.append_assoc] at heq
      obtain ⟨rfl, rfl⟩ := List.cons.inj heq
      rw [readChar_of_spells hspells] at hread
      cases hread

-- A line feed never goes on with a character that was begun before.
theorem Stuck.append_newline {bytes : List UInt8} (h : Stuck bytes) (back : List UInt8) :
    Stuck (bytes ++ 0x0A :: back) := by
  obtain ⟨lead, rest, flaw, length, rfl, hread⟩ := h
  cases hlonger : readChar lead (rest ++ 0x0A :: back) with
  | flawed flaw length => exact ⟨lead, rest ++ 0x0A :: back, flaw, length, rfl, hlonger⟩
  | char c length =>
      exfalso
      obtain ⟨followers, others, heq, hspells, -⟩ := spells_of_readChar hlonger
      have hshort : ∀ more, rest ≠ followers ++ more := by
        rintro more rfl
        rw [readChar_of_spells hspells] at hread
        cases hread
      obtain ⟨between, rfl, hback⟩ | ⟨between, hrest, -⟩ := List.append_eq_append_iff.mp heq
      · cases between with
        | nil => exact hshort [] (by simp only [List.append_nil])
        | cons byte between =>
            obtain rfl := (List.cons.inj hback).1
            exact absurd (hspells.le_of_mem 0x0A (by simp)) (by decide)
      · exact hshort between hrest

-- If more bytes make the character whole, it has only ended too early.
theorem Stuck.exists_truncated {bytes more : List UInt8} (h : Stuck bytes)
    (hmore : WellFormed (bytes ++ more)) :
    ∃ lead rest, bytes = lead :: rest ∧
      readChar lead rest = .flawed .truncated (rest.length + 1) := by
  obtain ⟨lead, rest, flaw, length, rfl, hread⟩ := h
  obtain ⟨text, heq⟩ := hmore
  refine ⟨lead, rest, rfl, ?_⟩
  cases text with
  | nil => cases heq
  | cons c text =>
      obtain ⟨first, followers, hform, hspells⟩ := exists_spells c
      rw [encode_cons, hform, List.cons_append, List.cons_append] at heq
      obtain ⟨rfl, htail⟩ := List.cons.inj heq
      have hshort : ∀ more, rest ≠ followers ++ more := by
        rintro more rfl
        rw [readChar_of_spells hspells] at hread
        cases hread
      obtain ⟨between, hrest, -⟩ | ⟨between, rfl, -⟩ := List.append_eq_append_iff.mp htail
      · exact absurd hrest (hshort between)
      · refine readChar_truncated ?_ hspells
        rintro rfl
        exact hshort [] (by simp only [List.append_nil])

theorem wellFormed_append_newline {front back : List UInt8} :
    WellFormed (front ++ 0x0A :: back) ↔ WellFormed front ∧ WellFormed back := by
  obtain ⟨text, rest, rfl, rfl | hstuck⟩ := exists_encode_append front
  · have hnewline : encode ['\n'] = [0x0A] := by decide
    rw [List.append_nil, wellFormed_encode_append, ← List.singleton_append, ← hnewline,
      wellFormed_encode_append]
    exact (and_iff_right ⟨text, rfl⟩).symm
  · have hlonger : ¬WellFormed (rest ++ 0x0A :: back) :=
      (hstuck.append_newline back).not_wellFormed List.prefix_rfl (by simp)
    have hrest : ¬WellFormed rest := hstuck.not_wellFormed List.prefix_rfl hstuck.ne_nil
    rw [List.append_assoc, wellFormed_encode_append, wellFormed_encode_append]
    exact iff_of_false hlonger fun h => hrest h.1

/-! Where bytes cease to be well-formed -/

-- The length of the longest beginning that is well-formed.
def wellFormedLength (bytes : List UInt8) : Nat :=
  Nat.findGreatest (fun length => WellFormed (bytes.take length)) bytes.length

theorem wellFormedLength_of_stuck (text : List Char) {rest : List UInt8} (h : Stuck rest) :
    wellFormedLength (encode text ++ rest) = (encode text).length := by
  rw [wellFormedLength, Nat.findGreatest_eq_iff]
  refine ⟨by simp, fun _ => ?_, ?_⟩
  · rw [List.take_left]
    exact ⟨text, rfl⟩
  · intro length hlong hlength
    obtain ⟨count, rfl⟩ := Nat.exists_eq_add_of_lt hlong
    rw [Nat.add_assoc, List.take_length_add_append, wellFormed_encode_append]
    refine h.not_wellFormed (List.take_prefix _ _) ?_
    intro hnil
    have hshort : rest.length = 0 := by simpa using hnil
    simp only [List.length_append] at hlength
    omega

theorem position_eq_wellFormedLength {bytes : List UInt8} {fault : Fault}
    (h : (decode bytes).fault = some fault) : fault.position = wellFormedLength bytes := by
  obtain ⟨text, rest, rfl, rfl | hstuck⟩ := exists_encode_append bytes
  · rw [List.append_nil, decode_encode] at h
    cases h
  · obtain ⟨lead, rest, flaw, length, rfl, hread⟩ := id hstuck
    rw [decode_encode_append text hread] at h
    obtain rfl := Option.some.inj h
    rw [wellFormedLength_of_stuck text hstuck]

-- Bytes that are ill-formed in front of a line feed are so at the same place with it.
theorem wellFormedLength_append_newline {front : List UInt8} (h : ¬WellFormed front)
    (back : List UInt8) : wellFormedLength (front ++ 0x0A :: back) = wellFormedLength front := by
  obtain ⟨text, rest, rfl, rfl | hstuck⟩ := exists_encode_append front
  · exact absurd ⟨text, (List.append_nil _).symm⟩ h
  · rw [wellFormedLength_of_stuck text hstuck, List.append_assoc,
      wellFormedLength_of_stuck text (hstuck.append_newline back)]

end TableSchema.Text.Utf8
