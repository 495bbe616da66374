import Mathlib
import TableSchema.Text.Utf8

namespace TableSchema.Text.Utf8

/-! One character -/

-- The bytes behind a lead byte. Only the first of them has bounds of its own.
def AreFollowers (low high : UInt8) : List UInt8 → Prop
  | [] => True
  | byte :: rest => (low ≤ byte ∧ byte ≤ high) ∧ AreFollowers 0x80 0xBF rest

-- The code point whose first bits are known, and whose others stand in followers.
def joined (code : Nat) (followers : List UInt8) : Nat :=
  followers.foldl (fun code byte => 0x40 * code + (byte.toNat - 0x80)) code

theorem joined_cons (code : Nat) (byte : UInt8) (followers : List UInt8) :
    joined code (byte :: followers) = joined (0x40 * code + (byte.toNat - 0x80)) followers := by
  simp only [joined, List.foldl_cons]

-- A lead byte with its followers is a character.
def Spells (lead : UInt8) (followers : List UInt8) (c : Char) : Prop :=
  if lead < 0x80 then followers = [] ∧ c = Char.ofNat lead.toNat
  else ∃ low high, announced? lead = some (followers.length, low, high) ∧
    AreFollowers low high followers ∧
    c = Char.ofNat (joined (leadBits lead followers.length) followers)

section Follow

variable {low high : UInt8} {followers : List UInt8}

theorem follow_append (h : AreFollowers low high followers) (code used : Nat)
    (rest : List UInt8) :
    follow low high code used followers.length (followers ++ rest) =
      .char (Char.ofNat (joined code followers)) (used + followers.length) := by
  induction followers generalizing low high code used with
  | nil => rfl
  | cons byte followers ih =>
      obtain ⟨hbyte, hfollowers⟩ := h
      rw [List.length_cons, List.cons_append, follow, if_pos hbyte, ih hfollowers, joined_cons,
        Nat.add_assoc, Nat.add_comm 1]

theorem follow_truncated (h : AreFollowers low high followers) (code used : Nat) {count : Nat}
    (hcount : followers.length < count) :
    follow low high code used count followers = .flawed .truncated (used + followers.length) := by
  induction followers generalizing low high code used count with
  | nil =>
      obtain ⟨count, rfl⟩ := Nat.exists_eq_add_one_of_ne_zero (Nat.ne_of_gt hcount)
      rfl
  | cons byte followers ih =>
      obtain ⟨hbyte, hfollowers⟩ := h
      obtain ⟨count, rfl⟩ := Nat.exists_eq_add_one_of_ne_zero (Nat.ne_of_gt (Nat.zero_lt_of_lt hcount))
      rw [follow, if_pos hbyte, ih hfollowers _ _ (Nat.lt_of_succ_lt_succ hcount), List.length_cons,
        Nat.add_assoc, Nat.add_comm 1]

theorem eq_of_follow_eq_char {code used count length : Nat} {bytes : List UInt8} {c : Char}
    (h : follow low high code used count bytes = .char c length) :
    ∃ followers rest, bytes = followers ++ rest ∧ AreFollowers low high followers ∧
      followers.length = count ∧ c = Char.ofNat (joined code followers) ∧ length = used + count := by
  induction count generalizing low high code used bytes with
  | zero =>
      obtain ⟨rfl, rfl⟩ := Reading.char.inj h
      exact ⟨[], bytes, rfl, trivial, rfl, rfl, rfl⟩
  | succ count ih =>
      cases bytes with
      | nil => cases h
      | cons byte bytes =>
          rw [follow] at h
          split at h
          · rename_i hbyte
            obtain ⟨followers, rest, rfl, hfollowers, rfl, hc, rfl⟩ := ih h
            exact ⟨byte :: followers, rest, rfl, ⟨hbyte, hfollowers⟩, rfl, by rwa [joined_cons],
              by rw [Nat.add_assoc, Nat.add_comm 1]⟩
          · cases h

end Follow

/-! Lead bytes -/

def followerCount (lead : UInt8) : Nat :=
  if lead ≤ 0xDF then 1 else if lead ≤ 0xEF then 2 else 3

-- Below these bounds a form would be overlong, or its code point too small or a
-- surrogate or beyond the last one.
def lowest (lead : UInt8) : UInt8 :=
  if lead = 0xE0 then 0xA0 else if lead = 0xF0 then 0x90 else 0x80

def highest (lead : UInt8) : UInt8 :=
  if lead = 0xED then 0x9F else if lead = 0xF4 then 0x8F else 0xBF

theorem announced?_eq (lead : UInt8) :
    announced? lead = if 0xC2 ≤ lead ∧ lead ≤ 0xF4 then
      some (followerCount lead, lowest lead, highest lead) else none := by
  simp only [announced?, followerCount, lowest, highest, UInt8.le_iff_toNat_le,
    ← UInt8.toNat_inj, UInt8.reduceToNat]
  grind

theorem toNat_lowest (lead : UInt8) : (lowest lead).toNat =
    if lead.toNat = 0xE0 then 0xA0 else if lead.toNat = 0xF0 then 0x90 else 0x80 := by
  simp only [lowest, ← UInt8.toNat_inj, UInt8.reduceToNat, apply_ite UInt8.toNat]

theorem toNat_highest (lead : UInt8) : (highest lead).toNat =
    if lead.toNat = 0xED then 0x9F else if lead.toNat = 0xF4 then 0x8F else 0xBF := by
  simp only [highest, ← UInt8.toNat_inj, UInt8.reduceToNat, apply_ite UInt8.toNat]

theorem followerCount_eq (lead : UInt8) : followerCount lead =
    if lead.toNat ≤ 0xDF then 1 else if lead.toNat ≤ 0xEF then 2 else 3 := by
  simp only [followerCount, UInt8.le_iff_toNat_le, UInt8.reduceToNat]

theorem toNat_toUInt8 {code : Nat} (h : code < 0x100) : code.toUInt8.toNat = code := by
  rw [Nat.toUInt8_eq, UInt8.toNat_ofNat']
  omega

theorem toNat_lt (c : Char) : c.toNat < 0xD800 ∨ 0xDFFF < c.toNat ∧ c.toNat < 0x110000 := by
  have h := c.valid
  simpa only [UInt32.isValidChar, Nat.isValidChar, Char.toNat_val] using h

theorem spells_of_followers {lead : UInt8} {followers : List UInt8} {c : Char}
    (hlead : 0xC2 ≤ lead.toNat ∧ lead.toNat ≤ 0xF4)
    (hlength : followers.length = followerCount lead)
    (hfollowers : AreFollowers (lowest lead) (highest lead) followers)
    (hcode : joined (leadBits lead followers.length) followers = c.toNat) :
    Spells lead followers c := by
  have hannounced : announced? lead = some (followers.length, lowest lead, highest lead) := by
    rw [announced?_eq, hlength]
    exact if_pos (by simpa only [UInt8.le_iff_toNat_le, UInt8.reduceToNat] using hlead)
  have hmany : ¬lead < 0x80 := by
    simp only [UInt8.lt_iff_toNat_lt, UInt8.reduceToNat]
    omega
  rw [Spells, if_neg hmany, hcode, Char.ofNat_toNat]
  exact ⟨_, _, hannounced, hfollowers, rfl⟩

theorem toNat_continuation (code : Nat) :
    (0x80 + code % 0x40).toUInt8.toNat = 0x80 + code % 0x40 :=
  toNat_toUInt8 (by omega)

section Forms

variable {c : Char}

theorem spells_one (h : c.toNat < 0x80) : Spells c.toNat.toUInt8 [] c := by
  have hlead : c.toNat.toUInt8.toNat = c.toNat := toNat_toUInt8 (by omega)
  rw [Spells, if_pos (UInt8.lt_iff_toNat_lt.mpr (by rwa [hlead])), hlead, Char.ofNat_toNat]
  exact ⟨rfl, rfl⟩

theorem spells_two (hlow : 0x80 ≤ c.toNat) (hhigh : c.toNat < 0x800) :
    Spells (0xC0 + c.toNat / 0x40).toUInt8 [(0x80 + c.toNat % 0x40).toUInt8] c := by
  have hlead : (0xC0 + c.toNat / 0x40).toUInt8.toNat = 0xC0 + c.toNat / 0x40 :=
    toNat_toUInt8 (by omega)
  refine spells_of_followers (by omega) ?_ ?_ ?_
  · rw [followerCount_eq, hlead, if_pos (by omega)]
    rfl
  · simp only [AreFollowers, UInt8.le_iff_toNat_le, toNat_lowest, toNat_highest, hlead,
      toNat_continuation]
    grind
  · simp only [joined, leadBits, List.length_cons, List.length_nil, List.foldl_cons,
      List.foldl_nil, hlead, toNat_continuation]
    omega

theorem spells_three (hlow : 0x800 ≤ c.toNat) (hhigh : c.toNat < 0x10000) :
    Spells (0xE0 + c.toNat / 0x1000).toUInt8
      [(0x80 + c.toNat / 0x40 % 0x40).toUInt8, (0x80 + c.toNat % 0x40).toUInt8] c := by
  have hvalid := toNat_lt c
  have hlead : (0xE0 + c.toNat / 0x1000).toUInt8.toNat = 0xE0 + c.toNat / 0x1000 :=
    toNat_toUInt8 (by omega)
  refine spells_of_followers (by omega) ?_ ?_ ?_
  · rw [followerCount_eq, hlead, if_neg (by omega), if_pos (by omega)]
    rfl
  · simp only [AreFollowers, UInt8.le_iff_toNat_le, toNat_lowest, toNat_highest, hlead,
      toNat_continuation, UInt8.reduceToNat]
    grind
  · simp only [joined, leadBits, List.length_cons, List.length_nil, List.foldl_cons,
      List.foldl_nil, hlead, toNat_continuation]
    omega

theorem spells_four (hlow : 0x10000 ≤ c.toNat) :
    Spells (0xF0 + c.toNat / 0x40000).toUInt8
      [(0x80 + c.toNat / 0x1000 % 0x40).toUInt8, (0x80 + c.toNat / 0x40 % 0x40).toUInt8,
        (0x80 + c.toNat % 0x40).toUInt8] c := by
  have hvalid := toNat_lt c
  have hlead : (0xF0 + c.toNat / 0x40000).toUInt8.toNat = 0xF0 + c.toNat / 0x40000 :=
    toNat_toUInt8 (by omega)
  refine spells_of_followers (by omega) ?_ ?_ ?_
  · rw [followerCount_eq, hlead, if_neg (by omega), if_neg (by omega)]
    rfl
  · simp only [AreFollowers, UInt8.le_iff_toNat_le, toNat_lowest, toNat_highest, hlead,
      toNat_continuation, UInt8.reduceToNat]
    grind
  · simp only [joined, leadBits, List.length_cons, List.length_nil, List.foldl_cons,
      List.foldl_nil, hlead, toNat_continuation]
    omega

end Forms

-- The written form of a character.
theorem exists_spells (c : Char) : ∃ lead followers, encodeChar c = lead :: followers ∧
    Spells lead followers c := by
  simp only [encodeChar]
  split_ifs with hone htwo hthree
  · exact ⟨_, _, rfl, spells_one hone⟩
  · exact ⟨_, _, rfl, spells_two (Nat.le_of_not_lt hone) htwo⟩
  · exact ⟨_, _, rfl, spells_three (Nat.le_of_not_lt htwo) hthree⟩
  · exact ⟨_, _, rfl, spells_four (Nat.le_of_not_lt hthree)⟩

theorem toUInt8_eq {code : Nat} (byte : UInt8) (h : code = byte.toNat) : code.toUInt8 = byte := by
  rw [h, Nat.toUInt8_eq, UInt8.ofNat_toNat]

theorem toNat_ofNat {code : Nat} (h : code < 0xD800 ∨ 0xDFFF < code ∧ code < 0x110000) :
    (Char.ofNat code).toNat = code := by
  rw [Char.toNat_ofNat]
  exact if_pos h

def IsContinuation (byte : UInt8) : Prop :=
  0x80 ≤ byte.toNat ∧ byte.toNat ≤ 0xBF

section Joined

variable {lead second third last : UInt8} (hlast : IsContinuation last)

include hlast

theorem encodeChar_joined_two (hlead : 0xC2 ≤ lead.toNat ∧ lead.toNat ≤ 0xDF) :
    encodeChar (Char.ofNat (joined (leadBits lead 1) [last])) = [lead, last] := by
  rw [IsContinuation] at hlast
  have hcode : joined (leadBits lead 1) [last] =
      0x40 * (lead.toNat % 0x20) + (last.toNat - 0x80) := by
    simp only [joined, leadBits, List.foldl_cons, List.foldl_nil]
  rw [hcode, encodeChar, toNat_ofNat (by omega)]
  rw [if_neg (by omega), if_pos (by omega), toUInt8_eq lead (by omega),
    toUInt8_eq last (by omega)]

theorem encodeChar_joined_three (hthird : IsContinuation third)
    (hlead : 0xE0 ≤ lead.toNat ∧ lead.toNat ≤ 0xEF)
    (hoverlong : lead.toNat = 0xE0 → 0xA0 ≤ third.toNat)
    (hsurrogate : lead.toNat = 0xED → third.toNat ≤ 0x9F) :
    encodeChar (Char.ofNat (joined (leadBits lead 2) [third, last])) = [lead, third, last] := by
  rw [IsContinuation] at hthird hlast
  have hcode : joined (leadBits lead 2) [third, last] =
      0x40 * (0x40 * (lead.toNat % 0x10) + (third.toNat - 0x80)) + (last.toNat - 0x80) := by
    simp only [joined, leadBits, List.foldl_cons, List.foldl_nil]
  rw [hcode, encodeChar, toNat_ofNat (by omega)]
  rw [if_neg (by omega), if_neg (by omega), if_pos (by omega), toUInt8_eq lead (by omega),
    toUInt8_eq third (by omega), toUInt8_eq last (by omega)]

theorem encodeChar_joined_four (hsecond : IsContinuation second) (hthird : IsContinuation third)
    (hlead : 0xF0 ≤ lead.toNat ∧ lead.toNat ≤ 0xF4)
    (hoverlong : lead.toNat = 0xF0 → 0x90 ≤ second.toNat)
    (hbeyond : lead.toNat = 0xF4 → second.toNat ≤ 0x8F) :
    encodeChar (Char.ofNat (joined (leadBits lead 3) [second, third, last])) =
      [lead, second, third, last] := by
  rw [IsContinuation] at hsecond hthird hlast
  have hcode : joined (leadBits lead 3) [second, third, last] =
      0x40 * (0x40 * (0x40 * (lead.toNat % 0x08) + (second.toNat - 0x80)) + (third.toNat - 0x80)) +
        (last.toNat - 0x80) := by
    simp only [joined, leadBits, List.foldl_cons, List.foldl_nil]
  rw [hcode, encodeChar, toNat_ofNat (by omega)]
  rw [if_neg (by omega), if_neg (by omega), if_neg (by omega),
    toUInt8_eq lead (by omega), toUInt8_eq second (by omega),
    toUInt8_eq third (by omega), toUInt8_eq last (by omega)]

end Joined

-- The bytes of a form are those that its character is written in.
theorem encodeChar_of_spells {lead : UInt8} {followers : List UInt8} {c : Char}
    (h : Spells lead followers c) : encodeChar c = lead :: followers := by
  rw [Spells] at h
  split at h
  · rename_i hone
    obtain ⟨rfl, rfl⟩ := h
    simp only [UInt8.lt_iff_toNat_lt, UInt8.reduceToNat] at hone
    have hcode : (Char.ofNat lead.toNat).toNat = lead.toNat := toNat_ofNat (by omega)
    simp only [encodeChar, hcode]
    rw [if_pos hone, toUInt8_eq lead rfl]
  · obtain ⟨low, high, hannounced, hfollowers, rfl⟩ := h
    rw [announced?_eq] at hannounced
    split at hannounced
    · rename_i hlead
      simp only [Option.some.injEq, Prod.mk.injEq, followerCount_eq] at hannounced
      obtain ⟨hlength, rfl, rfl⟩ := hannounced
      simp only [UInt8.le_iff_toNat_le, UInt8.reduceToNat] at hlead
      match followers with
      | [] => grind
      | [last] =>
          simp only [AreFollowers, UInt8.le_iff_toNat_le, toNat_lowest, toNat_highest] at hfollowers
          exact encodeChar_joined_two (by grind [IsContinuation]) (by grind)
      | [third, last] =>
          simp only [AreFollowers, UInt8.le_iff_toNat_le, toNat_lowest, toNat_highest,
            UInt8.reduceToNat] at hfollowers
          exact encodeChar_joined_three (by grind [IsContinuation]) (by grind [IsContinuation])
            (by grind) (by grind) (by grind)
      | [second, third, last] =>
          simp only [AreFollowers, UInt8.le_iff_toNat_le, toNat_lowest, toNat_highest,
            UInt8.reduceToNat] at hfollowers
          exact encodeChar_joined_four (by grind [IsContinuation]) (by grind [IsContinuation])
            (by grind [IsContinuation]) (by grind) (by grind) (by grind)
      | _ :: _ :: _ :: _ :: _ => grind
    · cases hannounced

/-! Reading one character -/

theorem AreFollowers.of_append {low high : UInt8} {part rest : List UInt8}
    (h : AreFollowers low high (part ++ rest)) : AreFollowers low high part := by
  induction part generalizing low high with
  | nil => trivial
  | cons byte part ih => exact ⟨h.1, ih h.2⟩

theorem AreFollowers.le_of_mem {low high : UInt8} {followers : List UInt8} (hlow : 0x80 ≤ low)
    (h : AreFollowers low high followers) : ∀ byte ∈ followers, 0x80 ≤ byte := by
  induction followers generalizing low high with
  | nil => nofun
  | cons byte followers ih =>
      obtain ⟨⟨hbyte, -⟩, hfollowers⟩ := h
      exact List.forall_mem_cons.mpr ⟨UInt8.le_trans hlow hbyte, ih (by decide) hfollowers⟩

theorem le_of_announced? {lead low high : UInt8} {count : Nat}
    (h : announced? lead = some (count, low, high)) : 0x80 ≤ low := by
  rw [announced?_eq] at h
  split at h
  · obtain ⟨-, rfl, -⟩ := h
    rw [UInt8.le_iff_toNat_le, toNat_lowest]
    grind
  · cases h

section Reading

variable {lead : UInt8} {c : Char}

-- No follower is a byte of ASCII.
theorem Spells.le_of_mem {followers : List UInt8} (h : Spells lead followers c) :
    ∀ byte ∈ followers, 0x80 ≤ byte := by
  rw [Spells] at h
  split at h
  · rw [h.1]
    nofun
  · obtain ⟨low, high, hannounced, hfollowers, -⟩ := h
    exact hfollowers.le_of_mem (le_of_announced? hannounced)

theorem readChar_of_spells {followers : List UInt8} (h : Spells lead followers c)
    (rest : List UInt8) :
    readChar lead (followers ++ rest) = .char c (followers.length + 1) := by
  rw [Spells] at h
  rw [readChar]
  split at h
  · rename_i hone
    obtain ⟨rfl, rfl⟩ := h
    rw [if_pos hone]
    rfl
  · rename_i hmany
    obtain ⟨low, high, hannounced, hfollowers, rfl⟩ := h
    rw [if_neg hmany, hannounced]
    exact (follow_append hfollowers _ 1 rest).trans (by rw [Nat.add_comm])

-- A character that ends too early is read as truncated, and all of it is used up.
theorem readChar_truncated {part rest : List UInt8} (hrest : rest ≠ [])
    (h : Spells lead (part ++ rest) c) :
    readChar lead part = .flawed .truncated (part.length + 1) := by
  rw [Spells] at h
  rw [readChar]
  split at h
  · exact absurd (List.append_eq_nil_iff.mp h.1).2 hrest
  · rename_i hmany
    obtain ⟨low, high, hannounced, hfollowers, -⟩ := h
    rw [if_neg hmany, hannounced]
    have hlength : part.length < (part ++ rest).length := by
      have := List.length_pos_iff.mpr hrest
      simp only [List.length_append]
      omega
    exact (follow_truncated hfollowers.of_append _ 1 hlength).trans (by rw [Nat.add_comm])

theorem spells_of_readChar {bytes : List UInt8} {length : Nat}
    (h : readChar lead bytes = .char c length) :
    ∃ followers rest, bytes = followers ++ rest ∧ Spells lead followers c ∧
      length = followers.length + 1 := by
  rw [readChar] at h
  split at h
  · rename_i hone
    obtain ⟨rfl, rfl⟩ := Reading.char.inj h
    refine ⟨[], bytes, rfl, ?_, rfl⟩
    rw [Spells, if_pos hone]
    exact ⟨rfl, rfl⟩
  · rename_i hmany
    split at h
    · cases h
    · rename_i count low high hannounced
      obtain ⟨followers, rest, rfl, hfollowers, rfl, rfl, rfl⟩ := eq_of_follow_eq_char h
      refine ⟨followers, rest, rfl, ?_, Nat.add_comm _ _⟩
      rw [Spells, if_neg hmany]
      exact ⟨low, high, hannounced, hfollowers, rfl⟩

end Reading

end TableSchema.Text.Utf8
