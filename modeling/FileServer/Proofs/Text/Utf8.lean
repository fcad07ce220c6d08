import FileServer.Text.Utf8

/-!
# Text as bytes and back

Reading the bytes of a text gives the text (`decodeChars_encodeChars_append`), whatever stands
behind them. A byte below `80` continues no character, so that what stands before it is read as if
nothing came behind (`decodeChars_append_ascii`). The slash, at which paths are parted, is read from
its own byte and from no other (`decodeFirst_eq_slash`), so that reading and writing neither add one
nor lose one at the end.
-/

namespace FileServer.Text

variable {v : Nat} {rest : Bytes}

/-! ### One character -/

/-- A number that fits a byte is not cut. -/
theorem toNat_byte {n : Nat} (h : n < 256) : (UInt8.ofNat n).toNat = n :=
  UInt8.toNat_ofNat_of_lt' h

/-- What is encoded as a tail is one. -/
@[simp] theorem isTail_tail (n : Nat) : isTail (UInt8.ofNat (n % 64 + 128)) = true := by
  have hbyte := toNat_byte (n := n % 64 + 128) (by omega)
  simp only [isTail, UInt8.le_iff_toNat_le, hbyte, Bool.and_eq_true, decide_eq_true_eq]
  exact ⟨by simp, by simp; omega⟩

/-- The bits of a tail are those that were encoded. -/
@[simp] theorem tailBits_tail (n : Nat) : tailBits (UInt8.ofNat (n % 64 + 128)) = n % 64 := by
  rw [tailBits, toNat_byte (by omega)]
  omega

/-- A number of up to seven bits is read from one byte. -/
theorem decodeFirst_one (h : v ≤ 0x7F) :
    decodeFirst (UInt8.ofNat v) rest = (Char.ofNat v, 0) := by
  have hlead := toNat_byte (n := v) (by omega)
  have hlt : UInt8.ofNat v < 0x80 := by
    rw [UInt8.lt_iff_toNat_lt, hlead]
    exact Nat.lt_succ_of_le h
  rw [decodeFirst, if_pos hlt, hlead]

/-- A number of up to eleven bits is read from two bytes. -/
theorem decodeFirst_two (hlow : 0x7F < v) (hhigh : v ≤ 0x7FF) :
    decodeFirst (UInt8.ofNat (v / 64 % 32 + 192)) (UInt8.ofNat (v % 64 + 128) :: rest)
      = (Char.ofNat v, 1) := by
  have hlead := toNat_byte (n := v / 64 % 32 + 192) (by omega)
  have hbits : (v / 64 % 32 + 192) % 32 * 64 + v % 64 = v := by omega
  rw [decodeFirst, if_neg, if_pos, decodeTwo, if_pos (isTail_tail v), tailBits_tail, hlead, hbits]
  · simp only [UInt8.le_iff_toNat_le, hlead, Bool.and_eq_true, decide_eq_true_eq]
    exact ⟨by simp; omega, by simp; omega⟩
  · simp only [UInt8.lt_iff_toNat_lt, hlead]
    simp

/-- A number of up to sixteen bits that is no surrogate is read from three bytes. -/
theorem decodeFirst_three (hlow : 0x7FF < v) (hhigh : v ≤ 0xFFFF)
    (hvalid : v < 0xD800 ∨ 0xDFFF < v) :
    decodeFirst (UInt8.ofNat (v / 4096 % 16 + 224))
        (UInt8.ofNat (v / 64 % 64 + 128) :: UInt8.ofNat (v % 64 + 128) :: rest)
      = (Char.ofNat v, 2) := by
  have hlead := toNat_byte (n := v / 4096 % 16 + 224) (by omega)
  have hbyte := toNat_byte (n := v / 64 % 64 + 128) (by omega)
  have hbits : (v / 4096 % 16 + 224) % 16 * 4096 + v / 64 % 64 * 64 + v % 64 = v := by omega
  have hsecond : isSecond (UInt8.ofNat (v / 4096 % 16 + 224)) (UInt8.ofNat (v / 64 % 64 + 128))
      = true := by
    simp only [isSecond, isTail, ← UInt8.toNat_inj, UInt8.le_iff_toNat_le, hlead, hbyte,
      UInt8.reduceToNat]
    grind
  rw [decodeFirst, if_neg, if_neg, if_pos, decodeThree, if_pos hsecond, if_pos (isTail_tail v),
    tailBits_tail, tailBits_tail, hlead, hbits]
  · simp only [UInt8.le_iff_toNat_le, hlead, Bool.and_eq_true, decide_eq_true_eq]
    exact ⟨by simp, by simp; omega⟩
  · simp only [UInt8.le_iff_toNat_le, hlead, Bool.and_eq_true, decide_eq_true_eq]
    simp
  · simp only [UInt8.lt_iff_toNat_lt, hlead]
    simp

/-- A number of up to twenty-one bits that is a character is read from four bytes. -/
theorem decodeFirst_four (hlow : 0xFFFF < v) (hhigh : v < 0x110000) :
    decodeFirst (UInt8.ofNat (v / 262144 % 8 + 240))
        (UInt8.ofNat (v / 4096 % 64 + 128) :: UInt8.ofNat (v / 64 % 64 + 128) ::
          UInt8.ofNat (v % 64 + 128) :: rest)
      = (Char.ofNat v, 3) := by
  have hlead := toNat_byte (n := v / 262144 % 8 + 240) (by omega)
  have hbyte := toNat_byte (n := v / 4096 % 64 + 128) (by omega)
  have hbits : (v / 262144 % 8 + 240) % 8 * 262144 + v / 4096 % 64 * 4096 + v / 64 % 64 * 64
      + v % 64 = v := by omega
  have hsecond : isSecond (UInt8.ofNat (v / 262144 % 8 + 240))
      (UInt8.ofNat (v / 4096 % 64 + 128)) = true := by
    simp only [isSecond, isTail, ← UInt8.toNat_inj, UInt8.le_iff_toNat_le, hlead, hbyte,
      UInt8.reduceToNat]
    grind
  rw [decodeFirst, if_neg, if_neg, if_neg, if_pos, decodeFour, if_pos hsecond,
    if_pos (isTail_tail _), if_pos (isTail_tail v), tailBits_tail, tailBits_tail, tailBits_tail,
    hlead, hbits]
  · simp only [UInt8.le_iff_toNat_le, hlead, Bool.and_eq_true, decide_eq_true_eq]
    exact ⟨by simp, by simp; omega⟩
  · simp only [UInt8.le_iff_toNat_le, hlead, Bool.and_eq_true, decide_eq_true_eq]
    simp
  · simp only [UInt8.le_iff_toNat_le, hlead, Bool.and_eq_true, decide_eq_true_eq]
    simp
  · simp only [UInt8.lt_iff_toNat_lt, hlead]
    simp

/-- The first byte of a character, with the bytes behind it, is read as the character. -/
theorem decodeFirst_encodeChar (c : Char) (rest : Bytes) :
    ∃ lead tail, String.utf8EncodeChar c = lead :: tail ∧
      decodeFirst lead (tail ++ rest) = (c, tail.length) := by
  -- The numbers of characters leave out the surrogates.
  have hvalid : c.val.toNat < 0xD800 ∨ 0xDFFF < c.val.toNat ∧ c.val.toNat < 0x110000 := c.valid
  have hread : Char.ofNat c.val.toNat = c := Char.ofNat_toNat c
  unfold String.utf8EncodeChar
  simp only
  generalize c.val.toNat = v at hvalid hread
  by_cases hone : v ≤ 127
  · rw [if_pos hone]
    exact ⟨_, [], rfl, hread ▸ decodeFirst_one hone⟩
  rw [if_neg hone]
  by_cases htwo : v ≤ 2047
  · rw [if_pos htwo]
    exact ⟨_, [_], rfl, hread ▸ decodeFirst_two (by omega) htwo⟩
  rw [if_neg htwo]
  by_cases hthree : v ≤ 65535
  · rw [if_pos hthree]
    exact ⟨_, [_, _], rfl, hread ▸ decodeFirst_three (by omega) hthree (by omega)⟩
  · rw [if_neg hthree]
    exact ⟨_, [_, _, _], rfl, hread ▸ decodeFirst_four (by omega) (by omega)⟩

/-! ### Texts -/

/-- **Bytes of a text** are read as the text, whatever stands behind them. -/
theorem decodeChars_encodeChars_append (cs : List Char) (rest : Bytes) :
    decodeChars (encodeChars cs ++ rest) = cs ++ decodeChars rest := by
  induction cs with
  | nil => rfl
  | cons c cs ih =>
      obtain ⟨lead, tail, hbytes, hfirst⟩ := decodeFirst_encodeChar c (encodeChars cs ++ rest)
      rw [encodeChars_cons, hbytes, List.append_assoc, List.cons_append, decodeChars_cons, hfirst,
        List.drop_left, ih, List.cons_append]

/-- **What was encoded is decoded.** -/
@[simp] theorem decodeChars_encodeChars (cs : List Char) : decodeChars (encodeChars cs) = cs := by
  have hread := decodeChars_encodeChars_append cs []
  rwa [List.append_nil, decodeChars_nil, List.append_nil] at hread

/-! ### What stands before a byte below `80` -/

variable {b lead : UInt8}

/-- A byte of its own is no tail. -/
theorem isTail_of_lt (h : b < 0x80) : isTail b = false := by
  simp only [UInt8.lt_iff_toNat_lt, UInt8.reduceToNat] at h
  simp only [isTail, UInt8.le_iff_toNat_le, UInt8.reduceToNat]
  grind

/-- A byte of its own is no second byte. -/
theorem isSecond_of_lt (h : b < 0x80) : isSecond lead b = false := by
  simp only [UInt8.lt_iff_toNat_lt, UInt8.reduceToNat] at h
  simp only [isSecond, isTail, UInt8.le_iff_toNat_le, UInt8.reduceToNat]
  grind

/-- A byte of its own ends a character of two bytes. -/
theorem decodeTwo_append (h : b < 0x80) (before behind : Bytes) :
    decodeTwo lead (before ++ b :: behind) = decodeTwo lead before := by
  rcases before with _ | ⟨first, before⟩
  · simp [decodeTwo, isTail_of_lt h]
  · rfl

/-- A byte of its own ends a character of three bytes. -/
theorem decodeThree_append (h : b < 0x80) (before behind : Bytes) :
    decodeThree lead (before ++ b :: behind) = decodeThree lead before := by
  have htail := isTail_of_lt h
  rcases before with _ | ⟨first, _ | ⟨second, before⟩⟩
  · rcases behind with _ | ⟨next, behind⟩ <;> simp [decodeThree, isSecond_of_lt h]
  · grind [decodeThree]
  · rfl

/-- A byte of its own ends a character of four bytes. -/
theorem decodeFour_append (h : b < 0x80) (before behind : Bytes) :
    decodeFour lead (before ++ b :: behind) = decodeFour lead before := by
  have htail := isTail_of_lt h
  rcases before with _ | ⟨first, _ | ⟨second, _ | ⟨third, before⟩⟩⟩
  · rcases behind with _ | ⟨next, _ | ⟨last, behind⟩⟩ <;> simp [decodeFour, isSecond_of_lt h]
  · rcases behind with _ | ⟨next, behind⟩ <;> grind [decodeFour]
  · grind [decodeFour]
  · rfl

/-- A byte below `80` belongs to no character that begins before it. -/
theorem decodeFirst_append (h : b < 0x80) (before behind : Bytes) :
    decodeFirst lead (before ++ b :: behind) = decodeFirst lead before := by
  simp only [decodeFirst, decodeTwo_append h, decodeThree_append h, decodeFour_append h]

/-- A character takes no more bytes than there are. -/
theorem used_le (lead : UInt8) (rest : Bytes) : (decodeFirst lead rest).2 ≤ rest.length := by
  have htwo : (decodeTwo lead rest).2 ≤ rest.length := by
    unfold decodeTwo
    split <;> grind
  have hthree : (decodeThree lead rest).2 ≤ rest.length := by
    unfold decodeThree
    split <;> grind
  have hfour : (decodeFour lead rest).2 ≤ rest.length := by
    unfold decodeFour
    split <;> grind
  unfold decodeFirst
  grind

/-- **A byte below `80`** parts a sequence of bytes into two that are read one by one. -/
theorem decodeChars_append_ascii (h : b < 0x80) (before behind : Bytes) :
    decodeChars (before ++ b :: behind) = decodeChars before ++ decodeChars (b :: behind) := by
  induction before using decodeChars.induct with
  | case1 => simp
  | case2 lead before ih =>
      rw [List.cons_append, decodeChars_cons, decodeChars_cons lead before, decodeFirst_append h,
        List.drop_append_of_le_length (used_le lead before), ih, List.cons_append]

/-- A slash is decoded by itself, whatever stands before it. -/
theorem decodeChars_append_slash (before behind : Bytes) :
    decodeChars (before ++ 0x2F :: behind) = decodeChars before ++ '/' :: decodeChars behind := by
  have hslash : (0x2F : UInt8) < 0x80 := by decide
  rw [decodeChars_append_ascii hslash, decodeChars_cons_ascii hslash]
  rfl

/-- A text is read from its bytes. -/
@[simp] theorem decode_encode (s : String) : decode (encode s) = s := by
  rw [decode, encode, decodeChars_encodeChars, String.ofList_toList]

/-- Texts are encoded one after the other. -/
@[simp] theorem encode_append (s t : String) : encode (s ++ t) = encode s ++ encode t := by
  rw [encode, String.toList_append, encodeChars_append]
  rfl

/-- Different texts have different bytes. -/
theorem encodeChars_injective {cs ds : List Char} (h : encodeChars cs = encodeChars ds) :
    cs = ds := by
  rw [← decodeChars_encodeChars cs, h, decodeChars_encodeChars]

/-- A byte below `80` is part of no other character than its own. -/
theorem ascii_notMem_encodeChars {cs : List Char} (hb : b < 0x80)
    (h : Char.ofNat b.toNat ∉ cs) : b ∉ encodeChars cs := by
  intro hmem
  obtain ⟨before, behind, hsplit⟩ := List.append_of_mem hmem
  have hread : cs = decodeChars before ++ Char.ofNat b.toNat :: decodeChars behind := by
    rw [← decodeChars_encodeChars cs, hsplit, decodeChars_append_ascii hb,
      decodeChars_cons_ascii hb]
  apply h
  rw [hread]
  exact List.mem_append_right _ List.mem_cons_self

/-- The byte of a slash is part of no other character. -/
theorem slash_notMem_encodeChars {cs : List Char} (h : '/' ∉ cs) : 0x2F ∉ encodeChars cs :=
  ascii_notMem_encodeChars (by decide) h

/-! ### Where slashes come from -/

variable {rest : Bytes}

/-- A slash has one number. -/
theorem eq_of_ofNat_eq_slash {n : Nat} (h : Char.ofNat n = '/') : n = 0x2F := by
  have hnat : (Char.ofNat n).toNat = 0x2F := by rw [h]; rfl
  by_cases hvalid : n.isValidChar
  · rw [Char.ofNat, dif_pos hvalid] at hnat
    exact hnat
  · rw [Char.ofNat, dif_neg hvalid] at hnat
    cases hnat

/-- What stands for a bad byte is no slash. -/
theorem replacement_ne_slash : replacement ≠ '/' := by decide

/-- Two bytes are never decoded as a slash. -/
theorem decodeTwo_ne_slash (hlead : 0xC2 ≤ lead ∧ lead ≤ 0xDF) : (decodeTwo lead rest).1 ≠ '/' := by
  simp only [UInt8.le_iff_toNat_le, UInt8.reduceToNat] at hlead
  unfold decodeTwo
  split
  · split
    · intro hslash
      have hbits := eq_of_ofNat_eq_slash hslash
      omega
    · exact replacement_ne_slash
  · exact replacement_ne_slash

/-- Three bytes are never decoded as a slash. -/
theorem decodeThree_ne_slash (hlead : 0xE0 ≤ lead ∧ lead ≤ 0xEF) :
    (decodeThree lead rest).1 ≠ '/' := by
  simp only [UInt8.le_iff_toNat_le, UInt8.reduceToNat] at hlead
  unfold decodeThree
  split
  · rename_i b c _
    by_cases hsecond : isSecond lead b = true
    · rw [if_pos hsecond]
      split
      · intro hslash
        have hbits := eq_of_ofNat_eq_slash hslash
        simp only [isSecond, isTail, tailBits, ← UInt8.toNat_inj, UInt8.le_iff_toNat_le,
          UInt8.reduceToNat] at hsecond hbits
        -- Only the leading byte `E0` leaves the number small, and it narrows the second byte.
        have hzero : lead.toNat = 0xE0 := by omega
        simp [hzero] at hsecond
        omega
      · exact replacement_ne_slash
    · rw [if_neg hsecond]
      exact replacement_ne_slash
  · exact replacement_ne_slash
  · exact replacement_ne_slash

/-- Four bytes are never decoded as a slash. -/
theorem decodeFour_ne_slash (hlead : 0xF0 ≤ lead ∧ lead ≤ 0xF4) :
    (decodeFour lead rest).1 ≠ '/' := by
  simp only [UInt8.le_iff_toNat_le, UInt8.reduceToNat] at hlead
  unfold decodeFour
  split
  · rename_i b c d _
    by_cases hsecond : isSecond lead b = true
    · rw [if_pos hsecond]
      split
      · split
        · intro hslash
          have hbits := eq_of_ofNat_eq_slash hslash
          simp only [isSecond, isTail, tailBits, ← UInt8.toNat_inj, UInt8.le_iff_toNat_le,
            UInt8.reduceToNat] at hsecond hbits
          -- Only the leading byte `F0` leaves the number small, and it narrows the second byte.
          have hzero : lead.toNat = 0xF0 := by omega
          simp [hzero] at hsecond
          omega
        · exact replacement_ne_slash
      · exact replacement_ne_slash
    · rw [if_neg hsecond]
      exact replacement_ne_slash
  all_goals exact replacement_ne_slash

/-- A slash is read from its own byte alone. -/
theorem decodeFirst_eq_slash (h : (decodeFirst lead rest).1 = '/') :
    lead = 0x2F ∧ (decodeFirst lead rest).2 = 0 := by
  unfold decodeFirst at h ⊢
  by_cases hone : lead < 0x80
  · rw [if_pos hone] at h ⊢
    refine ⟨?_, rfl⟩
    rw [← UInt8.toNat_inj]
    exact eq_of_ofNat_eq_slash h
  · rw [if_neg hone] at h
    split at h
    · rename_i htwo
      exact absurd h (decodeTwo_ne_slash (by simpa using htwo))
    · split at h
      · rename_i hthree
        exact absurd h (decodeThree_ne_slash (by simpa using hthree))
      · split at h
        · rename_i hfour
          exact absurd h (decodeFour_ne_slash (by simpa using hfour))
        · exact absurd h replacement_ne_slash

/-- Bytes that are read as a text with a slash at its end have one at their end. -/
theorem getLast?_of_decodeChars {bytes : Bytes} (h : (decodeChars bytes).getLast? = some '/') :
    bytes.getLast? = some 0x2F := by
  induction bytes using decodeChars.induct with
  | case1 => simp at h
  | case2 lead rest ih =>
      rw [decodeChars_cons] at h
      have hused := used_le lead rest
      by_cases hend : rest.drop (decodeFirst lead rest).2 = []
      · -- The slash is the first character, and takes one byte.
        rw [hend, decodeChars_nil, List.getLast?_singleton] at h
        obtain ⟨hlead, hnone⟩ := decodeFirst_eq_slash (Option.some.inj h)
        rw [hnone, List.drop_zero] at hend
        rw [hend, hlead, List.getLast?_singleton]
      · obtain ⟨next, behind, hnext⟩ := List.exists_cons_of_ne_nil hend
        rw [hnext, decodeChars_cons, List.getLast?_cons_cons, ← decodeChars_cons, ← hnext] at h
        have hlast := ih h
        rw [List.getLast?_drop] at hlast
        split at hlast
        · cases hlast
        · rw [List.getLast?_cons, hlast]
          rfl

/-- A text whose bytes end with a slash ends with one. -/
theorem getLast?_of_encodeChars {cs : List Char} (h : (encodeChars cs).getLast? = some 0x2F) :
    cs.getLast? = some '/' := by
  obtain ⟨front, hfront⟩ := List.getLast?_eq_some_iff.1 h
  rw [← decodeChars_encodeChars cs, hfront, decodeChars_append_slash]
  simp

end FileServer.Text
