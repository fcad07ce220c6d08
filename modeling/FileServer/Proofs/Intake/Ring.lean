import FileServer.Intake.Ring

/-!
# The ring as a queue of bytes

The operations of a ring, seen through the list of its unread bytes: putting bytes in appends them
(`toList_fill`, `toList_extend`), taking one out takes the first (`toList_of_pop?`), and moving the
bytes to the front of the buffer changes nothing (`toList_compact`).

The two cursors are reduced to places in the buffer, so all of this rests on one fact: cursors that
are less than a whole round apart have different places (`place_ne`).
-/

namespace FileServer.Ring

variable {ring rest : Ring} {buffer : Vector UInt8 1024} {bytes : List UInt8} {b : UInt8}

/-- Within one round no place comes twice. -/
theorem place_ne {first second : Nat} (hlt : first < second) (hround : second < first + 1024) :
    place first ≠ place second := by
  intro heq
  have hmod : first % 1024 = second % 1024 := congrArg Fin.val heq
  omega

/-- Writing leaves the bytes in front of the cursor alone, up to a round back. -/
theorem getElem_write_of_lt {cursor other : Nat} (hlt : other < cursor)
    (hround : cursor + bytes.length ≤ other + 1024) :
    (write buffer cursor bytes)[place other] = buffer[place other] := by
  induction bytes generalizing buffer cursor with
  | nil => rfl
  | cons b bytes ih =>
      rw [List.length_cons] at hround
      rw [write, ih (by omega) (by omega)]
      have hne : place cursor ≠ place other := (place_ne hlt (by omega)).symm
      have hval : (place cursor).val ≠ (place other).val := fun heq => hne (Fin.ext heq)
      simp only [Fin.getElem_fin, Vector.getElem_set]
      rw [if_neg hval]

/-- Writing leaves the bytes behind the last one alone, up to a round from the first. -/
theorem getElem_write_of_ge {cursor other : Nat} (hge : cursor + bytes.length ≤ other)
    (hround : other < cursor + 1024) : (write buffer cursor bytes)[place other]
      = buffer[place other] := by
  induction bytes generalizing buffer cursor with
  | nil => rfl
  | cons b bytes ih =>
      rw [List.length_cons] at hge
      rw [write, ih (by omega) (by omega)]
      have hne : place cursor ≠ place other := place_ne (by omega) hround
      have hval : (place cursor).val ≠ (place other).val := fun heq => hne (Fin.ext heq)
      simp only [Fin.getElem_fin, Vector.getElem_set]
      rw [if_neg hval]

/-- Writing puts the bytes one behind the other from the cursor on. -/
theorem getElem_write {cursor other i : Nat} (hother : other = cursor + i) (hi : i < bytes.length)
    (hround : bytes.length ≤ 1024) : (write buffer cursor bytes)[place other] = bytes[i] := by
  induction bytes generalizing buffer cursor i with
  | nil => cases hi
  | cons b bytes ih =>
      rw [List.length_cons] at hi hround
      rw [write]
      rcases i with _ | i
      · rw [getElem_write_of_lt (by omega) (by omega)]
        obtain rfl : other = cursor := hother
        simp [Fin.getElem_fin]
      · exact ih (by omega) (by omega) (by omega)

/-- Writing bytes one after the other. -/
theorem write_append (buffer : Vector UInt8 1024) (cursor : Nat) (first second : List UInt8) :
    write buffer cursor (first ++ second)
      = write (write buffer cursor first) (cursor + first.length) second := by
  induction first generalizing buffer cursor with
  | nil => rfl
  | cons b first ih =>
      rw [List.cons_append, write, ih, write, List.length_cons]
      congr 1
      omega

/-- Writing what stands there changes nothing. -/
theorem write_eq_self {cursor : Nat}
    (h : ∀ i (hi : i < bytes.length), buffer[place (cursor + i)] = bytes[i]) :
    write buffer cursor bytes = buffer := by
  induction bytes generalizing cursor with
  | nil => rfl
  | cons b bytes ih =>
      have hset : buffer.set (place cursor) b = buffer := by
        have hfirst : buffer[place cursor] = b := h 0 (Nat.zero_lt_succ _)
        rw [← hfirst]
        exact Vector.set_getElem_self _
      rw [write, hset]
      apply ih
      intro i hi
      have hnext := h (i + 1) (Nat.succ_lt_succ hi)
      have hcursor : cursor + (i + 1) = cursor + 1 + i := by omega
      simpa only [hcursor, List.getElem_cons_succ] using hnext

/-- What the ring holds, byte by byte. -/
theorem getElem_toList (ring : Ring) {i : Nat} (hi : i < ring.toList.length) :
    ring.toList[i] = ring.byteAt (ring.head + i) := by
  simp [toList]

/-- **Filling** appends as many of the bytes as the writable region takes. -/
theorem toList_fill (ring : Ring) (bytes : List UInt8) :
    (ring.fill bytes).toList = ring.toList ++ bytes.take ring.writable := by
  have hroom := ring.writable_le
  have hcursors := ring.head_le_tail
  have htaken : (bytes.take ring.writable).length ≤ ring.writable := by
    rw [List.length_take]
    omega
  apply List.ext_getElem
  · rw [length_toList, length_fill, List.length_append, length_toList, List.length_take,
      Nat.min_comm]
  · intro i hi hi'
    rw [length_toList, length_fill] at hi
    rw [getElem_toList, List.getElem_append]
    split
    · rename_i hold
      rw [length_toList] at hold
      rw [getElem_toList]
      have hhead : (ring.fill bytes).head = ring.head := rfl
      rw [hhead]
      simp only [length] at hold hroom
      exact getElem_write_of_lt (by omega) (by omega)
    · rename_i hnew
      rw [length_toList] at hnew
      simp only [length_toList]
      have hplace : (ring.fill bytes).head + i = ring.tail + (i - ring.length) := by
        simp only [fill, length] at hnew ⊢
        omega
      exact getElem_write hplace (by rw [List.length_take]; omega) (by omega)

/-- Bytes that fit are appended whole. -/
theorem toList_fill_of_le (h : bytes.length ≤ ring.writable) :
    (ring.fill bytes).toList = ring.toList ++ bytes := by
  rw [toList_fill, List.take_of_length_le h]

/-- **Extending** fills region by region, and so appends as many of the bytes as fit at all. -/
theorem toList_extend (ring : Ring) (bytes : List UInt8) :
    (ring.extend bytes).toList = ring.toList ++ bytes.take (1024 - ring.length) := by
  induction ring, bytes using extend.induct with
  | case1 ring bytes hstop =>
      rw [extend, if_pos hstop]
      rcases Bool.or_eq_true_iff.1 hstop with hempty | hfull
      · rw [List.isEmpty_iff.1 hempty, List.take_nil, List.append_nil]
      · have hlength : ring.length = 1024 := by simpa [isFull] using hfull
        rw [hlength, Nat.sub_self, List.take_zero, List.append_nil]
  | case2 ring bytes hgo ih =>
      have hroom := ring.writable_le
      have hleft : (bytes.drop ring.writable).take (1024 - (ring.fill bytes).length)
          = (bytes.drop ring.writable).take (1024 - ring.length - ring.writable) := by
        rw [length_fill]
        rcases Nat.le_total bytes.length ring.writable with hshort | hlong
        · rw [List.drop_of_length_le hshort, List.take_nil, List.take_nil]
        · rw [Nat.min_eq_right hlong, Nat.sub_sub]
      rw [extend, if_neg hgo, ih, toList_fill, hleft, List.append_assoc, ← List.take_add]
      congr 2
      omega

/-- **Taking out** a byte takes the oldest one. -/
theorem toList_of_pop? (h : ring.pop? = some (b, rest)) : ring.toList = b :: rest.toList := by
  have hcursors := ring.head_le_tail
  unfold pop? at h
  split at h
  · cases h
  · rename_i hne
    obtain ⟨rfl, rfl⟩ := Prod.mk.inj (Option.some.inj h)
    have hlength : ring.length = (ring.tail - (ring.head + 1)) + 1 := by
      simp only [length]
      omega
    simp only [toList, length] at hlength ⊢
    rw [hlength, List.range'_succ, List.map_cons]
    rfl

/-- A ring that gives nothing holds nothing. -/
theorem toList_of_pop?_eq_none (h : ring.pop? = none) : ring.toList = [] := by
  rw [pop?_eq_none_iff] at h
  exact List.eq_nil_of_length_eq_zero (by rw [length_toList, h])

/-- A ring that holds nothing has no length. -/
theorem length_of_toList (h : ring.toList = []) : ring.length = 0 := by
  rw [← ring.length_toList, h, List.length_nil]

/-- Where nothing is unread the cursors meet. -/
theorem isEmpty_of_toList (h : ring.toList = []) : ring.isEmpty = true := by
  have hlength := length_of_toList h
  have hle := ring.head_le_tail
  rw [length] at hlength
  rw [isEmpty, decide_eq_true_eq]
  omega

/-- **Compacting** moves the bytes and keeps them. -/
theorem toList_compact (ring : Ring) : ring.compact.toList = ring.toList := by
  have hlength := ring.length_le
  apply List.ext_getElem
  · rw [length_toList, length_toList, length_compact]
  · intro i hi hi'
    rw [getElem_toList]
    exact getElem_write rfl hi' (by rw [length_toList]; exact hlength)

end FileServer.Ring
