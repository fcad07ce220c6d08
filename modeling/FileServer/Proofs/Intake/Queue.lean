import FileServer.Proofs.Intake.Ring

/-!
# The ring is a bounded queue

What can be done with a ring, as operations with answers, against the rules of a queue that holds at
most 1024 bytes (`Serves`). A ring is filled from a source: it offers the writable region to the
source, which may store in it whatever it likes and then says how many bytes at the front of the
region count, or fails. Only what counts comes into the queue, whatever else stands in the region.

`isQueue_performAll`: whatever is done with a ring that was empty, its answers are those of a queue,
and what can be seen of the ring is what the queue holds.
-/

namespace FileServer.Ring

variable {ε : Type} {ring : Ring} {bytes : List UInt8}

/-! ## Sources -/

/-- What a source does with a region that it is offered: it leaves the region with what it has
stored in it, and gives how many bytes at the front count, or a failure. -/
abbrev Source (ε : Type) :=
  (offered : Nat) → Vector UInt8 offered → Vector UInt8 offered × Except ε (Fin (offered + 1))

/-- The writable region ends in the buffer. -/
theorem mod_add_lt (ring : Ring) {i : Nat} (hi : i < ring.writable) :
    ring.tail % 1024 + i < 1024 := by
  simp only [writable, capacity] at hi
  omega

/-- The writable region with what stands in it: one piece of the buffer. -/
def region (ring : Ring) : Vector UInt8 ring.writable :=
  .ofFn fun i => ring.buffer.get ⟨ring.tail % 1024 + i, ring.mod_add_lt i.isLt⟩

/-- Stores bytes in the writable region. They do not count yet. -/
def store (ring : Ring) (bytes : List UInt8) : Ring :=
  { ring with buffer := write ring.buffer ring.tail bytes }

/-- Lets the first bytes of the writable region count as put in. -/
def accept (ring : Ring) (count : Fin (ring.writable + 1)) : Ring where
  buffer := ring.buffer
  head := ring.head
  tail := ring.tail + count
  head_le_tail := by have := ring.head_le_tail; omega
  tail_le := by
    have hroom := ring.writable_le
    have := ring.head_le_tail
    have := count.isLt
    simp only [length] at hroom
    omega

/-- Fills a ring from a source. -/
def fillFrom (ring : Ring) (source : Source ε) : Except ε Nat × Ring :=
  let (stored, outcome) := source ring.writable ring.region
  match outcome with
  | .ok count => (.ok count, (ring.store stored.toList).accept count)
  | .error cause => (.error cause, ring.store stored.toList)

/-- The source that stores some bytes, as many as the region takes, and no others. -/
def deliver (bytes : List UInt8) : Source ε := fun offered region =>
  (.ofFn fun i => bytes[i.val]?.getD region[i], .ok ⟨min bytes.length offered, by omega⟩)

/-- Extends a ring by the bytes of which `copied` have already been put in, and counts them. -/
def extendFrom (ring : Ring) (bytes : List UInt8) (copied : Nat) : Nat × Ring :=
  if copied < bytes.length ∧ ring.isFull = false then
    (ring.fill (bytes.drop copied)).extendFrom bytes
      (copied + min (bytes.length - copied) ring.writable)
  else (copied, ring)
termination_by 1024 - ring.length
decreasing_by
  rename_i h
  have hopen : ring.length ≠ 1024 := by simpa [isFull] using h.2
  have hfull := ring.length_le
  have hpos : 0 < ring.writable := ring.writable_pos_iff.2 (by omega)
  rw [length_fill, List.length_drop]
  omega

/-! ### The writable region -/

/-- The cursors in the writable region have their places one behind the other. -/
theorem place_region {i : Nat} (hi : i < ring.writable) :
    (place (ring.tail + i)).val = ring.tail % 1024 + i := by
  have hlt := ring.mod_add_lt hi
  simp only [place]
  omega

/-- What stands in the region is what the cursors point at. -/
theorem getElem_region (ring : Ring) {i : Nat} (hi : i < ring.writable) :
    ring.region[i] = ring.byteAt (ring.tail + i) := by
  rw [region, Vector.getElem_ofFn]
  exact congrArg ring.buffer.get (Fin.ext (place_region hi).symm)

/-- What is in the region after bytes are stored in all of it. -/
theorem region_store (ring : Ring) (stored : Vector UInt8 ring.writable) :
    (ring.store stored.toList).region = stored := by
  have hroom := ring.writable_le
  apply Vector.ext
  intro i hi
  have hstored : i < stored.toList.length := by rwa [Vector.length_toList]
  have hwritten : (write ring.buffer ring.tail stored.toList)[place (ring.tail + i)]
      = stored.toList[i] := getElem_write rfl hstored (by rw [Vector.length_toList]; omega)
  rw [Vector.getElem_toList] at hwritten
  exact ((ring.store stored.toList).getElem_region hi).trans hwritten

/-- Storing does not touch the unread bytes. -/
theorem toList_store (h : bytes.length ≤ ring.writable) :
    (ring.store bytes).toList = ring.toList := by
  have hroom := ring.writable_le
  have hcursors := ring.head_le_tail
  apply List.ext_getElem
  · rw [length_toList, length_toList]
    rfl
  · intro i hi hi'
    rw [getElem_toList, getElem_toList]
    rw [length_toList] at hi'
    simp only [length] at hi' hroom
    exact getElem_write_of_lt (by simp only [store]; omega) (by simp only [store]; omega)

/-- **Accepting** appends what stands at the front of the region. -/
theorem toList_accept (ring : Ring) (count : Fin (ring.writable + 1)) :
    (ring.accept count).toList = ring.toList ++ ring.region.toList.take count := by
  have hcursors := ring.head_le_tail
  have hcount := count.isLt
  have hlength : (ring.accept count).length = ring.length + count := by
    simp only [length, accept]
    omega
  apply List.ext_getElem
  · rw [length_toList, hlength, List.length_append, length_toList, List.length_take,
      Vector.length_toList]
    omega
  · intro i hi hi'
    rw [getElem_toList, List.getElem_append]
    split
    · rw [getElem_toList]
      rfl
    · rename_i hnew
      rw [length_toList] at hnew
      simp only [List.getElem_take, Vector.getElem_toList, getElem_region, length_toList]
      have hplace : (ring.accept count).head + i = ring.tail + (i - ring.length) := by
        simp only [length, accept] at hnew ⊢
        omega
      rw [hplace]
      rfl

/-- What stands in the region when it is stored there again. -/
theorem store_region (ring : Ring) : ring.store ring.region.toList = ring := by
  have hsame : write ring.buffer ring.tail ring.region.toList = ring.buffer := by
    apply write_eq_self
    intro i hi
    rw [Vector.length_toList] at hi
    rw [Vector.getElem_toList, getElem_region ring hi, byteAt]
  rw [store, hsame]

/-! ### Filling and extending -/

/-- What a source leaves in a region that stores some bytes and no others. -/
theorem toList_deliver (bytes : List UInt8) {offered : Nat} (region : Vector UInt8 offered) :
    (deliver bytes offered region : _ × Except ε _).1.toList
      = bytes.take offered ++ region.toList.drop bytes.length := by
  apply List.ext_getElem
  · rw [Vector.length_toList, List.length_append, List.length_take, List.length_drop,
      Vector.length_toList]
    omega
  · intro i hi hi'
    have hoffered : i < offered := by rwa [Vector.length_toList] at hi
    have hleft : (deliver bytes offered region : _ × Except ε _).1.toList[i]
        = bytes[i]?.getD region[i] := by simp [deliver]
    rw [hleft, List.getElem_append]
    split
    · rename_i hlt
      rw [List.length_take] at hlt
      rw [List.getElem_take, List.getElem?_eq_getElem (by omega), Option.getD_some]
    · rename_i hge
      rw [List.length_take] at hge
      rw [List.getElem?_eq_none (by omega), Option.getD_none, List.getElem_drop,
        Vector.getElem_toList]
      congr 1
      rw [List.length_take]
      omega

/-- **A source that stores some bytes and no others** fills a ring with them. -/
theorem fillFrom_deliver (ring : Ring) (bytes : List UInt8) :
    ring.fillFrom (deliver bytes : Source ε)
      = (.ok (min bytes.length ring.writable), ring.fill bytes) := by
  have hroom := ring.writable_le
  have hbuffer : write ring.buffer ring.tail
      (deliver bytes ring.writable ring.region : _ × Except ε _).1.toList
        = write ring.buffer ring.tail (bytes.take ring.writable) := by
    rw [toList_deliver, write_append]
    apply write_eq_self
    intro i hi
    rw [List.length_drop, Vector.length_toList] at hi
    have hlength : (bytes.take ring.writable).length = bytes.length := by
      rw [List.length_take]
      omega
    rw [getElem_write_of_ge (by omega) (by omega), List.getElem_drop, Vector.getElem_toList,
      getElem_region, byteAt, hlength, Nat.add_assoc]
  exact Prod.ext rfl ((mk.injEq ..).mpr ⟨hbuffer, rfl, rfl⟩)

/-- **Extending**, with the number of bytes that fitted. -/
theorem extendFrom_eq (ring : Ring) (bytes : List UInt8) (copied : Nat) :
    ring.extendFrom bytes copied
      = (copied + min (bytes.length - copied) (1024 - ring.length),
        ring.extend (bytes.drop copied)) := by
  induction ring, copied using extendFrom.induct bytes with
  | case1 ring copied hopen ih =>
      have hroom := ring.writable_le
      have hlength := length_fill ring (bytes.drop copied)
      rw [List.length_drop] at hlength
      have hgo : ¬((bytes.drop copied).isEmpty || ring.isFull) = true := by
        simpa [hopen.2] using hopen.1
      have hleft : bytes.drop (copied + min (bytes.length - copied) ring.writable)
          = (bytes.drop copied).drop ring.writable := by
        rw [List.drop_drop]
        rcases Nat.le_total ring.writable (bytes.length - copied) with hle | hle
        · rw [Nat.min_eq_right hle]
        · rw [List.drop_of_length_le (by omega), List.drop_of_length_le (by omega)]
      have hextend : ring.extend (bytes.drop copied)
          = (ring.fill (bytes.drop copied)).extend ((bytes.drop copied).drop ring.writable) := by
        rw [extend, if_neg hgo]
      rw [extendFrom, if_pos hopen, ih, hleft, hextend]
      refine Prod.ext ?_ rfl
      simp only
      omega
  | case2 ring copied hstop =>
      have hend : ((bytes.drop copied).isEmpty || ring.isFull) = true := by
        rw [Bool.or_eq_true, List.isEmpty_iff, List.drop_eq_nil_iff]
        rw [Decidable.not_and_iff_or_not, Nat.not_lt, Bool.not_eq_false] at hstop
        exact hstop
      have hnone : min (bytes.length - copied) (1024 - ring.length) = 0 := by
        rw [Bool.or_eq_true, List.isEmpty_iff, List.drop_eq_nil_iff] at hend
        rcases hend with hall | hfull
        · omega
        · have hlength : ring.length = 1024 := by simpa [isFull] using hfull
          omega
      rw [extendFrom, if_neg hstop, extend, if_pos hend, hnone, Nat.add_zero]

/-! ## Operations -/

/-- What can be done with a ring. -/
inductive Operation (ε : Type) where
  /-- Bytes are put in, as many as fit. -/
  | extend (bytes : List UInt8)
  /-- It is filled from a source. -/
  | fill (source : Source ε)
  /-- A byte is taken out. -/
  | pop
  /-- It is compacted. -/
  | compact

/-- What an operation answers. -/
inductive Answer (ε : Type) where
  /-- So many bytes fitted. -/
  | copied (count : Nat)
  /-- This is what the source gave. -/
  | filled (outcome : Except ε Nat)
  /-- This is the byte taken out, if there was one. -/
  | popped (byte : Option UInt8)
  /-- These are the cursors now. -/
  | moved (head tail : Nat)

/-- One operation. -/
def perform (ring : Ring) : Operation ε → Answer ε × Ring
  | .extend bytes => (ring.extendFrom bytes 0).map .copied id
  | .fill source => (ring.fillFrom source).map .filled id
  | .pop =>
    match ring.pop? with
    | none => (.popped none, ring)
    | some (b, rest) => (.popped (some b), rest)
  | .compact => (.moved ring.compact.head ring.compact.tail, ring.compact)

/-- Several operations, with what each of them answers. -/
def performAll (ring : Ring) : List (Operation ε) → List (Answer ε) × Ring
  | [] => ([], ring)
  | operation :: operations =>
    let (answer, ring) := ring.perform operation
    let (answers, ring) := ring.performAll operations
    (answer :: answers, ring)

/-! ## The queue -/

/-- The rules of a queue of at most 1024 bytes: what an operation answers, and which bytes are in
the queue before and after it, the oldest in front. -/
inductive Serves : List UInt8 → Operation ε → Answer ε → List UInt8 → Prop
  /-- The first of the bytes are appended, as many as there is room for. -/
  | extend {queue bytes : List UInt8} {count : Nat}
      (hcount : count = min bytes.length (1024 - queue.length)) :
      Serves queue (.extend bytes) (.copied count) (queue ++ bytes.take count)
  /-- A source is offered some of the room, and the first bytes that it leaves there are appended,
  as many as it says. -/
  | filled {queue : List UInt8} {source : Source ε} {offered : Nat}
      {found stored : Vector UInt8 offered} {count : Fin (offered + 1)}
      (hroom : offered ≤ 1024 - queue.length) (hopen : queue.length < 1024 → 0 < offered)
      (hsource : source offered found = (stored, .ok count)) :
      Serves queue (.fill source) (.filled (.ok count)) (queue ++ stored.toList.take count)
  /-- A source is offered some of the room and fails, and nothing is appended. -/
  | failed {queue : List UInt8} {source : Source ε} {offered : Nat}
      {found stored : Vector UInt8 offered} {cause : ε}
      (hroom : offered ≤ 1024 - queue.length) (hopen : queue.length < 1024 → 0 < offered)
      (hsource : source offered found = (stored, .error cause)) :
      Serves queue (.fill source) (.filled (.error cause)) queue
  /-- The oldest byte is taken out. -/
  | popped {b : UInt8} {queue : List UInt8} : Serves (b :: queue) .pop (.popped (some b)) queue
  /-- There is none. -/
  | exhausted : Serves [] .pop (.popped none) []
  /-- The bytes stay, and the cursors are around them. -/
  | compacted {queue : List UInt8} : Serves queue .compact (.moved 0 queue.length) queue

/-- Several operations, one after the other. -/
inductive ServesAll : List UInt8 → List (Operation ε) → List (Answer ε) → List UInt8 → Prop
  /-- No operation. -/
  | nil {queue : List UInt8} : ServesAll queue [] [] queue
  /-- One operation and then others. -/
  | cons {queue next last : List UInt8} {operation : Operation ε} {answer : Answer ε}
      {operations : List (Operation ε)} {answers : List (Answer ε)}
      (hfirst : Serves queue operation answer next)
      (hrest : ServesAll next operations answers last) :
      ServesAll queue (operation :: operations) (answer :: answers) last

/-- **Filling from a source**, as a queue does it. -/
theorem serves_fillFrom (ring : Ring) (source : Source ε) :
    Serves ring.toList (.fill source) (.filled (ring.fillFrom source).1)
      (ring.fillFrom source).2.toList := by
  have hroom : ring.writable ≤ 1024 - ring.toList.length := by
    have := ring.writable_le
    rw [length_toList]
    omega
  have hopen : ring.toList.length < 1024 → 0 < ring.writable := by
    rw [length_toList]
    exact ring.writable_pos_iff.2
  unfold fillFrom
  rcases hsource : source ring.writable ring.region with ⟨stored, cause | count⟩
  · have hkept : (ring.store stored.toList).toList = ring.toList :=
      toList_store (Nat.le_of_eq stored.length_toList)
    simp only
    rw [hkept]
    exact .failed hroom hopen hsource
  · have hkept : (ring.store stored.toList).toList = ring.toList :=
      toList_store (Nat.le_of_eq stored.length_toList)
    have hmore := (ring.store stored.toList).toList_accept count
    rw [hkept, region_store] at hmore
    simp only
    rw [hmore]
    exact .filled hroom hopen hsource

/-- **Every operation** is done as a queue does it. -/
theorem serves_perform (ring : Ring) (operation : Operation ε) :
    Serves ring.toList operation (ring.perform operation).1 (ring.perform operation).2.toList := by
  cases operation with
  | extend bytes =>
      have htaken : bytes.take (1024 - ring.length)
          = bytes.take (min bytes.length (1024 - ring.length)) := by
        rw [List.take_eq_take_iff]
        omega
      have hcount : min bytes.length (1024 - ring.length)
          = min bytes.length (1024 - ring.toList.length) := by rw [length_toList]
      simp only [perform, extendFrom_eq, Prod.map, id, toList_extend, List.drop_zero, htaken,
        Nat.zero_add, Nat.sub_zero]
      exact .extend hcount
  | fill source => exact ring.serves_fillFrom source
  | pop =>
      unfold perform
      rcases hpop : ring.pop? with _ | ⟨b, rest⟩
      · rw [toList_of_pop?_eq_none hpop]
        exact .exhausted
      · rw [toList_of_pop? hpop]
        exact .popped
  | compact =>
      unfold perform
      rw [toList_compact]
      have hmoved : ring.compact.tail = ring.toList.length := ring.length_toList.symm
      rw [hmoved]
      exact .compacted

/-- **Several operations** are done as a queue does them. -/
theorem servesAll_performAll (ring : Ring) (operations : List (Operation ε)) :
    ServesAll ring.toList operations (ring.performAll operations).1
      (ring.performAll operations).2.toList := by
  induction operations generalizing ring with
  | nil => exact .nil
  | cons operation operations ih => exact .cons (ring.serves_perform operation) (ih _)

/-- A ring as the queue of some bytes. -/
structure IsQueue (ε : Type) (ring : Ring) (queue : List UInt8) : Prop where
  /-- These are the unread bytes. -/
  toList_eq : ring.toList = queue
  /-- There are not too many of them. -/
  length_le : queue.length ≤ 1024
  /-- The length is their number. -/
  length_eq : ring.length = queue.length
  /-- The ring is empty if there are none. -/
  isEmpty_iff : ring.isEmpty = true ↔ queue = []
  /-- It is full if there is room for no more. -/
  isFull_iff : ring.isFull = true ↔ queue.length = 1024
  /-- Whatever is done next is done to the queue. -/
  serves : ∀ operation : Operation ε,
    Serves queue operation (ring.perform operation).1 (ring.perform operation).2.toList
  /-- A source that fails leaves the cursors where they are, and the ring as it is if it has stored
  nothing. -/
  failed : ∀ (source : Source ε) (cause : ε), (ring.fillFrom source).1 = .error cause →
    (ring.fillFrom source).2.head = ring.head ∧ (ring.fillFrom source).2.tail = ring.tail ∧
      ((source ring.writable ring.region).1 = ring.region → (ring.fillFrom source).2 = ring)
  /-- A source that stores some bytes and no others fills the ring with them. -/
  fillFrom_eq : ∀ bytes, ring.fillFrom (deliver bytes : Source ε)
    = (.ok (min bytes.length ring.writable), ring.fill bytes)
  /-- Extending with a count extends. -/
  extendFrom_eq : ∀ bytes, (ring.extendFrom bytes 0).2 = ring.extend bytes

/-- A ring is a queue of what it holds. -/
theorem isQueue_toList (ε : Type) (ring : Ring) : IsQueue ε ring ring.toList where
  toList_eq := rfl
  length_le := by
    rw [length_toList]
    exact ring.length_le
  length_eq := ring.length_toList.symm
  isEmpty_iff := by
    constructor
    · intro hempty
      have hcursors : ring.head = ring.tail := by simpa [isEmpty] using hempty
      apply List.eq_nil_of_length_eq_zero
      rw [length_toList, length, hcursors, Nat.sub_self]
    · exact isEmpty_of_toList
  isFull_iff := by
    rw [length_toList]
    exact decide_eq_true_iff
  serves := ring.serves_perform
  failed source cause hfailed := by
    unfold fillFrom at hfailed ⊢
    rcases hsource : source ring.writable ring.region with ⟨stored, other | count⟩
    · refine ⟨rfl, rfl, fun hstored => ?_⟩
      obtain rfl : stored = ring.region := hstored
      exact ring.store_region
    · rw [hsource] at hfailed
      cases hfailed
  fillFrom_eq := ring.fillFrom_deliver
  extendFrom_eq bytes := by rw [Ring.extendFrom_eq, List.drop_zero]

/-- **The ring is a bounded queue.** Whatever is done with a ring that was empty, the answers are
those of a queue of at most 1024 bytes, and at the end the ring is the queue of the bytes that are
left in it. -/
theorem isQueue_performAll (ε : Type) (operations : List (Operation ε)) :
    ∃ queue, ServesAll [] operations (empty.performAll operations).1 queue ∧
      IsQueue ε (empty.performAll operations).2 queue :=
  ⟨_, empty.servesAll_performAll operations, isQueue_toList ε _⟩

end FileServer.Ring
