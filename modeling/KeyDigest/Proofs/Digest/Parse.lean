import KeyDigest.Digest.Basic
import KeyDigest.Hashing
import KeyDigest.Proofs.Collection.Traversal
import KeyDigest.Proofs.Hex.Reading

/-! # Two readers of a written digest

A text of forty bytes can be read as a digest, and it can be taken for key data and brought to
bytes. The first reader fills twenty slots in place, the second collects a list as it goes.  The
loop over the slots comes to what the collecting reader does, whatever the slots held before
(`fillFrom_eq_decodeBytes`), and no index of it is out of range (`checkedFill_eq`).
-/

/-! ## Reading in place -/

namespace KeyDigest.Hex

variable {size : Nat} {text : Vector UInt8 (2 * size)}

/-- The loop of `fill`, on slots with any content. -/
def fillFrom (text : Vector UInt8 (2 * size)) (slots : Vector UInt8 size) :
    Except HexError (Vector UInt8 size) :=
  (List.finRange size).foldlM (fillSlot text) slots

/-! ### The pair for a slot -/

theorem high_lt (i : Fin size) : 2 * i.val < 2 * size := by omega

theorem low_lt (i : Fin size) : 2 * i.val + 1 < 2 * size := by omega

def high (text : Vector UInt8 (2 * size)) (i : Fin size) : UInt8 :=
  text.get ⟨2 * i.val, high_lt i⟩

def low (text : Vector UInt8 (2 * size)) (i : Fin size) : UInt8 :=
  text.get ⟨2 * i.val + 1, low_lt i⟩

theorem getElem?_high (text : Vector UInt8 (2 * size)) (i : Fin size) :
    text.toList[2 * i.val]? = some (high text i) := by
  have hbound : 2 * i.val < text.toList.length := by
    rw [Vector.length_toList]
    exact high_lt i
  rw [List.getElem?_eq_getElem hbound, Vector.getElem_toList]
  rfl

theorem getElem?_low (text : Vector UInt8 (2 * size)) (i : Fin size) :
    text.toList[2 * i.val + 1]? = some (low text i) := by
  have hbound : 2 * i.val + 1 < text.toList.length := by
    rw [Vector.length_toList]
    exact low_lt i
  rw [List.getElem?_eq_getElem hbound, Vector.getElem_toList]
  rfl

/-- Both digits of the pair read. -/
def Reads (text : Vector UInt8 (2 * size)) (i : Fin size) : Prop :=
  IsDigit (high text i) ∧ IsDigit (low text i)

/-- What the pair is worth when it reads. -/
def pairAt (text : Vector UInt8 (2 * size)) (i : Fin size) : UInt8 :=
  UInt8.ofNat (16 * weight (high text i) + weight (low text i))

/-- The slots after the pair for `i` was read. -/
def store (text : Vector UInt8 (2 * size)) (slots : Vector UInt8 size) (i : Fin size) :
    Vector UInt8 size :=
  slots.set i.val (pairAt text i) i.isLt

theorem fillSlot_of_reads {i : Fin size} (h : Reads text i) (slots : Vector UInt8 size) :
    fillSlot text slots i = .ok (store text slots i) := by
  have hread : readPair (high text i) (low text i) (2 * i.val) = .ok (pairAt text i) :=
    readPair_of_digits h.1 h.2 _
  change (readPair (high text i) (low text i) (2 * i.val) >>= _) = _
  rw [hread]
  rfl

theorem fillSlot_of_error {i : Fin size} {reason : HexError}
    (h : readPair (high text i) (low text i) (2 * i.val) = .error reason)
    (slots : Vector UInt8 size) : fillSlot text slots i = .error reason := by
  change (readPair (high text i) (low text i) (2 * i.val) >>= _) = _
  rw [h]
  rfl

/-! ### Digits -/

/-- Where the pairs of all the slots read, each slot is overwritten. -/
theorem foldlM_fillSlot {order : List (Fin size)} (h : ∀ i ∈ order, Reads text i)
    (slots : Vector UInt8 size) :
    order.foldlM (fillSlot text) slots = .ok (order.foldl (store text) slots) := by
  induction order generalizing slots with
  | nil => rfl
  | cons i order ih =>
    obtain ⟨hi, hrest⟩ := List.forall_mem_cons.mp h
    rw [List.foldlM_cons, fillSlot_of_reads hi, List.foldl_cons]
    exact ih hrest _

/-- A slot whose turn is still to come, or that holds its byte already, holds it in the end. -/
theorem get_foldl_store {order : List (Fin size)} {slots : Vector UInt8 size} {j : Fin size}
    (h : j ∈ order ∨ slots.get j = pairAt text j) :
    (order.foldl (store text) slots).get j = pairAt text j := by
  induction order generalizing slots with
  | nil =>
    obtain hmem | hslot := h
    · cases hmem
    · exact hslot
  | cons i order ih =>
    rw [List.foldl_cons]
    apply ih
    by_cases hi : i = j
    · subst hi
      exact .inr (Vector.getElem_set_self i.isLt)
    -- A turn of another slot neither takes the byte away nor uses up the turn of this one.
    · have hother : (store text slots i).get j = slots.get j :=
        Vector.getElem_set_ne i.isLt j.isLt (Fin.val_ne_of_ne hi)
      obtain hmem | hslot := h
      · obtain hhead | htail := List.mem_cons.mp hmem
        · exact absurd hhead.symm hi
        · exact .inl htail
      · exact .inr (hother.trans hslot)

/-- Every slot is written to, so nothing is left of what the slots held. -/
theorem fillFrom_of_digits (h : ∀ digit ∈ text.toList, IsDigit digit)
    (slots : Vector UInt8 size) : fillFrom text slots = .ok (Vector.ofFn (pairAt text)) := by
  have hreads : ∀ i ∈ List.finRange size, Reads text i := fun i _ =>
    ⟨h _ (List.mem_of_getElem? (getElem?_high text i)),
      h _ (List.mem_of_getElem? (getElem?_low text i))⟩
  rw [fillFrom, foldlM_fillSlot hreads]
  refine congrArg Except.ok (Vector.ext fun j hj => ?_)
  rw [Vector.getElem_ofFn]
  exact get_foldl_store (.inl (List.mem_finRange ⟨j, hj⟩))

theorem toList_ofFn_pairAt (text : Vector UInt8 (2 * size)) :
    (Vector.ofFn (pairAt text)).toList = pairBytes text.toList := by
  apply List.ext_getElem?
  intro k
  by_cases hk : k < size
  · rw [getElem?_pairBytes (getElem?_high text ⟨k, hk⟩) (getElem?_low text ⟨k, hk⟩)]
    simp [hk, pairAt]
  · rw [List.getElem?_eq_none (by simpa using hk),
      List.getElem?_eq_none (by rw [length_pairBytes]; simp; omega)]

/-! ### Faults -/

theorem foldlM_fillSlot_of_error {before : List (Fin size)} (hbefore : ∀ i ∈ before, Reads text i)
    {i : Fin size} {reason : HexError}
    (hread : readPair (high text i) (low text i) (2 * i.val) = .error reason)
    (after : List (Fin size)) (slots : Vector UInt8 size) :
    (before ++ i :: after).foldlM (fillSlot text) slots = .error reason := by
  rw [List.foldlM_append, foldlM_fillSlot hbefore]
  change (i :: after).foldlM (fillSlot text) _ = _
  rw [List.foldlM_cons, fillSlot_of_error hread]
  rfl

theorem FirstFault.reads {index : Nat} {byte : UInt8} (h : FirstFault text.toList index byte)
    {i : Fin size} (hi : 2 * i.val + 1 < index) : Reads text i :=
  ⟨h.isDigit_of_lt (getElem?_high text i) (by omega), h.isDigit_of_lt (getElem?_low text i) hi⟩

theorem FirstFault.readPair_eq {index : Nat} {byte : UInt8} (h : FirstFault text.toList index byte)
    {i : Fin size} (hi : i.val = index / 2) :
    readPair (high text i) (low text i) (2 * i.val) =
      .error (.invalidCharacter (Char.ofUInt8 byte) index) := by
  have hhigh := getElem?_high text i
  have hlow := getElem?_low text i
  -- An even index is the first place of its pair, an odd one the second.
  obtain hfirst | hsecond := Nat.mod_two_eq_zero_or_one index
  · obtain rfl : index = 2 * i.val := by omega
    obtain rfl : high text i = byte := Option.some.inj (hhigh.symm.trans h.getElem?_eq)
    exact readPair_of_not_high h.not_isDigit _ _
  · obtain rfl : index = 2 * i.val + 1 := by omega
    obtain rfl : low text i = byte := Option.some.inj (hlow.symm.trans h.getElem?_eq)
    exact readPair_of_not_low (h.isDigit_of_lt hhigh (by omega)) h.not_isDigit _

/-- The loop stops at the slot whose pair the first fault stands in. -/
theorem fillFrom_of_firstFault {index : Nat} {byte : UInt8}
    (h : FirstFault text.toList index byte) (slots : Vector UInt8 size) :
    fillFrom text slots = .error (.invalidCharacter (Char.ofUInt8 byte) index) := by
  have hindex : index < 2 * size := by
    obtain ⟨hbound, -⟩ := List.getElem?_eq_some_iff.mp h.getElem?_eq
    rwa [Vector.length_toList] at hbound
  have hslot : index / 2 < size := by omega
  have hbefore : ∀ i ∈ (List.finRange size).take (index / 2), Reads text i := by
    intro i hi
    obtain ⟨k, hk, rfl⟩ := List.mem_take_iff_getElem.mp hi
    apply h.reads
    rw [List.getElem_finRange]
    simp only [Fin.val_cast]
    omega
  have horder : List.finRange size = (List.finRange size).take (index / 2) ++
      ⟨index / 2, hslot⟩ :: (List.finRange size).drop (index / 2 + 1) := by
    have hdrop := List.drop_eq_getElem_cons (l := List.finRange size) (i := index / 2)
      (by rwa [List.length_finRange])
    rw [List.getElem_finRange, Fin.cast_mk] at hdrop
    rw [← hdrop, List.take_append_drop]
  -- The slots before were overwritten by then, and those behind are never reached.
  rw [fillFrom, horder]
  exact foldlM_fillSlot_of_error hbefore (h.readPair_eq rfl) _ slots

/-! ### The whole loop -/

/-- The loop comes to what the collecting reader does, whatever the slots held before. -/
theorem fillFrom_eq_decodeBytes (text : Vector UInt8 (2 * size)) (slots : Vector UInt8 size) :
    (fillFrom text slots).map Vector.toList = decodeBytes text.toList := by
  have heven : text.toList.length % 2 = 0 := by
    rw [Vector.length_toList]
    omega
  obtain hdigits | ⟨index, byte, hfault⟩ := digits_or_firstFault text.toList
  · rw [fillFrom_of_digits hdigits, decodeBytes_of_digits heven hdigits, ← toList_ofFn_pairAt]
    rfl
  · rw [fillFrom_of_firstFault hfault, decodeBytes_of_firstFault heven hfault]
    rfl

theorem fillFrom_eq_fillFrom (text : Vector UInt8 (2 * size)) (slots others : Vector UInt8 size) :
    fillFrom text slots = fillFrom text others := by
  obtain hdigits | ⟨index, byte, hfault⟩ := digits_or_firstFault text.toList
  · rw [fillFrom_of_digits hdigits, fillFrom_of_digits hdigits]
  · rw [fillFrom_of_firstFault hfault, fillFrom_of_firstFault hfault]

/-! ### Indices -/

/-- One round of the loop on plain sequences.  There is no outcome where an index is out of
range. -/
def checkedSlot (text slots : Array UInt8) (i : Nat) : Option (Except HexError (Array UInt8)) := do
  let high ← text[2 * i]?
  let low ← text[2 * i + 1]?
  let _ ← slots[i]?
  return (readPair high low (2 * i)).map (slots.setIfInBounds i)

/-- The loop on plain sequences. -/
def checkedFill (text : Array UInt8) :
    List Nat → Array UInt8 → Option (Except HexError (Array UInt8))
  | [], slots => some (.ok slots)
  | i :: rest, slots =>
    match checkedSlot text slots i with
    | none => none
    | some (.error reason) => some (.error reason)
    | some (.ok slots) => checkedFill text rest slots

theorem checkedSlot_eq (text : Vector UInt8 (2 * size)) (slots : Vector UInt8 size)
    (i : Fin size) :
    checkedSlot text.toArray slots.toArray i.val =
      some ((fillSlot text slots i).map Vector.toArray) := by
  have hhigh : text.toArray[2 * i.val]? = some (high text i) := by
    rw [← Array.getElem?_toList]
    exact getElem?_high text i
  have hlow : text.toArray[2 * i.val + 1]? = some (low text i) := by
    rw [← Array.getElem?_toList]
    exact getElem?_low text i
  have hslot : slots.toArray[i.val]? = some (slots.get i) := by
    rw [Vector.getElem?_toArray, Vector.getElem?_eq_getElem i.isLt]
    rfl
  rw [checkedSlot, hhigh, hlow, hslot]
  change some ((readPair (high text i) (low text i) (2 * i.val)).map _) =
    some ((readPair (high text i) (low text i) (2 * i.val) >>= _).map _)
  cases readPair (high text i) (low text i) (2 * i.val) with
  | error reason => rfl
  | ok byte => simp [Except.map, bind, Except.bind, pure, Except.pure, Array.setIfInBounds]

/-- No index of the loop is out of range, so it comes to what the loop without checks does. -/
theorem checkedFill_eq (text : Vector UInt8 (2 * size)) (slots : Vector UInt8 size) :
    checkedFill text.toArray (List.range size) slots.toArray =
      some ((fillFrom text slots).map Vector.toArray) := by
  -- Over any order of slots, so that the induction does not depend on where the range starts.
  have hloop (order : List (Fin size)) (slots : Vector UInt8 size) :
      checkedFill text.toArray (order.map Fin.val) slots.toArray =
        some ((order.foldlM (fillSlot text) slots).map Vector.toArray) := by
    induction order generalizing slots with
    | nil => rfl
    | cons i order ih =>
      rw [List.map_cons, checkedFill, checkedSlot_eq, List.foldlM_cons]
      cases fillSlot text slots i with
      | error reason => rfl
      | ok slots => exact ih slots
  have hrange : (List.finRange size).map Fin.val = List.range size :=
    List.ext_getElem (by simp) (by simp)
  rw [← hrange, hloop, fillFrom]

end KeyDigest.Hex

/-! ## Both readers

They agree on every text of forty bytes, on the bytes as on the reason for refusing it; a text of
any other length is refused by the first for its length alone.
-/

namespace KeyDigest.Digest

open Log

/-- The bytes of a text that has two for each slot. -/
def slotText (text : String) (h : (Utf8.bytes text).length = 2 * digestSize) :
    Vector UInt8 (2 * digestSize) :=
  ⟨(Utf8.bytes text).toArray, h⟩

theorem parse_of_length_ne {text : String} (h : (Utf8.bytes text).length ≠ 2 * digestSize) :
    parse text = .error (.length (Utf8.bytes text).length) := by
  rw [parse, if_neg h]

/-- The loop behind `parse` may start from slots with any content. -/
theorem parse_eq_fillFrom {text : String} (h : (Utf8.bytes text).length = 2 * digestSize)
    (slots : Vector UInt8 digestSize) :
    parse text =
      ((Hex.fillFrom (slotText text h) slots).map Digest.mk).mapError .encoding := by
  have heven : (Utf8.bytes text).length % 2 ≠ 1 := by omega
  have hfill : Hex.decodeExact digestSize text =
      Hex.fillFrom (slotText text h) (Vector.replicate digestSize 0) := by
    rw [Hex.decodeExact, if_neg heven, dif_pos h]
    rfl
  rw [parse, if_pos h, hfill, Hex.fillFrom_eq_fillFrom _ _ slots]
  cases Hex.fillFrom (slotText text h) slots <;> rfl

theorem map_toList_parse {text : String} (h : (Utf8.bytes text).length = 2 * digestSize) :
    (parse text).map toList = (Hex.decodeBytes (Utf8.bytes text)).mapError .encoding := by
  have hread : Hex.decodeBytes (Utf8.bytes text) =
      (Hex.fillFrom (slotText text h) zero.bytes).map Vector.toList :=
    (Hex.fillFrom_eq_decodeBytes (slotText text h) zero.bytes).symm
  rw [hread, parse_eq_fillFrom h zero.bytes]
  cases Hex.fillFrom (slotText text h) zero.bytes <;> rfl

/-- What is wrong with the digits of a text is what the collecting reader finds wrong. -/
theorem decodeBytes_of_parse_error {text : String} {reason : HexError}
    (h : parse text = .error (.encoding reason)) :
    Hex.decodeBytes (Utf8.bytes text) = .error reason := by
  by_cases hlength : (Utf8.bytes text).length = 2 * digestSize
  · have hread := map_toList_parse hlength
    rw [h] at hread
    obtain ⟨found, hdecode, hfound⟩ := mapError_eq_error_iff.mp hread.symm
    rw [hdecode, DigestError.encoding.inj hfound]
  · rw [parse_of_length_ne hlength] at h
    cases h

/-- A text of forty bytes is refused for a byte that is no digit, and for nothing else. -/
theorem parse_eq_error {text : String} (h : (Utf8.bytes text).length = 2 * digestSize)
    {error : DigestError} (herror : parse text = .error error) :
    ∃ c index, error = .encoding (.invalidCharacter c index) := by
  have hread := map_toList_parse h
  rw [herror] at hread
  obtain ⟨reason, hdecode, rfl⟩ := mapError_eq_error_iff.mp hread.symm
  obtain ⟨hodd, -⟩ | ⟨index, byte, -, -, rfl⟩ := Hex.decodeBytes_eq_error hdecode
  · omega
  · exact ⟨_, _, rfl⟩

/-- The two readers of forty bytes agree, and the first refuses every other length.  Its loop stays
inside both sequences, and comes to the same from slots with any content. -/
theorem parse_agrees_with_content (text : String) (threshold : Threshold) :
    ((Utf8.bytes text).length ≠ 40 → parse text = .error (.length (Utf8.bytes text).length)) ∧
    ((Utf8.bytes text).length = 40 →
      (parse text).map toList =
        ((Hashing.content (.hex text)).run.value threshold).map Content.bytes ∧
      (∀ error, parse text = .error error →
        ∃ c index, error = .encoding (.invalidCharacter c index)) ∧
      ∀ slots : Vector UInt8 20,
        (Hex.checkedFill (Utf8.bytes text).toArray (List.range 20) slots.toArray).map
            (Except.mapError .encoding) =
          some ((parse text).map fun digest => digest.bytes.toArray)) ∧
    parse text ≠ .error (.encoding .oddLength) ∧
    parse text ≠ .error (.encoding .wrongLength) := by
  -- Behind the guard there are only bad characters to refuse; before it, only lengths.
  have hnever (reason : HexError) (hreason : ∀ c index, reason ≠ .invalidCharacter c index) :
      parse text ≠ .error (.encoding reason) := by
    intro herror
    by_cases h : (Utf8.bytes text).length = 2 * digestSize
    · obtain ⟨c, index, hc⟩ := parse_eq_error h herror
      exact hreason c index (DigestError.encoding.inj hc)
    · rw [parse_of_length_ne h] at herror
      cases herror
  refine ⟨parse_of_length_ne, fun h => ⟨?_, fun error => parse_eq_error h, fun slots => ?_⟩,
    hnever _ nofun, hnever _ nofun⟩
  · rw [map_toList_parse h, Hashing.value_content, Preimage.content, Hex.decode]
    cases Hex.decodeBytes (Utf8.bytes text) <;> rfl
  · have hchecked : Hex.checkedFill (Utf8.bytes text).toArray (List.range 20) slots.toArray =
        some ((Hex.fillFrom (slotText text h) slots).map Vector.toArray) :=
      Hex.checkedFill_eq (slotText text h) slots
    rw [hchecked, parse_eq_fillFrom h slots]
    cases Hex.fillFrom (slotText text h) slots <;> rfl

end KeyDigest.Digest
