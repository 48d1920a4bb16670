import KeyDigest.Proofs.Collection.SortedMap
import KeyDigest.Proofs.Digest.Order
import KeyDigest.Proofs.Json.Inverse
import KeyDigest.Proofs.Json.Object

/-! # Written collections

What is written for a list of digests is read back as that list.  What is written for their
positions is an object whose keys ascend as texts, and since texts stand in the order of the
digests, they are the digests of the list in ascending order, each once; under each of them stands
the last place where it occurs.
-/

namespace KeyDigest.Digest

open Json (get?)

/-- No character of the text has to be escaped in a document. -/
def Unescaped (text : String) : Prop :=
  ∀ c ∈ text.toList, c ≠ '"' ∧ c ≠ '\\' ∧ 0x20 ≤ c.toNat

theorem unescaped_toHex (digest : Digest) : Unescaped digest.toHex := by
  have hall : ∀ c ∈ Hex.lowercase, c ≠ '"' ∧ c ≠ '\\' ∧ 0x20 ≤ c.toNat := by
    simp [Hex.lowercase]
  exact fun c hc => hall c (mem_lowercase_of_mem_toHex hc)

theorem writeString_toHex (digest : Digest) :
    Json.writeString digest.toHex = "\"" ++ digest.toHex ++ "\"" :=
  write_toJson digest

/-! ## Lists -/

theorem exact_listToJson (digests : List Digest) : (listToJson digests).Exact := by
  refine .list fun item hitem => ?_
  obtain ⟨digest, -, rfl⟩ := List.mem_map.mp hitem
  exact .string _

theorem ofJson_toJson (digest : Digest) : ofJson digest.toJson = .ok digest :=
  ofText_eq_ok_iff.mpr (parse_toHex digest)

theorem listOfJson_listToJson (digests : List Digest) :
    listOfJson (listToJson digests) = .ok digests := by
  refine mapM_eq_ok_iff.mpr ?_
  rw [List.map_map]
  exact List.map_congr_left fun digest _ => ofJson_toJson digest

theorem write_listToJson (digests : List Digest) :
    (listToJson digests).write =
      "[" ++ ",".intercalate (digests.map fun digest => "\"" ++ digest.toHex ++ "\"") ++ "]" := by
  rw [listToJson, Json.write, Json.writeItems_eq_map, List.map_map]
  have hitems : digests.map (Json.write ∘ toJson) =
      digests.map fun digest => "\"" ++ digest.toHex ++ "\"" :=
    List.map_congr_left fun digest _ => write_toJson digest
  rw [hitems]

/-! ## Positions -/

/-- The last place of an item in a list. -/
theorem isLast_zipIdx_iff {α : Type} {l : List α} {a : α} {i : Nat} :
    IsLast (·.1 = a) (a, i) l.zipIdx ↔
      l[i]? = some a ∧ ∀ later, l[later]? = some a → later ≤ i := by
  have ascending : l.zipIdx.Pairwise fun x y => x.2 < y.2 := by
    rw [← List.pairwise_map (f := Prod.snd), List.zipIdx_map_snd]
    exact List.pairwise_lt_range'
  rw [isLast_iff_of_ascending ascending, List.mem_zipIdx_iff_getElem?]
  refine and_congr_right fun _ => ⟨fun h later hlater => ?_, fun h => ?_⟩
  · exact h (a, later) (List.mem_zipIdx_iff_getElem?.mpr hlater) rfl
  · rintro ⟨_, later⟩ hlater rfl
    exact h later (List.mem_zipIdx_iff_getElem?.mp hlater)

theorem mem_positions_iff {digests : List Digest} {digest : Digest} {position : Nat} :
    (digest, position) ∈ (positions digests).entries ↔
      digests[position]? = some digest ∧
        ∀ later, digests[later]? = some digest → later ≤ position :=
  SortedMap.mem_ofList_iff.trans isLast_zipIdx_iff

theorem mem_keys_positions_iff {digests : List Digest} {digest : Digest} :
    digest ∈ (positions digests).entries.map Prod.fst ↔ digest ∈ digests := by
  rw [positions, SortedMap.mem_keys_ofList_iff, List.zipIdx_map_fst]

/-- The entries of the object that is written for the positions of digests.  The keys ascend as
texts and are the texts of the digests, each once and in ascending order; a key has the last place
of its digest. -/
structure IsPositionsOf (entries : List (String × Json)) (digests : List Digest) : Prop where
  ascending : entries.Pairwise fun a b => a.1 < b.1
  unescaped : ∀ entry ∈ entries, Unescaped entry.1
  exists_keys : ∃ keys : List Digest, keys.Pairwise (· < ·) ∧
    (∀ digest, digest ∈ keys ↔ digest ∈ digests) ∧
    entries.map (fun entry => parse entry.1) = keys.map .ok
  get?_iff : ∀ digest value, get? entries (digest.format .plain { }) = some value ↔
    ∃ position : Nat, value = .number (.integer position) ∧ digests[position]? = some digest ∧
      ∀ later, digests[later]? = some digest → later ≤ position

section Positions

variable {digests : List Digest}

/-- The entries that are written for the positions of some digests. -/
def positionEntries (digests : List Digest) : List (String × Json) :=
  (positions digests).entries.map fun (digest, position) => (digest.toHex, Json.ofNat position)

theorem positionsToJson_eq (digests : List Digest) :
    positionsToJson digests = .object (positionEntries digests) := rfl

theorem pairwise_positionEntries (digests : List Digest) :
    (positionEntries digests).Pairwise fun a b => a.1 < b.1 := by
  rw [positionEntries, List.pairwise_map]
  exact (positions digests).ascending.imp toHex_lt_iff.mpr

theorem mem_positionEntries_iff {digest : Digest} {value : Json} :
    (digest.toHex, value) ∈ positionEntries digests ↔
      ∃ position : Nat, value = .number (.integer position) ∧
        (digest, position) ∈ (positions digests).entries := by
  rw [positionEntries, List.mem_map]
  constructor
  · rintro ⟨⟨other, position⟩, hmem, heq⟩
    obtain ⟨hkey, rfl⟩ := Prod.mk.inj heq
    obtain rfl := toHex_inj hkey
    exact ⟨position, rfl, hmem⟩
  · rintro ⟨position, rfl, hmem⟩
    exact ⟨(digest, position), hmem, rfl⟩

theorem isPositionsOf_positionEntries (digests : List Digest) :
    IsPositionsOf (positionEntries digests) digests where
  ascending := pairwise_positionEntries digests
  unescaped entry hentry := by
    obtain ⟨⟨digest, -⟩, -, rfl⟩ := List.mem_map.mp hentry
    exact unescaped_toHex digest
  exists_keys := by
    refine ⟨(positions digests).entries.map Prod.fst, ?_, fun _ => mem_keys_positions_iff, ?_⟩
    · exact List.pairwise_map.mpr (positions digests).ascending
    · rw [positionEntries, List.map_map, List.map_map]
      exact List.map_congr_left fun entry _ => parse_toHex entry.1
  get?_iff digest value := by
    rw [(isTextOf_toHex digest).plain_eq,
      Json.get?_eq_some_iff (pairwise_positionEntries digests), mem_positionEntries_iff]
    simp only [mem_positions_iff]

theorem exact_positionsToJson (h : digests.length ≤ UInt64.size) :
    (positionsToJson digests).Exact := by
  refine .object fun entry hentry => ?_
  obtain ⟨⟨digest, position⟩, hmem, rfl⟩ := List.mem_map.mp hentry
  have hposition := (List.getElem?_eq_some_iff.mp (mem_positions_iff.mp hmem).1).1
  exact .natural (by omega)

theorem write_positionsToJson (digests : List Digest) :
    (positionsToJson digests).write =
      "\x7b" ++ ",".intercalate ((positionEntries digests).map fun entry =>
        "\"" ++ entry.1 ++ "\":" ++ entry.2.write) ++ "\x7d" := by
  have hentries : (positionEntries digests).map Json.entryText =
      (positionEntries digests).map fun entry => "\"" ++ entry.1 ++ "\":" ++ entry.2.write := by
    refine List.map_congr_left fun entry hentry => ?_
    obtain ⟨⟨digest, position⟩, -, rfl⟩ := List.mem_map.mp hentry
    apply String.toList_inj.mp
    simp [Json.entryText, writeString_toHex]
  rw [positionsToJson_eq, Json.write, Json.writeEntries_eq_map, hentries]

example : (positionsToJson [zero, zero]).write =
    "\x7b\"0000000000000000000000000000000000000000\":1\x7d" := by decide +kernel

end Positions

/-! ## Both collections -/

/-- A written list of digests is read back as the same list, and the object of their positions is
written in the order of the digests and read back as the same object.  Neither holds anything that
has to be escaped.  Positions are read back as long as they fit in 64 bits. -/
theorem collections_read_back (digests : List Digest) :
    ((listToJson digests).write =
        "[" ++ ",".intercalate (digests.map fun digest =>
          "\"" ++ digest.format .plain { } ++ "\"") ++ "]" ∧
      (∀ digest ∈ digests, Unescaped (digest.format .plain { })) ∧
      Json.read (listToJson digests).write = .ok (listToJson digests) ∧
      listOfJson (listToJson digests) = .ok digests) ∧
    ∃ entries, positionsToJson digests = .object entries ∧ IsPositionsOf entries digests ∧
      (positionsToJson digests).write =
        "\x7b" ++ ",".intercalate (entries.map fun entry =>
          "\"" ++ entry.1 ++ "\":" ++ entry.2.write) ++ "\x7d" ∧
      (digests.length ≤ UInt64.size →
        Json.read (positionsToJson digests).write = .ok (.object entries)) := by
  have hplain (digest : Digest) : digest.format .plain { } = digest.toHex :=
    (isTextOf_toHex digest).plain_eq
  simp only [hplain]
  refine ⟨⟨write_listToJson digests, fun digest _ => unescaped_toHex digest,
    Json.read_write (exact_listToJson digests), listOfJson_listToJson digests⟩,
    positionEntries digests, rfl, isPositionsOf_positionEntries digests,
    write_positionsToJson digests, fun h => Json.read_write (exact_positionsToJson h)⟩

end KeyDigest.Digest
