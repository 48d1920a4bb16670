import KeyDigest.Proofs.Collection.SortedMap
import KeyDigest.Proofs.Collection.Traversal
import KeyDigest.Proofs.Digest.Spelling
import KeyDigest.Proofs.Json.Object

/-! # Digests inside containers

A list is read from the left, an object in ascending order of its key texts and each key before its
value; the first error is the error of the whole.  An object that can be read gives a map in the
order of the digests, which is not that of the texts: a digest may be spelled by several of them,
and then the greatest text has the value.
-/

namespace KeyDigest.Digest

open Json (get? byKey)

/-! ## Entries -/

/-- A key text and its value both give digests. -/
def Readable (entry : String × Json) : Prop :=
  (∃ digest, ofText entry.1 = .ok digest) ∧ ∃ digest, ofJson entry.2 = .ok digest

/-- The first error of an entry: that of its key, or of its value where the key can be read. -/
def FailsWith (entry : String × Json) (error : ReadError) : Prop :=
  ofText entry.1 = .error error ∨
    (∃ digest, ofText entry.1 = .ok digest) ∧ ofJson entry.2 = .error error

theorem entryOfJson_eq_ok_iff {entry : String × Json} {digest found : Digest} :
    entryOfJson entry = .ok (digest, found) ↔
      ofText entry.1 = .ok digest ∧ ofJson entry.2 = .ok found := by
  rw [entryOfJson]
  cases ofText entry.1 with
  | error reason => simp [bind, Except.bind]
  | ok first => cases ofJson entry.2 <;> simp [bind, Except.bind, pure, Except.pure]

theorem entryOfJson_eq_error_iff {entry : String × Json} {error : ReadError} :
    entryOfJson entry = .error error ↔ FailsWith entry error := by
  rw [entryOfJson, FailsWith]
  cases ofText entry.1 with
  | error reason => simp [bind, Except.bind]
  | ok first => cases ofJson entry.2 <;> simp [bind, Except.bind, pure, Except.pure]

theorem exists_entryOfJson_eq_ok_iff {entry : String × Json} :
    (∃ pair, entryOfJson entry = .ok pair) ↔ Readable entry := by
  constructor
  · rintro ⟨⟨digest, found⟩, h⟩
    obtain ⟨hkey, hvalue⟩ := entryOfJson_eq_ok_iff.mp h
    exact ⟨⟨digest, hkey⟩, ⟨found, hvalue⟩⟩
  · rintro ⟨⟨digest, hkey⟩, ⟨found, hvalue⟩⟩
    exact ⟨(digest, found), entryOfJson_eq_ok_iff.mpr ⟨hkey, hvalue⟩⟩

/-- Two texts spell one digest just when they differ in the case of letters alone. -/
theorem ofText_eq_ok_iff_toLower {key other : String} {digest : Digest}
    (h : ofText key = .ok digest) :
    ofText other = .ok digest ↔ other.toLower = key.toLower := by
  rw [ofText_eq_ok_iff, parse_eq_ok_iff] at h ⊢
  rw [h]

/-! ## Maps -/

/-- What the map of an object is.  Its keys ascend without repetition and are the digests of the
key texts, and each has the value of the greatest text that spells it. -/
structure IsMapOf (map : SortedMap Digest Digest) (entries : List (String × Json)) : Prop where
  ascending : map.entries.Pairwise fun a b => a.1 < b.1
  nodup_keys : (map.entries.map Prod.fst).Nodup
  mem_keys_iff : ∀ digest, digest ∈ map.entries.map Prod.fst ↔
    ∃ entry ∈ entries, ofText entry.1 = .ok digest
  mem_iff : ∀ digest found, (digest, found) ∈ map.entries ↔
    ∃ key value, get? entries key = some value ∧
      ofText key = .ok digest ∧ ofJson value = .ok found ∧
      ∀ other ∈ entries, other.1.toLower = key.toLower → other.1 ≤ key

section Maps

variable {entries : List (String × Json)} {map : SortedMap Digest Digest} {error : ReadError}

theorem mapOfJson_object :
    mapOfJson (.object entries) =
      ((byKey entries).mapM entryOfJson).map SortedMap.ofList := by
  rw [mapOfJson]
  cases (byKey entries).mapM entryOfJson <;> rfl

theorem exists_mapOfJson_eq_ok_iff :
    (∃ map, mapOfJson (.object entries) = .ok map) ↔
      ∀ key value, get? entries key = some value → Readable (key, value) := by
  rw [mapOfJson_object, exists_map_eq_ok_iff, exists_mapM_eq_ok_iff, Prod.forall]
  simp only [exists_entryOfJson_eq_ok_iff, Json.mem_byKey_iff]

theorem mapOfJson_eq_error_iff :
    mapOfJson (.object entries) = .error error ↔
      ∃ key value, get? entries key = some value ∧
        (∀ lesser other, get? entries lesser = some other → lesser < key →
          Readable (lesser, other)) ∧
        FailsWith (key, value) error := by
  rw [mapOfJson_object, map_eq_error_iff, mapM_eq_error_iff,
    exists_split_iff_of_ascending (Json.pairwise_byKey entries)]
  simp only [exists_entryOfJson_eq_ok_iff, entryOfJson_eq_error_iff]
  simp only [Prod.exists, Prod.forall, Json.mem_byKey_iff]

variable {pairs : List (Digest × Digest)} {digest found : Digest}

/-- Once an object is read, each of its key texts is known to give a digest. -/
theorem exists_pair_of_mem (hpairs : (byKey entries).map entryOfJson = pairs.map .ok)
    {entry : String × Json} (h : entry ∈ entries) :
    ∃ value pair, (entry.1, value) ∈ byKey entries ∧ entryOfJson (entry.1, value) = .ok pair ∧
      ofText entry.1 = .ok pair.1 := by
  obtain ⟨value, hget⟩ := Json.exists_get?_of_mem h
  have hvisited := Json.mem_byKey_iff.mpr hget
  obtain ⟨pair, hpair⟩ :=
    exists_mapM_eq_ok_iff.mp ⟨pairs, mapM_eq_ok_iff.mpr hpairs⟩ _ hvisited
  exact ⟨value, pair, hvisited, hpair, (entryOfJson_eq_ok_iff.mp hpair).1⟩

/-- Of the texts that spell a digest, the greatest is the last whose entry is read. -/
theorem isLast_pairs_iff (hpairs : (byKey entries).map entryOfJson = pairs.map .ok) :
    IsLast (·.1 = digest) (digest, found) pairs ↔
      ∃ key value, get? entries key = some value ∧
        ofText key = .ok digest ∧ ofJson value = .ok found ∧
        ∀ other ∈ entries, other.1.toLower = key.toLower → other.1 ≤ key := by
  rw [isLast_iff_of_map_eq hpairs, Prod.exists]
  refine exists₂_congr fun key value => ?_
  rw [isLast_iff_of_ascending (Json.pairwise_byKey entries), Json.mem_byKey_iff,
    entryOfJson_eq_ok_iff]
  constructor
  · rintro ⟨⟨hkey, hvalue⟩, hget, hgreatest⟩
    refine ⟨hget, hkey, hvalue, fun other hmem hspelled => ?_⟩
    obtain ⟨value, pair, hvisited, hpair, hother⟩ := exists_pair_of_mem hpairs hmem
    have hsame := (ofText_eq_ok_iff_toLower hkey).mpr hspelled
    rw [hother] at hsame
    exact hgreatest (other.1, value) hvisited ⟨pair, hpair, Except.ok.inj hsame⟩
  · rintro ⟨hget, hkey, hvalue, hgreatest⟩
    refine ⟨⟨hkey, hvalue⟩, hget, ?_⟩
    rintro ⟨other, value⟩ hvisited ⟨pair, hpair, rfl⟩
    have hspelled := (ofText_eq_ok_iff_toLower hkey).mp (entryOfJson_eq_ok_iff.mp hpair).1
    exact hgreatest _ (Json.mem_of_get? (Json.mem_byKey_iff.mp hvisited)) hspelled

theorem mem_keys_pairs_iff (hpairs : (byKey entries).map entryOfJson = pairs.map .ok) :
    digest ∈ pairs.map Prod.fst ↔ ∃ entry ∈ entries, ofText entry.1 = .ok digest := by
  constructor
  · intro h
    obtain ⟨pair, hmem, rfl⟩ := List.mem_map.mp h
    obtain ⟨⟨key, value⟩, hvisited, hpair⟩ := (mem_iff_of_map_eq hpairs).mp hmem
    have hentry := Json.mem_of_get? (Json.mem_byKey_iff.mp hvisited)
    exact ⟨_, hentry, (entryOfJson_eq_ok_iff.mp hpair).1⟩
  · rintro ⟨entry, hentry, hkey⟩
    obtain ⟨value, pair, hvisited, hpair, hsame⟩ := exists_pair_of_mem hpairs hentry
    rw [hkey] at hsame
    rw [Except.ok.inj hsame]
    exact List.mem_map_of_mem ((mem_iff_of_map_eq hpairs).mpr ⟨_, hvisited, hpair⟩)

theorem isMapOf_ofList (hpairs : (byKey entries).map entryOfJson = pairs.map .ok) :
    IsMapOf (SortedMap.ofList pairs) entries where
  ascending := (SortedMap.ofList pairs).ascending
  nodup_keys := (SortedMap.ofList pairs).nodup_keys
  mem_keys_iff _ := SortedMap.mem_keys_ofList_iff.trans (mem_keys_pairs_iff hpairs)
  mem_iff _ _ := SortedMap.mem_ofList_iff.trans (isLast_pairs_iff hpairs)

theorem isMapOf_of_mapOfJson (h : mapOfJson (.object entries) = .ok map) :
    IsMapOf map entries := by
  rw [mapOfJson_object, map_eq_ok_iff] at h
  obtain ⟨pairs, hpairs, rfl⟩ := h
  exact isMapOf_ofList (mapM_eq_ok_iff.mp hpairs)

theorem IsMapOf.eq {other : SortedMap Digest Digest} (hmap : IsMapOf map entries)
    (hother : IsMapOf other entries) : map = other := by
  apply SortedMap.eq_of_mem_iff
  rintro ⟨digest, found⟩
  rw [hmap.mem_iff, hother.mem_iff]

theorem mapOfJson_eq_ok_iff :
    mapOfJson (.object entries) = .ok map ↔
      (∀ key value, get? entries key = some value → Readable (key, value)) ∧
        IsMapOf map entries := by
  rw [← exists_mapOfJson_eq_ok_iff]
  constructor
  · intro h
    exact ⟨⟨map, h⟩, isMapOf_of_mapOfJson h⟩
  · rintro ⟨⟨other, h⟩, hmap⟩
    rw [h, (isMapOf_of_mapOfJson h).eq hmap]

end Maps

/-! ## Readers -/

theorem optionOfJson_of_ne_null {value : Json} (h : value ≠ .null) :
    optionOfJson value = (ofJson value).map some := by
  cases value with
  | null => exact absurd rfl h
  | bool _ | number _ | string _ | list _ | object _ => rfl

/-- What the readers of lists, of optional digests and of maps make of every value, and which
error they give. -/
theorem readers_of_containers :
    (∀ items digests, listOfJson (.list items) = .ok digests ↔
      items.map ofJson = digests.map .ok) ∧
    (∀ items, (∃ digests, listOfJson (.list items) = .ok digests) ↔
      ∀ item ∈ items, ∃ digest, ofJson item = .ok digest) ∧
    (∀ items error, listOfJson (.list items) = .error error ↔
      ∃ before item after, items = before ++ item :: after ∧
        (∀ earlier ∈ before, ∃ digest, ofJson earlier = .ok digest) ∧
        ofJson item = .error error) ∧
    optionOfJson .null = .ok none ∧
    (∀ value, value ≠ .null → optionOfJson value = (ofJson value).map some) ∧
    (∀ entries map, mapOfJson (.object entries) = .ok map ↔
      (∀ key value, get? entries key = some value → Readable (key, value)) ∧
        IsMapOf map entries) ∧
    (∀ entries, (∃ map, mapOfJson (.object entries) = .ok map) ↔
      ∀ key value, get? entries key = some value → Readable (key, value)) ∧
    ∀ entries error, mapOfJson (.object entries) = .error error ↔
      ∃ key value, get? entries key = some value ∧
        (∀ lesser other, get? entries lesser = some other → lesser < key →
          Readable (lesser, other)) ∧
        FailsWith (key, value) error :=
  ⟨fun _ _ => mapM_eq_ok_iff, fun _ => exists_mapM_eq_ok_iff, fun _ _ => mapM_eq_error_iff,
    rfl, fun _ => optionOfJson_of_ne_null, fun _ _ => mapOfJson_eq_ok_iff,
    fun _ => exists_mapOfJson_eq_ok_iff, fun _ _ => mapOfJson_eq_error_iff⟩

end KeyDigest.Digest
