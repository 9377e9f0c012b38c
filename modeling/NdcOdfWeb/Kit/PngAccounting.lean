import NdcOdfWeb.Kit.PngCache

/-! The size of the image cache, and its wire ids, along whole runs. -/

namespace NdcOdfWeb.Kit

open NdcOdfWeb.Foundation

namespace PngCache

/-- What an entry counts for in the size of the cache. -/
def entrySize (entry : CacheEntry) : Nat :=
  entry.data.length

/-- The size counts the entries, and there are none before the first test. -/
structure Accounted (cache : PngCache) : Prop where
  cacheSize : cache.cacheSize = tally entrySize cache.cache
  tested : ∀ hash ∈ cache.cache, 0 < cache.cacheTests

/-- Wire ids are forgotten only, and none is created. -/
structure KeepsIds (before after : PngCache) : Prop where
  nextId : after.nextId = before.nextId
  remembered
    : ∀ hash wid,
        after.hashToWireId.lookup hash = some wid → before.hashToWireId.lookup hash = some wid

/-- Nothing has happened to the ids. -/
theorem KeepsIds.of_eq {before after : PngCache} (nextId : after.nextId = before.nextId)
    (same : after.hashToWireId = before.hashToWireId)
    : KeepsIds before after := by
  refine ⟨nextId, fun hash wid found => ?_⟩
  rwa [same] at found

/-- Two steps that give no id. -/
theorem KeepsIds.trans {first second third : PngCache} (one : KeepsIds first second)
    (two : KeepsIds second third)
    : KeepsIds first third where
  nextId := two.nextId.trans one.nextId
  remembered hash wid found := one.remembered hash wid (two.remembered hash wid found)

/-- An empty cache. -/
theorem clearCache_accounted : Accounted clearCache :=
  ⟨rfl, fun hash member => absurd member (AList.notMem_empty hash)⟩

-----------------------------------------------------------------------------------------
-- Balancing
-----------------------------------------------------------------------------------------

/-- An entry is taken out with its size, which the total size includes. -/
theorem balanceEntry_keeps (avgHits : Nat) {cacheSize : Nat}
    {cache : KeyedMap TileBinaryHash CacheEntry} (total : cacheSize = tally entrySize cache)
    (hash : TileBinaryHash)
    : ∃ next,
        balanceEntry avgHits (cacheSize, cache) hash = some next
        ∧ next.1 = tally entrySize next.2 := by
  unfold balanceEntry
  dsimp only
  cases found : cache.lookup hash with
  | none => exact ⟨_, rfl, total⟩
  | some it =>
      have inside : it.data.length ≤ cacheSize := total ▸ weight_le_tally entrySize found
      dsimp only
      rw [if_pos inside]
      split
      · refine ⟨_, rfl, ?_⟩
        have erased := tally_erase entrySize found
        dsimp only [entrySize] at erased ⊢
        omega
      · split
        · refine ⟨_, rfl, ?_⟩
          have counted := tally_insert_found entrySize found
            { it with hitCount := it.hitCount - 1 }
          dsimp only [entrySize] at counted ⊢
          omega
        · exact ⟨_, rfl, total⟩

/-- The pass over the images keeps the total, image by image. -/
theorem balanceEntry_fold (avgHits : Nat) (hashes : List TileBinaryHash)
    {state : Nat × KeyedMap TileBinaryHash CacheEntry}
    (total : state.1 = tally entrySize state.2)
    : ∃ final,
        hashes.foldlM (balanceEntry avgHits) state = some final
        ∧ final.1 = tally entrySize final.2 :=
  stepRun_of_invariant (fun _ hash total => balanceEntry_keeps avgHits total hash) total hashes

/-- Above the limit there are entries, so there is an average. -/
theorem balanceEntries_accounted (order : IterationOrder TileBinaryHash) {cache : PngCache}
    (accounted : Accounted cache)
    : ∃ after,
        cache.balanceEntries order = some after ∧ Accounted after ∧ KeepsIds cache after := by
  unfold balanceEntries
  split
  · next above =>
      have some' : cache.cache.keys ≠ [] := by
        intro empty
        have none' : cache.cache.entries = [] := List.map_eq_nil_iff.mp empty
        have zero : tally entrySize cache.cache = 0 := by
          rw [tally, none']
          rfl
        rw [accounted.cacheSize, zero] at above
        exact Nat.not_lt_zero _ above
      obtain ⟨hash, member⟩ := List.exists_mem_of_ne_nil _ some'
      have tested := accounted.tested hash (AList.mem_keys.mpr member)
      have several := List.length_pos_of_mem member
      rw [if_neg (not_or.mpr ⟨Nat.pos_iff_ne_zero.mp tested, Nat.pos_iff_ne_zero.mp several⟩)]
      dsimp only
      have start : (cache.cacheSize, cache.cache).1
          = tally entrySize (cache.cacheSize, cache.cache).2 := accounted.cacheSize
      obtain ⟨final, ran, total⟩ := balanceEntry_fold
        (tally CacheEntry.hitCount cache.cache / cache.cache.keys.length)
        (order.arrange cache.cache.keys) start
      rw [ran]
      exact ⟨_, rfl, ⟨total, fun _ _ => tested⟩, .of_eq rfl rfl⟩
  · exact ⟨cache, rfl, accounted, .of_eq rfl rfl⟩

/-- The pass over the ids only forgets some. -/
theorem balanceWireIds_keepsIds (cache : PngCache) : KeepsIds cache cache.balanceWireIds := by
  unfold balanceWireIds
  split
  · refine ⟨rfl, fun hash wid found => ?_⟩
    exact AList.mem_lookup_iff.mpr (List.mem_of_mem_filter (AList.mem_lookup_iff.mp found))
  · exact .of_eq rfl rfl

/-- The pass over the ids leaves the images alone. -/
theorem balanceWireIds_accounted {cache : PngCache} (accounted : Accounted cache)
    : Accounted cache.balanceWireIds := by
  unfold balanceWireIds
  split
  · exact ⟨accounted.cacheSize, accounted.tested⟩
  · exact accounted

/-- Both passes keep the accounts. -/
theorem balanceCache_accounted (order : IterationOrder TileBinaryHash) {cache : PngCache}
    (accounted : Accounted cache)
    : ∃ after,
        cache.balanceCache order = some after ∧ Accounted after ∧ KeepsIds cache after := by
  obtain ⟨balanced, ran, counted, kept⟩ := balanceEntries_accounted order accounted
  refine ⟨balanced.balanceWireIds, ?_, balanceWireIds_accounted counted,
    kept.trans balanced.balanceWireIds_keepsIds⟩
  rw [balanceCache, ran]
  rfl

/-- After a test, a hash that it did not find is not in the cache. -/
theorem cacheTest_accounted {cache : PngCache} (accounted : Accounted cache)
    (hash : TileBinaryHash)
    : Accounted (cache.cacheTest hash).2 ∧ KeepsIds cache (cache.cacheTest hash).2
      ∧ ((cache.cacheTest hash).1 = none
        → hash ≠ 0
        → hash ∉ (cache.cacheTest hash).2.cache ∧ 0 < (cache.cacheTest hash).2.cacheTests) := by
  unfold cacheTest
  split
  · next zero => exact ⟨accounted, .of_eq rfl rfl, fun _ some' => absurd zero some'⟩
  · dsimp only
    cases found : cache.cache.lookup hash with
    | none =>
        refine ⟨⟨accounted.cacheSize, fun _ _ => Nat.succ_pos _⟩, .of_eq rfl rfl, ?_⟩
        exact fun _ _ => ⟨AList.lookup_eq_none.mp found, Nat.succ_pos _⟩
    | some it =>
        refine ⟨⟨?_, fun _ _ => Nat.succ_pos _⟩, .of_eq rfl rfl, fun missed => nomatch missed⟩
        have counted := tally_insert_found entrySize found
          { it with hitCount := it.hitCount + 1 }
        have total := accounted.cacheSize
        dsimp only [entrySize] at counted total ⊢
        omega

/-- A new entry adds its size. -/
theorem Accounted.emplace {cache : PngCache} (accounted : Accounted cache)
    {hash : TileBinaryHash} (new : hash ∉ cache.cache) (tested : 0 < cache.cacheTests)
    (entry : CacheEntry)
    : Accounted
        { cache with
          cache := Foundation.emplace cache.cache hash entry
          cacheSize := cache.cacheSize + entry.data.length } := by
  refine ⟨?_, fun _ _ => tested⟩
  dsimp only
  rw [emplace_of_notMem _ new, tally_insert_new entrySize _ new, accounted.cacheSize,
    Nat.add_comm]
  rfl

/-- An image comes from the cache, or it is encoded and added. -/
theorem encodeSubBufferToPNG_accounted (order : IterationOrder TileBinaryHash)
    {cache : PngCache} (accounted : Accounted cache) (png : Option (List UInt8))
    (hash : TileBinaryHash) (wid : TileWireId)
    : ∃ result,
        cache.encodeSubBufferToPNG order png hash wid = some result
        ∧ Accounted result.2 ∧ KeepsIds cache result.2 := by
  obtain ⟨counted, kept, absent⟩ := cacheTest_accounted accounted hash
  unfold encodeSubBufferToPNG
  cases tested : cache.cacheTest hash with
  | mk output after =>
      rw [tested] at counted kept absent
      cases output with
      | some output => exact ⟨_, rfl, counted, kept⟩
      | none =>
          dsimp only [cacheEncodeSubBufferToPNG]
          cases png with
          | none => exact ⟨_, rfl, counted, kept⟩
          | some data =>
              dsimp only
              split
              · obtain ⟨final, ran, balanced, same⟩ := balanceCache_accounted order counted
                rw [ran]
                exact ⟨_, rfl, balanced, kept.trans same⟩
              · next some' =>
                  obtain ⟨new, positive⟩ := absent rfl some'
                  have added := counted.emplace new positive ⟨1, wid, data⟩
                  obtain ⟨final, ran, balanced, same⟩ := balanceCache_accounted order added
                  rw [ran]
                  exact ⟨_, rfl, balanced, kept.trans ⟨same.nextId, same.remembered⟩⟩

end PngCache

-----------------------------------------------------------------------------------------
-- The wire ids of a run
-----------------------------------------------------------------------------------------

/-- So many ids can be created before the counter wraps. -/
def wireIdLimit : Nat := 2 ^ 32 - 2

/-- The ids that a run gave: they are numbered from 2 on, each belongs to one hash, and those
that are remembered were given.
-/
structure DistinctIds (run : PngRun) : Prop where
  nextId : run.cache.nextId.toNat = run.created + 1
  zero : ∀ wid, (0, wid) ∈ run.given → wid = 0
  numbered : ∀ hash wid, (hash, wid) ∈ run.given → hash ≠ 0
    → 2 ≤ wid.toNat ∧ wid.toNat ≤ run.created + 1
  oneHash : ∀ hash other wid, (hash, wid) ∈ run.given → (other, wid) ∈ run.given → hash = other
  remembered
    : ∀ hash wid, run.cache.hashToWireId.lookup hash = some wid → (hash, wid) ∈ run.given

/-- Only the empty hash has the id 0. -/
theorem DistinctIds.nonzero {run : PngRun} (distinct : DistinctIds run)
    {hash : TileBinaryHash} {wid : TileWireId} (given : (hash, wid) ∈ run.given)
    (some' : hash ≠ 0)
    : wid ≠ 0 := by
  rintro rfl
  have bound := (distinct.numbered hash 0 given some').1
  simp at bound

/-- A step that gives no id. -/
theorem DistinctIds.keep {run : PngRun} (distinct : DistinctIds run) {after : PngCache}
    (kept : PngCache.KeepsIds run.cache after)
    : DistinctIds { run with cache := after } where
  nextId := (congrArg UInt32.toNat kept.nextId).trans distinct.nextId
  zero := distinct.zero
  numbered := distinct.numbered
  oneHash := distinct.oneHash
  remembered hash wid found := distinct.remembered hash wid (kept.remembered hash wid found)

/-- An id is given once more, or the id 0 for the hash 0. -/
theorem DistinctIds.again {run : PngRun} (distinct : DistinctIds run)
    {hash : TileBinaryHash} {wid : TileWireId}
    (known : (hash, wid) ∈ run.given ∨ (hash = 0 ∧ wid = 0))
    : DistinctIds { run with given := run.given ++ [(hash, wid)] } := by
  have split {one : TileBinaryHash} {id : TileWireId}
      (member : (one, id) ∈ run.given ++ [(hash, wid)])
      : (one, id) ∈ run.given ∨ (one = 0 ∧ id = 0) := by
    rcases List.mem_append.mp member with earlier | last
    · exact .inl earlier
    · cases List.mem_singleton.mp last
      exact known
  refine ⟨distinct.nextId, ?_, ?_, ?_, ?_⟩
  · intro id member
    rcases split member with earlier | ⟨-, zero⟩
    · exact distinct.zero id earlier
    · exact zero
  · intro one id member some'
    rcases split member with earlier | ⟨zero, -⟩
    · exact distinct.numbered one id earlier some'
    · exact absurd zero some'
  · intro one other id first second
    rcases split first with earlier | ⟨rfl, rfl⟩
    · rcases split second with later | ⟨rfl, rfl⟩
      · exact distinct.oneHash one other id earlier later
      · by_contra some'
        exact distinct.nonzero earlier some' rfl
    · rcases split second with later | ⟨rfl, -⟩
      · by_contra some'
        exact distinct.nonzero later (Ne.symm some') rfl
      · rfl
  · exact fun one id found => List.mem_append_left _ (distinct.remembered one id found)

/-- A new id is larger than all before. -/
theorem DistinctIds.create {run : PngRun} (distinct : DistinctIds run)
    {hash : TileBinaryHash} (some' : hash ≠ 0) (below : run.created + 1 < wireIdLimit)
    : DistinctIds {
        cache :=
          {
            run.cache with
            nextId := run.cache.nextId + 1
            hashToWireId := emplace run.cache.hashToWireId hash (run.cache.nextId + 1)
          }
        created := run.created + 1
        given := run.given ++ [(hash, run.cache.nextId + 1)]
      } := by
  have number : (run.cache.nextId + 1).toNat = run.created + 2 := by
    have last := distinct.nextId
    unfold wireIdLimit at below
    rw [UInt32.toNat_add, last]
    simp only [UInt32.toNat_one]
    omega
  have fresh {one : TileBinaryHash} {id : TileWireId} (earlier : (one, id) ∈ run.given)
      : id ≠ run.cache.nextId + 1 := by
    rintro rfl
    by_cases zero : one = 0
    · subst zero
      have none' := congrArg UInt32.toNat (distinct.zero _ earlier)
      rw [number] at none'
      simp at none'
    · have bound := (distinct.numbered one _ earlier zero).2
      omega
  have split {one : TileBinaryHash} {id : TileWireId}
      (member : (one, id) ∈ run.given ++ [(hash, run.cache.nextId + 1)])
      : (one, id) ∈ run.given ∨ (one = hash ∧ id = run.cache.nextId + 1) := by
    rcases List.mem_append.mp member with earlier | last
    · exact .inl earlier
    · cases List.mem_singleton.mp last
      exact .inr ⟨rfl, rfl⟩
  refine ⟨number, ?_, ?_, ?_, ?_⟩
  · intro id member
    rcases split member with earlier | ⟨zero, -⟩
    · exact distinct.zero id earlier
    · exact absurd zero.symm some'
  · intro one id member other
    rcases split member with earlier | ⟨-, rfl⟩
    · have bounds := distinct.numbered one id earlier other
      exact ⟨bounds.1, Nat.le_succ_of_le bounds.2⟩
    · rw [number]
      exact ⟨Nat.le_add_left .., Nat.le_refl _⟩
  · intro one other id first second
    rcases split first with earlier | ⟨rfl, rfl⟩
    · rcases split second with later | ⟨rfl, rfl⟩
      · exact distinct.oneHash one other id earlier later
      · exact absurd rfl (fresh earlier)
    · rcases split second with later | ⟨rfl, -⟩
      · exact absurd rfl (fresh later)
      · rfl
  · intro one id found
    rcases lookup_emplace found with before | ⟨rfl, rfl⟩
    · exact List.mem_append_left _ (distinct.remembered one id before)
    · exact List.mem_append_right _ List.mem_cons_self

-----------------------------------------------------------------------------------------
-- Runs
-----------------------------------------------------------------------------------------

/-- What every call keeps. -/
structure PngInvariant (run : PngRun) : Prop where
  accounted : PngCache.Accounted run.cache
  distinct : run.created < wireIdLimit → DistinctIds run

/-- At first, there are no images and no ids. -/
theorem pngInvariant_new : PngInvariant .new where
  accounted := PngCache.clearCache_accounted
  distinct _ := {
    nextId := rfl
    zero _ member := nomatch member
    numbered _ _ member := nomatch member
    oneHash _ _ _ member := nomatch member
    remembered _ _ found := nomatch found
  }

/-- A step that keeps the accounts and gives no id. -/
theorem PngInvariant.keep {run : PngRun} (invariant : PngInvariant run) {after : PngCache}
    (accounted : PngCache.Accounted after) (kept : PngCache.KeepsIds run.cache after)
    : PngInvariant { run with cache := after } :=
  ⟨accounted, fun below => (invariant.distinct below).keep kept⟩

/-- An id is looked up, or the next one is given. -/
theorem PngInvariant.hashToWireId {run : PngRun} (invariant : PngInvariant run)
    (hash : TileBinaryHash)
    : ∃ next, pngStep run (.hashToWireId hash) = some next ∧ PngInvariant next := by
  unfold pngStep PngCache.wireIdOf
  dsimp only
  by_cases zero : hash = 0
  · rw [if_pos zero, if_pos (.inl zero)]
    exact ⟨_, rfl, invariant.accounted,
      fun below => (invariant.distinct below).again (.inr ⟨zero, rfl⟩)⟩
  · rw [if_neg zero]
    cases found : run.cache.hashToWireId.lookup hash with
    | some wid =>
        rw [if_pos (.inr (mem_of_lookup found))]
        refine ⟨_, rfl, invariant.accounted, fun below => ?_⟩
        have distinct := invariant.distinct below
        exact distinct.again (.inl (distinct.remembered hash wid found))
    | none =>
        rw [if_neg (not_or.mpr ⟨zero, AList.lookup_eq_none.mp found⟩)]
        dsimp only [PngCache.createNewWireId]
        have counted := invariant.accounted
        refine ⟨_, rfl, ?_, fun below => ?_⟩
        · split
          · exact ⟨rfl, fun other member => absurd member (AList.notMem_empty other)⟩
          · exact ⟨counted.cacheSize, counted.tested⟩
        · have distinct := invariant.distinct (Nat.lt_of_succ_lt below)
          -- below the limit the counter does not wrap
          have straight : ¬ run.cache.nextId + 1 < 1 := by
            intro wraps
            have small := UInt32.lt_iff_toNat_lt.mp wraps
            have last := distinct.nextId
            dsimp only at below
            unfold wireIdLimit at below
            rw [UInt32.toNat_add, last] at small
            simp only [UInt32.toNat_one] at small
            omega
          rw [if_neg straight]
          exact distinct.create zero below

/-- One call, by cases on it. -/
theorem pngStep_keeps (run : PngRun) (call : PngCall) (invariant : PngInvariant run)
    : ∃ next, pngStep run call = some next ∧ PngInvariant next := by
  cases call with
  | cacheTest hash =>
      obtain ⟨accounted, kept, -⟩ :=
        PngCache.cacheTest_accounted invariant.accounted hash
      exact ⟨_, rfl, invariant.keep accounted kept⟩
  | encode order png hash wid =>
      obtain ⟨result, ran, accounted, kept⟩ :=
        PngCache.encodeSubBufferToPNG_accounted order invariant.accounted png hash wid
      refine ⟨{ run with cache := result.2 }, ?_, invariant.keep accounted kept⟩
      rw [pngStep, ran]
      rfl
  | balanceCache order =>
      obtain ⟨after, ran, accounted, kept⟩ :=
        PngCache.balanceCache_accounted order invariant.accounted
      refine ⟨{ run with cache := after }, ?_, invariant.keep accounted kept⟩
      rw [pngStep, ran]
      rfl
  | hashToWireId hash => exact invariant.hashToWireId hash

/-- No run underflows the size or divides by zero, the size is the sum of the sizes of the
entries, and as long as fewer ids are created than there are, no hash but 0 has the id 0 and
no two hashes are ever given the same one.
-/
theorem pngCache_run (calls : List PngCall)
    : ∃ final,
        stepRun pngStep .new calls = some final
        ∧ final.cache.cacheSize = tally (fun entry => entry.data.length) final.cache.cache
        ∧ (final.created < 2 ^ 32 - 2
          → (∀ hash wid, (hash, wid) ∈ final.given → hash ≠ 0 → wid ≠ 0)
            ∧ ∀ hash other wid widOther,
                (hash, wid) ∈ final.given
                → (other, widOther) ∈ final.given
                → hash ≠ other → wid ≠ widOther) := by
  obtain ⟨final, ran, invariant⟩ := stepRun_of_invariant pngStep_keeps pngInvariant_new calls
  refine ⟨final, ran, invariant.accounted.cacheSize, fun below => ?_⟩
  have distinct := invariant.distinct below
  refine ⟨fun hash wid given some' => distinct.nonzero given some', ?_⟩
  rintro hash other wid _ given given' differ rfl
  exact differ (distinct.oneHash hash other wid given given')

end NdcOdfWeb.Kit
