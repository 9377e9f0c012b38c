import NdcOdfWeb.Foundation.Evictions
import NdcOdfWeb.Kit.PngAccounting

/-! The limits of the image cache: what `balanceCache` leaves of the images and of the wire ids. -/

namespace NdcOdfWeb.Kit

open NdcOdfWeb.Foundation

namespace PngCache

/-- The average of the hits, truncated. -/
def averageHits (cache : PngCache) : Nat :=
  tally CacheEntry.hitCount cache.cache / cache.cache.keys.length

/-- The size of an entry with more hits than an average. -/
def busySize (avgHits : Nat) (entry : CacheEntry) : Nat :=
  if avgHits < entry.hitCount then entry.data.length else 0

/-- The condition under which `balanceCache` erases an entry. -/
def erases (avgHits cacheSize : Nat) (entry : CacheEntry) : Bool :=
  (cacheSizeSoftLimit < cacheSize && entry.hitCount = 0)
    || (cacheSizeHardLimit < cacheSize && 0 < entry.hitCount && entry.hitCount ≤ avgHits)

/-- The limits of the cache, in bytes. -/
theorem limits : cacheSizeSoftLimit = 131072 ∧ cacheSizeHardLimit = 262144 := by
  decide

/-- The entries in the order of their keys. -/
def entriesOf (cache : KeyedMap TileBinaryHash CacheEntry) (hashes : List TileBinaryHash)
    : List CacheEntry :=
  hashes.filterMap (cache.lookup ·)

-----------------------------------------------------------------------------------------
-- The loop over the images
-----------------------------------------------------------------------------------------

section

variable {avgHits cacheSize : Nat} {cache : KeyedMap TileBinaryHash CacheEntry}
  {hash : TileBinaryHash} {it : CacheEntry}

/-- An entry is erased with its size, or stays and loses a hit; the others stay as they are. -/
theorem balanceEntry_cases (total : cacheSize = tally entrySize cache)
    (found : cache.lookup hash = some it)
    : ∃ next,
        balanceEntry avgHits (cacheSize, cache) hash = some next
        ∧ next.1 = tally entrySize next.2
        ∧ (∀ other, other ≠ hash → next.2.lookup other = cache.lookup other)
        ∧ next.1 = (if erases avgHits cacheSize it then cacheSize - entrySize it else cacheSize)
        ∧ (hash ∈ next.2 ↔ erases avgHits cacheSize it = false) := by
  obtain ⟨next, step, counted⟩ := balanceEntry_keeps avgHits total hash
  refine ⟨next, step, counted, ?_⟩
  have inside : it.data.length ≤ cacheSize := total ▸ weight_le_tally entrySize found
  have condition
      : (
          (cacheSizeSoftLimit < cacheSize ∧ it.hitCount = 0)
          ∨ (cacheSizeHardLimit < cacheSize ∧ 0 < it.hitCount ∧ it.hitCount ≤ avgHits)
        )
        ↔ erases avgHits cacheSize it = true := by
    simp [erases, and_assoc]
  unfold balanceEntry at step
  dsimp only at step
  rw [found] at step
  dsimp only at step
  by_cases erased : erases avgHits cacheSize it = true
  · rw [if_pos (condition.mpr erased), if_pos inside] at step
    cases step
    refine ⟨fun other differ => AList.lookup_erase_ne differ, (if_pos erased).symm, ?_⟩
    rw [erased, AList.mem_erase]
    exact iff_of_false (fun both => both.1 rfl) (by decide)
  · rw [if_neg (fun holds => erased (condition.mp holds))] at step
    have stays : erases avgHits cacheSize it = false := Bool.eq_false_iff.mpr erased
    split at step
    · cases step
      refine ⟨fun other differ => AList.lookup_insert_ne differ, (if_neg erased).symm, ?_⟩
      exact iff_of_true ((AList.mem_insert _).mpr (.inl rfl)) stays
    · cases step
      refine ⟨fun other differ => rfl, (if_neg erased).symm, ?_⟩
      exact iff_of_true (mem_of_lookup found) stays

/-- The loop is a pass of evictions over the entries. -/
theorem balanceEntry_foldlM {hashes : List TileBinaryHash} (distinct : hashes.Nodup)
    (total : cacheSize = tally entrySize cache)
    : ∃ final,
        hashes.foldlM (balanceEntry avgHits) (cacheSize, cache) = some final
        ∧ final.1 = tally entrySize final.2
        ∧ final.1
          = evictionPass (erases avgHits) entrySize cacheSize (entriesOf cache hashes) := by
  induction hashes generalizing cacheSize cache with
  | nil => exact ⟨_, rfl, total, rfl⟩
  | cons hash rest ih =>
      rw [List.nodup_cons] at distinct
      rw [List.foldlM_cons, entriesOf, List.filterMap_cons]
      cases found : cache.lookup hash with
      | none =>
          have stays : balanceEntry avgHits (cacheSize, cache) hash = some (cacheSize, cache) := by
            unfold balanceEntry
            dsimp only
            rw [found]
          rw [stays]
          exact ih distinct.2 total
      | some it =>
          obtain ⟨next, step, counted, others, left, _⟩ := balanceEntry_cases total found
          obtain ⟨final, ran, counted', passed⟩ := ih distinct.2 counted
          have same : entriesOf next.2 rest = entriesOf cache rest := by
            apply List.filterMap_congr
            intro other member
            apply others
            rintro rfl
            exact distinct.1 member
          refine ⟨final, ?_, counted', ?_⟩
          · rw [step]
            exact ran
          · rw [passed, same, evictionPass, left]
            split <;> rfl

/-- Below the soft limit nothing is erased any more. -/
theorem balanceEntry_soft (small : cacheSize ≤ cacheSizeSoftLimit)
    (total : cacheSize = tally entrySize cache) (hashes : List TileBinaryHash)
    : ∃ final,
        hashes.foldlM (balanceEntry avgHits) (cacheSize, cache) = some final
        ∧ ∀ other, other ∈ final.2 ↔ other ∈ cache := by
  induction hashes generalizing cacheSize cache with
  | nil => exact ⟨_, rfl, fun _ => Iff.rfl⟩
  | cons hash rest ih =>
      rw [List.foldlM_cons]
      cases found : cache.lookup hash with
      | none =>
          have stays : balanceEntry avgHits (cacheSize, cache) hash = some (cacheSize, cache) := by
            unfold balanceEntry
            dsimp only
            rw [found]
          rw [stays]
          exact ih small total
      | some it =>
          obtain ⟨next, step, counted, others, left, stays⟩ :=
            @balanceEntry_cases avgHits _ _ _ _ total found
          have kept : erases avgHits cacheSize it = false := by
            obtain ⟨soft, hard⟩ := limits
            simp only [erases, Bool.or_eq_false_iff, Bool.and_eq_false_iff,
              decide_eq_false_iff_not]
            omega
          rw [kept, if_neg Bool.false_ne_true] at left
          obtain ⟨final, ran, same⟩ := ih (left ▸ small) counted
          refine ⟨final, by rw [step]; exact ran, fun other => (same other).trans ?_⟩
          by_cases here : other = hash
          · rw [here]
            exact iff_of_true (stays.mpr kept) (mem_of_lookup found)
          · rw [← AList.lookup_isSome, others other here, AList.lookup_isSome]

end

/-- The entries of all keys are the values of the map. -/
theorem entriesOf_keys (cache : KeyedMap TileBinaryHash CacheEntry)
    : entriesOf cache cache.keys = cache.entries.map Sigma.snd := by
  have all : ∀ entry ∈ cache.entries, cache.lookup entry.1 = some entry.2 :=
    fun entry member => AList.mem_lookup_iff.mpr member
  unfold entriesOf AList.keys List.keys
  generalize cache.entries = entries at all
  induction entries with
  | nil => rfl
  | cons entry rest ih =>
      rw [List.forall_mem_cons] at all
      rw [List.map_cons, List.filterMap_cons, all.1, List.map_cons]
      exact congrArg _ (ih all.2)

/-- The total of the entries in some order of the keys. -/
theorem sizes_entriesOf {weight : CacheEntry → Nat} (order : IterationOrder TileBinaryHash)
    (cache : KeyedMap TileBinaryHash CacheEntry)
    : sizes weight (entriesOf cache (order.arrange cache.keys)) = tally weight cache := by
  have same : (entriesOf cache (order.arrange cache.keys)).Perm (entriesOf cache cache.keys) :=
    (order.perm cache.keys).filterMap _
  unfold sizes
  rw [(same.map weight).sum_nat, entriesOf_keys, List.map_map]
  rfl

/-- Busy entries weigh their size, the others nothing. -/
theorem sizes_busy (avgHits : Nat) (entries : List CacheEntry)
    : sizes entrySize (entries.filter (fun it => avgHits < it.hitCount))
      = sizes (busySize avgHits) entries := by
  induction entries with
  | nil => rfl
  | cons entry rest ih =>
      unfold sizes at ih ⊢
      rw [List.filter_cons, List.map_cons, List.sum_cons, ← ih, busySize]
      by_cases busy : avgHits < entry.hitCount
      · rw [if_pos (decide_eq_true busy), if_pos busy]
        rfl
      · rw [if_neg (by simpa using busy), if_neg busy, Nat.zero_add]

/-- The busy images are part of all images. -/
theorem tally_busy_le (avgHits : Nat) (cache : KeyedMap TileBinaryHash CacheEntry)
    : tally (busySize avgHits) cache ≤ tally entrySize cache := by
  unfold tally
  induction cache.entries with
  | nil => exact Nat.le_refl 0
  | cons entry rest ih =>
      rw [List.map_cons, List.sum_cons, List.map_cons, List.sum_cons]
      apply Nat.add_le_add _ ih
      unfold busySize entrySize
      split
      · exact Nat.le_refl _
      · exact Nat.zero_le _

/-- What `balanceCache` does to the images: below the hard limit nothing; above it, it gets to
the limit if the entries with more hits than the average fit it, and erases nothing more once
the soft limit is reached.
-/
structure ImageLaw (order : IterationOrder TileBinaryHash) (before after : PngCache) : Prop where
  total : after.cacheSize = tally entrySize after.cache
  below : before.cacheSize ≤ cacheSizeHardLimit → after.cache = before.cache
  limit
    : after.cacheSize ≤ cacheSizeHardLimit
      ↔ tally (busySize before.averageHits) before.cache ≤ cacheSizeHardLimit
  soft
    : cacheSizeHardLimit < before.cacheSize →
      ∀ done rest cacheSize cache,
        order.arrange before.cache.keys = done ++ rest
        → done.foldlM (balanceEntry before.averageHits) (before.cacheSize, before.cache)
          = some (cacheSize, cache)
        → cacheSize ≤ cacheSizeSoftLimit
        → ∀ hash, hash ∈ after.cache ↔ hash ∈ cache

/-- A busy image is not erased. -/
theorem erases_eq_false {avgHits : Nat} (cacheSize : Nat) (entry : CacheEntry)
    (busy : decide (avgHits < entry.hitCount) = true)
    : erases avgHits cacheSize entry = false := by
  have busy := of_decide_eq_true busy
  simp only [erases, Bool.or_eq_false_iff, Bool.and_eq_false_iff, decide_eq_false_iff_not]
  omega

/-- An idle image is erased while the cache is above its hard limit. -/
theorem erases_eq_true {avgHits : Nat} (cacheSize : Nat) (entry : CacheEntry)
    (large : cacheSizeHardLimit < cacheSize)
    (idle : decide (avgHits < entry.hitCount) = false)
    : erases avgHits cacheSize entry = true := by
  have idle := of_decide_eq_false idle
  obtain ⟨soft, hard⟩ := limits
  simp only [erases, Bool.or_eq_true, Bool.and_eq_true, decide_eq_true_eq]
  omega

/-- The pass over the images: above the hard limit, it erases the idle ones and stops at none of the
others.
-/
theorem balanceEntries_law (order : IterationOrder TileBinaryHash) {before after : PngCache}
    (accounted : Accounted before) (balanced : before.balanceEntries order = some after)
    : ImageLaw order before after := by
  obtain ⟨_, ran, counted, _⟩ := balanceEntries_accounted order accounted
  cases balanced.symm.trans ran
  unfold balanceEntries at balanced
  by_cases large : cacheSizeHardLimit < before.cacheSize
  · rw [if_pos large] at balanced
    split at balanced
    · exact absurd balanced.symm (Option.some_ne_none after)
    · have distinct : (order.arrange before.cache.keys).Nodup :=
        (order.perm _).nodup_iff.mpr before.cache.keys_nodup
      obtain ⟨final, folded, total, passed⟩ :=
        @balanceEntry_foldlM before.averageHits _ _ _ distinct accounted.cacheSize
      have fold := folded
      unfold averageHits at fold
      dsimp only at balanced
      rw [fold, Option.map_some, Option.some.injEq] at balanced
      have size : after.cacheSize = final.1 := (congrArg PngCache.cacheSize balanced).symm
      have entries : after.cache = final.2 := (congrArg PngCache.cache balanced).symm
      refine ⟨counted.cacheSize, fun small => absurd large (Nat.not_lt.mpr small), ?_, ?_⟩
      · rw [size, passed, accounted.cacheSize, ← sizes_entriesOf order,
          evictionPass_le_iff erases_eq_false erases_eq_true, sizes_busy, sizes_entriesOf]
      · intro _ done rest cacheSize cache split ran small hash
        obtain ⟨reached, ran', total', _⟩ := @balanceEntry_foldlM before.averageHits _ _ done
          (List.Nodup.of_append_left (split ▸ distinct)) accounted.cacheSize
        cases ran.symm.trans ran'
        obtain ⟨last, ranRest, same⟩ :=
          @balanceEntry_soft before.averageHits _ _ small total' rest
        rw [split, List.foldlM_append, ran] at folded
        cases folded.symm.trans ranRest
        rw [entries]
        exact same hash
  · rw [if_neg large] at balanced
    cases balanced
    refine ⟨counted.cacheSize, fun _ => rfl, ?_, fun large' => absurd large' large⟩
    have fits := tally_busy_le before.averageHits before.cache
    rw [← accounted.cacheSize] at fits
    exact iff_of_true (Nat.not_lt.mp large) (Nat.le_trans fits (Nat.not_lt.mp large))

-----------------------------------------------------------------------------------------
-- The wire ids by their age
-----------------------------------------------------------------------------------------

/-- The ids that were created since the cache was cleared, newest first: they are numbered
downwards, and end with the id 0 after the numbers wrapped. The remembered ones are some of
them.
-/
structure IdsByAge (cache : PngCache) (births : List TileWireId) : Prop where
  age
    : ∀ (j : Nat) wid,
        births[j]? = some wid →
        wid.toNat + j = cache.nextId.toNat ∨ (wid = 0 ∧ j + 1 = cache.nextId.toNat)
  listed : ∀ hash wid, cache.hashToWireId.lookup hash = some wid → wid ∈ births
  oneHash
    : ∀ hash other wid,
        cache.hashToWireId.lookup hash = some wid
        → cache.hashToWireId.lookup other = some wid
        → hash = other

/-- What `balanceCache` leaves of the wire ids: the newest ones, and not too many. -/
structure IdLaw (births : List TileWireId) (before after : PngCache) : Prop where
  bounded : after.hashToWireId.keys.length ≤ cacheWidHardLimit
  kept
    : ∀ hash wid (j : Nat),
        before.hashToWireId.lookup hash = some wid
        → births[j]? = some wid
        → j < cacheWidHardLimit / 2
        → after.hashToWireId.lookup hash = some wid

section

variable {cache : PngCache} {births : List TileWireId}

/-- Nothing has happened to the ids. -/
theorem IdsByAge.of_eq {after : PngCache} (ages : IdsByAge cache births)
    (nextId : after.nextId = cache.nextId) (same : after.hashToWireId = cache.hashToWireId)
    : IdsByAge after births := by
  refine ⟨?_, ?_, ?_⟩
  · rw [nextId]
    exact ages.age
  · rw [same]
    exact ages.listed
  · rw [same]
    exact ages.oneHash

/-- Forgetting some ids keeps the others with their hash. -/
theorem IdsByAge.forget {after : PngCache} (ages : IdsByAge cache births)
    (kept : KeepsIds cache after)
    : IdsByAge after births where
  age := by
    rw [kept.nextId]
    exact ages.age
  listed hash wid found := ages.listed hash wid (kept.remembered hash wid found)
  oneHash hash other wid found found' :=
    ages.oneHash hash other wid (kept.remembered hash wid found)
      (kept.remembered other wid found')

/-- The ids of a map that are all in a list are at most as many. -/
theorem length_keys_le (ages : IdsByAge cache births) {ids : List TileWireId}
    (inside : ∀ hash wid, cache.hashToWireId.lookup hash = some wid → wid ∈ ids)
    : cache.hashToWireId.keys.length ≤ ids.length := by
  have distinct : (cache.hashToWireId.entries.map Sigma.snd).Nodup := by
    apply List.Nodup.map_on _ cache.hashToWireId.nodupKeys.nodup
    rintro ⟨hash, wid⟩ member ⟨other, wid'⟩ member' same
    obtain rfl : wid = wid' := same
    obtain rfl : hash = other :=
      ages.oneHash hash other wid (AList.mem_lookup_iff.mpr member)
        (AList.mem_lookup_iff.mpr member')
    rfl
  have subset : cache.hashToWireId.entries.map Sigma.snd ⊆ ids := by
    intro wid member
    obtain ⟨entry, listed, rfl⟩ := List.mem_map.mp member
    exact inside entry.1 entry.2 (AList.mem_lookup_iff.mpr listed)
  have length := (List.subperm_of_subset distinct subset).length_le
  rwa [List.length_map, ← List.length_map (f := Sigma.fst)] at length

/-- The pass over the ids: above its limit, it forgets the older half. -/
theorem balanceWireIds_law (ages : IdsByAge cache births)
    : IdLaw births cache cache.balanceWireIds := by
  have limit : cacheWidHardLimit = 4096 := rfl
  have rest := ages.forget cache.balanceWireIds_keepsIds
  unfold balanceWireIds at rest ⊢
  by_cases large : cacheWidHardLimit < cache.hashToWireId.keys.length
  swap
  · rw [if_neg large]
    exact ⟨Nat.not_lt.mp large, fun _ _ _ found _ _ => found⟩
  rw [if_pos large] at rest ⊢
  -- there are enough ids that the oldest one to keep is not below zero
  have many : 4096 ≤ cache.nextId.toNat := by
    have length := length_keys_le ages ages.listed
    obtain ⟨wid, old⟩ : ∃ wid, births[4096]? = some wid :=
      ⟨_, List.getElem?_eq_getElem (by omega)⟩
    have age := ages.age 4096 wid old
    omega
  have oldest : (cache.nextId - UInt32.ofNat (cacheWidHardLimit / 2)).toNat
      = cache.nextId.toNat - 2048 := by
    have half : (UInt32.ofNat (cacheWidHardLimit / 2)).toNat = 2048 := by decide
    rw [UInt32.toNat_sub_of_le]
    · rw [half]
    · rw [UInt32.le_iff_toNat_le, half]
      omega
  have lookup {hash : TileBinaryHash} {wid : TileWireId} {rest : KeyedMap TileBinaryHash TileWireId}
      (entries
        : rest.entries
          = cache.hashToWireId.entries.filter
              (fun it =>
                !decide (it.2 < cache.nextId - UInt32.ofNat (cacheWidHardLimit / 2))))
      : rest.lookup hash = some wid
        ↔ cache.hashToWireId.lookup hash = some wid ∧ cache.nextId.toNat - 2048 ≤ wid.toNat := by
    have member : rest.lookup hash = some wid ↔ (⟨hash, wid⟩ : Sigma _) ∈ rest.entries :=
      AList.mem_lookup_iff
    have member' : cache.hashToWireId.lookup hash = some wid
        ↔ (⟨hash, wid⟩ : Sigma _) ∈ cache.hashToWireId.entries :=
      AList.mem_lookup_iff
    rw [member, member', entries, List.mem_filter]
    apply and_congr_right
    intro _
    rw [Bool.not_eq_true', decide_eq_false_iff_not, UInt32.lt_iff_toNat_lt, oldest, Nat.not_lt]
  constructor
  · have length := @length_keys_le _ _ rest (births.take 2049) (by
      intro hash wid found
      obtain ⟨found, young⟩ := (lookup rfl).mp found
      obtain ⟨j, bound, same⟩ := List.mem_iff_getElem.mp (ages.listed hash wid found)
      have recent : j < 2049 := by
        rcases ages.age j wid (List.getElem?_eq_some_iff.mpr ⟨bound, same⟩) with age | ⟨rfl, age⟩
        · omega
        · rw [UInt32.toNat_zero] at young
          omega
      rw [← same]
      exact List.mem_take_iff_getElem.mpr ⟨j, by omega, rfl⟩)
    rw [List.length_take] at length
    omega
  · intro hash wid j found born young
    refine (lookup rfl).mpr ⟨found, ?_⟩
    have age := ages.age j wid born
    omega

/-- A new id is the newest one. -/
theorem IdsByAge.create (ages : IdsByAge cache births)
    (straight : ¬ cache.nextId + 1 < 1) (hash : TileBinaryHash)
    : IdsByAge
        {
          cache with
          nextId := cache.nextId + 1
          hashToWireId := emplace cache.hashToWireId hash (cache.nextId + 1)
        }
        ((cache.nextId + 1) :: births) := by
  have number : (cache.nextId + 1).toNat = cache.nextId.toNat + 1 := by
    have upper := cache.nextId.toNat_lt
    rw [UInt32.lt_iff_toNat_lt, UInt32.toNat_add, UInt32.toNat_one] at straight
    rw [UInt32.toNat_add, UInt32.toNat_one]
    omega
  have older {wid : TileWireId} (born : wid ∈ births) : wid ≠ cache.nextId + 1 := by
    rintro rfl
    obtain ⟨j, bound, same⟩ := List.mem_iff_getElem.mp born
    rcases ages.age j _ (List.getElem?_eq_some_iff.mpr ⟨bound, same⟩) with age | ⟨zero, _⟩
    · omega
    · rw [zero, UInt32.toNat_zero] at number
      omega
  refine ⟨?_, ?_, ?_⟩
  · intro j wid born
    cases j with
    | zero =>
        cases born
        exact .inl rfl
    | succ j =>
        dsimp only
        rcases ages.age j wid born with age | ⟨zero, age⟩
        · exact .inl (by omega)
        · exact .inr ⟨zero, by omega⟩
  · intro other wid found
    rcases lookup_emplace found with before | ⟨_, rfl⟩
    · exact List.mem_cons_of_mem _ (ages.listed other wid before)
    · exact List.mem_cons_self
  · intro one other wid found found'
    rcases lookup_emplace found with before | ⟨rfl, rfl⟩
    · rcases lookup_emplace found' with before' | ⟨rfl, rfl⟩
      · exact ages.oneHash one other wid before before'
      · exact absurd rfl (older (ages.listed one _ before))
    · rcases lookup_emplace found' with before' | ⟨rfl, _⟩
      · exact absurd rfl (older (ages.listed other _ before'))
      · rfl

/-- After the numbers wrapped, the cache has one id. -/
theorem idsByAge_wrapped (hash : TileBinaryHash)
    : IdsByAge
        { clearCache with hashToWireId := emplace clearCache.hashToWireId hash 0 } [0] := by
  refine ⟨?_, ?_, ?_⟩
  · intro j wid born
    cases j with
    | zero =>
        cases born
        exact .inr ⟨rfl, rfl⟩
    | succ j => exact absurd born (by simp)
  · intro other wid found
    rcases lookup_emplace found with before | ⟨_, rfl⟩
    · exact absurd (mem_of_lookup before) (AList.notMem_empty other)
    · exact List.mem_cons_self
  · intro one other wid found found'
    rcases lookup_emplace found with before | ⟨rfl, _⟩
    · exact absurd (mem_of_lookup before) (AList.notMem_empty one)
    · rcases lookup_emplace found' with before' | ⟨rfl, _⟩
      · exact absurd (mem_of_lookup before') (AList.notMem_empty other)
      · rfl

end

-----------------------------------------------------------------------------------------
-- The calls of balanceCache
-----------------------------------------------------------------------------------------

/-- The loop over the images leaves the wire ids. -/
theorem balanceEntries_ids {order : IterationOrder TileBinaryHash} {before after : PngCache}
    (balanced : before.balanceEntries order = some after)
    : after.nextId = before.nextId ∧ after.hashToWireId = before.hashToWireId := by
  unfold balanceEntries at balanced
  split at balanced
  · split at balanced
    · exact absurd balanced.symm (Option.some_ne_none after)
    · obtain ⟨final, _, rfl⟩ := Option.map_eq_some_iff.mp balanced
      exact ⟨rfl, rfl⟩
  · cases balanced
    exact ⟨rfl, rfl⟩

/-- Forgetting wire ids leaves the images. -/
theorem balanceWireIds_images (cache : PngCache)
    : cache.balanceWireIds.cacheSize = cache.cacheSize
      ∧ cache.balanceWireIds.cache = cache.cache := by
  unfold balanceWireIds
  split <;> exact ⟨rfl, rfl⟩

/-- Both passes, one after the other. -/
theorem balanceCache_law (order : IterationOrder TileBinaryHash) {cache : PngCache}
    {births : List TileWireId} (accounted : Accounted cache) (ages : IdsByAge cache births)
    : ∃ after,
        cache.balanceCache order = some after
        ∧ ImageLaw order cache after
        ∧ IdLaw births cache after := by
  obtain ⟨entries, ran, _, _⟩ := balanceEntries_accounted order accounted
  obtain ⟨total, below, limit, soft⟩ := balanceEntries_law order accounted ran
  obtain ⟨nextId, same⟩ := balanceEntries_ids ran
  obtain ⟨bounded, kept⟩ := balanceWireIds_law (ages.of_eq nextId same)
  obtain ⟨size, images⟩ := balanceWireIds_images entries
  refine ⟨entries.balanceWireIds, by rw [balanceCache, ran]; rfl, ⟨?_, ?_, ?_, ?_⟩, bounded, ?_⟩
  · rw [size, images]
    exact total
  · rw [images]
    exact below
  · rw [size]
    exact limit
  · rw [images]
    exact soft
  · rw [same] at kept
    exact kept

/-- The cache that `balanceCache` finds in a call, if the call gets there. -/
def balancedIn (cache : PngCache) : PngCall → Option (IterationOrder TileBinaryHash × PngCache)
  | .balanceCache order => some (order, cache)
  | .encode order (some data) hash wid =>
      match cache.cacheTest hash with
      | (some _, _) => none
      | (none, after) =>
          some
            (order,
              if hash = 0 then after
              else
                {
                  after with
                  cache := emplace after.cache hash ⟨1, wid, data⟩
                  cacheSize := after.cacheSize + data.length
                })
  | .encode _ none _ _ | .cacheTest _ | .hashToWireId _ => none

/-- What a call has done before it balances keeps the accounts. -/
theorem balancedIn_accounted {cache balanced : PngCache} (accounted : Accounted cache)
    {call : PngCall} {order : IterationOrder TileBinaryHash}
    (found : cache.balancedIn call = some (order, balanced))
    : Accounted balanced
      ∧ balanced.nextId = cache.nextId
      ∧ balanced.hashToWireId = cache.hashToWireId := by
  cases call with
  | balanceCache order' =>
      cases found
      exact ⟨accounted, rfl, rfl⟩
  | cacheTest hash => cases found
  | hashToWireId hash => cases found
  | encode order' png hash wid =>
      cases png with
      | none => cases found
      | some data =>
          obtain ⟨counted, _, absent⟩ := cacheTest_accounted accounted hash
          have same : (cache.cacheTest hash).2.nextId = cache.nextId
              ∧ (cache.cacheTest hash).2.hashToWireId = cache.hashToWireId := by
            unfold cacheTest
            split
            · exact ⟨rfl, rfl⟩
            · dsimp only
              split <;> exact ⟨rfl, rfl⟩
          unfold balancedIn at found
          dsimp only at found
          cases tested : cache.cacheTest hash with
          | mk output after =>
              rw [tested] at counted absent same found
              cases output with
              | some output => cases found
              | none =>
                  cases found
                  split
                  · exact ⟨counted, same⟩
                  · next some' =>
                      obtain ⟨new, positive⟩ := absent rfl some'
                      exact ⟨counted.emplace new positive ⟨1, wid, data⟩, same⟩

end PngCache

-----------------------------------------------------------------------------------------
-- Runs
-----------------------------------------------------------------------------------------

/-- A call that gets to `balanceCache` leaves what that returns. -/
theorem pngStep_balanced {run : PngRun} {call : PngCall}
    {order : IterationOrder TileBinaryHash} {balanced : PngCache}
    (found : run.cache.balancedIn call = some (order, balanced))
    : pngStep run call
      = (balanced.balanceCache order).map (fun after => { run with cache := after }) := by
  cases call with
  | balanceCache order' =>
      cases found
      rfl
  | cacheTest hash => cases found
  | hashToWireId hash => cases found
  | encode order' png hash wid =>
      cases png with
      | none => cases found
      | some data =>
          unfold PngCache.balancedIn at found
          dsimp only at found
          unfold pngStep PngCache.encodeSubBufferToPNG PngCache.cacheEncodeSubBufferToPNG
          cases tested : run.cache.cacheTest hash with
          | mk output after =>
              rw [tested] at found
              cases output with
              | some output => cases found
              | none =>
                  cases found
                  dsimp only
                  rw [tested]
                  dsimp only
                  rw [Option.map_map]
                  rfl

/-- A run with the ids that were created since the cache was cleared, newest first. -/
structure BornRun where
  run : PngRun
  births : List TileWireId

def BornRun.new : BornRun := ⟨.new, []⟩

/-- The ids after a call. -/
def birthsAfter (cache : PngCache) (births : List TileWireId) : PngCall → List TileWireId
  | .hashToWireId hash =>
      if hash = 0 ∨ hash ∈ cache.hashToWireId then births
      else if cache.nextId + 1 < 1 then [cache.nextId + 1]
      else (cache.nextId + 1) :: births
  | .cacheTest _ | .encode .. | .balanceCache _ => births

def bornStep (born : BornRun) (call : PngCall) : Option BornRun :=
  (pngStep born.run call).map (fun next =>
    ⟨next, birthsAfter born.run.cache born.births call⟩)

/-- What every call keeps. -/
structure LimitInvariant (born : BornRun) : Prop where
  png : PngInvariant born.run
  ages : born.run.cache.IdsByAge born.births

/-- Whenever a call gets to `balanceCache`, that returns, and obeys the limits. -/
def ObeysLimits (born : BornRun) (call : PngCall) : Prop :=
  ∀ order balanced, born.run.cache.balancedIn call = some (order, balanced) →
    ∃ next,
      bornStep born call = some next
      ∧ PngCache.ImageLaw order balanced next.run.cache
      ∧ PngCache.IdLaw born.births balanced next.run.cache

/-- At first, there are no images and no ids. -/
theorem limitInvariant_new : LimitInvariant .new where
  png := pngInvariant_new
  ages := {
    age := fun _ _ born => absurd born (by simp [BornRun.new])
    listed := fun hash _ found => absurd (mem_of_lookup found) (AList.notMem_empty hash)
    oneHash := fun hash _ _ found _ => absurd (mem_of_lookup found) (AList.notMem_empty hash)
  }

/-- A call that gives no id. -/
theorem LimitInvariant.keep {born : BornRun} (invariant : LimitInvariant born) {next : PngRun}
    (png : PngInvariant next) (kept : PngCache.KeepsIds born.run.cache next.cache)
    : LimitInvariant ⟨next, born.births⟩ :=
  ⟨png, invariant.ages.forget kept⟩

/-- A call that may give an id, which is then the youngest. -/
theorem LimitInvariant.hashToWireId {born : BornRun} (invariant : LimitInvariant born)
    {hash : TileBinaryHash} {next : PngRun} (png : PngInvariant next)
    (step : pngStep born.run (.hashToWireId hash) = some next)
    : LimitInvariant ⟨next, birthsAfter born.run.cache born.births (.hashToWireId hash)⟩ := by
  refine ⟨png, ?_⟩
  unfold pngStep PngCache.wireIdOf at step
  unfold birthsAfter
  dsimp only at step ⊢
  by_cases zero : hash = 0
  · rw [if_pos zero] at step
    rw [if_pos (.inl zero)]
    cases step
    exact invariant.ages
  rw [if_neg zero] at step
  cases found : born.run.cache.hashToWireId.lookup hash with
  | some wid =>
      rw [found] at step
      rw [if_pos (.inr (mem_of_lookup found))]
      cases step
      exact invariant.ages
  | none =>
      rw [found] at step
      rw [if_neg (not_or.mpr ⟨zero, AList.lookup_eq_none.mp found⟩)]
      unfold PngCache.createNewWireId at step
      dsimp only at step
      by_cases wraps : born.run.cache.nextId + 1 < 1
      · have none' : born.run.cache.nextId + 1 = 0 := by
          rw [UInt32.lt_iff_toNat_lt, UInt32.toNat_one] at wraps
          exact UInt32.toNat_inj.mp (by rw [UInt32.toNat_zero]; omega)
        rw [if_pos wraps] at step ⊢
        cases step
        dsimp only
        rw [none']
        exact PngCache.idsByAge_wrapped hash
      · rw [if_neg wraps] at step ⊢
        cases step
        exact invariant.ages.create wraps hash

/-- One call, by cases on it. -/
theorem bornStep_keeps {born next : BornRun} (invariant : LimitInvariant born)
    {call : PngCall} (step : bornStep born call = some next)
    : LimitInvariant next := by
  obtain ⟨after, ran, rfl⟩ := Option.map_eq_some_iff.mp step
  obtain ⟨_, ran', png⟩ := pngStep_keeps born.run call invariant.png
  cases ran.symm.trans ran'
  cases call with
  | hashToWireId hash => exact invariant.hashToWireId png ran
  | cacheTest hash =>
      obtain ⟨_, kept, _⟩ := PngCache.cacheTest_accounted invariant.png.accounted hash
      cases ran
      exact invariant.keep png kept
  | encode order data hash wid =>
      obtain ⟨result, encoded, _, kept⟩ := PngCache.encodeSubBufferToPNG_accounted order
        invariant.png.accounted data hash wid
      rw [pngStep, encoded] at ran
      cases ran
      exact invariant.keep png kept
  | balanceCache order =>
      obtain ⟨balanced, ran', _, kept⟩ :=
        PngCache.balanceCache_accounted order invariant.png.accounted
      rw [pngStep, ran'] at ran
      cases ran
      exact invariant.keep png kept

/-- A call that balances obeys the limits. -/
theorem LimitInvariant.obeysLimits {born : BornRun} (invariant : LimitInvariant born)
    (call : PngCall)
    : ObeysLimits born call := by
  intro order balanced found
  obtain ⟨accounted, nextId, same⟩ :=
    PngCache.balancedIn_accounted invariant.png.accounted found
  obtain ⟨after, ran, images, ids⟩ :=
    PngCache.balanceCache_law order accounted (invariant.ages.of_eq nextId same)
  refine ⟨⟨{ born.run with cache := after }, birthsAfter born.run.cache born.births call⟩, ?_,
    images, ids⟩
  rw [bornStep, pngStep_balanced found, ran]
  rfl

/-- Every call of `balanceCache` in every run obeys the limits. -/
theorem balanceCache_limits (calls : List PngCall)
    : AllSteps bornStep ObeysLimits .new calls := by
  intro done call rest born split ran
  have invariant : AllStates bornStep LimitInvariant .new calls :=
    allStates_of_keeps (fun _ _ _ invariant step => bornStep_keeps invariant step)
      limitInvariant_new calls
  exact (invariant done (call :: rest) born split ran).obeysLimits call

-----------------------------------------------------------------------------------------
-- A large image
-----------------------------------------------------------------------------------------

open PngCache

/-- Keys are visited as the map has them. -/
def inOrder : IterationOrder TileBinaryHash := ⟨id, fun keys => .refl keys⟩

/-- One image with some hits. -/
def oneImage (hitCount : Nat) (small : List UInt8) : KeyedMap TileBinaryHash CacheEntry :=
  AList.insert 1 ⟨hitCount, 2, small⟩ ∅

def imageRun (cacheTests hitCount : Nat) (small : List UInt8) : PngRun where
  cache :=
    { clearCache with cacheSize := small.length, cacheTests, cache := oneImage hitCount small }
  created := 0
  given := []

/-- The small image is cached. -/
theorem encode_small {small : List UInt8} (length : small.length = 1)
    : pngStep .new (.encode inOrder (some small) 1 2) = some (imageRun 1 1 small) := by
  have balanced : PngCache.balanceCache inOrder (imageRun 1 1 small).cache = some (imageRun 1 1 small).cache := by
    have small' : ¬ cacheSizeHardLimit < (imageRun 1 1 small).cache.cacheSize := by
      simp [imageRun, length, limits]
    unfold balanceCache balanceEntries
    rw [if_neg small']
    rfl
  have found : PngRun.new.cache.balancedIn (.encode inOrder (some small) 1 2) = some (inOrder, (imageRun 1 1 small).cache) := by
    unfold balancedIn imageRun
    have zero : 0 + small.length = small.length := Nat.zero_add _
    rw [← zero]
    rfl
  rw [pngStep_balanced found, balanced]
  rfl

def twoImages (small middle : List UInt8) : KeyedMap TileBinaryHash CacheEntry :=
  AList.insert 2 ⟨1, 3, middle⟩ (oneImage 1 small)

/-- The pass erases the large image and stops below the limit. -/
theorem fold_middle {small middle : List UInt8} (length : small.length = 1)
    (length' : middle.length = 262144)
    : [2, 1].foldlM (balanceEntry 1) (small.length + middle.length, twoImages small middle)
      = some (small.length, oneImage 0 small) := by
  have first
      : balanceEntry 1 (small.length + middle.length, twoImages small middle) 2
        = some (small.length, oneImage 1 small) := by
    have found : (twoImages small middle).lookup 2 = some ⟨1, 3, middle⟩ := rfl
    unfold balanceEntry
    dsimp only
    rw [found]
    dsimp only
    rw [if_pos (by simp [limits, length, length']), if_pos (Nat.le_add_left _ _),
      Nat.add_sub_cancel]
    rfl
  have second
      : balanceEntry 1 (small.length, oneImage 1 small) 1
        = some (small.length, oneImage 0 small) := by
    have found : (oneImage 1 small).lookup 1 = some ⟨1, 2, small⟩ := rfl
    unfold balanceEntry
    dsimp only
    rw [found]
    dsimp only
    rw [if_neg (by simp [limits, length]), if_pos Nat.one_pos]
    rfl
  rw [List.foldlM_cons, first]
  change [1].foldlM (balanceEntry 1) (small.length, oneImage 1 small) = _
  rw [List.foldlM_cons, second]
  rfl

/-- The large image is encoded, but not kept. -/
theorem encode_middle {small middle : List UInt8} (length : small.length = 1)
    (length' : middle.length = 262144)
    : pngStep (imageRun 1 1 small) (.encode inOrder (some middle) 2 3)
      = some (imageRun 2 0 small) := by
  let balanced : PngCache :=
    {
      (imageRun 2 1 small).cache with
      cacheSize := small.length + middle.length
      cache := twoImages small middle
    }
  have found
      : (imageRun 1 1 small).cache.balancedIn (.encode inOrder (some middle) 2 3)
        = some (inOrder, balanced) :=
    rfl
  have above : cacheSizeHardLimit < balanced.cacheSize := by
    simp [balanced, limits, length, length']
  rw [pngStep_balanced found]
  unfold balanceCache balanceEntries
  have some' : ¬ (balanced.cacheTests = 0 ∨ balanced.cache.keys.length = 0) :=
    not_or.mpr ⟨Nat.succ_ne_zero 1, Nat.succ_ne_zero 1⟩
  rw [if_pos above, if_neg some']
  have hits : tally CacheEntry.hitCount balanced.cache = 2 := rfl
  have images : balanced.cache.keys.length = 2 := rfl
  have fold
      : (inOrder.arrange balanced.cache.keys).foldlM (balanceEntry 1)
          (balanced.cacheSize, balanced.cache)
        = some (small.length, oneImage 0 small) :=
    fold_middle length length'
  dsimp only
  rw [hits, images, Nat.div_self Nat.two_pos, fold]
  rfl

/-- The image is larger than the limit. -/
theorem encode_large (small : List UInt8) {large : List UInt8}
    (length : large.length = 262145)
    : ∃ balanced final,
        (imageRun 2 0 small).cache.balancedIn (.encode inOrder (some large) 3 4)
          = some (inOrder, balanced)
        ∧ pngStep (imageRun 2 0 small) (.encode inOrder (some large) 3 4) = some final
        ∧ cacheSizeHardLimit < final.cache.cacheSize := by
  let balanced : PngCache :=
    {
      (imageRun 3 0 small).cache with
      cacheSize := small.length + large.length
      cache := AList.insert 3 ⟨1, 4, large⟩ (oneImage 0 small)
    }
  have found
      : (imageRun 2 0 small).cache.balancedIn (.encode inOrder (some large) 3 4)
        = some (inOrder, balanced) :=
    rfl
  have accounted : Accounted balanced := ⟨Nat.add_comm _ _, fun _ _ => Nat.succ_pos 2⟩
  have ages : IdsByAge balanced [] :=
    {
      age := fun _ _ born => absurd born (by simp)
      listed := fun hash _ found => absurd (mem_of_lookup found) (AList.notMem_empty hash)
      oneHash := fun hash _ _ found _ => absurd (mem_of_lookup found) (AList.notMem_empty hash)
    }
  obtain ⟨after, ran, images, _⟩ := balanceCache_law inOrder accounted ages
  refine ⟨balanced, { imageRun 2 0 small with cache := after }, found,
    by rw [pngStep_balanced found, ran]; rfl, ?_⟩
  have average : balanced.averageHits = 0 := by
    have hits : tally CacheEntry.hitCount balanced.cache = 1 := rfl
    have images : balanced.cache.keys.length = 2 := rfl
    rw [averageHits, hits, images]
  have busy : tally (busySize balanced.averageHits) balanced.cache = large.length := by
    rw [average]
    exact Nat.add_zero _
  rw [← Nat.not_le]
  intro fits
  have small' := images.limit.mp fits
  rw [busy, length] at small'
  exact absurd small' (by decide)

/-- Three images: the second one makes the first one idle, and then the third one stays. -/
def largeImageCalls : List PngCall :=
  [
    .encode inOrder (some (List.replicate 1 0)) 1 2,
    .encode inOrder (some (List.replicate 262144 0)) 2 3,
    .encode inOrder (some (List.replicate 262145 0)) 3 4
  ]

/-- The images fit the hard limit whenever `balanceCache` was called. -/
def FitsHardLimit (born : BornRun) (call : PngCall) : Prop :=
  ∀ order balanced next,
    born.run.cache.balancedIn call = some (order, balanced)
    → bornStep born call = some next
    → next.run.cache.cacheSize ≤ cacheSizeHardLimit

/-- The third image has more hits than the average, and is larger than the limit. -/
theorem largeImage_stays : ¬ AllSteps bornStep FitsHardLimit .new largeImageCalls := by
  intro all
  have small : (List.replicate 1 (0 : UInt8)).length = 1 := List.length_replicate
  obtain ⟨balanced, final, found, ran, above⟩ :=
    @encode_large (List.replicate 1 0) (List.replicate 262145 0) List.length_replicate
  have first
      : bornStep .new (.encode inOrder (some (List.replicate 1 0)) 1 2)
        = some ⟨imageRun 1 1 (List.replicate 1 0), []⟩ :=
    congrArg (Option.map (BornRun.mk · [])) (encode_small small)
  have second
      : bornStep ⟨imageRun 1 1 (List.replicate 1 0), []⟩
          (.encode inOrder (some (List.replicate 262144 0)) 2 3)
        = some ⟨imageRun 2 0 (List.replicate 1 0), []⟩ :=
    congrArg (Option.map (BornRun.mk · [])) (encode_middle small List.length_replicate)
  have third
      : bornStep ⟨imageRun 2 0 (List.replicate 1 0), []⟩
          (.encode inOrder (some (List.replicate 262145 0)) 3 4)
        = some ⟨final, []⟩ :=
    congrArg (Option.map (BornRun.mk · [])) ran
  have fits := ((all.tail first).tail second).head inOrder balanced ⟨final, []⟩ found third
  exact absurd fits (Nat.not_le.mpr above)

end NdcOdfWeb.Kit
