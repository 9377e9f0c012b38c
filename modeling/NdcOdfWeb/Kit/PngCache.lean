import NdcOdfWeb.Foundation.StepRun
import NdcOdfWeb.Foundation.Tally

/-! The cache of the last few PNGs and of the wire ids of their hashes (`PngCache`). What is
encoded, and whether that succeeds, comes with the calls.
-/

namespace NdcOdfWeb.Kit

open NdcOdfWeb.Foundation

abbrev TileWireId := UInt32

abbrev TileBinaryHash := UInt64

/-- `CacheEntry`. -/
structure CacheEntry where
  hitCount : Nat
  wireId : TileWireId
  data : List UInt8

/-- `PngCache`. -/
structure PngCache where
  cacheSize : Nat
  cacheHits : Nat
  cacheTests : Nat
  nextId : TileWireId
  cache : KeyedMap TileBinaryHash CacheEntry
  hashToWireId : KeyedMap TileBinaryHash TileWireId

/-- The order in which an unordered map is iterated. -/
structure IterationOrder (κ : Type) where
  arrange : List κ → List κ
  perm : ∀ keys, (arrange keys).Perm keys

namespace PngCache

/-- 128k of cache. -/
def cacheSizeSoftLimit : Nat := 1024 * 4 * 32

def cacheSizeHardLimit : Nat := cacheSizeSoftLimit * 2

def cacheWidHardLimit : Nat := 4096

/-- What `clearCache` leaves, and a new cache. -/
def clearCache : PngCache where
  cacheSize := 0
  cacheHits := 0
  cacheTests := 0
  nextId := 1
  cache := ∅
  hashToWireId := ∅

/-- `createNewWireId`: keep these ids small and wrap them. -/
def createNewWireId (cache : PngCache) : TileWireId × PngCache :=
  let id := cache.nextId + 1
  (id, if id < 1 then clearCache else { cache with nextId := id })

/-- `hashToWireId`. -/
def wireIdOf (cache : PngCache) (hash : TileBinaryHash) : TileWireId × PngCache :=
  if hash = 0 then (0, cache)
  else
    match cache.hashToWireId.lookup hash with
    | some wid => (wid, cache)
    | none =>
        let (wid, after) := cache.createNewWireId
        (wid, { after with hashToWireId := emplace after.hashToWireId hash wid })

/-- The loop's body for an entry, `none` where the size would underflow. -/
def balanceEntry (avgHits : Nat) (state : Nat × KeyedMap TileBinaryHash CacheEntry)
    (hash : TileBinaryHash)
    : Option (Nat × KeyedMap TileBinaryHash CacheEntry) :=
  let (cacheSize, cache) := state
  match cache.lookup hash with
  | none => some state
  | some it =>
      -- Shrink cache when we exceed the size to maximize the chance of hitting these
      -- entries in the future.
      if (cacheSizeSoftLimit < cacheSize ∧ it.hitCount = 0)
          ∨ (cacheSizeHardLimit < cacheSize ∧ 0 < it.hitCount ∧ it.hitCount ≤ avgHits) then
        if it.data.length ≤ cacheSize then
          some (cacheSize - it.data.length, cache.erase hash)
        else none
      else if 0 < it.hitCount then
        some (cacheSize, cache.insert hash { it with hitCount := it.hitCount - 1 })
      else some state

/-- The first half of `balanceCache`, `none` where it divides by zero. -/
def balanceEntries (order : IterationOrder TileBinaryHash) (cache : PngCache)
    : Option PngCache :=
  if cacheSizeHardLimit < cache.cacheSize then
    if cache.cacheTests = 0 ∨ cache.cache.keys.length = 0 then none
    else
      let avgHits := tally CacheEntry.hitCount cache.cache / cache.cache.keys.length
      ((order.arrange cache.cache.keys).foldlM (balanceEntry avgHits)
          (cache.cacheSize, cache.cache)).map
        (fun (cacheSize, entries) => { cache with cacheSize, cache := entries })
  else some cache

/-- The second half of `balanceCache`: clear half of the wire ids. -/
def balanceWireIds (cache : PngCache) : PngCache :=
  if cacheWidHardLimit < cache.hashToWireId.keys.length then
    let max := cache.nextId - UInt32.ofNat (cacheWidHardLimit / 2)
    {
      cache with
      hashToWireId :=
        ⟨cache.hashToWireId.entries.filter (fun it => !decide (it.2 < max)),
          cache.hashToWireId.nodupKeys.sublist List.filter_sublist⟩
    }
  else cache

/-- `balanceCache`. -/
def balanceCache (order : IterationOrder TileBinaryHash) (cache : PngCache)
    : Option PngCache :=
  (cache.balanceEntries order).map balanceWireIds

/-- `cacheTest`: what is found for a hash. -/
def cacheTest (cache : PngCache) (hash : TileBinaryHash) : Option (List UInt8) × PngCache :=
  if hash = 0 then (none, cache)
  else
    let cache := { cache with cacheTests := cache.cacheTests + 1 }
    match cache.cache.lookup hash with
    | none => (none, cache)
    | some it =>
        (some it.data,
          {
            cache with
            cacheHits := cache.cacheHits + 1
            cache := cache.cache.insert hash { it with hitCount := it.hitCount + 1 }
          })

/-- `cacheEncodeSubBufferToPNG`, where `png` is what the encoder makes of the pixels. Every
entry is used at least once; prevent removal at birth.
-/
def cacheEncodeSubBufferToPNG (order : IterationOrder TileBinaryHash) (cache : PngCache)
    (png : Option (List UInt8)) (hash : TileBinaryHash) (wid : TileWireId)
    : Option (Option (List UInt8) × PngCache) :=
  match png with
  | none => some (none, cache)
  | some data =>
      let cached :=
        if hash = 0 then cache
        else
          {
            cache with
            cache := emplace cache.cache hash { hitCount := 1, wireId := wid, data }
            cacheSize := cache.cacheSize + data.length
          }
      (cached.balanceCache order).map (fun after => (some data, after))

/-- `encodeSubBufferToPNG`, and `encodeBufferToPNG` for all of a buffer. -/
def encodeSubBufferToPNG (order : IterationOrder TileBinaryHash) (cache : PngCache)
    (png : Option (List UInt8)) (hash : TileBinaryHash) (wid : TileWireId)
    : Option (Option (List UInt8) × PngCache) :=
  match cache.cacheTest hash with
  | (some output, after) => some (some output, after)
  | (none, after) => after.cacheEncodeSubBufferToPNG order png hash wid

end PngCache

/-- A call of the cache. -/
inductive PngCall where
  | cacheTest (hash : TileBinaryHash)
  | encode (order : IterationOrder TileBinaryHash) (png : Option (List UInt8))
    (hash : TileBinaryHash) (wid : TileWireId)
  | balanceCache (order : IterationOrder TileBinaryHash)
  | hashToWireId (hash : TileBinaryHash)

/-- A cache with the wire ids that it gave, each with its hash, and the number of those that
it created.
-/
structure PngRun where
  cache : PngCache
  created : Nat
  given : List (TileBinaryHash × TileWireId)

def PngRun.new : PngRun := ⟨PngCache.clearCache, 0, []⟩

/-- One call, `none` where the size of the cache underflows or it divides by zero. -/
def pngStep (run : PngRun) : PngCall → Option PngRun
  | .cacheTest hash => some { run with cache := (run.cache.cacheTest hash).2 }
  | .encode order png hash wid =>
      (run.cache.encodeSubBufferToPNG order png hash wid).map
        (fun result => { run with cache := result.2 })
  | .balanceCache order =>
      (run.cache.balanceCache order).map (fun after => { run with cache := after })
  | .hashToWireId hash =>
      let (wid, after) := run.cache.wireIdOf hash
      some {
        cache := after
        created :=
          if hash = 0 ∨ hash ∈ run.cache.hashToWireId then run.created else run.created + 1
        given := run.given ++ [(hash, wid)]
      }

end NdcOdfWeb.Kit
