import NdcOdfWeb.Rendering.RequestLists

/-! How long a session stays subscribed to a tile: until it gets a rendering that is new
enough, as long as each new subscription finds an entry whose version is in order.
-/

namespace NdcOdfWeb.Rendering

open NdcOdfWeb.Foundation
open NdcOdfWeb.Protocol
open NdcOdfWeb.Tiles
open Wsd

/-- The session has subscribed to the tile with this version, and since then has neither got a
rendering of at least this version nor canceled its tiles. The log has the newest notice first.
-/
def Waiting {S : Type} (name : Text) (id : S) (version : Int32) : List (Notice S) → Prop
  | [] => False
  | .subscribed cacheName session requested :: log =>
      (cacheName = name ∧ session = id ∧ requested = version) ∨ Waiting name id version log
  | .canceled session :: log => session ≠ id ∧ Waiting name id version log
  | .answered cacheName session sent :: log =>
      ¬ (cacheName = name ∧ session = id ∧ version ≤ sent) ∧ Waiting name id version log
  | .enqueued _ _ :: log => Waiting name id version log
  | .filtered _ _ :: log => Waiting name id version log

instance decidableWaiting {S : Type} [DecidableEq S] (name : Text) (id : S) (version : Int32)
    : (log : List (Notice S)) → Decidable (Waiting name id version log)
  | [] => .isFalse False.elim
  | .subscribed _ _ _ :: log =>
      haveI := decidableWaiting name id version log
      inferInstanceAs (Decidable (_ ∨ _))
  | .canceled _ :: log =>
      haveI := decidableWaiting name id version log
      inferInstanceAs (Decidable (_ ∧ _))
  | .answered _ _ _ :: log =>
      haveI := decidableWaiting name id version log
      inferInstanceAs (Decidable (_ ∧ _))
  | .enqueued _ _ :: log => decidableWaiting name id version log
  | .filtered _ _ :: log => decidableWaiting name id version log

namespace Wsd

variable {S : Type}

/-- The sessions that wait for a tile are subscribed to it. -/
def SubscriptionLaw (wsd : Wsd S) : Prop :=
  ∀ id ∈ wsd.sessions, ∀ name version, Waiting name id version wsd.log → wsd.Subscribed name id

/-- The session is subscribed to the tile, and no rendering before this version ends that. -/
def Expects (wsd : Wsd S) (name : Text) (id : S) (version : Int32) : Prop :=
  ∃ entry ∈ wsd.tilesBeingRendered,
    entry.cachedName = name ∧ id ∈ entry.subscribers ∧ version ≤ entry.tile.ver

/-- Who expects a version of a tile has subscribed to it. -/
theorem Expects.subscribed {wsd : Wsd S} {name : Text} {id : S} {version : Int32}
    (expects : wsd.Expects name id version)
    : wsd.Subscribed name id := by
  obtain ⟨entry, member, named, inside, -⟩ := expects
  exact ⟨entry, member, named, inside⟩

/-- Who expects a version expects the earlier ones as well. -/
theorem Expects.le {wsd : Wsd S} {name : Text} {id : S} {version earlier : Int32}
    (expects : wsd.Expects name id version) (le : earlier ≤ version)
    : wsd.Expects name id earlier := by
  obtain ⟨entry, member, named, inside, newer⟩ := expects
  exact ⟨entry, member, named, inside, Int32.le_trans le newer⟩

/-- Without a change of the entries, the expectations stay. -/
theorem Expects.of_same {before after : Wsd S} (same : SameEntries before after) {name : Text}
    {id : S} {version : Int32} (expects : before.Expects name id version)
    : after.Expects name id version := by
  rw [Expects, same.tilesBeingRendered]
  exact expects

section Entries

variable {wsd : Wsd S} {cacheName name : Text} {id : S} {version : Int32}

/-- Entries that change lose nobody if they keep their subscribers and get no earlier version. -/
theorem Expects.modifyEntry {change : TileBeingRendered S → TileBeingRendered S}
    (keeps : ∀ entry, (change entry).cachedName = entry.cachedName)
    (grows : ∀ entry, entry.subscribers ⊆ (change entry).subscribers)
    (newer
      : ∀ entry ∈ wsd.tilesBeingRendered,
          entry.cachedName = cacheName → entry.tile.ver ≤ (change entry).tile.ver)
    (expects : wsd.Expects name id version)
    : (wsd.modifyEntry cacheName change).Expects name id version := by
  obtain ⟨entry, member, named, inside, waits⟩ := expects
  refine ⟨_, mem_modifyEntry.mpr ⟨entry, member, rfl⟩, ?_⟩
  split
  · next same =>
      exact ⟨(keeps entry).trans named, grows entry inside,
        Int32.le_trans waits (newer entry member same)⟩
  · exact ⟨named, inside, waits⟩

/-- A subscriber of an entry that takes a version is one for this version. -/
theorem Expects.setVersion {later : Int32} (expects : wsd.Expects cacheName id version)
    : (wsd.modifyEntry cacheName (·.setVersion later)).Expects cacheName id later := by
  obtain ⟨entry, member, named, inside, -⟩ := expects
  refine ⟨_, mem_modifyEntry.mpr ⟨entry, member, rfl⟩, ?_⟩
  rw [if_pos named]
  exact ⟨named, inside, Int32.le_refl _⟩

/-- Another entry leaves the expectations as they are. -/
theorem Expects.insertEntry (now : Int) (tile : TileDesc) (subscribers : List S)
    (expects : wsd.Expects name id version)
    : (wsd.insertEntry now tile subscribers).Expects name id version := by
  obtain ⟨entry, member, rest⟩ := expects
  have there := (wsd.insertEntry_perm now tile subscribers).mem_iff.mpr
    (List.mem_cons_of_mem _ member)
  exact ⟨entry, there, rest⟩

/-- The subscribers of a new entry expect its version. -/
theorem expects_insertEntry (wsd : Wsd S) (now : Int) (tile : TileDesc) {subscribers : List S}
    (inside : id ∈ subscribers)
    : (wsd.insertEntry now tile subscribers).Expects (cacheFileName tile) id tile.ver := by
  have there := (wsd.insertEntry_perm now tile subscribers).mem_iff.mpr List.mem_cons_self
  exact ⟨_, there, rfl, inside, Int32.le_refl _⟩

end Entries

/-- Every session of the document that waits for a tile is subscribed to it, and no rendering
before the version that it waits for ends that.
-/
def EntriesNewEnough (wsd : Wsd S) : Prop :=
  ∀ id ∈ wsd.sessions, ∀ name version,
    Waiting name id version wsd.log → wsd.Expects name id version

/-- Where the entries are new enough, those who wait have subscribed. -/
theorem EntriesNewEnough.law {wsd : Wsd S} (newEnough : wsd.EntriesNewEnough)
    : wsd.SubscriptionLaw :=
  fun id present name version waits => (newEnough id present name version waits).subscribed

variable [DecidableEq S]

-----------------------------------------------------------------------------------------
-- Answers
-----------------------------------------------------------------------------------------

/-- An answer serves the subscriber, if it is there and has asked for no later version. -/
theorem waiting_answer {now : Int} {tile : TileDesc} {wsd : Wsd S} {subscriber id : S}
    {name : Text} {version : Int32}
    : Waiting name id version (answer now tile wsd subscriber).log
      ↔ Waiting name id version wsd.log
        ∧ ¬ (id = subscriber ∧ id ∈ wsd.sessions
          ∧ name = cacheFileName tile ∧ version ≤ tile.ver) := by
  unfold answer
  split
  · next present =>
      have noted
          : Waiting name id version
              (enqueueSendMessage (wsd.note (.answered (cacheFileName tile) subscriber tile.ver))
                now subscriber tile).log
            ↔ Waiting name id version
                (.answered (cacheFileName tile) subscriber tile.ver :: wsd.log) := by
        rw [enqueueSendMessage_eq, note_log]
        split <;> exact Iff.rfl
      rw [noted, Waiting, and_comm]
      apply and_congr_right
      intro _
      apply not_congr
      constructor
      · rintro ⟨named, same, newer⟩
        exact ⟨same.symm, same ▸ present, named.symm, newer⟩
      · rintro ⟨same, -, named, newer⟩
        exact ⟨named.symm, same.symm, newer⟩
  · next gone =>
      refine (and_iff_left ?_).symm
      rintro ⟨rfl, present, -⟩
      exact gone present

/-- Answers serve all subscribers, one after the other. -/
theorem waiting_foldl_answer {now : Int} {tile : TileDesc} {wsd : Wsd S} {ids : List S} {id : S}
    {name : Text} {version : Int32}
    : Waiting name id version (ids.foldl (answer now tile) wsd).log
      ↔ Waiting name id version wsd.log
        ∧ ¬ (id ∈ ids ∧ id ∈ wsd.sessions
          ∧ name = cacheFileName tile ∧ version ≤ tile.ver) := by
  induction ids generalizing wsd with
  | nil => exact (and_iff_left (fun all => List.not_mem_nil all.1)).symm
  | cons first ids ih =>
      rw [List.foldl_cons, ih, waiting_answer, (answer_same now tile wsd first).sessions,
        List.mem_cons]
      tauto

/-- An answer serves those who wait for its version or an older one, if they are subscribed. -/
theorem waiting_saveTileAndNotify {wsd : Wsd S} (unique : wsd.UniqueNames) {now : Int}
    {tile : TileDesc} {id : S} (present : id ∈ wsd.sessions) {name : Text} {version : Int32}
    : Waiting name id version (saveTileAndNotify now wsd tile).log
      ↔ Waiting name id version wsd.log
        ∧ ¬ (wsd.Subscribed name id ∧ name = cacheFileName tile ∧ version ≤ tile.ver) := by
  rcases saveTileAndNotify_cases now wsd tile with
    ⟨same, absent⟩ | ⟨entry, member, named, found⟩
  · rw [same]
    refine (and_iff_left ?_).symm
    rintro ⟨⟨entry, member, named, -⟩, isTile, -⟩
    exact absent entry member (named.trans isTile)
  · have log
        : (saveTileAndNotify now wsd tile).log
          = (entry.subscribers.foldl (answer now tile) wsd).log := by
      rcases found with ⟨-, spec⟩ | ⟨-, same⟩
      · exact spec.log
      · rw [same]
    rw [log, waiting_foldl_answer]
    apply and_congr_right
    intro _
    apply not_congr
    constructor
    · rintro ⟨inside, -, isTile, newer⟩
      exact ⟨⟨entry, member, named.trans isTile.symm, inside⟩, isTile, newer⟩
    · rintro ⟨⟨other, there, same, inside⟩, isTile, newer⟩
      rw [← unique.eq member there (named.trans (isTile.symm.trans same.symm))] at inside
      exact ⟨inside, present, isTile, newer⟩

/-- An answer ends subscriptions only if its version is at least the entry's; then it serves
all who wait, since the entry's version is at least the one that each of them waits for.
-/
theorem EntriesNewEnough.saveTileAndNotify {wsd : Wsd S} (unique : wsd.UniqueNames)
    (newEnough : wsd.EntriesNewEnough) (now : Int) (tile : TileDesc)
    : (saveTileAndNotify now wsd tile).EntriesNewEnough := by
  have sessions := (saveTileAndNotify_spec unique now tile).sessions
  intro id present name version waits
  rw [sessions] at present
  obtain ⟨before, unserved⟩ := (waiting_saveTileAndNotify unique present).mp waits
  have expects := newEnough id present name version before
  rcases saveTileAndNotify_cases now wsd tile with
    ⟨same, -⟩ | ⟨entry, member, named, ⟨forgets, spec⟩ | ⟨-, same⟩⟩
  · rw [same]
    exact expects
  · obtain ⟨other, there, otherNamed, inside, newer⟩ := expects
    have answered := foldl_answer_same now tile wsd entry.subscribers
    refine ⟨other, ?_, otherNamed, inside, newer⟩
    rw [spec.tilesBeingRendered, answered.tilesBeingRendered]
    refine List.mem_filter.mpr ⟨there, decide_eq_true ?_⟩
    intro sameName
    obtain rfl := unique.eq there member sameName
    exact unserved ⟨⟨other, there, otherNamed, inside⟩, otherNamed.symm.trans named,
      Int32.le_trans newer forgets⟩
  · rw [same]
    exact expects.of_same (foldl_answer_same now tile wsd entry.subscribers)

/-- The tiles of an answer are saved one after the other. -/
theorem EntriesNewEnough.handleTileResponse {wsd : Wsd S} (unique : wsd.UniqueNames)
    (newEnough : wsd.EntriesNewEnough) (now : Int) (tiles : List TileDesc)
    : (wsd.handleTileResponse now tiles).EntriesNewEnough := by
  have keeps (state : Wsd S) (tile : TileDesc)
      (both : state.UniqueNames ∧ state.EntriesNewEnough)
      : (state.saveTileAndNotify now tile).UniqueNames
        ∧ (state.saveTileAndNotify now tile).EntriesNewEnough :=
    ⟨(saveTileAndNotify_spec both.1 now tile).uniqueNames,
      both.2.saveTileAndNotify both.1 now tile⟩
  exact (foldl_keeps keeps tiles ⟨unique, newEnough⟩).2

/-- A cancellation takes its own session off the entries; the others stay subscribed. -/
theorem Expects.cancelTiles {wsd : Wsd S} {id other : S} (differs : other ≠ id) {name : Text}
    {version : Int32} (expects : wsd.Expects name other version)
    : (wsd.cancelTiles id).2.Expects name other version := by
  obtain ⟨entry, member, named, inside, newer⟩ := expects
  have stays := (List.mem_erase_of_ne differs).mpr inside
  have left
      : ∃ left, cancelEntry id entry = some left ∧ left.cachedName = name
          ∧ other ∈ left.subscribers ∧ version ≤ left.tile.ver := by
    unfold cancelEntry
    dsimp only
    split
    · exact ⟨entry, rfl, named, inside, newer⟩
    · rw [if_neg (List.ne_nil_of_mem stays)]
      exact ⟨_, rfl, named, stays, newer⟩
  obtain ⟨left, kept, rest⟩ := left
  exact ⟨left, List.mem_filterMap.mpr ⟨entry, member, kept⟩, rest⟩

/-- The cancellation of another session leaves the expectations as they are. -/
theorem Expects.cancelTileRequests {wsd : Wsd S} {id other : S} (differs : other ≠ id)
    {name : Text} {version : Int32} (expects : wsd.Expects name other version)
    : (wsd.cancelTileRequests id).Expects name other version := by
  have canceled (change : TileSession → TileSession)
      : ((wsd.modifySession id change).cancelTiles id).2.Expects name other version :=
    Expects.cancelTiles differs (expects.of_same ⟨rfl, rfl⟩)
  have there := canceled (fun session =>
    {
      session.resetWireIdMap with
      tilesOnFly := []
      requestedTiles := []
      tilesBeingRendered := ∅
    })
  unfold Wsd.cancelTileRequests
  dsimp only
  split
  · next wsd' same =>
      rw [same] at there
      exact there
  · next versions wsd' _ same =>
      rw [same] at there
      exact there.of_same ⟨rfl, rfl⟩

-----------------------------------------------------------------------------------------
-- Requests
-----------------------------------------------------------------------------------------

/-- A subscription whose version is in order. If there is an entry for the tile, it takes the new
version where the session has subscribed to it already or it is stalled: then it must not have a
later version. Otherwise it keeps its own, which must not be earlier than the new one.
-/
def SubscribesInOrder (wsd : Wsd S) (now : Int) (tile : TileDesc) (id : S) : Prop :=
  ∀ entry ∈ wsd.findTileBeingRendered tile,
    if id ∈ entry.subscribers ∨ isStalled now entry = true then entry.tile.ver ≤ tile.ver
    else tile.ver ≤ entry.tile.ver

instance decidableSubscribesInOrder (wsd : Wsd S) (now : Int) (tile : TileDesc) (id : S)
    : Decidable (wsd.SubscribesInOrder now tile id) :=
  inferInstanceAs (Decidable (∀ entry ∈ wsd.findTileBeingRendered tile, ite _ _ _))

/-- A registration whose version is in order: a stalled entry takes it. -/
def RegistersInOrder (wsd : Wsd S) (now : Int) (tile : TileDesc) : Prop :=
  ∀ entry ∈ wsd.findTileBeingRendered tile,
    isStalled now entry = true → entry.tile.ver ≤ tile.ver

instance decidableRegistersInOrder (wsd : Wsd S) (now : Int) (tile : TileDesc)
    : Decidable (wsd.RegistersInOrder now tile) :=
  inferInstanceAs (Decidable (∀ entry ∈ wsd.findTileBeingRendered tile, _ → _))

/-- What requests do in order: nobody is lost, and who waits in addition is expected. -/
structure SubscribesMore (before after : Wsd S) : Prop where
  sessions : after.sessions = before.sessions
  uniqueNames : after.UniqueNames
  expects
    : ∀ name id version, before.Expects name id version → after.Expects name id version
  waiting
    : ∀ name id version,
        Waiting name id version after.log
        → Waiting name id version before.log
          ∨ (id ∈ before.sessions ∧ after.Expects name id version)

omit [DecidableEq S] in
/-- Nothing happens. -/
theorem SubscribesMore.refl {wsd : Wsd S} (unique : wsd.UniqueNames) : SubscribesMore wsd wsd :=
  ⟨rfl, unique, fun _ _ _ expects => expects, fun _ _ _ => .inl⟩

omit [DecidableEq S] in
/-- Two steps that only subscribe. -/
theorem SubscribesMore.trans {before middle after : Wsd S} (first : SubscribesMore before middle)
    (second : SubscribesMore middle after)
    : SubscribesMore before after := by
  refine ⟨second.sessions.trans first.sessions, second.uniqueNames, ?_, ?_⟩
  · exact fun name id version expects =>
      second.expects name id version (first.expects name id version expects)
  · intro name id version waits
    rcases second.waiting name id version waits with waits | ⟨present, expects⟩
    · rcases first.waiting name id version waits with waits | ⟨present, expects⟩
      · exact .inl waits
      · exact .inr ⟨present, second.expects name id version expects⟩
    · exact .inr ⟨first.sessions ▸ present, expects⟩

omit [DecidableEq S] in
/-- A change of other things. -/
theorem subscribesMore_of_same {before after : Wsd S} (unique : before.UniqueNames)
    (same : SameEntries before after)
    (waiting
      : ∀ name id version,
          Waiting name id version after.log → Waiting name id version before.log)
    : SubscribesMore before after :=
  ⟨same.sessions, same.uniqueNames.mpr unique, fun _ _ _ expects => expects.of_same same,
    fun name id version waits => .inl (waiting name id version waits)⟩

/-- Sending a tile leaves the entries as they are. -/
theorem subscribesMore_enqueueSendMessage {wsd : Wsd S} (unique : wsd.UniqueNames) (now : Int)
    (id : S) (tile : TileDesc)
    : SubscribesMore wsd (wsd.enqueueSendMessage now id tile) := by
  apply subscribesMore_of_same unique (enqueueSendMessage_same now wsd id tile)
  intro name other version waits
  rw [enqueueSendMessage_eq, note_log] at waits
  split at waits <;> exact waits

/-- The entries of a subscription: nobody is lost, and the session is expected for its version. -/
theorem subscribeToTileRendering_expects {wsd : Wsd S} (unique : wsd.UniqueNames) {now : Int}
    {tile : TileDesc} {id : S} (inOrder : wsd.SubscribesInOrder now tile id)
    : (∀ name other version,
        wsd.Expects name other version
        → (wsd.subscribeToTileRendering now tile id).Expects name other version)
      ∧ (wsd.subscribeToTileRendering now tile id).Expects (cacheFileName tile) id tile.ver := by
  unfold subscribeToTileRendering
  dsimp only
  have noted (notice : Notice S) : SameEntries wsd (wsd.note notice) := ⟨rfl, rfl⟩
  split
  · next entry found =>
      obtain ⟨member, named⟩ := find_mem found
      have order := inOrder entry found
      have only (other : TileBeingRendered S) (there : other ∈ wsd.tilesBeingRendered)
          (same : other.cachedName = cacheFileName tile)
          : other = entry :=
        unique.eq there member (same.trans named.symm)
      split
      · next redundant =>
          rw [if_pos (.inl redundant)] at order
          constructor
          · intro name other version expects
            refine .modifyEntry (fun _ => rfl) (fun _ => List.Subset.refl _) ?_
              (expects.of_same (noted _))
            intro other there same
            rw [only other there same]
            exact order
          · have before : wsd.Expects (cacheFileName tile) id entry.tile.ver :=
              ⟨entry, member, named, redundant, Int32.le_refl _⟩
            exact (before.of_same (noted _)).setVersion
      · next new =>
          -- the entry gets a subscriber; the session's record is another matter
          have pushed
              (name : Text) (other : S) (version : Int32)
              (expects : wsd.Expects name other version)
              : (((wsd.note (.subscribed (cacheFileName tile) id tile.ver)).modifyEntry
                    (cacheFileName tile) (·.addSubscriber id)).traceSubscription tile id).Expects
                  name other version := by
            refine .of_same (traceSubscription_same ..) (.modifyEntry (fun _ => rfl) ?_ ?_
              (expects.of_same (noted _)))
            · exact fun other => List.subset_append_left _ _
            · exact fun _ _ _ => Int32.le_refl _
          have joined
              : (((wsd.note (.subscribed (cacheFileName tile) id tile.ver)).modifyEntry
                    (cacheFileName tile) (·.addSubscriber id)).traceSubscription tile id).Expects
                  (cacheFileName tile) id entry.tile.ver := by
            refine .of_same (traceSubscription_same ..)
              ⟨_, mem_modifyEntry.mpr ⟨entry, member, rfl⟩, ?_⟩
            rw [if_pos named]
            exact ⟨named, List.mem_append_right _ List.mem_cons_self, Int32.le_refl _⟩
          split
          · next stalled =>
              rw [if_pos (.inr stalled)] at order
              refine ⟨fun name other version expects => ?_, joined.setVersion⟩
              refine .modifyEntry (fun _ => rfl) (fun _ => List.Subset.refl _) ?_
                (pushed name other version expects)
              intro changed there same
              rw [(traceSubscription_same ..).tilesBeingRendered] at there
              obtain ⟨before, inside, rfl⟩ := mem_modifyEntry.mp there
              by_cases itself : before.cachedName = cacheFileName tile
              · rw [if_pos itself, only before inside itself]
                exact order
              · rw [if_neg itself] at same
                exact absurd same itself
          · next moving =>
              rw [if_neg (not_or.mpr ⟨new, moving⟩)] at order
              exact ⟨pushed, joined.le order⟩
  · constructor
    · intro name other version expects
      exact .of_same (traceSubscription_same ..)
        ((expects.of_same (noted _)).insertEntry now tile [id])
    · exact .of_same (traceSubscription_same ..)
        (expects_insertEntry _ now tile List.mem_cons_self)

/-- A subscription that finds a version in order: nobody expects less, and the session expects its
own.
-/
theorem subscribesMore_subscribe {wsd : Wsd S} (unique : wsd.UniqueNames) {now : Int}
    {tile : TileDesc} {id : S} (present : id ∈ wsd.sessions)
    (inOrder : wsd.SubscribesInOrder now tile id)
    : SubscribesMore wsd (wsd.subscribeToTileRendering now tile id) := by
  have spec := wsd.subscribeToTileRendering_spec now tile id
  obtain ⟨keeps, expects⟩ := subscribeToTileRendering_expects unique inOrder
  refine ⟨spec.sessions, spec.uniqueNames unique, keeps, ?_⟩
  intro name other version waits
  rw [spec.log] at waits
  rcases waits with ⟨rfl, rfl, rfl⟩ | waits
  · exact .inr ⟨present, expects⟩
  · exact .inl waits

omit [DecidableEq S] in
/-- A registration brings no subscriber; a stalled entry takes the version. -/
theorem subscribesMore_register {wsd : Wsd S} (unique : wsd.UniqueNames) {now : Int}
    {tile : TileDesc} (inOrder : wsd.RegistersInOrder now tile)
    : SubscribesMore wsd (wsd.registerTileBeingRendered now tile) := by
  have spec := registerTileBeingRendered_spec wsd now tile
  refine ⟨spec.sessions, spec.uniqueNames unique, ?_, ?_⟩
  · intro name id version expects
    unfold registerTileBeingRendered
    split
    · next entry found =>
        obtain ⟨member, named⟩ := find_mem found
        split
        · next stalled =>
            refine expects.modifyEntry (fun _ => rfl) (fun _ => List.Subset.refl _) ?_
            intro other there same
            rw [unique.eq there member (same.trans named.symm)]
            exact inOrder entry found stalled
        · exact expects
    · exact expects.insertEntry now tile []
  · intro name id version waits
    rw [spec.log] at waits
    exact .inl waits

-----------------------------------------------------------------------------------------
-- Handlers
-----------------------------------------------------------------------------------------

/-- A pass of the first loop of `handleTileCombinedRequest`. -/
def registerStep (world : World) (wsd : Wsd S) (tile : TileDesc) : Wsd S :=
  let (tile, wsd) := wsd.nextVersion tile
  if world.cached (cacheFileName tile) then wsd
  else wsd.registerTileBeingRendered world.now tile

omit [DecidableEq S] in
/-- The loop of the registrations, tile by tile. -/
theorem registerTiles_foldl (world : World) (wsd : Wsd S) (tiles : List TileDesc)
    : (wsd.registerTiles world tiles).2.2 = tiles.foldl (registerStep world) wsd := by
  induction tiles generalizing wsd with
  | nil => rfl
  | cons tile tiles ih =>
      rw [List.foldl_cons, ← ih, registerTiles, registerStep]
      dsimp only
      split <;> rfl

/-- The pass registers the tile in order, if it registers it. -/
def RegisterStepInOrder (world : World) (wsd : Wsd S) (tile : TileDesc) : Prop :=
  world.cached (cacheFileName tile) = true
  ∨ wsd.RegistersInOrder world.now (wsd.nextVersion tile).1

instance decidableRegisterStepInOrder (world : World) (wsd : Wsd S) (tile : TileDesc)
    : Decidable (RegisterStepInOrder world wsd tile) :=
  inferInstanceAs (Decidable (_ ∨ _))

omit [DecidableEq S] in
/-- A registration that finds a version in order, behind a new version number. -/
theorem subscribesMore_registerStep {wsd : Wsd S} (unique : wsd.UniqueNames) {world : World}
    {tile : TileDesc} (inOrder : RegisterStepInOrder world wsd tile)
    : SubscribesMore wsd (registerStep world wsd tile) := by
  have counted : SubscribesMore wsd (wsd.nextVersion tile).2 :=
    subscribesMore_of_same unique ⟨rfl, rfl⟩ (fun _ _ _ waits => waits)
  unfold registerStep
  dsimp only
  split
  · exact counted
  · next fresh =>
      refine counted.trans (subscribesMore_register counted.uniqueNames ?_)
      exact inOrder.resolve_left fresh

/-- The tile that a pass of the loop of `sendRequestedTiles` subscribes the session to. -/
def subscribedTile (world : World) (limit : Nat) (id : S) (wsd : Wsd S) (tile : TileDesc)
    : Option TileDesc :=
  let session := wsd.session id
  if session.tilesOnFly.length + session.tilesBeingRendered.card ≥ limit then none
  else if session.countIdenticalTilesOnFly tile ≥ 2 then none
  else if world.cached (cacheFileName tile) then none
  else if !wsd.hasTileBeingRendered tile || wsd.getTileBeingRenderedVersion tile < tile.ver then
    some (wsd.nextVersion tile).1
  else some tile

/-- A pass of that loop. At the limit the loop ends, and passes would change nothing. -/
def sendStep (world : World) (limit : Nat) (id : S) (wsd : Wsd S) (tile : TileDesc) : Wsd S :=
  let session := wsd.session id
  if session.tilesOnFly.length + session.tilesBeingRendered.card ≥ limit then wsd
  else if session.countIdenticalTilesOnFly tile ≥ 2 then wsd
  else if world.cached (cacheFileName tile) then
    wsd.enqueueSendMessage world.now id tile.withReadId
  else if !wsd.hasTileBeingRendered tile || wsd.getTileBeingRenderedVersion tile < tile.ver then
    (wsd.nextVersion tile).2.subscribeToTileRendering world.now (wsd.nextVersion tile).1 id
  else wsd.subscribeToTileRendering world.now tile id

/-- The loop of `sendRequestedTiles`, tile by tile. -/
theorem sendLoop_foldl (world : World) (limit : Nat) (id : S) (wsd : Wsd S)
    (needsRendering delayed tiles : List TileDesc)
    : (sendLoop world limit id wsd needsRendering delayed tiles).wsd
      = tiles.foldl (sendStep world limit id) wsd := by
  induction tiles generalizing wsd needsRendering delayed with
  | nil => rfl
  | cons tile tiles ih =>
      rw [List.foldl_cons, sendLoop, sendStep]
      dsimp only
      split
      · next full =>
          -- the loop has ended; the limit is reached in every further pass
          have stays (others : List TileDesc)
              : others.foldl (sendStep world limit id) wsd = wsd := by
            induction others with
            | nil => rfl
            | cons other others ih' => rwa [List.foldl_cons, sendStep, if_pos full]
          exact (stays tiles).symm
      · split
        · exact ih ..
        · split
          · exact ih ..
          · split <;> exact ih ..

/-- The pass subscribes the session in order, if it subscribes it. -/
def SendStepInOrder (world : World) (limit : Nat) (id : S) (wsd : Wsd S) (tile : TileDesc)
    : Prop :=
  ∀ subscribed ∈ subscribedTile world limit id wsd tile,
    wsd.SubscribesInOrder world.now subscribed id

instance decidableSendStepInOrder (world : World) (limit : Nat) (id : S) (wsd : Wsd S)
    (tile : TileDesc)
    : Decidable (SendStepInOrder world limit id wsd tile) :=
  inferInstanceAs (Decidable (∀ subscribed ∈ subscribedTile world limit id wsd tile, _))

/-- A tile of the list: it is sent from the cache, delayed, or subscribed to. -/
theorem subscribesMore_sendStep {wsd : Wsd S} (unique : wsd.UniqueNames) {world : World}
    {limit : Nat} {id : S} (present : id ∈ wsd.sessions) {tile : TileDesc}
    (inOrder : SendStepInOrder world limit id wsd tile)
    : SubscribesMore wsd (sendStep world limit id wsd tile) := by
  unfold SendStepInOrder subscribedTile at inOrder
  unfold sendStep
  dsimp only at inOrder ⊢
  split
  · exact .refl unique
  · next free =>
      rw [if_neg free] at inOrder
      split
      · exact .refl unique
      · next notThird =>
          rw [if_neg notThird] at inOrder
          split
          · exact subscribesMore_enqueueSendMessage unique ..
          · next fresh =>
              rw [if_neg fresh] at inOrder
              split
              · next newer =>
                  rw [if_pos newer] at inOrder
                  have counted : SubscribesMore wsd (wsd.nextVersion tile).2 :=
                    subscribesMore_of_same unique ⟨rfl, rfl⟩ (fun _ _ _ waits => waits)
                  exact counted.trans
                    (subscribesMore_subscribe counted.uniqueNames present (inOrder _ rfl))
              · next there =>
                  rw [if_neg there] at inOrder
                  exact subscribesMore_subscribe unique present (inOrder _ rfl)

/-- A call of `sendRequestedTiles` that subscribes in order. -/
def SendsInOrder (upperLimit : Int32 → Nat) (world : World) (wsd : Wsd S) (id : S) : Prop :=
  let limit := tilesOnFlyUpperLimit upperLimit (wsd.session id)
  let wsd := wsd.modifySession id (·.removeOutdatedTilesOnFly world.now)
  EachStep (sendStep world limit id) (SendStepInOrder world limit id) wsd
    (wsd.session id).requestedTiles

instance decidableSendsInOrder (upperLimit : Int32 → Nat) (world : World) (wsd : Wsd S) (id : S)
    : Decidable (SendsInOrder upperLimit world wsd id) :=
  inferInstanceAs (Decidable (EachStep _ (SendStepInOrder world _ id) _ _))

omit [DecidableEq S] in
/-- The combined request is sent to the kit. -/
theorem subscribesMore_sendCombined {wsd : Wsd S} (unique : wsd.UniqueNames)
    (tiles : List TileDesc)
    : SubscribesMore wsd (wsd.sendCombined tiles) := by
  unfold sendCombined
  split
  · exact .refl unique
  · split
    · exact subscribesMore_of_same unique ⟨rfl, rfl⟩ (fun _ _ _ waits => waits)
    · exact .refl unique

/-- The whole loop, and what is sent behind it. -/
theorem subscribesMore_sendRequestedTiles {upperLimit : Int32 → Nat} {world : World}
    {wsd : Wsd S} (unique : wsd.UniqueNames) {id : S} (present : id ∈ wsd.sessions)
    (inOrder : SendsInOrder upperLimit world wsd id)
    : SubscribesMore wsd (wsd.sendRequestedTiles upperLimit world id) := by
  unfold sendRequestedTiles
  dsimp only
  rw [removeOutdatedTileSubscriptions_eq]
  have dropped : SubscribesMore wsd (wsd.modifySession id (·.removeOutdatedTilesOnFly world.now)) :=
    subscribesMore_of_same unique ⟨rfl, rfl⟩ (fun _ _ _ waits => waits)
  have looped := EachStep.keeps
    (fun state tile (more : SubscribesMore wsd state) inOrder =>
      more.trans (subscribesMore_sendStep more.uniqueNames (more.sessions ▸ present) inOrder))
    dropped inOrder
  rw [← sendLoop_foldl world _ id _ [] []] at looped
  have listed
      : SubscribesMore wsd
          ((sendLoop world (tilesOnFlyUpperLimit upperLimit (wsd.session id)) id
            (wsd.modifySession id (·.removeOutdatedTilesOnFly world.now)) [] []
            ((wsd.modifySession id (·.removeOutdatedTilesOnFly world.now)).session
              id).requestedTiles).wsd.modifySession id (fun session =>
                {
                  session with
                  requestedTiles :=
                    (sendLoop world (tilesOnFlyUpperLimit upperLimit (wsd.session id)) id
                      (wsd.modifySession id (·.removeOutdatedTilesOnFly world.now)) [] []
                      ((wsd.modifySession id (·.removeOutdatedTilesOnFly world.now)).session
                        id).requestedTiles).requestedTiles
                })) :=
    looped.trans
      (subscribesMore_of_same looped.uniqueNames ⟨rfl, rfl⟩ (fun _ _ _ waits => waits))
  exact listed.trans (subscribesMore_sendCombined listed.uniqueNames _)

/-- `handleTileCombinedRequest` up to the call of `sendRequestedTiles`. -/
theorem subscribesMore_accumulateTiles {world : World} {wsd : Wsd S} (unique : wsd.UniqueNames)
    {tiles : List TileDesc} (id : S)
    (inOrder : EachStep (registerStep world) (RegisterStepInOrder world) wsd tiles)
    : SubscribesMore wsd (accumulateTiles world wsd tiles id) := by
  have registered := EachStep.keeps
    (fun state tile (more : SubscribesMore wsd state) inOrder =>
      more.trans (subscribesMore_registerStep more.uniqueNames inOrder))
    (.refl unique) inOrder
  rw [← registerTiles_foldl] at registered
  have sent := registered.trans
    (subscribesMore_sendCombined registered.uniqueNames (wsd.registerTiles world tiles).2.1)
  exact sent.trans (subscribesMore_of_same sent.uniqueNames ⟨rfl, rfl⟩ (fun _ _ _ waits => waits))

/-- A call of `handleTileRequest` that subscribes in order. -/
def TileRequestInOrder (world : World) (wsd : Wsd S) (tile : TileDesc) (id : S) : Prop :=
  let (tile, wsd) := wsd.nextVersion tile
  world.cached (cacheFileName tile) = true
  ∨ EachStep
      (fun wsd id => wsd.subscribeToTileRendering world.now tile id)
      (fun wsd id => wsd.SubscribesInOrder world.now tile id)
      wsd (if tile.broadcast then wsd.sessions else [id])

instance decidableTileRequestInOrder (world : World) (wsd : Wsd S) (tile : TileDesc) (id : S)
    : Decidable (TileRequestInOrder world wsd tile id) :=
  inferInstanceAs (Decidable (_ ∨ EachStep _ (fun wsd id => SubscribesInOrder wsd _ _ id) _ _))

/-- All subscribers are sessions of the document, and stay so while they subscribe. -/
theorem subscribesMore_subscribeAll {wsd : Wsd S} (unique : wsd.UniqueNames) {now : Int}
    {tile : TileDesc} {ids : List S} (present : ∀ id ∈ ids, id ∈ wsd.sessions)
    (inOrder
      : EachStep (fun wsd id => wsd.subscribeToTileRendering now tile id)
          (fun wsd id => wsd.SubscribesInOrder now tile id) wsd ids)
    : SubscribesMore wsd
        (ids.foldl (fun wsd id => wsd.subscribeToTileRendering now tile id) wsd) := by
  induction ids generalizing wsd with
  | nil => exact .refl unique
  | cons id ids ih =>
      have first := subscribesMore_subscribe unique (present id List.mem_cons_self) inOrder.1
      refine first.trans (ih first.uniqueNames ?_ inOrder.2)
      rw [first.sessions]
      exact fun other member => present other (List.mem_cons_of_mem id member)

/-- A direct request is answered from the cache or subscribed to. -/
theorem subscribesMore_handleTileRequest {world : World} {wsd : Wsd S}
    (unique : wsd.UniqueNames) {tile : TileDesc} {id : S} (present : id ∈ wsd.sessions)
    (inOrder : TileRequestInOrder world wsd tile id)
    : SubscribesMore wsd (wsd.handleTileRequest world tile id) := by
  have counted : SubscribesMore wsd (wsd.nextVersion tile).2 :=
    subscribesMore_of_same unique ⟨rfl, rfl⟩ (fun _ _ _ waits => waits)
  unfold handleTileRequest
  dsimp only
  split
  · exact counted.trans (subscribesMore_enqueueSendMessage counted.uniqueNames ..)
  · next fresh =>
      have all
          : ∀ other ∈ (if tile.broadcast then wsd.sessions else [id]), other ∈ wsd.sessions := by
        intro other member
        split at member
        · exact member
        · rw [List.mem_singleton.mp member]
          exact present
      have subscribed := counted.trans
        (subscribesMore_subscribeAll counted.uniqueNames all (inOrder.resolve_left fresh))
      exact subscribed.trans
        (subscribesMore_of_same subscribed.uniqueNames ⟨rfl, rfl⟩ (fun _ _ _ waits => waits))

end Wsd

-----------------------------------------------------------------------------------------
-- Runs
-----------------------------------------------------------------------------------------

variable {S : Type} [LinearOrder S]
variable {upperLimit : Int32 → Nat} {viewIdOf : Text → Except Exception Text}

/-- The direct request that an event makes. -/
def tileRequestOf (wsd : Wsd S) : Event S → Option (World × S × TileDesc)
  | .tile id tile world =>
      let viewId := (wsd.session id).canonicalViewId.1
      some (world, id, tile.setNormalizedViewId viewId (wsd.viewId_nonneg id))
  | _ => none

/-- The subscriptions and registrations that an event makes are in order: each finds no entry for
its tile, or one whose version goes with it.
-/
def RequestsInOrder (upperLimit : Int32 → Nat) (system : System S) (event : Event S) : Prop :=
  (∀ request ∈ tileRequestOf system.wsd event,
      TileRequestInOrder request.1 system.wsd request.2.2 request.2.1)
  ∧ (∀ request ∈ requestOf system.wsd event,
      EachStep (registerStep request.1) (RegisterStepInOrder request.1) system.wsd request.2.2)
  ∧ ∀ call ∈ sendingCall system.wsd event, SendsInOrder upperLimit call.1 call.2.1 call.2.2

instance decidableRequestsInOrder (upperLimit : Int32 → Nat) (system : System S)
    (event : Event S)
    : Decidable (RequestsInOrder upperLimit system event) :=
  inferInstanceAs (Decidable
    ((∀ request ∈ tileRequestOf system.wsd event,
        TileRequestInOrder request.1 system.wsd request.2.2 request.2.1)
      ∧ (∀ request ∈ requestOf system.wsd event,
        EachStep (registerStep request.1) (RegisterStepInOrder request.1) system.wsd request.2.2)
      ∧ ∀ call ∈ sendingCall system.wsd event, SendsInOrder upperLimit call.1 call.2.1 call.2.2))

/-- A combined request: its tiles are registered, then the session's tiles are sent. -/
theorem subscribesMore_combined {system next : System S} {event : Event S}
    (unique : system.wsd.UniqueNames) {world : World} {id : S} {tiles : List TileDesc}
    (present : id ∈ system.wsd.sessions)
    (request : requestOf system.wsd event = some (world, id, tiles))
    (call : sendingCall system.wsd event
      = some (world, accumulateTiles world system.wsd tiles id, id))
    (inOrder : RequestsInOrder upperLimit system event)
    (step : system.step upperLimit viewIdOf event = some next)
    : SubscribesMore system.wsd next.wsd := by
  obtain ⟨-, registers, sends⟩ := inOrder
  have accumulated := subscribesMore_accumulateTiles unique id (registers _ request)
  have sends := sends (world, accumulateTiles world system.wsd tiles id, id) call
  have present : id ∈ (accumulateTiles world system.wsd tiles id).sessions := by
    rw [accumulated.sessions]
    exact present
  rw [sendingCall_eq step call]
  exact accumulated.trans
    (subscribesMore_sendRequestedTiles accumulated.uniqueNames present sends)

/-- The requests of a step, by the kind of its event. -/
theorem subscribesMore_step {system next : System S} {event : Event S}
    (unique : system.wsd.UniqueNames) (asks : event.asks = true)
    (inOrder : RequestsInOrder upperLimit system event)
    (step : system.step upperLimit viewIdOf event = some next)
    : SubscribesMore system.wsd next.wsd := by
  have stepped := step
  cases event with
  | tile id tile world =>
      rw [System.step] at stepped
      obtain ⟨present, rfl⟩ := ofSession_eq stepped
      obtain ⟨requests, -, -⟩ := inOrder
      exact subscribesMore_handleTileRequest unique present (requests _ rfl)
  | tilecombine id combined world =>
      rw [System.step] at stepped
      obtain ⟨present, -⟩ := ofSession_eq stepped
      exact subscribesMore_combined unique present rfl rfl inOrder step
  | tileprocessed id tileID world =>
      rw [System.step] at stepped
      obtain ⟨present, rfl⟩ := ofSession_eq stepped
      have processed
          : SubscribesMore system.wsd
              (system.wsd.modifySession id (·.tileProcessed tileID)) :=
        subscribesMore_of_same unique ⟨rfl, rfl⟩ (fun _ _ _ waits => waits)
      obtain ⟨-, -, sends⟩ := inOrder
      have sends := sends (world, system.wsd.modifySession id (·.tileProcessed tileID), id) rfl
      exact processed.trans
        (subscribesMore_sendRequestedTiles processed.uniqueNames present sends)
  | invalidatetiles id part invalidateRect world =>
      rw [System.step] at stepped
      obtain ⟨present, same⟩ := ofSession_eq stepped
      by_cases none' : invalidationTiles (system.wsd.session id) part invalidateRect = []
      · rw [same]
        dsimp only
        rw [handleTileInvalidation_eq, if_pos none']
        exact .refl unique
      · have request
            : requestOf system.wsd (.invalidatetiles id part invalidateRect world)
              = some (world, id, invalidationTiles (system.wsd.session id) part invalidateRect) :=
          if_neg none'
        refine subscribesMore_combined unique present request ?_ inOrder step
        rw [sendingCall, request]
        · rfl
        · rintro _ _ _ ⟨⟩
  | _ => cases asks

/-- Entries are new enough, and only sessions that were there have subscribed. -/
structure SubscriptionsKept (system : System S) : Prop where
  wellFormed : WellFormed system
  newEnough : system.wsd.EntriesNewEnough
  used : ∀ id name version, Waiting name id version system.wsd.log → id ∈ system.used

omit [LinearOrder S] in
/-- At first, nobody waits. -/
theorem subscriptionsKept_start : SubscriptionsKept (System.start : System S) :=
  ⟨wellFormed_start, fun _ member => absurd member List.not_mem_nil, fun _ _ _ => False.elim⟩

/-- Behind a cancellation, only the other sessions wait. -/
theorem waiting_cancelTileRequests {wsd : Wsd S} {id other : S} {name : Text} {version : Int32}
    : Waiting name other version (wsd.cancelTileRequests id).log
      ↔ id ≠ other ∧ Waiting name other version wsd.log := by
  rw [(cancelTileRequests_spec wsd id).log, Waiting]

/-- Answers serve those who wait, and let no one else wait. -/
theorem waiting_handleTileResponse {now : Int} {wsd : Wsd S} {tiles : List TileDesc}
    {name : Text} {id : S} {version : Int32}
    (waits : Waiting name id version (wsd.handleTileResponse now tiles).log)
    : Waiting name id version wsd.log := by
  have keeps (state : Wsd S) (tile : TileDesc)
      (before : Waiting name id version state.log → Waiting name id version wsd.log)
      (after : Waiting name id version (state.saveTileAndNotify now tile).log)
      : Waiting name id version wsd.log := by
    apply before
    rcases Wsd.saveTileAndNotify_cases now state tile with
      ⟨same, -⟩ | ⟨entry, -, -, ⟨-, spec⟩ | ⟨-, same⟩⟩
    · rwa [same] at after
    · rw [spec.log] at after
      exact (Wsd.waiting_foldl_answer.mp after).1
    · rw [same] at after
      exact (Wsd.waiting_foldl_answer.mp after).1
  exact foldl_keeps keeps tiles (fun waits => waits) waits

/-- By the kind of the step: requests in order lose nobody, a cancellation ends only what its own
session waits for, and an answer ends a subscription only when it serves it.
-/
theorem subscriptionsKept_step {system next : System S} {event : Event S}
    (kept : SubscriptionsKept system) (inOrder : RequestsInOrder upperLimit system event)
    (step : system.step upperLimit viewIdOf event = some next)
    : SubscriptionsKept next := by
  have kind : StepKind (fun _ => True) system event next :=
    stepKind trivial (fun _ _ => trivial) step
  have wellFormed := kind.wellFormed kept.wellFormed
  cases kind with
  | quiet used same =>
      refine ⟨wellFormed, ?_, ?_⟩
      · intro id present name version waits
        rw [same.log] at waits
        rw [Wsd.Expects, same.tilesBeingRendered]
        exact kept.newEnough id (same.sessions.subset present) name version waits
      · intro id name version waits
        rw [same.log] at waits
        exact used ▸ kept.used id name version waits
  | added id unused used sessions session same log =>
      refine ⟨wellFormed, ?_, ?_⟩
      · intro other present name version waits
        rw [log] at waits
        rw [Wsd.Expects, same]
        rw [sessions] at present
        rcases List.mem_cons.mp ((List.perm_orderedInsert _ _ _).mem_iff.mp present) with
          new | old
        · exact absurd (new ▸ kept.used other name version waits) unused
        · exact kept.newEnough other old name version waits
      · intro other name version waits
        rw [log] at waits
        rw [used]
        exact List.mem_cons_of_mem id (kept.used other name version waits)
  | requests used steps asks =>
      have more := subscribesMore_step kept.wellFormed.uniqueNames asks inOrder step
      refine ⟨wellFormed, ?_, ?_⟩
      · intro id present name version waits
        rw [more.sessions] at present
        rcases more.waiting name id version waits with waits | ⟨-, expects⟩
        · exact more.expects name id version (kept.newEnough id present name version waits)
        · exact expects
      · intro id name version waits
        rw [used]
        rcases more.waiting name id version waits with waits | ⟨present, -⟩
        · exact kept.used id name version waits
        · exact kept.wellFormed.sessions id present
  | canceled id used present cancels =>
      have spec := cancelTileRequests_spec system.wsd id
      refine ⟨wellFormed, ?_, ?_⟩
      · intro other inside name version waits
        rw [cancels] at inside waits ⊢
        obtain ⟨differs, waits⟩ := waiting_cancelTileRequests.mp waits
        rw [spec.sessions] at inside
        exact (kept.newEnough other inside name version waits).cancelTileRequests differs.symm
      · intro other name version waits
        rw [cancels] at waits
        exact used ▸ kept.used other name version (waiting_cancelTileRequests.mp waits).2
  | answered now response later used waits saves =>
      refine ⟨wellFormed, ?_, ?_⟩
      · rw [saves]
        exact kept.newEnough.handleTileResponse kept.wellFormed.uniqueNames now response.tiles
      · intro id name version waiting
        rw [saves] at waiting
        exact used ▸ kept.used id name version (waiting_handleTileResponse waiting)

/-- In every state of a run whose subscriptions and registrations are in order. -/
theorem subscriptionsKept_reached {events : List (Event S)}
    (inOrder
      : AllSteps (System.step upperLimit viewIdOf) (RequestsInOrder upperLimit) System.start
          events)
    : AllStates (System.step upperLimit viewIdOf) SubscriptionsKept System.start events :=
  allStates_of_meets (fun _ _ _ kept inOrder step => subscriptionsKept_step kept inOrder step)
    subscriptionsKept_start inOrder

/-- In every state of a run in which each subscription and each registration finds no entry for
its tile or one whose version is in order, the sessions that wait for a tile are subscribed to it:
an older rendering ends no newer subscription.
-/
theorem subscriptions_kept {events : List (Event S)}
    (inOrder
      : AllSteps (System.step upperLimit viewIdOf) (RequestsInOrder upperLimit) System.start
          events)
    : AllStates (System.step upperLimit viewIdOf) (fun system => system.wsd.SubscriptionLaw)
        System.start events :=
  fun done rest reached split ran =>
    (subscriptionsKept_reached inOrder done rest reached split ran).newEnough.law

/-- Some views ask for the tile at the origin before the kit's answer for the first one comes. -/
def requestOrigin (views : List Nat) : List (Event Nat) :=
  views.map (Event.addSession · ⟨1, secondView_nonneg⟩)
    ++ views.map (Event.tile · originTile emptyCache)
    ++ [Event.received, Event.taken, Event.rendered paintSame, Event.answered 0]

/-- A view asks for the tile at the origin twice, and more than five seconds later another one
does. The kit has rendered the tile for the first request only.
-/
def requestStalled : List (Event Nat) :=
  [
    .addSession 0 ⟨1, secondView_nonneg⟩, .addSession 1 ⟨1, secondView_nonneg⟩,
    .tile 0 originTile emptyCache, .tile 0 originTile emptyCache,
    .tile 1 originTile ⟨6000, fun _ => false⟩,
    .received, .taken, .rendered paintSame, .answered 6000
  ]

/-- The entry takes the versions of the second and the third request, so both views are still
subscribed after the answer for the first one.
-/
theorem subscriptions_kept_stalled
    : ∃ final,
        stepRun plainStep System.start requestStalled = some final
        ∧ final.wsd.sessions = [0, 1]
        ∧ Waiting (cacheFileName { originTile with normalizedViewId := 1, valid := by decide }) 0 2
            final.wsd.log
        ∧ Waiting (cacheFileName { originTile with normalizedViewId := 1, valid := by decide }) 1 3
            final.wsd.log
        ∧ final.wsd.SubscriptionLaw := by
  have runs
      : ((stepRun plainStep System.start requestStalled).any (fun final =>
          final.wsd.sessions = [0, 1]
          ∧ Waiting (cacheFileName { originTile with normalizedViewId := 1, valid := by decide })
              0 2 final.wsd.log
          ∧ Waiting (cacheFileName { originTile with normalizedViewId := 1, valid := by decide })
              1 3 final.wsd.log)) := by
    decide +kernel
  obtain ⟨final, ran, found⟩ := (Option.any_eq_true _ _).mp runs
  obtain ⟨sessions, first, second⟩ := of_decide_eq_true found
  have inOrder
      : AllSteps plainStep (RequestsInOrder (fun _ => 10)) System.start requestStalled :=
    .of_test (fun _ _ passed => of_decide_eq_true passed) (by decide +kernel)
  exact ⟨final, ran, sessions, first, second,
    subscriptions_kept inOrder _ [] final (List.append_nil _).symm ran⟩

/-- The second view's request has version 2. It does not raise the version of the entry, so the
answer for version 1 ends its subscription.
-/
theorem older_answer_ends_subscription
    : ∃ final,
        stepRun plainStep System.start (requestOrigin [0, 1]) = some final
        ∧ 1 ∈ final.wsd.sessions
        ∧ Waiting (cacheFileName { originTile with normalizedViewId := 1, valid := by decide }) 1 2
            final.wsd.log
        ∧ final.wsd.tilesBeingRendered.length = 0
        ∧ ¬ final.wsd.SubscriptionLaw := by
  have runs
      : ((stepRun plainStep System.start (requestOrigin [0, 1])).any (fun final =>
          1 ∈ final.wsd.sessions
          ∧ Waiting (cacheFileName { originTile with normalizedViewId := 1, valid := by decide })
              1 2 final.wsd.log
          ∧ final.wsd.tilesBeingRendered.length = 0)) := by
    decide +kernel
  obtain ⟨final, ran, found⟩ := (Option.any_eq_true _ _).mp runs
  obtain ⟨present, waits, none'⟩ := of_decide_eq_true found
  refine ⟨final, ran, present, waits, none', ?_⟩
  intro law
  obtain ⟨entry, member, -⟩ := law 1 present _ 2 waits
  rw [List.length_eq_zero_iff.mp none'] at member
  exact List.not_mem_nil member

end NdcOdfWeb.Rendering
