import Mathlib.Data.List.Nodup
import Mathlib.Logic.Relation
import NdcOdfWeb.Rendering.System

/-! What the operations of the tile cache do to its entries, and the steps that a handler of
requests consists of.
-/

namespace NdcOdfWeb.Rendering

open NdcOdfWeb.Foundation
open NdcOdfWeb.Protocol
open NdcOdfWeb.Tiles

namespace Wsd

variable {S : Type}

/-- There is at most one entry for a name. -/
def UniqueNames (wsd : Wsd S) : Prop :=
  (wsd.tilesBeingRendered.map (·.cachedName)).Nodup

/-- The session is among the subscribers of the entry with this name. -/
def Subscribed (wsd : Wsd S) (cacheName : Text) (id : S) : Prop :=
  ∃ entry ∈ wsd.tilesBeingRendered, entry.cachedName = cacheName ∧ id ∈ entry.subscribers

/-- The entry of the tile is forgotten when the tile is received. -/
def Forgets (wsd : Wsd S) (tile : TileDesc) : Prop :=
  ∃ entry ∈ wsd.tilesBeingRendered,
    entry.cachedName = cacheFileName tile ∧ entry.tile.ver ≤ tile.ver

/-- Entries of one name are the same, since the names of the entries differ. -/
theorem UniqueNames.eq {wsd : Wsd S} (unique : wsd.UniqueNames) {entry other : TileBeingRendered S}
    (member : entry ∈ wsd.tilesBeingRendered) (inside : other ∈ wsd.tilesBeingRendered)
    (same : entry.cachedName = other.cachedName)
    : entry = other :=
  List.inj_on_of_nodup_map unique member inside same

/-- An entry that is found is in the cache and has the name of the tile. -/
theorem find_mem {wsd : Wsd S} {tile : TileDesc} {entry : TileBeingRendered S}
    (found : wsd.findTileBeingRendered tile = some entry)
    : entry ∈ wsd.tilesBeingRendered ∧ entry.cachedName = cacheFileName tile :=
  ⟨List.mem_of_find?_eq_some found, by simpa using List.find?_some found⟩

/-- If none is found, no entry has the name of the tile. -/
theorem find_none {wsd : Wsd S} {tile : TileDesc}
    (absent : wsd.findTileBeingRendered tile = none)
    : ∀ entry ∈ wsd.tilesBeingRendered, entry.cachedName ≠ cacheFileName tile := by
  intro entry member
  simpa using List.find?_eq_none.mp absent entry member

-----------------------------------------------------------------------------------------
-- Entries that change
-----------------------------------------------------------------------------------------

section Modify

variable {wsd : Wsd S} {cacheName : Text}
variable {change : TileBeingRendered S → TileBeingRendered S}

/-- The entries behind a change are the old ones, with the named one changed. -/
theorem mem_modifyEntry {entry : TileBeingRendered S}
    : entry ∈ (wsd.modifyEntry cacheName change).tilesBeingRendered
      ↔ ∃ before ∈ wsd.tilesBeingRendered,
          (if before.cachedName = cacheName then change before else before) = entry :=
  List.mem_map

/-- Names stay unique as long as the change keeps them. -/
theorem UniqueNames.modifyEntry (unique : wsd.UniqueNames)
    (keeps : ∀ entry, (change entry).cachedName = entry.cachedName)
    : (wsd.modifyEntry cacheName change).UniqueNames := by
  have same
      : (wsd.modifyEntry cacheName change).tilesBeingRendered.map (·.cachedName)
        = wsd.tilesBeingRendered.map (·.cachedName) := by
    rw [Wsd.modifyEntry, List.map_map]
    apply List.map_congr_left
    intro entry _
    rw [Function.comp_apply]
    split
    · exact keeps entry
    · rfl
  rw [UniqueNames, same]
  exact unique

/-- An entry that changes has the sessions `more` as further subscribers. -/
theorem subscribed_modifyEntry {more : List S}
    (keeps : ∀ entry, (change entry).cachedName = entry.cachedName)
    (grows : ∀ entry, (change entry).subscribers = entry.subscribers ++ more) {name : Text}
    {id : S}
    : (wsd.modifyEntry cacheName change).Subscribed name id
      ↔ wsd.Subscribed name id
        ∨ (name = cacheName ∧ id ∈ more
          ∧ ∃ entry ∈ wsd.tilesBeingRendered, entry.cachedName = cacheName) := by
  constructor
  · rintro ⟨entry, member, named, inside⟩
    obtain ⟨before, inList, rfl⟩ := mem_modifyEntry.mp member
    by_cases same : before.cachedName = cacheName
    · rw [if_pos same] at named inside
      rw [keeps] at named
      rw [grows] at inside
      rcases List.mem_append.mp inside with old | new
      · exact .inl ⟨before, inList, named, old⟩
      · exact .inr ⟨named.symm.trans same, new, before, inList, same⟩
    · rw [if_neg same] at named inside
      exact .inl ⟨before, inList, named, inside⟩
  · rintro (⟨entry, member, named, inside⟩ | ⟨rfl, new, entry, member, named⟩)
    · refine ⟨_, mem_modifyEntry.mpr ⟨entry, member, rfl⟩, ?_⟩
      split
      · exact ⟨(keeps entry).trans named, by
          rw [grows]
          exact List.mem_append_left _ inside⟩
      · exact ⟨named, inside⟩
    · refine ⟨_, mem_modifyEntry.mpr ⟨entry, member, rfl⟩, ?_⟩
      rw [if_pos named]
      exact ⟨(keeps entry).trans named, by
        rw [grows]
        exact List.mem_append_right _ new⟩

/-- A new version leaves the subscribers as they are. -/
theorem subscribed_setVersion {version : Int32} {name : Text} {id : S}
    : (wsd.modifyEntry cacheName (·.setVersion version)).Subscribed name id
      ↔ wsd.Subscribed name id := by
  have modified := @subscribed_modifyEntry S wsd cacheName (·.setVersion version) []
    (fun _ => rfl) (fun entry => (List.append_nil _).symm) name id
  rw [modified]
  exact or_iff_left (fun ⟨_, inside, _⟩ => absurd inside List.not_mem_nil)

/-- One more subscriber of an entry that is there. -/
theorem subscribed_addSubscriber {more id : S} {name : Text}
    (there : ∃ entry ∈ wsd.tilesBeingRendered, entry.cachedName = cacheName)
    : (wsd.modifyEntry cacheName (·.addSubscriber more)).Subscribed name id
      ↔ wsd.Subscribed name id ∨ (name = cacheName ∧ id = more) := by
  have modified := @subscribed_modifyEntry S wsd cacheName (·.addSubscriber more) [more]
    (fun _ => rfl) (fun _ => rfl) name id
  rw [modified, List.mem_singleton, and_iff_left there]

end Modify

/-- A new entry is put somewhere among the others. -/
theorem insertEntry_perm (wsd : Wsd S) (now : Int) (tile : TileDesc) (subscribers : List S)
    : (wsd.insertEntry now tile subscribers).tilesBeingRendered.Perm
        (⟨subscribers, now, tile, cacheFileName tile⟩ :: wsd.tilesBeingRendered) :=
  List.perm_orderedInsert _ _ _

/-- Names stay unique if the new entry has one of its own. -/
theorem UniqueNames.insertEntry {wsd : Wsd S} (unique : wsd.UniqueNames) (now : Int)
    {tile : TileDesc} (subscribers : List S)
    (absent : ∀ entry ∈ wsd.tilesBeingRendered, entry.cachedName ≠ cacheFileName tile)
    : (wsd.insertEntry now tile subscribers).UniqueNames := by
  apply ((wsd.insertEntry_perm now tile subscribers).map (·.cachedName)).nodup_iff.mpr
  refine List.nodup_cons.mpr ⟨?_, unique⟩
  intro member
  obtain ⟨entry, inside, same⟩ := List.mem_map.mp member
  exact absent entry inside same

/-- A new entry brings its subscribers. -/
theorem subscribed_insertEntry {wsd : Wsd S} {now : Int} {tile : TileDesc}
    {subscribers : List S} {name : Text} {id : S}
    : (wsd.insertEntry now tile subscribers).Subscribed name id
      ↔ wsd.Subscribed name id ∨ (name = cacheFileName tile ∧ id ∈ subscribers) := by
  have members (entry : TileBeingRendered S) :=
    (wsd.insertEntry_perm now tile subscribers).mem_iff (a := entry)
  constructor
  · rintro ⟨entry, member, named, inside⟩
    rcases List.mem_cons.mp ((members entry).mp member) with rfl | old
    · exact .inr ⟨named.symm, inside⟩
    · exact .inl ⟨entry, old, named, inside⟩
  · rintro (⟨entry, member, named, inside⟩ | ⟨same, inside⟩)
    · exact ⟨entry, (members entry).mpr (List.mem_cons_of_mem _ member), named, inside⟩
    · exact ⟨_, (members _).mpr List.mem_cons_self, same.symm, inside⟩

-----------------------------------------------------------------------------------------
-- Operations that leave the entries alone
-----------------------------------------------------------------------------------------

/-- A call that leaves the sessions of the document and the entries alone. -/
structure SameEntries (before after : Wsd S) : Prop where
  sessions : after.sessions = before.sessions
  tilesBeingRendered : after.tilesBeingRendered = before.tilesBeingRendered

/-- Two steps that keep the entries, by composing the equations. -/
theorem SameEntries.trans {before middle after : Wsd S} (first : SameEntries before middle)
    (second : SameEntries middle after)
    : SameEntries before after :=
  ⟨second.sessions.trans first.sessions,
    second.tilesBeingRendered.trans first.tilesBeingRendered⟩

/-- Without a change of the entries, subscriptions stay. -/
theorem SameEntries.subscribed {before after : Wsd S} (same : SameEntries before after)
    {name : Text} {id : S}
    : after.Subscribed name id ↔ before.Subscribed name id := by
  rw [Subscribed, same.tilesBeingRendered, Subscribed]

/-- Without a change of the entries, their names stay unique. -/
theorem SameEntries.uniqueNames {before after : Wsd S} (same : SameEntries before after)
    : after.UniqueNames ↔ before.UniqueNames := by
  rw [UniqueNames, same.tilesBeingRendered, UniqueNames]

variable [DecidableEq S]

section Fields

variable (wsd : Wsd S) (id : S) (change : TileSession → TileSession) (notice : Notice S)

/-- A change of a session's state adds and removes no session. -/
@[simp]
theorem modifySession_sessions : (wsd.modifySession id change).sessions = wsd.sessions :=
  rfl

/-- A change of a session's state leaves the entries alone. -/
@[simp]
theorem modifySession_tilesBeingRendered
    : (wsd.modifySession id change).tilesBeingRendered = wsd.tilesBeingRendered :=
  rfl

/-- A change of a session's state is not logged. -/
@[simp]
theorem modifySession_log : (wsd.modifySession id change).log = wsd.log :=
  rfl

omit [DecidableEq S] in
/-- A notice comes in front of the log. -/
@[simp]
theorem note_log : (wsd.note notice).log = notice :: wsd.log :=
  rfl

omit [DecidableEq S] in
/-- A notice changes no session. -/
@[simp]
theorem note_session : (wsd.note notice).session = wsd.session :=
  rfl

/-- Only the session itself is changed. -/
theorem modifySession_session (other : S)
    : (wsd.modifySession id change).session other
      = if other = id then change (wsd.session id) else wsd.session other :=
  Function.update_apply ..

/-- The trace is a change of the session; for a preview, it is none. -/
theorem traceSubscription_eq (tile : TileDesc)
    : wsd.traceSubscription tile id
      = wsd.modifySession id (fun session =>
          if tile.id = -1 then session.traceSubscribeToTile (cacheFileName tile) else session) := by
  unfold traceSubscription
  split
  · rfl
  · simp [modifySession]

/-- A message to a client: it is written down, and changes the session's record. -/
theorem enqueueSendMessage_eq (now : Int) (tile : TileDesc)
    : wsd.enqueueSendMessage now id tile
      = (wsd.modifySession id (fun session =>
          if session.isShown tile then session else session.enqueueTile now tile)).note
          (if (wsd.session id).isShown tile then .filtered id tile else .enqueued id tile) := by
  unfold enqueueSendMessage
  split
  · next shown => simp [modifySession, shown]
  · next new => simp [modifySession, new]

end Fields

/-- Sending a tile leaves the entries as they are. -/
theorem enqueueSendMessage_same (now : Int) (wsd : Wsd S) (id : S) (tile : TileDesc)
    : SameEntries wsd (wsd.enqueueSendMessage now id tile) := by
  rw [enqueueSendMessage_eq]
  exact ⟨rfl, rfl⟩

/-- Answering a subscriber leaves the entries as they are. -/
theorem answer_same (now : Int) (tile : TileDesc) (wsd : Wsd S) (id : S)
    : SameEntries wsd (answer now tile wsd id) := by
  unfold answer
  split
  · have noted
        : SameEntries wsd (wsd.note (.answered (cacheFileName tile) id tile.ver)) :=
      ⟨rfl, rfl⟩
    exact noted.trans (enqueueSendMessage_same ..)
  · exact ⟨rfl, rfl⟩

/-- So does answering all of them, by induction on the subscribers. -/
theorem foldl_answer_same (now : Int) (tile : TileDesc) (wsd : Wsd S) (ids : List S)
    : SameEntries wsd (ids.foldl (answer now tile) wsd) := by
  induction ids generalizing wsd with
  | nil => exact ⟨rfl, rfl⟩
  | cons id ids ih => exact (answer_same now tile wsd id).trans (ih _)

/-- Answering a subscriber leaves the traced tiles of all sessions as they are. -/
theorem answer_traced (now : Int) (tile : TileDesc) (wsd : Wsd S) (id other : S)
    : ((answer now tile wsd id).session other).tilesBeingRendered
      = (wsd.session other).tilesBeingRendered := by
  unfold answer
  split
  · rw [enqueueSendMessage_eq, note_session, modifySession_session]
    split
    · next same =>
        subst same
        split <;> rfl
    · rfl
  · rfl

/-- So does answering all of them, by induction on the subscribers. -/
theorem foldl_answer_traced (now : Int) (tile : TileDesc) (wsd : Wsd S) (ids : List S) (other : S)
    : ((ids.foldl (answer now tile) wsd).session other).tilesBeingRendered
      = (wsd.session other).tilesBeingRendered := by
  induction ids generalizing wsd with
  | nil => rfl
  | cons id ids ih => exact (ih _).trans (answer_traced now tile wsd id other)

-----------------------------------------------------------------------------------------
-- The operations of the cache
-----------------------------------------------------------------------------------------

/-- The trace leaves the entries as they are. -/
theorem traceSubscription_same (wsd : Wsd S) (tile : TileDesc) (id : S)
    : SameEntries wsd (wsd.traceSubscription tile id) := by
  rw [traceSubscription_eq]
  exact ⟨rfl, rfl⟩

/-- What a subscription does: the session is a subscriber, and may be tracing the tile. -/
structure SubscribeSpec (before after : Wsd S) (tile : TileDesc) (id : S) : Prop where
  sessions : after.sessions = before.sessions
  log : after.log = .subscribed (cacheFileName tile) id tile.ver :: before.log
  uniqueNames : before.UniqueNames → after.UniqueNames
  subscribed
    : ∀ name other,
        after.Subscribed name other
        ↔ before.Subscribed name other ∨ (name = cacheFileName tile ∧ other = id)
  session
    : ∀ other,
        after.session other = before.session other
        ∨ (other = id
          ∧ after.session other = (before.session other).traceSubscribeToTile (cacheFileName tile))

omit [DecidableEq S] in
/-- What a session traces behind a subscription, it has traced before, or it has subscribed. -/
theorem SubscribeSpec.traced {before after : Wsd S} {tile : TileDesc} {id other : S}
    {name : Text} (spec : SubscribeSpec before after tile id)
    (member : name ∈ (after.session other).tilesBeingRendered)
    : name ∈ (before.session other).tilesBeingRendered
      ∨ (name = cacheFileName tile ∧ other = id) := by
  rcases spec.session other with same | ⟨itself, traces⟩
  · rw [same] at member
    exact .inl member
  · rw [traces] at member
    rcases Finset.mem_insert.mp member with new | old
    · exact .inr ⟨new, itself⟩
    · exact .inl old

/-- The trace reaches the subscribing session only. -/
theorem traceSubscription_session (wsd : Wsd S) (tile : TileDesc) (id other : S)
    : (wsd.traceSubscription tile id).session other = wsd.session other
      ∨ (other = id
        ∧ (wsd.traceSubscription tile id).session other
          = (wsd.session other).traceSubscribeToTile (cacheFileName tile)) := by
  rw [traceSubscription_eq, modifySession_session]
  split
  · next same =>
      subst same
      split
      · exact .inr ⟨rfl, rfl⟩
      · exact .inl rfl
  · exact .inl rfl

/-- The trace is not logged. -/
theorem traceSubscription_log (wsd : Wsd S) (tile : TileDesc) (id : S)
    : (wsd.traceSubscription tile id).log = wsd.log := by
  rw [traceSubscription_eq]
  rfl

/-- A further subscription to an entry that is there. -/
theorem addSubscriber_spec (wsd : Wsd S) (tile : TileDesc) (id : S)
    (there : ∃ entry ∈ wsd.tilesBeingRendered, entry.cachedName = cacheFileName tile)
    : SubscribeSpec wsd
        (((wsd.note (.subscribed (cacheFileName tile) id tile.ver)).modifyEntry
          (cacheFileName tile) (·.addSubscriber id)).traceSubscription tile id) tile id where
  sessions := (traceSubscription_same ..).sessions
  log := traceSubscription_log ..
  uniqueNames := by
    intro unique
    apply (traceSubscription_same ..).uniqueNames.mpr
    exact UniqueNames.modifyEntry unique (fun _ => rfl)
  subscribed := by
    intro name other
    rw [(traceSubscription_same ..).subscribed]
    exact subscribed_addSubscriber there
  session := by
    intro other
    have cases := traceSubscription_session
      ((wsd.note (.subscribed (cacheFileName tile) id tile.ver)).modifyEntry
        (cacheFileName tile) (·.addSubscriber id)) tile id other
    exact cases

/-- A subscription in each of its cases: with the session already subscribed, with an entry for the
tile, and without one.
-/
theorem subscribeToTileRendering_spec (wsd : Wsd S) (now : Int) (tile : TileDesc) (id : S)
    : SubscribeSpec wsd (wsd.subscribeToTileRendering now tile id) tile id := by
  unfold subscribeToTileRendering
  dsimp only
  split
  · next entry found =>
      obtain ⟨member, named⟩ := find_mem found
      split
      · next redundant =>
          refine ⟨rfl, rfl, fun unique => unique.modifyEntry (fun _ => rfl), ?_, ?_⟩
          · intro name other
            rw [subscribed_setVersion]
            refine ⟨.inl, ?_⟩
            rintro (old | ⟨same, itself⟩)
            · exact old
            · rw [same, itself]
              exact ⟨entry, member, named, redundant⟩
          · exact fun other => .inl rfl
      · -- the entry gets a subscriber, and perhaps the version
        have pushed := addSubscriber_spec wsd tile id ⟨entry, member, named⟩
        split
        · exact ⟨pushed.sessions, pushed.log,
            fun unique => (pushed.uniqueNames unique).modifyEntry (fun _ => rfl),
            fun name other => subscribed_setVersion.trans (pushed.subscribed name other),
            pushed.session⟩
        · exact pushed
  · next absent =>
      refine ⟨(traceSubscription_same ..).sessions, traceSubscription_log .., ?_, ?_, ?_⟩
      · intro unique
        apply (traceSubscription_same ..).uniqueNames.mpr
        exact UniqueNames.insertEntry unique now [id] (find_none absent)
      · intro name other
        rw [(traceSubscription_same ..).subscribed, subscribed_insertEntry, List.mem_singleton]
        rfl
      · intro other
        have cases := traceSubscription_session
          ((wsd.note (.subscribed (cacheFileName tile) id tile.ver)).insertEntry now tile [id])
          tile id other
        exact cases

/-- A registration leaves the subscribers alone. -/
structure RegisterSpec (before after : Wsd S) : Prop where
  sessions : after.sessions = before.sessions
  session : after.session = before.session
  log : after.log = before.log
  uniqueNames : before.UniqueNames → after.UniqueNames
  subscribed : ∀ name id, after.Subscribed name id ↔ before.Subscribed name id

omit [DecidableEq S] in
/-- A registration in each of its cases: with an entry, which gets the version, and without one. -/
theorem registerTileBeingRendered_spec (wsd : Wsd S) (now : Int) (tile : TileDesc)
    : RegisterSpec wsd (wsd.registerTileBeingRendered now tile) := by
  unfold registerTileBeingRendered
  split
  · split
    · exact ⟨rfl, rfl, rfl, fun unique => unique.modifyEntry (fun _ => rfl),
        fun _ _ => subscribed_setVersion⟩
    · exact ⟨rfl, rfl, rfl, fun unique => unique, fun _ _ => .rfl⟩
  · next absent =>
      refine ⟨rfl, rfl, rfl, fun unique => unique.insertEntry now [] (find_none absent), ?_⟩
      intro name id
      rw [subscribed_insertEntry]
      exact or_iff_left (fun both => absurd both.2 List.not_mem_nil)

/-- To take a tile out of the trace twice is to take it out once. -/
theorem traceUnSubscribeToTile_idem (session : TileSession) (name : Text)
    : (session.traceUnSubscribeToTile name).traceUnSubscribeToTile name
      = session.traceUnSubscribeToTile name := by
  simp [TileSession.traceUnSubscribeToTile]

/-- Forgetting an entry: its subscribers do not trace it any more, if the tile is no thumbnail.
-/
structure ForgetSpec (before after : Wsd S) (entry : TileBeingRendered S) (tile : TileDesc)
    : Prop where
  sessions : after.sessions = before.sessions
  log : after.log = before.log
  tilesBeingRendered
    : after.tilesBeingRendered
      = before.tilesBeingRendered.filter (fun other => other.cachedName ≠ entry.cachedName)
  session
    : ∀ id,
        after.session id
        = if tile.id = -1 ∧ id ∈ before.sessions ∧ id ∈ entry.subscribers then
            (before.session id).traceUnSubscribeToTile entry.cachedName
          else before.session id

/-- Forgetting an entry: it is erased, and its subscribers, one after the other, trace it no more.
-/
theorem forgetTileBeingRendered_spec (wsd : Wsd S) (entry : TileBeingRendered S)
    (tile : TileDesc)
    : ForgetSpec wsd (wsd.forgetTileBeingRendered entry tile) entry tile := by
  have untraced (ids : List S) (wsd : Wsd S)
      : let after :=
          ids.foldl
            (fun wsd subscriber =>
              if subscriber ∈ wsd.sessions ∧ tile.id = -1 then
                wsd.modifySession subscriber (·.traceUnSubscribeToTile entry.cachedName)
              else wsd)
            wsd
        after.sessions = wsd.sessions ∧ after.log = wsd.log
        ∧ after.tilesBeingRendered = wsd.tilesBeingRendered
        ∧ ∀ id,
            after.session id
            = if tile.id = -1 ∧ id ∈ wsd.sessions ∧ id ∈ ids then
                (wsd.session id).traceUnSubscribeToTile entry.cachedName
              else wsd.session id := by
    induction ids generalizing wsd with
    | nil => simp
    | cons first ids ih =>
        rw [List.foldl_cons]
        by_cases traces : first ∈ wsd.sessions ∧ tile.id = -1
        · rw [if_pos traces]
          obtain ⟨sessions, log, entries, session⟩ :=
            ih (wsd.modifySession first (·.traceUnSubscribeToTile entry.cachedName))
          refine ⟨sessions, log, entries, fun id => (session id).trans ?_⟩
          rw [modifySession_session, modifySession_sessions]
          by_cases same : id = first
          · subst same
            simp [traces, traceUnSubscribeToTile_idem]
          · simp [same]
        · rw [if_neg traces]
          obtain ⟨sessions, log, entries, session⟩ := ih wsd
          refine ⟨sessions, log, entries, fun id => (session id).trans ?_⟩
          by_cases same : id = first
          · subst same
            have never : ¬ (tile.id = -1 ∧ id ∈ wsd.sessions) :=
              fun both => traces ⟨both.2, both.1⟩
            rw [if_neg (fun all => never ⟨all.1, all.2.1⟩),
              if_neg (fun all => never ⟨all.1, all.2.1⟩)]
          · simp [same]
  obtain ⟨sessions, log, entries, session⟩ := untraced entry.subscribers wsd
  exact ⟨sessions, log, by rw [forgetTileBeingRendered, entries], session⟩

/-- The subscriptions that are left are those to other entries. -/
theorem ForgetSpec.subscribed {before after : Wsd S} {entry : TileBeingRendered S}
    {tile : TileDesc} (spec : ForgetSpec before after entry tile) {name : Text} {id : S}
    : after.Subscribed name id ↔ before.Subscribed name id ∧ name ≠ entry.cachedName := by
  rw [Subscribed, spec.tilesBeingRendered]
  constructor
  · rintro ⟨other, member, rfl, inside⟩
    obtain ⟨old, differs⟩ := List.mem_filter.mp member
    exact ⟨⟨other, old, rfl, inside⟩, of_decide_eq_true differs⟩
  · rintro ⟨⟨other, old, rfl, inside⟩, differs⟩
    exact ⟨other, List.mem_filter.mpr ⟨old, decide_eq_true differs⟩, rfl, inside⟩

/-- An answer for a tile without entry is ignored; otherwise the subscribers get it, and the
entry is forgotten if the answer is new enough.
-/
theorem saveTileAndNotify_cases (now : Int) (wsd : Wsd S) (tile : TileDesc)
    : (saveTileAndNotify now wsd tile = wsd
        ∧ ∀ entry ∈ wsd.tilesBeingRendered, entry.cachedName ≠ cacheFileName tile)
      ∨ ∃ entry ∈ wsd.tilesBeingRendered,
          entry.cachedName = cacheFileName tile
          ∧ ((entry.tile.ver ≤ tile.ver
                ∧ ForgetSpec (entry.subscribers.foldl (answer now tile) wsd)
                    (saveTileAndNotify now wsd tile) entry tile)
              ∨ (¬ entry.tile.ver ≤ tile.ver
                ∧ saveTileAndNotify now wsd tile
                  = entry.subscribers.foldl (answer now tile) wsd)) := by
  unfold saveTileAndNotify
  split
  · next entry found =>
      obtain ⟨member, named⟩ := find_mem found
      refine .inr ⟨entry, member, named, ?_⟩
      dsimp only
      split
      · next forgets => exact .inl ⟨forgets, forgetTileBeingRendered_spec ..⟩
      · next stays => exact .inr ⟨stays, rfl⟩
  · next absent => exact .inl ⟨rfl, find_none absent⟩

/-- What an answer does to the entries and to what sessions trace. -/
structure SaveSpec (before after : Wsd S) (tile : TileDesc) : Prop where
  sessions : after.sessions = before.sessions
  uniqueNames : after.UniqueNames
  subscribed
    : ∀ name id,
        after.Subscribed name id
        ↔ before.Subscribed name id ∧ ¬ (before.Forgets tile ∧ name = cacheFileName tile)
  traced
    : ∀ name id,
        name ∈ (after.session id).tilesBeingRendered
        ↔ name ∈ (before.session id).tilesBeingRendered
          ∧ ¬ (before.Forgets tile ∧ name = cacheFileName tile ∧ tile.id = -1
            ∧ id ∈ before.sessions ∧ before.Subscribed name id)

/-- An answer in each of its cases: without an entry, with one that is forgotten, and with one that
stays.
-/
theorem saveTileAndNotify_spec {wsd : Wsd S} (unique : wsd.UniqueNames) (now : Int)
    (tile : TileDesc)
    : SaveSpec wsd (saveTileAndNotify now wsd tile) tile := by
  rcases saveTileAndNotify_cases now wsd tile with
    ⟨same, absent⟩ | ⟨entry, member, named, ⟨forgets, spec⟩ | ⟨stays, same⟩⟩
  · have never : ¬ wsd.Forgets tile :=
      fun ⟨entry, member, named, _⟩ => absent entry member named
    rw [same]
    exact ⟨rfl, unique, fun _ _ => (and_iff_left (fun both => never both.1)).symm,
      fun _ _ => (and_iff_left (fun all => never all.1)).symm⟩
  · have answered := foldl_answer_same now tile wsd entry.subscribers
    have does : wsd.Forgets tile := ⟨entry, member, named, forgets⟩
    refine ⟨spec.sessions.trans answered.sessions, ?_, ?_, ?_⟩
    · rw [UniqueNames, spec.tilesBeingRendered]
      exact (answered.uniqueNames.mpr unique).sublist (List.filter_sublist.map _)
    · intro name id
      rw [spec.subscribed, answered.subscribed, named]
      exact and_congr_right (fun _ => (not_congr (and_iff_right does)).symm)
    · intro name id
      have isSubscribed : wsd.Subscribed (cacheFileName tile) id ↔ id ∈ entry.subscribers := by
        constructor
        · rintro ⟨other, inside, same, isIn⟩
          rwa [unique.eq member inside (named.trans same.symm)]
        · exact fun inside => ⟨entry, member, named, inside⟩
      rw [spec.session, answered.sessions]
      split
      · next traces =>
          have isIn := isSubscribed.mpr traces.2.2
          rw [TileSession.traceUnSubscribeToTile, Finset.mem_erase, foldl_answer_traced, named,
            and_comm]
          apply and_congr_right
          intro _
          constructor
          · exact fun differs all => differs all.2.1
          · intro kept same
            rw [← same] at isIn
            exact kept ⟨does, same, traces.1, traces.2.1, isIn⟩
      · next untraced =>
          rw [foldl_answer_traced]
          refine (and_iff_left ?_).symm
          rintro ⟨-, same, plain, present, isIn⟩
          rw [same] at isIn
          exact untraced ⟨plain, present, isSubscribed.mp isIn⟩
  · have answered := foldl_answer_same now tile wsd entry.subscribers
    have never : ¬ wsd.Forgets tile := by
      rintro ⟨other, inside, same, older⟩
      rw [← unique.eq member inside (named.trans same.symm)] at older
      exact stays older
    rw [same]
    refine ⟨answered.sessions, answered.uniqueNames.mpr unique, ?_, ?_⟩
    · intro name id
      rw [answered.subscribed]
      exact (and_iff_left (fun both => never both.1)).symm
    · intro name id
      rw [foldl_answer_traced]
      exact (and_iff_left (fun all => never all.1)).symm

/-- A cancellation ends subscriptions of its own session only. -/
structure CancelSpec (before after : Wsd S) (id : S) : Prop where
  sessions : after.sessions = before.sessions
  session : after.session = before.session
  log : after.log = .canceled id :: before.log
  uniqueNames : before.UniqueNames → after.UniqueNames
  subscribed : ∀ name other, other ≠ id → (after.Subscribed name other ↔ before.Subscribed name other)

/-- An entry that survives a cancellation has lost the session's subscription only. -/
theorem cancelEntry_some {id : S} {entry left : TileBeingRendered S}
    (some' : cancelEntry id entry = some left)
    : left.cachedName = entry.cachedName
      ∧ ∀ other, other ≠ id → (other ∈ left.subscribers ↔ other ∈ entry.subscribers) := by
  unfold cancelEntry at some'
  split at some'
  · obtain rfl := Option.some.inj some'
    exact ⟨rfl, fun _ _ => .rfl⟩
  · dsimp only at some'
    split at some'
    · cases some'
    · obtain rfl := Option.some.inj some'
      exact ⟨rfl, fun other differs => List.mem_erase_of_ne differs⟩

/-- A cancellation, entry by entry: each loses the session, and goes if nobody else waits for it. -/
theorem cancelTiles_spec (wsd : Wsd S) (id : S) : CancelSpec wsd (wsd.cancelTiles id).2 id := by
  refine ⟨rfl, rfl, rfl, ?_, ?_⟩
  · intro unique
    have names
        : ((wsd.cancelTiles id).2.tilesBeingRendered.map (·.cachedName)).Sublist
            (wsd.tilesBeingRendered.map (·.cachedName)) := by
      simp only [cancelTiles]
      induction wsd.tilesBeingRendered with
      | nil => exact .slnil
      | cons entry entries ih =>
          rw [List.filterMap_cons]
          split
          · exact ih.cons _
          · next left kept =>
              rw [List.map_cons, List.map_cons, (cancelEntry_some kept).1]
              exact ih.cons_cons _
    exact unique.sublist names
  · intro name other differs
    constructor
    · rintro ⟨left, member, rfl, inside⟩
      obtain ⟨entry, old, kept⟩ := List.mem_filterMap.mp member
      obtain ⟨named, members⟩ := cancelEntry_some kept
      exact ⟨entry, old, named.symm, (members other differs).mp inside⟩
    · rintro ⟨entry, old, rfl, inside⟩
      cases kept : cancelEntry id entry with
      | none =>
          unfold cancelEntry at kept
          split at kept
          · cases kept
          · dsimp only at kept
            split at kept
            · next empty =>
                have stays := (List.mem_erase_of_ne differs).mpr inside
                rw [empty] at stays
                exact absurd stays List.not_mem_nil
            · cases kept
      | some left =>
          obtain ⟨named, members⟩ := cancelEntry_some kept
          exact ⟨left, List.mem_filterMap.mpr ⟨entry, old, kept⟩, named,
            (members other differs).mpr inside⟩

end Wsd

end NdcOdfWeb.Rendering
