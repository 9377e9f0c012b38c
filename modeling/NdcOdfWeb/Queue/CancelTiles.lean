import NdcOdfWeb.Protocol.ListTokens
import NdcOdfWeb.Queue.Requests

/-! What `canceltiles` removes.
The name `nviewid` ends in the text by which previews are recognised, so every tile is
taken for a preview and stays; other messages are searched for the versions all the same.
-/

namespace NdcOdfWeb.Queue

open NdcOdfWeb.Foundation
open NdcOdfWeb.Protocol
open NdcOdfWeb.Tiles

/-- A queued message: a serialised tile, or something else. -/
inductive Entry where
  | tile (initial : Text) (desc : TileDesc)
  | other (message : Payload) (notTile : TileQueue.isTile message = false)

def Entry.text : Entry → Payload
  | tile initial desc => desc.serialize initial
  | other message _ => message

/-- What `canceltiles` is for: tiles without a preview id, in one of the versions. -/
def Entry.obsolete (versions : List Int32) : Entry → Bool
  | tile _ desc => desc.id < 0 && versions.contains desc.ver
  | other _ _ => false

/-- The versions as tokens. -/
def versionTokens (versions : List Int32) : List Text :=
  versions.map (fun version => showInt version.toInt)

/-- The message that `TileCache::cancelTiles` writes. -/
def cancelTilesMessage (versions : List Int32) : Payload :=
  "canceltiles ".toList ++ terminated ',' (versionTokens versions)

/-- Every serialised tile contains the text by which previews are recognised. -/
theorem id_infix_serialize (initial : Text) (tile : TileDesc)
    : "id=".toList <:+: tile.serialize initial := by
  have inside : "id=".toList <:+: "nviewid=".toList := by decide
  have first : word "nviewid" (showInt tile.normalizedViewId.toInt) ∈ tile.words := by
    simp [TileDesc.words, TileDesc.headWords, TileDesc.headFields, intWords]
  have inWord : "nviewid=".toList <:+: word "nviewid" (showInt tile.normalizedViewId.toInt) := by
    have name : "nviewid=".toList = "nviewid".toList ++ ['='] := by decide
    rw [name, word, ← List.singleton_append, ← List.append_assoc]
    exact (List.prefix_append _ _).isInfix
  have inWords : word "nviewid" (showInt tile.normalizedViewId.toInt)
      <:+: spaced ' ' tile.words := by
    obtain ⟨before, after, shape⟩ := List.append_of_mem first
    rw [shape, spaced_append, spaced_cons]
    refine List.IsInfix.trans ?_ (List.suffix_append _ _).isInfix
    exact ⟨[' '], spaced ' ' after, by simp⟩
  rw [tile.serialize_eq]
  exact ((inside.trans inWord).trans inWords).trans (List.suffix_append _ _).isInfix

/-- The two searches of the source. -/
theorem canceled_iff {tokens : List Text} {s : Payload}
    : TileQueue.canceled tokens s = true
      ↔ ¬ "id=".toList <:+: s ∧ ∃ token ∈ tokens, "ver=".toList ++ token <:+: s := by
  unfold TileQueue.canceled
  split
  · next found =>
      constructor
      · intro absurd'
        cases absurd'
      · rintro ⟨absent, -⟩
        exact absurd (find_isSome_iff.mp found) absent
  · next absent =>
      have notInfix : ¬ "id=".toList <:+: s := fun inside => absent (find_isSome_iff.mpr inside)
      rw [and_iff_right notInfix, List.any_eq_true]
      exact exists_congr (fun token => and_congr_right (fun _ => find_isSome_iff))

/-- A tile has id= in it, behind nviewid= at the latest. -/
theorem canceled_tile (tokens : List Text) (initial : Text) (tile : TileDesc)
    : TileQueue.canceled tokens (tile.serialize initial) = false := by
  rw [Bool.eq_false_iff]
  exact fun canceled => (canceled_iff.mp canceled).1 (id_infix_serialize initial tile)

/-- A version is a number. -/
theorem versionTokens_listEntry (versions : List Int32)
    : ∀ token ∈ versionTokens versions, ListEntry ',' token := by
  intro token member
  obtain ⟨version, -, rfl⟩ := List.mem_map.mp member
  exact showInt_listEntry _

/-- The canceled messages are erased, and nothing is added. -/
theorem putMessage_cancelTiles (viewIdOf : Text → Except Exception Text)
    (queue : List Payload) (versions : List Int32)
    : TileQueue.putMessage viewIdOf queue (cancelTilesMessage versions)
      = .ok (queue.filter (fun it => !TileQueue.canceled (versionTokens versions) it)) := by
  have name : "canceltiles ".toList = "canceltiles".toList ++ [' '] := by decide
  have size : "canceltiles ".toList.length = 12 := by decide
  have first : getFirstToken ' ' (cancelTilesMessage versions) = "canceltiles".toList := by
    have inside : ∀ c ∈ "canceltiles".toList, (c != ' ') = true := by decide
    have stop : (' ' != ' ') = false := by decide
    unfold cancelTilesMessage getFirstToken
    rw [name, List.append_assoc, List.takeWhile_append_of_pos inside, List.singleton_append,
      List.takeWhile_cons, stop, if_neg Bool.false_ne_true, List.append_nil]
  have seqs : substr (cancelTilesMessage versions) 12
      = .ok (terminated ',' (versionTokens versions)) := by
    have long : ¬ 12 > (cancelTilesMessage versions).length := by
      have total : (cancelTilesMessage versions).length
          = 12 + (terminated ',' (versionTokens versions)).length := by
        unfold cancelTilesMessage
        rw [List.length_append, size]
      omega
    have rest : (cancelTilesMessage versions).drop 12 = terminated ',' (versionTokens versions) := by
      unfold cancelTilesMessage
      rw [← size, List.drop_left]
    rw [substr, if_neg long, rest]
  rw [TileQueue.putMessage, first, if_pos rfl, seqs]
  simp only [bind, Except.bind, stringTokenizer_terminated (versionTokens_listEntry versions),
    pure, Except.pure]

/-- If the elements dropped by `p` are all kept by `q`, the same elements are left only when
neither drops any.
-/
theorem map_filter_eq_iff {α β : Type} {text : α → β} {p q : α → Bool} {removed : β → Bool}
    (removes : ∀ a, p a = !removed (text a)) {list : List α}
    (apart : ∀ a ∈ list, q a = false → p a = true)
    : (list.filter p).map text = (list.filter q).map text
      ↔ (∀ a ∈ list, q a = true) ∧ ∀ a ∈ list, p a = true := by
  constructor
  · intro same
    have all : ∀ a ∈ list, p a = true := by
      intro a member
      by_contra dropped
      have kept : q a = true := by
        by_contra notKept
        exact dropped (apart a member (Bool.eq_false_iff.mpr notKept))
      have inRight : text a ∈ (list.filter q).map text :=
        List.mem_map_of_mem (List.mem_filter.mpr ⟨member, kept⟩)
      rw [← same] at inRight
      obtain ⟨b, inLeft, equal⟩ := List.mem_map.mp inRight
      have bKept := (List.mem_filter.mp inLeft).2
      rw [removes, equal, ← removes] at bKept
      exact dropped bKept
    refine ⟨?_, all⟩
    have sizes := congrArg List.length same
    rw [List.length_map, List.length_map, List.filter_eq_self.mpr all] at sizes
    exact List.filter_eq_self.mp (List.filter_sublist.eq_of_length sizes.symm)
  · rintro ⟨keeps, all⟩
    rw [List.filter_eq_self.mpr all, List.filter_eq_self.mpr keeps]

/-- Putting `canceltiles` removes exactly the obsolete tiles if and only if there is none,
and no other message, unless it contains `id=`, contains `ver=` and one of the versions.
-/
theorem put_cancelTiles_iff (viewIdOf : Text → Except Exception Text) (queue : TileQueue)
    (entries : List Entry) (versions : List Int32)
    : TileQueue.put viewIdOf { queue with queue := entries.map Entry.text }
          (cancelTilesMessage versions)
        = .ok { queue with
            queue := (entries.filter (fun entry => !entry.obsolete versions)).map Entry.text }
      ↔ (∀ entry ∈ entries, entry.obsolete versions = false)
        ∧ ∀ message notTile,
            Entry.other message notTile ∈ entries
            → ¬ "id=".toList <:+: message
            → ∀ version ∈ versions, ¬ "ver=".toList ++ showInt version.toInt <:+: message := by
  have nonempty : cancelTilesMessage versions ≠ [] := by
    have name : "canceltiles ".toList ≠ [] := by decide
    exact List.append_ne_nil_of_left_ne_nil name _
  have put : TileQueue.put viewIdOf { queue with queue := entries.map Entry.text }
      (cancelTilesMessage versions)
      = .ok { queue with
          queue := (entries.filter (fun entry =>
            !TileQueue.canceled (versionTokens versions) entry.text)).map Entry.text } := by
    rw [TileQueue.put, if_neg nonempty, putMessage_cancelTiles, List.filter_map]
    rfl
  have apart : ∀ entry ∈ entries, (!entry.obsolete versions) = false
      → (!TileQueue.canceled (versionTokens versions) entry.text) = true := by
    intro entry _ obsolete
    cases entry with
    | tile initial tile => rw [Entry.text, canceled_tile]; rfl
    | other message notTile => simp [Entry.obsolete] at obsolete
  rw [put, Except.ok.injEq, TileQueue.mk.injEq, and_iff_left ⟨rfl, rfl⟩,
    map_filter_eq_iff (fun _ => rfl) apart]
  simp only [Bool.not_eq_true']
  refine and_congr_right (fun _ => ?_)
  constructor
  · intro kept message notTile member noId version inVersions inside
    have stays := kept _ member
    have canceled : TileQueue.canceled (versionTokens versions) message = true :=
      canceled_iff.mpr ⟨noId, _, List.mem_map_of_mem inVersions, inside⟩
    exact absurd (canceled.symm.trans stays) Bool.false_ne_true.symm
  · intro clean entry member
    cases entry with
    | tile initial tile => exact canceled_tile _ initial tile
    | other message notTile =>
        rw [Entry.text, Bool.eq_false_iff]
        intro canceled
        obtain ⟨noId, token, inTokens, inside⟩ := canceled_iff.mp canceled
        obtain ⟨version, inVersions, rfl⟩ := List.mem_map.mp inTokens
        exact clean message notTile member noId version inVersions inside

/-- The origin tile has no id and version 7, and is not cancelled with version 7. -/
theorem originTile_not_canceled
    : TileQueue.put (fun _ => .error .json)
        { TileQueue.empty with
          queue := [Entry.tile "tile".toList originTile].map Entry.text }
        (cancelTilesMessage [7])
      ≠ .ok { TileQueue.empty with
          queue := ([Entry.tile "tile".toList originTile].filter
            (fun entry => !entry.obsolete [7])).map Entry.text } := by
  rw [ne_eq, put_cancelTiles_iff]
  rintro ⟨none, -⟩
  exact absurd (none _ (List.mem_singleton.mpr rfl)) (by decide)

end NdcOdfWeb.Queue
