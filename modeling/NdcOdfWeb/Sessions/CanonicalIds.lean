import NdcOdfWeb.Foundation.StepRun
import NdcOdfWeb.Sessions.SessionMap

/-! Both processes number the watermark texts of a document's sessions, each in the order in
which it sees them: wsd where sessions are added, with the text of the file info, and the kit
where their load messages are processed, with the text that came with them.
-/

namespace NdcOdfWeb.Sessions

open NdcOdfWeb.Foundation

variable {S : Type}

/-- The session maps of `DocumentBroker` and of the kit's `Document`, the `_watermarkText` of
each session on both sides, and the load messages under way with the texts that they carry.
-/
structure System (S : Type) where
  wsd : SessionMap S
  kit : SessionMap S
  wsdText : S → Text
  kitText : S → Text
  loads : List (S × Text)

def System.start : System S where
  wsd := .empty
  kit := .empty
  wsdText _ := []
  kitText _ := []
  loads := []

/-- What happens to the session maps. -/
inductive Event (S : Type) where
  /-- `DocumentBroker::load` for a session, which is added if that succeeds. -/
  | addSession (session : S) (added : Bool)
  | removeSession (session : S)
  | createSession (session : S)
  /-- `ClientSession::loadDocument` for a client's message that comes with watermark texts. -/
  | loadDocument (session : S) (own : Text)
  /-- `ChildSession::loadDocument` for the next load message. -/
  | onLoad (loaded : Bool)
  | disconnect (session : S)

/-- The text of a session in the kit behind a load message: `parseDocOptions` appends. -/
def System.loadedText (system : System S) (session : S) (text : Text) : Text :=
  system.kitText session ++ text

/-- The kit handles load messages for sessions that it has and that have not loaded yet. -/
def System.Loads (system : System S) (session : S) : Prop :=
  session ∈ system.kit.sessions ∧ system.kit.canonicalViewId session = none

instance [DecidableEq S] (system : System S) (session : S) : Decidable (system.Loads session) :=
  inferInstanceAs (Decidable (_ ∧ _))

/-- One step, for the watermark texts of the file infos. -/
def System.step [LinearOrder S] (watermarkText : S → Text) (system : System S)
    : Event S → Option (System S)
  -- `addSessionInternal`: `load`, then `emplace`
  | .addSession session added =>
      let wsd := system.wsd.recalcCanonicalViewId session (watermarkText session)
      some
        {
          system with
          wsd := if added then wsd.emplace session else wsd
          wsdText := Function.update system.wsdText session (watermarkText session)
        }
  | .removeSession session => some { system with wsd := system.wsd.erase session }
  | .createSession session => some { system with kit := system.kit.emplace session }
  -- the client's own texts are appended before the message is forwarded
  | .loadDocument session own =>
      if session ∈ system.wsd.sessions then
        let text := system.wsdText session ++ own
        some
          {
            system with
            wsdText := Function.update system.wsdText session text
            loads := system.loads ++ [(session, text)]
          }
      else none
  | .onLoad loaded =>
      match system.loads with
      | [] => none
      | (session, text) :: loads =>
          if system.Loads session then
            let text := system.loadedText session text
            some
              {
                system with
                kit := if loaded then system.kit.recalcCanonicalViewId session text else system.kit
                kitText := Function.update system.kitText session text
                loads
              }
          else some { system with loads }
  | .disconnect session => some { system with kit := system.kit.erase session }

/-- The kit's ids are the ones that wsd computed, and a tile that wsd requests for the id of
a session that the kit has loaded is rendered for a session with the same watermark text.
-/
structure Agrees (system : System S) : Prop where
  ids
    : ∀ session id,
        system.kit.canonicalViewId session = some id
        → system.wsd.canonicalViewId session = some id
  renders
    : ∀ session id,
        system.wsd.canonicalViewId session = some id
        → (system.kit.canonicalViewId session).isSome
        → session ∈ system.kit.sessions
        → ∃ found,
            system.kit.findByCanonicalId id = some found
            ∧ system.kitText found = system.kitText session

/-- A session loads in order with a text: the text and the file info's are both empty; or a
session with the same file info's text has loaded with it before; or the text is new to the
kit, and wsd has given the next number of the kit to the file info's.
-/
inductive LoadsInOrder (watermarkText : S → Text) (system : System S) (session : S) (text : Text)
    : Prop where
  | none (kitEmpty : text = []) (wsdEmpty : watermarkText session = [])
  | again (other : S) (loaded : (system.kit.canonicalViewId other).isSome)
    (kitSame : system.kitText other = text)
    (wsdSame : watermarkText other = watermarkText session)
  | next (some' : text ≠ []) (new : ∀ id, (text, id) ∉ system.kit.canonicalIds)
    (next
      : (watermarkText session, system.kit.canonicalIds.length + 1) ∈ system.wsd.canonicalIds)

/-- The ids of a map are the numbers of the texts seen. -/
structure Numbers (textOf : S → Text) (map : SessionMap S) (texts : List Text) : Prop where
  ids : map.canonicalIds = numbered texts
  distinct : texts.Nodup
  some' : [] ∉ texts
  computed
    : ∀ session id,
        map.canonicalViewId session = some id
        → id = propsId texts (textOf session) ∧ (textOf session = [] ∨ textOf session ∈ texts)

variable {watermarkText : S → Text}

/-- The text numbered before keeps its number. -/
theorem propsId_of_start {texts more : List Text} (isPrefix : texts <+: more) {text : Text}
    (seen : text = [] ∨ text ∈ texts)
    : propsId more text = propsId texts text := by
  unfold propsId
  split
  · rfl
  · next some' => exact numberOf_of_prefix isPrefix (seen.resolve_left some')

/-- New texts are numbered behind the old ones. -/
theorem prefix_seeProps (texts : List Text) (text : Text) : texts <+: seeProps texts text := by
  unfold seeProps
  split
  · exact List.prefix_rfl
  · exact prefix_see texts text

/-- A text seen is empty or numbered. -/
theorem mem_seeProps (texts : List Text) (text : Text)
    : text = [] ∨ text ∈ seeProps texts text := by
  unfold seeProps
  split
  · exact .inl ‹_›
  · exact .inr (mem_see texts text)

/-- Numbering the text of a session that has it from now on. -/
theorem Numbers.recalc [LinearOrder S] {textOf nextOf : S → Text} {map : SessionMap S}
    {texts : List Text} (numbers : Numbers textOf map texts) {session : S} {text : Text}
    (own : nextOf session = text)
    (others : ∀ other, other ≠ session → nextOf other = textOf other)
    : Numbers nextOf (map.recalcCanonicalViewId session text) (seeProps texts text) := by
  have distinct : (seeProps texts text).Nodup := by
    unfold seeProps
    split
    · exact numbers.distinct
    · exact nodup_see numbers.distinct _
  have some' : [] ∉ seeProps texts text := by
    unfold seeProps see
    split
    · exact numbers.some'
    · next nonempty =>
        split
        · exact numbers.some'
        · rw [List.mem_append, List.mem_singleton]
          rintro (old | new)
          · exact numbers.some' old
          · exact nonempty new.symm
  unfold SessionMap.recalcCanonicalViewId
  rw [numbers.ids, getCanonicalId_numbered]
  refine ⟨rfl, distinct, some', ?_⟩
  intro other id computed
  simp only [Function.update_apply] at computed
  split at computed
  · next same =>
      subst same
      rw [own]
      exact ⟨(Option.some.inj computed).symm, mem_seeProps texts _⟩
  · next differs =>
      obtain ⟨same, seen⟩ := numbers.computed other id computed
      have isPrefix := prefix_seeProps texts text
      rw [others other differs]
      refine ⟨?_, seen.imp_right fun member => isPrefix.subset member⟩
      rw [propsId_of_start isPrefix seen, same]

/-- A map with the same ids has the same numbers. -/
theorem Numbers.of_same {textOf nextOf : S → Text} {map next : SessionMap S} {texts : List Text}
    (numbers : Numbers textOf map texts) (ids : next.canonicalIds = map.canonicalIds)
    (computed : next.canonicalViewId = map.canonicalViewId)
    (same : ∀ session, (map.canonicalViewId session).isSome → nextOf session = textOf session)
    : Numbers nextOf next texts where
  ids := ids.trans numbers.ids
  distinct := numbers.distinct
  some' := numbers.some'
  computed session id found := by
    rw [computed] at found
    rw [same session (Option.isSome_iff_exists.mpr ⟨id, found⟩)]
    exact numbers.computed session id found

/-- A session that enters the map gets no number yet. -/
theorem emplace_ids [LinearOrder S] (map : SessionMap S) (session : S)
    : (map.emplace session).canonicalIds = map.canonicalIds := by
  unfold SessionMap.emplace
  split <;> rfl

/-- A session that enters the map changes no session's number. -/
theorem emplace_computed [LinearOrder S] (map : SessionMap S) (session : S)
    : (map.emplace session).canonicalViewId = map.canonicalViewId := by
  unfold SessionMap.emplace
  split <;> rfl

/-- A pair of the map is a text with its number. -/
theorem mem_numbered_iff {texts : List Text} (distinct : texts.Nodup) {text : Text} {id : Nat}
    : (text, id) ∈ numbered texts ↔ text ∈ texts ∧ numberOf texts text = id := by
  rw [numbered, List.mem_mapIdx]
  constructor
  · rintro ⟨i, inside, same⟩
    obtain ⟨rfl, rfl⟩ := Prod.mk.inj same
    exact ⟨List.getElem_mem inside, numberOf_getElem distinct inside⟩
  · rintro ⟨seen, rfl⟩
    obtain ⟨i, inside, here, number⟩ := exists_getElem_of_mem seen
    exact ⟨i, inside, Prod.ext here number.symm⟩

/-- Distinct texts seen have distinct numbers. -/
theorem propsId_inj {texts : List Text} {text other : Text} (seen : text = [] ∨ text ∈ texts)
    (same : propsId texts text = propsId texts other)
    : text = other := by
  unfold propsId at same
  split at same
  · next empty =>
      split at same
      · next none' => rw [empty, none']
      · exact absurd same (Nat.succ_ne_zero _).symm
  · next some' =>
      split at same
      · exact absurd same (Nat.succ_ne_zero _)
      · exact numberOf_inj (seen.resolve_left some') same

/-- Both sides number the texts that they have seen: wsd the file infos', the kit those of the
sessions that it has loaded; wsd has computed an id for each session that the kit may load.
-/
structure Numbering (watermarkText : S → Text) (system : System S)
    (wsdTexts kitTexts : List Text)
    : Prop where
  wsd : Numbers watermarkText system.wsd wsdTexts
  kit : Numbers system.kitText system.kit kitTexts
  seen
    : ∀ text ∈ kitTexts, ∃ session,
        (system.kit.canonicalViewId session).isSome ∧ system.kitText session = text
  present : ∀ session ∈ system.wsd.sessions, (system.wsd.canonicalViewId session).isSome
  forwarded
    : ∀ session text, (session, text) ∈ system.loads → (system.wsd.canonicalViewId session).isSome

/-- The kit's ids are those of wsd. -/
def SameIds (system : System S) : Prop :=
  ∀ session id,
    system.kit.canonicalViewId session = some id → system.wsd.canonicalViewId session = some id

/-- Sessions of one id have one text in the kit, so that agreeing ids render with it. -/
theorem Numbering.agrees {system : System S} {wsdTexts kitTexts : List Text}
    (numbering : Numbering watermarkText system wsdTexts kitTexts) (same : SameIds system)
    : Agrees system := by
  refine ⟨same, ?_⟩
  intro session id requested loaded present
  obtain ⟨kitId, computed⟩ := Option.isSome_iff_exists.mp loaded
  obtain rfl : kitId = id := Option.some.inj ((same session kitId computed).symm.trans requested)
  cases found : system.kit.findByCanonicalId kitId with
  | none =>
      have absent := List.find?_eq_none.mp found session present
      exact absurd (by simpa using computed) absent
  | some other =>
      have match' := List.find?_some found
      have otherId : system.kit.canonicalViewId other = some kitId := by simpa using match'
      obtain ⟨number, -⟩ := numbering.kit.computed session kitId computed
      obtain ⟨otherNumber, seen⟩ := numbering.kit.computed other kitId otherId
      exact ⟨other, rfl, propsId_inj seen (otherNumber.symm.trans number)⟩

/-- While the ids agree, the kit gives a text the number that wsd gave the file info's exactly
if it is loaded in order. By the three ways to find a number: none, an old one, the next one.
-/
theorem Numbering.loadsInOrder_iff {system : System S} {wsdTexts kitTexts : List Text}
    (numbering : Numbering watermarkText system wsdTexts kitTexts) (same : SameIds system)
    {session : S} (added : (system.wsd.canonicalViewId session).isSome) (text : Text)
    : LoadsInOrder watermarkText system session text
      ↔ propsId (seeProps kitTexts text) text
        = propsId wsdTexts (watermarkText session) := by
  obtain ⟨id, computed⟩ := Option.isSome_iff_exists.mp added
  obtain ⟨-, wsdSeen⟩ := numbering.wsd.computed session id computed
  -- what a session that has loaded with the text says about its number
  have old {other : S} (loaded : (system.kit.canonicalViewId other).isSome)
      (kitSame : system.kitText other = text)
      : propsId kitTexts text = propsId wsdTexts (watermarkText other)
        ∧ (text = [] ∨ text ∈ kitTexts)
        ∧ (watermarkText other = [] ∨ watermarkText other ∈ wsdTexts) := by
    obtain ⟨otherId, otherComputed⟩ := Option.isSome_iff_exists.mp loaded
    obtain ⟨number, seen⟩ := numbering.kit.computed other otherId otherComputed
    obtain ⟨wsdNumber, wsdSeen⟩ :=
      numbering.wsd.computed other otherId (same other otherId otherComputed)
    rw [kitSame] at number seen
    exact ⟨number.symm.trans wsdNumber, seen, wsdSeen⟩
  have keeps (seen : text = [] ∨ text ∈ kitTexts)
      : propsId (seeProps kitTexts text) text = propsId kitTexts text :=
    propsId_of_start (prefix_seeProps kitTexts text) seen
  have known {id : Nat} : (text, id) ∈ system.kit.canonicalIds
      ↔ text ∈ kitTexts ∧ numberOf kitTexts text = id := by
    rw [numbering.kit.ids, mem_numbered_iff numbering.kit.distinct]
  have nextIn {id : Nat} : (watermarkText session, id) ∈ system.wsd.canonicalIds
      ↔ watermarkText session ∈ wsdTexts ∧ numberOf wsdTexts (watermarkText session) = id := by
    rw [numbering.wsd.ids, mem_numbered_iff numbering.wsd.distinct]
  constructor
  · intro inOrder
    cases inOrder with
    | none kitEmpty wsdEmpty => rw [propsId, propsId, if_pos kitEmpty, if_pos wsdEmpty]
    | again other loaded kitSame wsdSame =>
        obtain ⟨number, seen, -⟩ := old loaded kitSame
        rw [keeps seen, number, wsdSame]
    | next some' new next =>
        have absent : text ∉ kitTexts := fun seen => new _ (known.mpr ⟨seen, rfl⟩)
        obtain ⟨inWsd, number⟩ := nextIn.mp next
        have wsdSome : watermarkText session ≠ [] := fun empty =>
          numbering.wsd.some' (empty ▸ inWsd)
        rw [propsId, propsId, if_neg some', if_neg wsdSome, number, seeProps, if_neg some',
          numberOf_new absent, numbering.kit.ids, length_numbered]
  · intro number
    by_cases empty : text = []
    · rw [propsId, if_pos empty] at number
      refine .none empty ?_
      by_contra some'
      rw [propsId, if_neg some'] at number
      exact absurd number (Nat.succ_ne_zero _).symm
    · by_cases seen : text ∈ kitTexts
      · obtain ⟨other, loaded, kitSame⟩ := numbering.seen text seen
        obtain ⟨otherNumber, -, otherSeen⟩ := old loaded kitSame
        rw [keeps (.inr seen), otherNumber] at number
        exact .again other loaded kitSame (propsId_inj otherSeen number)
      · rw [propsId, if_neg empty, seeProps, if_neg empty, numberOf_new seen] at number
        have wsdSome : watermarkText session ≠ [] := by
          intro wsdEmpty
          rw [propsId, if_pos wsdEmpty] at number
          exact absurd number (Nat.succ_ne_zero _)
        rw [propsId, if_neg wsdSome] at number
        refine .next empty (fun id inKit => seen (known.mp inKit).1) (nextIn.mpr ?_)
        rw [numbering.kit.ids, length_numbered]
        exact ⟨wsdSeen.resolve_left wsdSome, number.symm⟩

-----------------------------------------------------------------------------------------
-- Runs
-----------------------------------------------------------------------------------------

/-- The session's number is set to its text's. -/
theorem recalc_computed [LinearOrder S] {map : SessionMap S} {texts : List Text}
    (ids : map.canonicalIds = numbered texts) (session : S) (text : Text)
    : (map.recalcCanonicalViewId session text).canonicalViewId
      = Function.update map.canonicalViewId session
          (some (propsId (seeProps texts text) text)) := by
  unfold SessionMap.recalcCanonicalViewId
  rw [ids, getCanonicalId_numbered]

/-- A number once computed is never taken away. -/
theorem isSome_recalc [LinearOrder S] {map : SessionMap S} {texts : List Text}
    (ids : map.canonicalIds = numbered texts) {session other : S} {text : Text}
    (computed : other = session ∨ (map.canonicalViewId other).isSome)
    : ((map.recalcCanonicalViewId session text).canonicalViewId other).isSome := by
  rw [recalc_computed ids]
  by_cases same : other = session
  · rw [same, Function.update_self]
    rfl
  · rw [Function.update_of_ne same]
    exact computed.resolve_left same

/-- Both sides number their texts, and the kit's ids are those of wsd. -/
def Coherent (watermarkText : S → Text) (system : System S) : Prop :=
  SameIds system ∧ ∃ wsdTexts kitTexts, Numbering watermarkText system wsdTexts kitTexts

/-- The map holds the new session and the old ones. -/
theorem mem_emplace [LinearOrder S] (map : SessionMap S) {session other : S}
    (member : other ∈ (map.emplace session).sessions)
    : other = session ∨ other ∈ map.sessions := by
  unfold SessionMap.emplace at member
  split at member
  · exact .inr member
  · exact (List.mem_orderedInsert _).mp member

/-- Numbering a session in wsd changes no id that the kit has got for it: the text of the file
info keeps its number.
-/
theorem Coherent.addSession [LinearOrder S] {system next : System S}
    (coherent : Coherent watermarkText system) {session : S} {added : Bool}
    (step : system.step watermarkText (.addSession session added) = some next)
    : Coherent watermarkText next := by
  obtain ⟨same, wsdTexts, kitTexts, numbering⟩ := coherent
  cases step
  have ids := numbering.wsd.ids
  have numbers : Numbers watermarkText
      (system.wsd.recalcCanonicalViewId session (watermarkText session))
      (seeProps wsdTexts (watermarkText session)) :=
    numbering.wsd.recalc rfl (fun _ _ => rfl)
  have some' {other : S} (computed : other = session ∨ (system.wsd.canonicalViewId other).isSome)
      : ((system.wsd.recalcCanonicalViewId session (watermarkText session)).canonicalViewId
          other).isSome :=
    isSome_recalc ids computed
  have keeps (map : SessionMap S)
      (ids : map.canonicalIds
        = (system.wsd.recalcCanonicalViewId session (watermarkText session)).canonicalIds)
      (computed : map.canonicalViewId
        = (system.wsd.recalcCanonicalViewId session (watermarkText session)).canonicalViewId)
      (sessions : ∀ other ∈ map.sessions, other = session ∨ other ∈ system.wsd.sessions)
      : Coherent watermarkText
          {
            system with
            wsd := map
            wsdText := Function.update system.wsdText session (watermarkText session)
          } := by
    refine ⟨fun other id loaded => ?_, seeProps wsdTexts (watermarkText session), kitTexts, {
      wsd := numbers.of_same ids computed (fun _ _ => rfl)
      kit := numbering.kit
      seen := numbering.seen
      present := fun other member => by
        rw [computed]
        exact some' ((sessions other member).imp_right (numbering.present other))
      forwarded := fun other text member => by
        rw [computed]
        exact some' (.inr (numbering.forwarded other text member))
    }⟩
    have before := same other id loaded
    have now := some' (.inr (Option.isSome_iff_exists.mpr ⟨id, before⟩))
    obtain ⟨nextId, found⟩ := Option.isSome_iff_exists.mp now
    obtain ⟨number, seen⟩ := numbering.wsd.computed other id before
    have nextNumber := (numbers.computed other nextId found).1
    rw [propsId_of_start (prefix_seeProps _ _) seen, ← number] at nextNumber
    exact (congrFun computed other).trans (nextNumber ▸ found)
  cases added with
  | false => exact keeps _ rfl rfl (fun _ member => .inr member)
  | true =>
      exact keeps _ (emplace_ids _ _) (emplace_computed _ _) fun _ member =>
        mem_emplace (system.wsd.recalcCanonicalViewId session (watermarkText session)) member

/-- A load of a session keeps the numbering, and the kit's next number for it is wsd's exactly if
it is in order.
-/
theorem Coherent.onLoad [LinearOrder S] {system : System S}
    (coherent : Coherent watermarkText system) {session : S} {text : Text}
    {loads : List (S × Text)} (first : system.loads = (session, text) :: loads)
    (notLoaded : system.kit.canonicalViewId session = none)
    : let next : System S :=
        {
          system with
          kit := system.kit.recalcCanonicalViewId session (system.loadedText session text)
          kitText := Function.update system.kitText session (system.loadedText session text)
          loads
        }
      (∃ wsdTexts kitTexts, Numbering watermarkText next wsdTexts kitTexts)
      ∧ (SameIds next
        ↔ LoadsInOrder watermarkText system session (system.loadedText session text)) := by
  obtain ⟨same, wsdTexts, kitTexts, numbering⟩ := coherent
  have ids := numbering.kit.ids
  have added : (system.wsd.canonicalViewId session).isSome :=
    numbering.forwarded session text (by rw [first]; exact List.mem_cons_self)
  generalize system.loadedText session text = loaded
  have others (other : S) (differs : other ≠ session)
      : Function.update system.kitText session loaded other = system.kitText other :=
    Function.update_of_ne differs _ _
  have numbers : Numbers (Function.update system.kitText session loaded)
      (system.kit.recalcCanonicalViewId session loaded) (seeProps kitTexts loaded) :=
    numbering.kit.recalc (Function.update_self session loaded system.kitText) others
  -- the other sessions that have loaded keep their ids and texts
  have kept {other : S} (computed : (system.kit.canonicalViewId other).isSome)
      : other ≠ session := by
    rintro rfl
    rw [notLoaded] at computed
    cases computed
  refine ⟨⟨wsdTexts, seeProps kitTexts loaded, {
    wsd := numbering.wsd
    kit := numbers
    seen := ?_
    present := numbering.present
    forwarded := fun other text member =>
      numbering.forwarded other text (by rw [first]; exact List.mem_cons_of_mem _ member)
  }⟩, ?_⟩
  · intro seenText member
    have cases' : seenText ∈ kitTexts ∨ seenText = loaded := by
      unfold seeProps see at member
      split at member
      · exact .inl member
      · split at member
        · exact .inl member
        · exact (List.mem_append.mp member).imp_right List.mem_singleton.mp
    rcases cases' with old | rfl
    · obtain ⟨other, computed, found⟩ := numbering.seen seenText old
      refine ⟨other, isSome_recalc ids (.inr computed), ?_⟩
      rw [← found]
      exact others other (kept computed)
    · exact ⟨session, isSome_recalc ids (.inl rfl), Function.update_self _ _ _⟩
  · rw [numbering.loadsInOrder_iff same added]
    obtain ⟨wsdId, computed⟩ := Option.isSome_iff_exists.mp added
    have wsdNumber := (numbering.wsd.computed session wsdId computed).1
    have computedNext := recalc_computed ids session loaded
    constructor
    · intro sameNext
      have found := sameNext session (propsId (seeProps kitTexts loaded) loaded)
        (by rw [computedNext, Function.update_self])
      rw [← wsdNumber]
      exact Option.some.inj (found.symm.trans computed)
    · intro number other id found
      rw [computedNext] at found
      by_cases here : other = session
      · subst here
        rw [Function.update_self, number, ← wsdNumber] at found
        rw [← found]
        exact computed
      · rw [Function.update_of_ne here] at found
        exact same other id found

end NdcOdfWeb.Sessions
