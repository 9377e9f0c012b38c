import NdcOdfWeb.Admin.AdminModel

/-! The active views of the admin model's documents, along whole runs. -/

namespace NdcOdfWeb.Admin

open NdcOdfWeb.Foundation

-----------------------------------------------------------------------------------------
-- Views and the time
-----------------------------------------------------------------------------------------

/-- A view that has not expired counts as one. -/
theorem activeWeight_of_active {now : Nat} {view : View} (active : view.isExpired now = false)
    : activeWeight now view = 1 := by
  rw [activeWeight, active]
  rfl

/-- A view that has expired counts as none. -/
theorem activeWeight_of_expired {now : Nat} {view : View} (expired : view.isExpired now = true)
    : activeWeight now view = 0 := by
  rw [activeWeight, expired]
  rfl

/-- A view that expires has expired at once, as no time is 0. -/
theorem isExpired_expire {now : Nat} (positive : 0 < now) (view : View)
    : (view.expire now).isExpired now = true :=
  decide_eq_true ⟨Nat.pos_iff_ne_zero.mp positive, Nat.le_refl now⟩

/-- A new view has not expired. -/
theorem isExpired_new (sessionId userName userId : Text) (now : Nat)
    : (View.new sessionId userName userId now).isExpired now = false := rfl

/-- A view that expired by now is expired later, and one that has no end is not. -/
theorem isExpired_later {view : View} {now later : Nat} (dated : view.endTime ≤ now)
    (after : now ≤ later)
    : view.isExpired later = view.isExpired now := by
  unfold View.isExpired
  refine decide_eq_decide.mpr ⟨fun expired => ⟨expired.1, dated⟩, fun expired => ?_⟩
  exact ⟨expired.1, Nat.le_trans dated after⟩

namespace Document

/-- No view ends in the future, and the counter agrees with the views. -/
structure Sound (document : Document) (now : Nat) : Prop where
  dated : ∀ id view, document.views.lookup id = some view → view.endTime ≤ now
  counted : document.activeViews.toNat = document.activeCount now

/-- Time changes no count: a view that has expired stays expired, and the others have no end time.
-/
theorem Sound.later {document : Document} {now later : Nat} (sound : document.Sound now)
    (after : now ≤ later)
    : document.Sound later ∧ document.activeCount later = document.activeCount now := by
  have same : document.activeCount later = document.activeCount now := by
    refine tally_congr fun id view found => ?_
    unfold activeWeight
    rw [isExpired_later (sound.dated id view found) after]
  refine ⟨⟨fun id view found => Nat.le_trans (sound.dated id view found) after, ?_⟩, same⟩
  rw [same]
  exact sound.counted

/-- A new document has no views and counts none. -/
theorem new_sound (docKey : Text) (pid : Nat) (filename : Text) (now : Nat)
    : (Document.new docKey pid filename now).Sound now :=
  ⟨fun _ _ found => (nomatch found), rfl⟩

/-- The count goes up with the view, unless it is there already or the count is at its limit. -/
theorem addView_sound {document : Document} {now : Nat} (sound : document.Sound now)
    {sessionId : Text}
    (room : sessionId ∉ document.views → document.activeCount now + 1 < 2 ^ 32)
    (userName userId : Text)
    : (document.addView sessionId userName userId now).Sound now := by
  unfold addView
  split
  · exact sound
  · next absent =>
      have counted := sound.counted
      have room := room absent
      have added := tally_insert_new (activeWeight now)
        (View.new sessionId userName userId now) absent
      rw [activeWeight_of_active (isExpired_new ..)] at added
      unfold activeCount at counted room
      constructor
      · intro id view found
        dsimp only at found
        by_cases same : id = sessionId
        · rw [same, AList.lookup_insert] at found
          cases found
          exact Nat.zero_le _
        · rw [AList.lookup_insert_ne same] at found
          exact sound.dated id view found
      · unfold activeCount
        dsimp only
        rw [added, UInt32.toNat_add, counted, UInt32.toNat_one]
        omega

/-- A document with an active view still has one when another is added. -/
theorem addView_present {document : Document} {now : Nat}
    (present : 0 < document.activeCount now) (sessionId userName userId : Text)
    : 0 < (document.addView sessionId userName userId now).activeCount now := by
  unfold addView
  split
  · exact present
  · next absent =>
      unfold activeCount at present ⊢
      dsimp only
      rw [tally_insert_new _ _ absent]
      omega

/-- A new document has an active view once its first one is added. -/
theorem addView_new (docKey : Text) (pid : Nat) (filename sessionId userName userId : Text)
    (now : Nat)
    : 0 < ((Document.new docKey pid filename now).addView sessionId userName userId
        now).activeCount now := by
  have absent : sessionId ∉ (Document.new docKey pid filename now).views :=
    AList.notMem_empty sessionId
  unfold addView activeCount
  rw [if_neg absent]
  dsimp only
  rw [tally_insert_new _ _ absent, activeWeight_of_active (isExpired_new ..)]
  exact Nat.lt_add_right _ Nat.zero_lt_one

/-- A view that is added does not expire the document. -/
theorem addView_endTime (document : Document) (sessionId userName userId : Text) (now : Nat)
    : (document.addView sessionId userName userId now).endTime = document.endTime := by
  unfold addView
  split <;> rfl

-----------------------------------------------------------------------------------------
-- Expiring a view
-----------------------------------------------------------------------------------------

/-- A view that is unknown does not expire. -/
theorem expireView_none {document : Document} {sessionId : Text} (now : Nat)
    (absent : document.views.lookup sessionId = none)
    : document.expireView now sessionId = document := by
  rw [expireView, absent]

/-- Behind the call, the view has expired, and the others are what they were. -/
theorem expireView_lookup {document : Document} {now : Nat} {sessionId id : Text} {view : View}
    (found : (document.expireView now sessionId).views.lookup id = some view)
    : (id ≠ sessionId ∧ document.views.lookup id = some view)
      ∨ (id = sessionId ∧ view.endTime = now) := by
  unfold expireView at found
  split at found
  · next absent =>
      refine .inl ⟨?_, found⟩
      rintro rfl
      rw [absent] at found
      cases found
  · dsimp only at found
    by_cases same : id = sessionId
    · rw [same, AList.lookup_insert] at found
      cases found
      exact .inr ⟨same, rfl⟩
    · rw [AList.lookup_insert_ne same] at found
      exact .inl ⟨same, found⟩

/-- An active view that expires is counted out. -/
theorem expireView_sound {document : Document} {now : Nat} (positive : 0 < now)
    (sound : document.Sound now) {sessionId : Text}
    (active
      : ∀ view, document.views.lookup sessionId = some view → view.isExpired now = false)
    : (document.expireView now sessionId).Sound now := by
  constructor
  · intro id view found
    rcases expireView_lookup found with ⟨-, before⟩ | ⟨-, ends⟩
    · exact sound.dated id view before
    · exact Nat.le_of_eq ends
  · unfold expireView
    split
    · exact sound.counted
    · next view found =>
        have counted := sound.counted
        have changed := tally_insert_found (activeWeight now) found (view.expire now)
        rw [activeWeight_of_active (active view found),
          activeWeight_of_expired (isExpired_expire positive view)] at changed
        unfold activeCount at counted ⊢
        dsimp only
        have several : (1 : UInt32) ≤ document.activeViews := by
          rw [UInt32.le_iff_toNat_le, UInt32.toNat_one]
          omega
        rw [UInt32.toNat_sub_of_le _ _ several, UInt32.toNat_one]
        omega

/-- As long as a view is left, the document does not expire. -/
theorem expireView_endTime {document : Document} {now : Nat} {sessionId : Text}
    (left : (document.expireView now sessionId).activeViews ≠ 0)
    : (document.expireView now sessionId).endTime = document.endTime := by
  unfold expireView at left ⊢
  split
  · rfl
  · next found =>
      rw [found] at left
      exact if_neg left

/-- What is left when views of different sessions expire one after the other. -/
structure ExpiresAll (document final : Document) (now : Nat) (ids : List Text) : Prop where
  sound : final.Sound now
  views
    : ∀ id view,
        final.views.lookup id = some view
        → (id ∈ ids ∧ view.endTime = now)
          ∨ (id ∉ ids ∧ document.views.lookup id = some view)

/-- All views expire one after the other, by induction on them: each finds itself still active,
since their ids differ.
-/
theorem foldl_expireView {now : Nat} (positive : 0 < now) {ids : List Text} (distinct : ids.Nodup)
    {document : Document} (sound : document.Sound now)
    (active
      : ∀ id ∈ ids, ∀ view,
          document.views.lookup id = some view → view.isExpired now = false)
    : ExpiresAll document
        (ids.foldl (fun document id => document.expireView now id) document) now ids := by
  induction ids generalizing document with
  | nil => exact ⟨sound, fun id view found => .inr ⟨List.not_mem_nil, found⟩⟩
  | cons first ids ih =>
      obtain ⟨new, distinct⟩ := List.nodup_cons.mp distinct
      have next := expireView_sound positive sound (active first List.mem_cons_self)
      have rest := ih distinct next (fun id member view found => by
        rcases expireView_lookup found with ⟨-, before⟩ | ⟨same, -⟩
        · exact active id (List.mem_cons_of_mem _ member) view before
        · exact absurd (same ▸ member) new)
      refine ⟨rest.sound, fun id view found => ?_⟩
      rcases rest.views id view found with ⟨member, ends⟩ | ⟨other, before⟩
      · exact .inl ⟨List.mem_cons_of_mem _ member, ends⟩
      · rcases expireView_lookup before with ⟨differs, before⟩ | ⟨same, ends⟩
        · refine .inr ⟨fun member => ?_, before⟩
          rcases List.mem_cons.mp member with same | member
          · exact differs same
          · exact other member
        · exact .inl ⟨same ▸ List.mem_cons_self, ends⟩

/-- Where all views are active, none is when all have expired. -/
theorem expireViews_sound {document : Document} {now : Nat} (positive : 0 < now)
    (sound : document.Sound now)
    (active
      : ∀ id view, document.views.lookup id = some view → view.isExpired now = false)
    : (document.expireViews now).Sound now ∧ (document.expireViews now).activeCount now = 0 := by
  have all := foldl_expireView positive (AList.keys_nodup document.views) sound
    (fun id _ view found => active id view found)
  refine ⟨all.sound, tally_eq_zero_iff.mpr fun id view found => ?_⟩
  rcases all.views id view found with ⟨-, ends⟩ | ⟨other, before⟩
  · refine activeWeight_of_expired (decide_eq_true ?_)
    rw [ends]
    exact ⟨Nat.pos_iff_ne_zero.mp positive, Nat.le_refl now⟩
  · exact absurd (AList.mem_keys.mp (mem_of_lookup before)) other

end Document

-----------------------------------------------------------------------------------------
-- The model
-----------------------------------------------------------------------------------------

/-- A document in the map has active views, and no end. -/
structure Document.Present (document : Document) (now : Nat) : Prop extends
    document.Sound now where
  endTime : document.endTime = 0
  active : 0 < document.activeCount now

/-- What all calls keep that expire no view twice. -/
structure AdminInvariant (model : AdminModel) : Prop where
  positive : 0 < model.now
  documents
    : ∀ docKey document,
        model.documents.lookup docKey = some document → document.Present model.now
  expired
    : ∀ docKey document,
        model.expiredDocuments.lookup docKey = some document
        → document.Sound model.now ∧ document.activeCount model.now = 0

/-- The invariant contains what is claimed of every state. -/
theorem AdminInvariant.accounts {model : AdminModel} (invariant : AdminInvariant model)
    : Accounts model where
  counted docKey document found := (invariant.documents docKey document found).counted
  present docKey document found := (invariant.documents docKey document found).active
  expired docKey document found := by
    obtain ⟨sound, none'⟩ := invariant.expired docKey document found
    exact ⟨sound.counted.trans none', none'⟩

/-- A new model has no documents. -/
theorem adminInvariant_new (start : Nat) : AdminInvariant (AdminModel.new start) where
  positive := Nat.succ_pos start
  documents _ _ found := nomatch found
  expired _ _ found := nomatch found

/-- A document with a view may be put in place of another one. -/
theorem AdminInvariant.insert {model : AdminModel} (invariant : AdminInvariant model)
    (docKey : Text) {document : Document} (present : document.Present model.now)
    : AdminInvariant { model with documents := model.documents.insert docKey document } where
  positive := invariant.positive
  documents other found found' := by
    dsimp only at found'
    by_cases same : other = docKey
    · rw [same, AList.lookup_insert] at found'
      cases found'
      exact present
    · rw [AList.lookup_insert_ne same] at found'
      exact invariant.documents other found found'
  expired := invariant.expired

/-- A document without active views may be moved to the expired ones. -/
theorem AdminInvariant.moveToExpired {model : AdminModel} (invariant : AdminInvariant model)
    (docKey : Text) {document : Document} (sound : document.Sound model.now)
    (none' : document.activeCount model.now = 0)
    : AdminInvariant (model.moveToExpired docKey document) where
  positive := invariant.positive
  documents other found found' := by
    dsimp only [AdminModel.moveToExpired] at found'
    by_cases same : other = docKey
    · rw [same, AList.lookup_erase] at found'
      cases found'
    · rw [AList.lookup_erase_ne same] at found'
      exact invariant.documents other found found'
  expired other found found' := by
    rcases lookup_emplace found' with before | ⟨-, rfl⟩
    · exact invariant.expired other found before
    · exact ⟨sound, none'⟩

/-- Time keeps the invariant, since it changes no count. -/
theorem AdminInvariant.tick {model : AdminModel} (invariant : AdminInvariant model)
    (seconds : Nat)
    : AdminInvariant { model with now := model.now + seconds } where
  positive := Nat.lt_add_right seconds invariant.positive
  documents docKey document found := by
    have present := invariant.documents docKey document found
    obtain ⟨sound, same⟩ := present.toSound.later (Nat.le_add_right model.now seconds)
    exact ⟨sound, present.endTime, same ▸ present.active⟩
  expired docKey document found := by
    obtain ⟨sound, none'⟩ := invariant.expired docKey document found
    obtain ⟨later, same⟩ := sound.later (Nat.le_add_right model.now seconds)
    exact ⟨later, same.trans none'⟩

/-- A view is added to a new document or to one that is there. -/
theorem AdminInvariant.addDocument {model : AdminModel} (invariant : AdminInvariant model)
    (docKey : Text) (pid : Nat) (filename sessionId userName userId : Text)
    (room
      : ∀ document ∈ model.documents.lookup docKey,
          sessionId ∉ document.views → document.activeCount model.now + 1 < 2 ^ 32)
    : AdminInvariant (model.addDocument docKey pid filename sessionId userName userId) := by
  unfold AdminModel.addDocument
  dsimp only
  cases found : model.documents.lookup docKey with
  | some document =>
      have present := invariant.documents docKey document found
      rw [emplace_of_mem _ (mem_of_lookup found), found]
      refine invariant.insert docKey ⟨?_, ?_, ?_⟩
      · exact Document.addView_sound present.toSound (room document found) ..
      · rw [Document.addView_endTime]
        exact present.endTime
      · exact Document.addView_present present.active ..
  | none =>
      rw [emplace_of_notMem _ (AList.lookup_eq_none.mp found), AList.lookup_insert]
      dsimp only
      rw [AList.insert_insert]
      refine invariant.insert docKey ⟨?_, ?_, Document.addView_new ..⟩
      · exact Document.addView_sound (Document.new_sound ..) (fun _ => show 0 + 1 < 2 ^ 32 by decide) ..
      · rw [Document.addView_endTime]
        rfl

/-- A document of the map is not expired, so a removal reaches its view. -/
theorem removeDocument_found {model : AdminModel} (invariant : AdminInvariant model)
    {docKey : Text} {document : Document}
    (found : model.documents.lookup docKey = some document) (sessionId : Text)
    : model.removeDocument docKey sessionId
      = if (document.expireView model.now sessionId).activeViews = 0 then
          model.moveToExpired docKey (document.expireView model.now sessionId)
        else
          {
            model with
            documents :=
              model.documents.insert docKey (document.expireView model.now sessionId)
          } := by
  have alive : ¬ document.isExpired model.now = true := by
    intro expired
    exact (of_decide_eq_true expired).1 (invariant.documents docKey document found).endTime
  rw [AdminModel.removeDocument, found]
  exact if_neg alive

/-- A document that is unknown is not removed. -/
theorem removeDocument_none {model : AdminModel} {docKey : Text}
    (absent : model.documents.lookup docKey = none) (sessionId : Text)
    : model.removeDocument docKey sessionId = model := by
  rw [AdminModel.removeDocument, absent]

/-- A view leaves: its document stays if another view is active, and expires otherwise. -/
theorem AdminInvariant.removeDocument {model : AdminModel} (invariant : AdminInvariant model)
    (docKey sessionId : Text)
    (active
      : ∀ document ∈ model.documents.lookup docKey,
          ∀ view ∈ document.views.lookup sessionId, view.isExpired model.now = false)
    : AdminInvariant (model.removeDocument docKey sessionId)
      ∧ StaysWithViews model (.removeDocument docKey sessionId) := by
  cases found : model.documents.lookup docKey with
  | none =>
      rw [removeDocument_none found]
      exact ⟨invariant, fun document found' => nomatch found.symm.trans found'⟩
  | some document =>
      have present := invariant.documents docKey document found
      have sound := Document.expireView_sound invariant.positive present.toSound
        (active document found)
      have left := removeDocument_found invariant found sessionId
      unfold StaysWithViews
      rw [left]
      split
      · next zero =>
          have none' : (document.expireView model.now sessionId).activeCount model.now = 0 := by
            rw [← sound.counted, zero]
            rfl
          refine ⟨invariant.moveToExpired docKey sound none', fun other found' => ?_⟩
          cases found.symm.trans found'
          rw [left, if_pos zero, none']
          refine iff_of_false ?_ (Nat.lt_irrefl 0)
          exact fun member => (AList.mem_erase.mp member).1 rfl
      · next some' =>
          have positive
              : 0 < (document.expireView model.now sessionId).activeCount model.now := by
            rw [← sound.counted]
            exact Nat.pos_iff_ne_zero.mpr
              (fun zero => some' (UInt32.toNat_inj.mp zero))
          have endTime := (Document.expireView_endTime some').trans present.endTime
          refine ⟨invariant.insert docKey ⟨sound, endTime, positive⟩, fun other found' => ?_⟩
          cases found.symm.trans found'
          rw [left, if_neg some']
          exact iff_of_true ((AList.mem_insert _).mpr (.inl rfl)) positive

/-- All views of a document expire, and the document with them. -/
theorem AdminInvariant.removeWholeDocument {model : AdminModel}
    (invariant : AdminInvariant model) (docKey : Text)
    (active
      : ∀ document ∈ model.documents.lookup docKey,
          ∀ entry ∈ document.views.entries, entry.2.isExpired model.now = false)
    : AdminInvariant (model.removeWholeDocument docKey)
      ∧ StaysWithViews model (.removeWholeDocument docKey) := by
  unfold StaysWithViews AdminModel.removeWholeDocument
  cases found : model.documents.lookup docKey with
  | none => exact ⟨invariant, fun document found' => nomatch found.symm.trans found'⟩
  | some document =>
      have present := invariant.documents docKey document found
      obtain ⟨sound, none'⟩ := Document.expireViews_sound invariant.positive present.toSound
        (fun id view member => active document found ⟨id, view⟩ (AList.mem_lookup_iff.mp member))
      refine ⟨invariant.moveToExpired docKey sound none', fun other found' => ?_⟩
      cases found.symm.trans found'
      rw [found]
      exact ⟨fun member => (AList.mem_erase.mp member).1 rfl, none'⟩

/-- The count goes down by one for the view that leaves. -/
theorem AdminInvariant.removesOnce {model : AdminModel} (invariant : AdminInvariant model)
    {docKey sessionId : Text}
    (active
      : ∀ document ∈ model.documents.lookup docKey,
          ∀ view ∈ document.views.lookup sessionId, view.isExpired model.now = false)
    : RemovesOnce model (.removeDocument docKey sessionId) := by
  cases found : model.documents.lookup docKey with
  | none =>
      dsimp only [RemovesOnce]
      rw [removeDocument_none found]
      refine ⟨?_, fun _ => ⟨rfl, fun _ => rfl, fun _ => rfl⟩⟩
      rintro ⟨document, view, present, -⟩
      cases found.symm.trans present
  | some document =>
      have left := removeDocument_found invariant found sessionId
      constructor
      · rintro ⟨after, view, present, member, alive⟩
        rw [left] at present alive
        split at present
        · rw [AdminModel.moveToExpired, AList.lookup_erase] at present
          cases present
        · next some' =>
            rw [if_neg some'] at alive
            rw [AList.lookup_insert] at present
            cases present
            rcases Document.expireView_lookup member with ⟨differs, -⟩ | ⟨-, ends⟩
            · exact differs rfl
            · refine absurd alive (ne_false_of_eq_true (decide_eq_true ?_))
              rw [ends]
              exact ⟨Nat.pos_iff_ne_zero.mp invariant.positive, Nat.le_refl _⟩
      · intro gone
        have absent : document.views.lookup sessionId = none := by
          cases view : document.views.lookup sessionId with
          | none => rfl
          | some view' =>
              exact absurd ⟨document, view', found, view, active document found view' view⟩ gone
        have present := invariant.documents docKey document found
        have some' : document.activeViews ≠ 0 := by
          intro zero
          have positive := present.active
          rw [← present.counted, zero] at positive
          exact Nat.lt_irrefl 0 positive
        rw [left, Document.expireView_none _ absent, if_neg some']
        refine ⟨rfl, fun other => ?_, fun _ => rfl⟩
        by_cases same : other = docKey
        · rw [same, AList.lookup_insert, found]
        · rw [AList.lookup_insert_ne same]

-----------------------------------------------------------------------------------------
-- Runs
-----------------------------------------------------------------------------------------

/-- One call, by cases on it: it keeps the invariant and does what is claimed of it. -/
theorem adminStep_keeps {model : AdminModel} (invariant : AdminInvariant model)
    {call : AdminCall} (once : ExpiresOnce model call)
    : AdminInvariant (adminStep model call) ∧ StaysWithViews model call
      ∧ RemovesOnce model call := by
  cases call with
  | tick seconds => exact ⟨invariant.tick seconds, trivial, trivial⟩
  | addDocument docKey pid filename sessionId userName userId =>
      exact ⟨invariant.addDocument docKey pid filename sessionId userName userId once, trivial,
        trivial⟩
  | removeDocument docKey sessionId =>
      obtain ⟨kept, stays⟩ := invariant.removeDocument docKey sessionId once
      exact ⟨kept, stays, invariant.removesOnce once⟩
  | removeWholeDocument docKey =>
      obtain ⟨kept, stays⟩ := invariant.removeWholeDocument docKey once
      exact ⟨kept, stays, trivial⟩

/-- As long as no view expires twice, the counters agree with the views in every state, a
document is in the map exactly as long as it has active views, and removing a session again
makes no difference.
-/
theorem adminModel_accounts (start : Nat) (calls : List AdminCall)
    (once
      : AllSteps (fun model call => some (adminStep model call)) ExpiresOnce
          (AdminModel.new start) calls)
    : AllStates (fun model call => some (adminStep model call)) Accounts
        (AdminModel.new start) calls
      ∧ AllSteps (fun model call => some (adminStep model call))
        (fun model call => StaysWithViews model call ∧ RemovesOnce model call)
        (AdminModel.new start) calls := by
  have invariant
      : AllStates (fun model call => some (adminStep model call)) AdminInvariant
          (AdminModel.new start) calls := by
    refine allStates_of_meets ?_ (adminInvariant_new start) once
    rintro model call _ kept meets ⟨⟩
    exact (adminStep_keeps kept meets).1
  constructor
  · intro done rest reached split ran
    exact (invariant done rest reached split ran).accounts
  · intro done call rest reached split ran
    have kept := invariant done (call :: rest) reached split ran
    exact (adminStep_keeps kept (once done call rest reached split ran)).2

/-- Two sessions open a document, leave, and the second one is removed again. -/
def leavingSessions : List AdminCall :=
  [.addDocument "d".toList 1 "f".toList "a".toList "u".toList "i".toList,
    .addDocument "d".toList 1 "f".toList "b".toList "u".toList "i".toList,
    .removeDocument "d".toList "a".toList, .tick 1, .removeDocument "d".toList "b".toList,
    .removeDocument "d".toList "b".toList]

/-- Two sessions join and both leave, one of them twice. -/
theorem adminModel_accounts_leaving
    : AllStates (fun model call => some (adminStep model call)) Accounts (AdminModel.new 0)
        leavingSessions
      ∧ AllSteps (fun model call => some (adminStep model call))
        (fun model call => StaysWithViews model call ∧ RemovesOnce model call)
        (AdminModel.new 0) leavingSessions := by
  refine adminModel_accounts 0 leavingSessions ?_
  refine .cons (by decide +kernel) rfl (.cons (by decide +kernel) rfl ?_)
  refine .cons (by decide +kernel) rfl (.cons (by decide +kernel) rfl ?_)
  refine .cons (by decide +kernel) rfl (.cons (by decide +kernel) rfl ?_)
  exact fun done _ _ _ split => absurd split (by simp)

/-- Two sessions of a document, the first of which leaves. -/
def firstSessionLeaves : List AdminCall :=
  leavingSessions.take 3

/-- The first session is removed once more, or the document with it: the counter runs ahead
of the views, so that the document expires with a view, or beyond zero.
-/
theorem repeatedRemoval_miscounts
    : (∀ again ∈ [AdminCall.removeDocument "d".toList "a".toList,
          .removeWholeDocument "d".toList],
        ¬ AllStates (fun model call => some (adminStep model call)) Accounts (AdminModel.new 0)
          (firstSessionLeaves ++ [again]))
      ∧ ∃ model,
          stepRun (fun model call => some (adminStep model call)) (AdminModel.new 0)
              (leavingSessions.take 2) = some model
          ∧ ¬ SameModel
            ((model.removeDocument "d".toList "a".toList).removeDocument "d".toList "a".toList)
            (model.removeDocument "d".toList "a".toList) := by
  constructor
  · have wrong
        : ∀ again ∈ [AdminCall.removeDocument "d".toList "a".toList,
            .removeWholeDocument "d".toList],
          ((firstSessionLeaves ++ [again]).foldl adminStep
            (AdminModel.new 0)).expiredDocuments.lookup "d".toList |>.any
          (fun document =>
            decide ¬ (document.activeViews.toNat = 0
              ∧ document.activeCount
                ((firstSessionLeaves ++ [again]).foldl adminStep (AdminModel.new 0)).now = 0)) := by
      decide +kernel
    intro again member all
    obtain ⟨document, found, differs⟩ := (Option.any_eq_true _ _).mp (wrong again member)
    refine of_decide_eq_true differs ?_
    exact (all _ [] _ (List.append_nil _).symm (stepRun_total ..)).expired _ document found
  · refine ⟨_, stepRun_total .., fun same => ?_⟩
    have gone
        : ((((leavingSessions.take 2).foldl adminStep (AdminModel.new 0)).removeDocument
            "d".toList "a".toList).removeDocument "d".toList "a".toList).documents.lookup
              "d".toList |>.isNone := by
      decide +kernel
    have there
        : (((leavingSessions.take 2).foldl adminStep (AdminModel.new 0)).removeDocument
            "d".toList "a".toList).documents.lookup "d".toList |>.isSome := by
      decide +kernel
    rw [← same.documents, Option.isNone_iff_eq_none.mp gone] at there
    cases there

end NdcOdfWeb.Admin
