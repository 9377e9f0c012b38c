import NdcOdfWeb.Foundation.Decimal
import NdcOdfWeb.Foundation.StepRun
import NdcOdfWeb.Foundation.Tally

/-! The documents and views of the admin console (`AdminModel`). Times are in seconds. -/

namespace NdcOdfWeb.Admin

open NdcOdfWeb.Foundation

/-- `View`: a client view in the admin controller. -/
structure View where
  sessionId : Text
  userName : Text
  userId : Text
  start : Nat
  endTime : Nat

namespace View

def new (sessionId userName userId : Text) (now : Nat) : View :=
  { sessionId, userName, userId, start := now, endTime := 0 }

def expire (view : View) (now : Nat) : View :=
  { view with endTime := now }

def isExpired (view : View) (now : Nat) : Bool :=
  decide (view.endTime ≠ 0 ∧ view.endTime ≤ now)

end View

/-- `Document`: a document in the admin controller. -/
structure Document where
  docKey : Text
  pid : Nat
  filename : Text
  views : KeyedMap Text View
  /-- Total number of active views. -/
  activeViews : UInt32
  start : Nat
  endTime : Nat

namespace Document

def new (docKey : Text) (pid : Nat) (filename : Text) (now : Nat) : Document :=
  { docKey, pid, filename, views := ∅, activeViews := 0, start := now, endTime := 0 }

def isExpired (document : Document) (now : Nat) : Bool :=
  decide (document.endTime ≠ 0 ∧ document.endTime ≤ now)

/-- `addView`: a session that is there already is not added. -/
def addView (document : Document) (sessionId userName userId : Text) (now : Nat) : Document :=
  if sessionId ∈ document.views then document
  else
    {
      document with
      views := document.views.insert sessionId (View.new sessionId userName userId now)
      activeViews := document.activeViews + 1
    }

/-- `expireView`: if last view, expire the document also. -/
def expireView (document : Document) (now : Nat) (sessionId : Text) : Document :=
  match document.views.lookup sessionId with
  | none => document
  | some it =>
      let activeViews := document.activeViews - 1
      {
        document with
        views := document.views.insert sessionId (it.expire now)
        activeViews
        endTime := if activeViews = 0 then now else document.endTime
      }

/-- `expireView` for every view. -/
def expireViews (document : Document) (now : Nat) : Document :=
  document.views.keys.foldl (fun document id => document.expireView now id) document

end Document

/-- `AdminModel`, with the time of `std::time`. -/
structure AdminModel where
  now : Nat
  documents : KeyedMap Text Document
  expiredDocuments : KeyedMap Text Document

namespace AdminModel

/-- An empty model; the time is not 0. -/
def new (start : Nat) : AdminModel where
  now := start + 1
  documents := ∅
  expiredDocuments := ∅

/-- `addDocument`. -/
def addDocument (model : AdminModel) (docKey : Text) (pid : Nat)
    (filename sessionId userName userId : Text)
    : AdminModel :=
  let documents := emplace model.documents docKey (Document.new docKey pid filename model.now)
  match documents.lookup docKey with
  | none => { model with documents }
  | some document =>
      {
        model with
        documents :=
          documents.insert docKey (document.addView sessionId userName userId model.now)
      }

/-- A document is moved to the expired ones, where a document that expired before stays. -/
def moveToExpired (model : AdminModel) (docKey : Text) (document : Document) : AdminModel :=
  {
    model with
    documents := model.documents.erase docKey
    expiredDocuments := emplace model.expiredDocuments docKey document
  }

/-- `removeDocument` of a session. -/
def removeDocument (model : AdminModel) (docKey sessionId : Text) : AdminModel :=
  match model.documents.lookup docKey with
  | none => model
  | some document =>
      if document.isExpired model.now then model
      else
        let expired := document.expireView model.now sessionId
        if expired.activeViews = 0 then model.moveToExpired docKey expired
        else { model with documents := model.documents.insert docKey expired }

/-- `removeDocument` of a key: all views expire. -/
def removeWholeDocument (model : AdminModel) (docKey : Text) : AdminModel :=
  match model.documents.lookup docKey with
  | none => model
  | some document => model.moveToExpired docKey (document.expireViews model.now)

end AdminModel

/-- What happens to a model: the time passes, or one of its functions is called. -/
inductive AdminCall where
  | tick (seconds : Nat)
  | addDocument (docKey : Text) (pid : Nat) (filename sessionId userName userId : Text)
  | removeDocument (docKey sessionId : Text)
  | removeWholeDocument (docKey : Text)

def adminStep (model : AdminModel) : AdminCall → AdminModel
  | .tick seconds => { model with now := model.now + seconds }
  | .addDocument docKey pid filename sessionId userName userId =>
      model.addDocument docKey pid filename sessionId userName userId
  | .removeDocument docKey sessionId => model.removeDocument docKey sessionId
  | .removeWholeDocument docKey => model.removeWholeDocument docKey

-----------------------------------------------------------------------------------------
-- Accounting
-----------------------------------------------------------------------------------------

/-- Whether a view counts as active. -/
def activeWeight (now : Nat) (view : View) : Nat :=
  if view.isExpired now then 0 else 1

/-- The number of views that are not expired. -/
def Document.activeCount (document : Document) (now : Nat) : Nat :=
  tally (activeWeight now) document.views

/-- The counters agree with the views; documents have active views as long as they are in the
map, and none once they expired.
-/
structure Accounts (model : AdminModel) : Prop where
  counted
    : ∀ docKey document,
        model.documents.lookup docKey = some document
        → document.activeViews.toNat = document.activeCount model.now
  present
    : ∀ docKey document,
        model.documents.lookup docKey = some document
        → 0 < document.activeCount model.now
  expired
    : ∀ docKey document,
        model.expiredDocuments.lookup docKey = some document
        → document.activeViews.toNat = 0 ∧ document.activeCount model.now = 0

/-- A document's view of a session that is in the map and not expired. -/
def HasActiveView (model : AdminModel) (docKey sessionId : Text) : Prop :=
  ∃ document view,
    model.documents.lookup docKey = some document
    ∧ document.views.lookup sessionId = some view
    ∧ view.isExpired model.now = false

/-- Maps with the same entries, in whichever order. -/
structure SameModel (model other : AdminModel) : Prop where
  now : model.now = other.now
  documents : ∀ docKey, model.documents.lookup docKey = other.documents.lookup docKey
  expiredDocuments
    : ∀ docKey, model.expiredDocuments.lookup docKey = other.expiredDocuments.lookup docKey

/-- A document stays in the map through a removal exactly if it has an active view left. -/
def StaysWithViews (model : AdminModel) : AdminCall → Prop
  | .removeDocument docKey sessionId =>
      ∀ document,
        model.documents.lookup docKey = some document
        → (docKey ∈ (model.removeDocument docKey sessionId).documents
          ↔ 0 < (document.expireView model.now sessionId).activeCount model.now)
  | .removeWholeDocument docKey =>
      ∀ document,
        model.documents.lookup docKey = some document
        → docKey ∉ (model.removeWholeDocument docKey).documents
          ∧ (document.expireViews model.now).activeCount model.now = 0
  | _ => True

/-- A session that is removed has no active view, and to remove it again makes no difference. -/
def RemovesOnce (model : AdminModel) : AdminCall → Prop
  | .removeDocument docKey sessionId =>
      ¬ HasActiveView (model.removeDocument docKey sessionId) docKey sessionId
      ∧ (¬ HasActiveView model docKey sessionId
        → SameModel (model.removeDocument docKey sessionId) model)
  | _ => True

/-- No view that expired is expired once more, and a new view can be counted. -/
def ExpiresOnce (model : AdminModel) : AdminCall → Prop
  | .tick _ => True
  | .addDocument docKey _ _ sessionId _ _ =>
      ∀ document ∈ model.documents.lookup docKey,
        sessionId ∉ document.views → document.activeCount model.now + 1 < 2 ^ 32
  | .removeDocument docKey sessionId =>
      ∀ document ∈ model.documents.lookup docKey,
        ∀ view ∈ document.views.lookup sessionId, view.isExpired model.now = false
  | .removeWholeDocument docKey =>
      ∀ document ∈ model.documents.lookup docKey,
        ∀ entry ∈ document.views.entries, entry.2.isExpired model.now = false

instance (model : AdminModel) : ∀ call, Decidable (ExpiresOnce model call)
  | .tick _ => inferInstanceAs (Decidable True)
  | .addDocument docKey _ _ sessionId _ _ =>
      inferInstanceAs (Decidable (∀ document ∈ model.documents.lookup docKey,
        sessionId ∉ document.views → document.activeCount model.now + 1 < 2 ^ 32))
  | .removeDocument docKey sessionId =>
      inferInstanceAs (Decidable (∀ document ∈ model.documents.lookup docKey,
        ∀ view ∈ document.views.lookup sessionId, view.isExpired model.now = false))
  | .removeWholeDocument docKey =>
      inferInstanceAs (Decidable (∀ document ∈ model.documents.lookup docKey,
        ∀ entry ∈ document.views.entries, entry.2.isExpired model.now = false))

end NdcOdfWeb.Admin
