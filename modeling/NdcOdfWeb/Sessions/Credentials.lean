import Mathlib.Data.List.Induction
import NdcOdfWeb.Sessions.LoadOptions

/-! What a client's load message does to the fields that the storage's file info sets. -/

namespace NdcOdfWeb.Sessions

open NdcOdfWeb.Foundation

/-- The identity and the privileges of a session. -/
@[ext]
structure Credentials where
  userId : Text
  userName : Text
  userExtraInfo : Text
  watermarkText : Text
  isReadOnly : Bool
deriving DecidableEq, Repr

def Session.credentials (session : Session) : Credentials where
  userId := session.userId
  userName := session.userName
  userExtraInfo := session.userExtraInfo
  watermarkText := session.watermarkText
  isReadOnly := session.isReadOnly

/-- The credentials that the file info gives to a session. -/
def UserInfo.credentials (info : UserInfo) (readOnly : Bool) : Credentials where
  userId := info.userId
  userName := info.username
  userExtraInfo := info.userExtraInfo
  watermarkText := info.watermarkText
  isReadOnly := readOnly || !info.userCanWrite || info.isViewFileExtension

-----------------------------------------------------------------------------------------
-- Options
-----------------------------------------------------------------------------------------

/-- Whether an option with its value ends the parsing. -/
def throws (host : Host) (option : OptionName × Text) : Bool :=
  match option.1 with
  | .authorid | .xauthorid | .author | .xauthor | .authorextrainfo | .password | .watermarkText =>
      (host.decode option.2).2
  | .watermarkOpacity => (host.stod option.2).isNone
  | _ => false

/-- The options up to the first one that throws. -/
def processed (host : Host) : List (OptionName × Text) → List (OptionName × Text)
  | [] => []
  | option :: rest => if throws host option then [option] else option :: processed host rest

/-- The credentials after one more option. -/
def Credentials.setOption (host : Host) (credentials : Credentials) (option : OptionName × Text)
    : Credentials :=
  let decoded := (host.decode option.2).1
  match option.1 with
  | .authorid => { credentials with userId := credentials.userId ++ decoded }
  | .author => { credentials with userName := credentials.userName ++ decoded }
  | .authorextrainfo => { credentials with userExtraInfo := credentials.userExtraInfo ++ decoded }
  | .watermarkText => { credentials with watermarkText := credentials.watermarkText ++ decoded }
  | .readonly => { credentials with isReadOnly := option.2 != ['0'] }
  | _ => credentials

/-- Each option sets a credential or none, by cases on its name. -/
theorem setOption_credentials (host : Host) (options : DocOptions) (name : OptionName)
    (value : Text)
    : (options.setOption host name value).1.session.credentials
      = options.session.credentials.setOption host (name, value) := by
  unfold DocOptions.setOption
  cases name with
  | authorid | author | authorextrainfo | watermarkText | xauthorid | xauthor | password =>
      dsimp only
      split <;> rfl
  | watermarkOpacity =>
      dsimp only
      split <;> rfl
  | url | jail | xjail | readonly | lang | timezone | timestamp | template => rfl

/-- Only the decoding throws. -/
theorem setOption_throws (host : Host) (options : DocOptions) (name : OptionName) (value : Text)
    : (options.setOption host name value).2.isSome = throws host (name, value) := by
  unfold DocOptions.setOption throws
  cases name with
  | authorid | author | authorextrainfo | watermarkText | xauthorid | xauthor | password =>
      dsimp only
      cases (host.decode value).2 <;> rfl
  | watermarkOpacity =>
      dsimp only
      cases host.stod value <;> rfl
  | url | jail | xjail | readonly | lang | timezone | timestamp | template => rfl

/-- By induction on the tokens. -/
theorem setOptions_credentials (host : Host) (tokens : List Text) (options : DocOptions)
    : (options.setOptions host tokens).1.session.credentials
      = (processed host (tokens.filterMap readOption)).foldl (Credentials.setOption host)
          options.session.credentials := by
  induction tokens generalizing options with
  | nil => rfl
  | cons token tokens ih =>
      rw [DocOptions.setOptions, List.filterMap_cons]
      cases readOption token with
      | none => exact ih options
      | some option =>
          obtain ⟨name, value⟩ := option
          have credentials := setOption_credentials host options name value
          have same := setOption_throws host options name value
          dsimp only
          rw [processed, ← same]
          generalize options.setOption host name value = result at credentials ⊢
          obtain ⟨after, thrown⟩ := result
          cases thrown with
          | none =>
              exact (ih after).trans (congrArg (List.foldl (Credentials.setOption host) ·
                (processed host (tokens.filterMap readOption))) credentials)
          | some thrown => exact credentials

/-- The part is read first, and then the options. -/
theorem parseDocOptions_credentials (host : Host) (session : Session) (tokens : List Text)
    (part : Int32)
    : (parseDocOptions host session tokens part).1.session.credentials
      = (processed host ((loadTokens tokens part).2.filterMap readOption)).foldl
          (Credentials.setOption host) session.credentials := by
  unfold parseDocOptions
  rw [← setOptions_credentials host _
    ⟨session, (loadTokens tokens part).1, [], [],
      tokens.length - (loadTokens tokens part).2.length⟩]
  dsimp only
  split
  · next same => rw [same]
  · next same =>
      rw [same]
      split
      · rfl
      · split <;> rfl

-----------------------------------------------------------------------------------------
-- Options that change nothing
-----------------------------------------------------------------------------------------

/-- What the options of a name append to their field. -/
def appended (host : Host) (name : OptionName) (options : List (OptionName × Text)) : Text :=
  (options.filter (·.1 = name)).flatMap (fun option => (host.decode option.2).1)

/-- The value of the last readonly option. -/
def lastReadOnly (options : List (OptionName × Text)) : Option Text :=
  (options.filter (·.1 = .readonly)).getLast?.map (·.2)

/-- All options together append to four fields and set the flag to the last value. -/
theorem foldl_setOption (host : Host) (options : List (OptionName × Text))
    (credentials : Credentials)
    : options.foldl (Credentials.setOption host) credentials
      = {
          userId := credentials.userId ++ appended host .authorid options
          userName := credentials.userName ++ appended host .author options
          userExtraInfo := credentials.userExtraInfo ++ appended host .authorextrainfo options
          watermarkText := credentials.watermarkText ++ appended host .watermarkText options
          isReadOnly := (lastReadOnly options).elim credentials.isReadOnly (· != ['0'])
        } := by
  induction options using List.reverseRecOn with
  | nil => simp [appended, lastReadOnly]
  | append_singleton options option ih =>
      rw [List.foldl_append, ih]
      obtain ⟨name, value⟩ := option
      cases name <;> simp [Credentials.setOption, appended, lastReadOnly, List.filter_append]

/-- The option appends to one of the credentials. -/
def OptionName.isIdentity : OptionName → Bool
  | .authorid | .author | .authorextrainfo | .watermarkText => true
  | _ => false

/-- No option of the load message appends to a credential, and the last readonly option says
what the session's flag says. Options behind one that throws do not matter.
-/
def KeepsCredentials (host : Host) (readOnly : Bool) (tokens : List Text) : Prop :=
  let options := processed host ((loadTokens tokens (-1)).2.filterMap readOption)
  (∀ option ∈ options, option.1.isIdentity → (host.decode option.2).1 = [])
  ∧ ∀ value, lastReadOnly options = some value → (value != ['0']) = readOnly

/-- Nothing is appended if each value is empty. -/
theorem append_appended_iff (host : Host) (name : OptionName) (options : List (OptionName × Text))
    (field : Text)
    : field ++ appended host name options = field
      ↔ ∀ option ∈ options, option.1 = name → (host.decode option.2).1 = [] := by
  rw [List.append_right_eq_self, appended, List.flatMap_eq_nil_iff]
  simp only [List.mem_filter, decide_eq_true_eq, and_imp]

/-- The last readonly= decides, if there is one. -/
theorem elim_lastReadOnly_iff (options : List (OptionName × Text)) (readOnly : Bool)
    : (lastReadOnly options).elim readOnly (· != ['0']) = readOnly
      ↔ ∀ value, lastReadOnly options = some value → (value != ['0']) = readOnly := by
  cases lastReadOnly options with
  | none =>
      constructor
      · intro same value isSome
        cases isSome
      · exact fun _ => rfl
  | some last =>
      exact ⟨fun same value isLast => Option.some.inj isLast ▸ same, fun all => all last rfl⟩

/-- Identities are appended to, and the last readonly= decides. -/
theorem foldl_setOption_eq_iff (host : Host) (options : List (OptionName × Text))
    (credentials : Credentials)
    : options.foldl (Credentials.setOption host) credentials = credentials
      ↔ (∀ option ∈ options, option.1.isIdentity → (host.decode option.2).1 = [])
        ∧ ∀ value,
            lastReadOnly options = some value → (value != ['0']) = credentials.isReadOnly := by
  rw [foldl_setOption, Credentials.ext_iff]
  simp only [append_appended_iff, elim_lastReadOnly_iff]
  constructor
  · rintro ⟨userId, userName, userExtraInfo, watermarkText, isReadOnly⟩
    refine ⟨?_, isReadOnly⟩
    rintro ⟨name, value⟩ member isIdentity
    cases name with
    | authorid => exact userId _ member rfl
    | author => exact userName _ member rfl
    | authorextrainfo => exact userExtraInfo _ member rfl
    | watermarkText => exact watermarkText _ member rfl
    | _ => cases isIdentity
  · rintro ⟨identity, isReadOnly⟩
    have named {name : OptionName} (isIdentity : name.isIdentity) (option : OptionName × Text)
        (member : option ∈ options) (isName : option.1 = name)
        : (host.decode option.2).1 = [] := by
      subst isName
      exact identity option member isIdentity
    exact ⟨named rfl, named rfl, named rfl, named rfl, isReadOnly⟩

/-- The load's tokens are the options. -/
theorem loadDocument_credentials (host : Host) (session : Session) (tokens : List Text)
    : (loadDocument host session tokens).session.credentials
      = (processed host ((loadTokens tokens (-1)).2.filterMap readOption)).foldl
          (Credentials.setOption host) session.credentials := by
  unfold loadDocument
  split
  · next short =>
      match tokens with
      | [] => rfl
      | [load] => rfl
      | _ :: _ :: rest => exact absurd short (by simp)
  · rw [← parseDocOptions_credentials]
    split <;> next same => rw [same]

/-- A second load is rejected before it is parsed. -/
theorem handleLoad_credentials_eq_iff (host : Host) (session : Session) (tokens : List Text)
    : (handleLoad host session tokens).session.credentials = session.credentials
      ↔ session.docURL ≠ [] ∨ KeepsCredentials host session.isReadOnly tokens := by
  unfold handleLoad
  split
  · next loaded => exact ⟨fun _ => .inl loaded, fun _ => rfl⟩
  · next first =>
      rw [loadDocument_credentials, foldl_setOption_eq_iff]
      exact ⟨.inr, fun keeps => keeps.resolve_left first⟩

/-- Two load messages of a client leave the credentials as the storage gave them exactly if
neither has an option that changes one.
-/
theorem handleLoad_credentials_iff (host : Host) (session : Session) (info : UserInfo)
    (tokens others : List Text)
    : (let load := fun tokens => (handleLoad host (session.setUserInfo info) tokens).session
       (load tokens).credentials = info.credentials session.isReadOnly
       ∧ (load others).credentials = info.credentials session.isReadOnly
       ∧ (load tokens).credentials = (load others).credentials)
      ↔ session.docURL ≠ []
        ∨ (KeepsCredentials host (info.credentials session.isReadOnly).isReadOnly tokens
          ∧ KeepsCredentials host (info.credentials session.isReadOnly).isReadOnly others) := by
  have given (tokens : List Text)
      : (handleLoad host (session.setUserInfo info) tokens).session.credentials
          = info.credentials session.isReadOnly
        ↔ session.docURL ≠ []
          ∨ KeepsCredentials host (info.credentials session.isReadOnly).isReadOnly tokens :=
    handleLoad_credentials_eq_iff host (session.setUserInfo info) tokens
  dsimp only
  rw [or_and_left, ← given tokens, ← given others]
  constructor
  · rintro ⟨first, second, -⟩
    exact ⟨first, second⟩
  · rintro ⟨first, second⟩
    exact ⟨first, second, first.trans second.symm⟩

/-- A host that decodes text without escapes, and reads no numbers. -/
def plainHost : Host where
  decode value := (value, false)
  encode value := value
  stod _ := none
  anonymizeUsername name := name
  publicUri := "file:///a".toList
  opacity := "0.2".toList
  watermarkJson _ := "{}".toList

/-- A session as it is constructed. -/
def newSession (readOnly : Bool) : Session where
  docURL := []
  jailedFilePath := []
  jailedFilePathAnonym := []
  userId := []
  userIdAnonym := []
  userName := []
  userNameAnonym := []
  userExtraInfo := []
  isReadOnly := readOnly
  docPassword := []
  haveDocPassword := false
  lang := []
  timezone := []
  watermarkText := []
  watermarkOpacity := 0.2
  docOptions := []
  templateSource := []

/-- A user who may not write. -/
def reader : UserInfo where
  userId := "a".toList
  username := "b".toList
  userExtraInfo := []
  watermarkText := "c".toList
  userCanWrite := false
  isViewFileExtension := false

/-- The client's load message makes a session of a user who may not write writable. -/
theorem handleLoad_writable
    : let given := (newSession false).setUserInfo reader
      let loaded := (handleLoad plainHost given
        ["load".toList, "url=x".toList, "readonly=0".toList]).session
      given.isReadOnly = true ∧ loaded.isReadOnly = false
      ∧ loaded.credentials ≠ reader.credentials false := by
  decide +kernel

end NdcOdfWeb.Sessions
