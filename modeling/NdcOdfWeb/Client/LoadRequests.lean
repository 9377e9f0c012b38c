import NdcOdfWeb.Sessions.LoadReading
import NdcOdfWeb.Tiles.TileDescCodec

/-! The load message that the browser sends when its socket opens, as the session reads it. -/

namespace NdcOdfWeb.Client

open NdcOdfWeb.Foundation
open NdcOdfWeb.Protocol
open NdcOdfWeb.Tiles
open NdcOdfWeb.Sessions

/-- `encodeURIComponent`: its result is one word, and `Poco::URI::decode` reverses it. -/
structure UriEncoding (host : Host) where
  encodeURIComponent : Text → Text
  encoded_word : ∀ text, LineWord ' ' (encodeURIComponent text)
  decode_encoded : ∀ text, host.decode (encodeURIComponent text) = (text, false)

/-- What `_onSocketOpen` finds. A text that may be empty counts as absent if it is; the JSON
text is that of an object, and what is not encoded has no white space.
-/
structure LoadFields where
  doc : Text
  /-- The current part, if the document was loaded before. -/
  currentPartNumber : Option Nat
  timestamp : Text
  docPassword : Text
  locale : Text
  /-- `JSON.stringify(options)`, if there are rendering options. -/
  optionsJson : Text
  timezone : Option Text
  timezoneOffset : Option Text
  timestamp_word : LineWord ' ' timestamp
  locale_word : LineWord ' ' locale
  optionsJson_line : '\n' ∉ optionsJson
  timezone_word : ∀ text ∈ timezone, LineWord ' ' text
  timezoneOffset_word : ∀ text ∈ timezoneOffset, LineWord ' ' text

section Message

variable {host : Host} (uri : UriEncoding host) (fields : LoadFields)

/-- What stands in front of the rendering options, without the part. -/
def LoadFields.front : List Text :=
  ifGiven fields.timestamp (word "timestamp" fields.timestamp)
    ++ ifGiven fields.docPassword (word "password" (uri.encodeURIComponent fields.docPassword))
    ++ ifGiven fields.locale (word "lang" fields.locale)

/-- What stands behind the rendering options. -/
def LoadFields.back : List Text :=
  (fields.timezone.map (word "timezone")).toList
    ++ (fields.timezoneOffset.map (word "timezoneOffset")).toList

/-- The load message of `_onSocketOpen`; a blank is written in front of every field. -/
def LoadFields.message : Text :=
  "load".toList
    ++ spaced ' '
      (word "url" (uri.encodeURIComponent fields.doc)
        :: (fields.currentPartNumber.map (fun part => word "part" (showNat part))).toList
        ++ fields.front uri
        ++ ifGiven fields.optionsJson ("options=".toList ++ fields.optionsJson)
        ++ fields.back)

/-- The session has read what the browser has sent. -/
structure LoadFields.Read (result : DocOptions × Option Thrown) : Prop where
  part : result.1.part.toInt = fields.currentPartNumber.elim (-1) Nat.cast
  timestamp : result.1.timestamp = fields.timestamp
  docPassword : result.1.session.docPassword = fields.docPassword
  lang : result.1.session.lang = fields.locale
  timezone : result.1.session.timezone = fields.timezone.getD []
  docOptions : result.1.session.docOptions = fields.optionsJson

end Message

-----------------------------------------------------------------------------------------
-- Tokens
-----------------------------------------------------------------------------------------

section Tokens

variable {host : Host} (uri : UriEncoding host) (fields : LoadFields)

/-- The fields in front of the options are tokens. -/
theorem LoadFields.front_isToken : ∀ token ∈ fields.front uri, IsToken token := by
  unfold LoadFields.front
  rw [List.forall_mem_append, List.forall_mem_append]
  refine ⟨⟨?_, ?_⟩, ?_⟩
  · exact forall_mem_ifGiven (word_isToken (by decide) fields.timestamp_word)
  · exact forall_mem_ifGiven (word_isToken (by decide) (uri.encoded_word _))
  · exact forall_mem_ifGiven (word_isToken (by decide) fields.locale_word)

/-- The fields behind the options are tokens. -/
theorem LoadFields.back_isToken : ∀ token ∈ fields.back, IsToken token := by
  unfold LoadFields.back
  rw [List.forall_mem_append]
  constructor
  · intro token member
    obtain ⟨text, given, rfl⟩ := Option.map_eq_some_iff.mp (Option.mem_toList.mp member)
    exact word_isToken (by decide) (fields.timezone_word text given)
  · intro token member
    obtain ⟨text, given, rfl⟩ := Option.map_eq_some_iff.mp (Option.mem_toList.mp member)
    exact word_isToken (by decide) (fields.timezoneOffset_word text given)

/-- The options in front of the rendering options, behind the URL. -/
def LoadFields.frontOptions : List (OptionName × Text) :=
  (if fields.timestamp = [] then [] else [(OptionName.timestamp, fields.timestamp)])
    ++ (if fields.docPassword = [] then []
      else [(OptionName.password, uri.encodeURIComponent fields.docPassword)])
    ++ (if fields.locale = [] then [] else [(OptionName.lang, fields.locale)])

/-- The timestamp is read as an option. -/
theorem readOption_timestamp (value : Text)
    : readOption (word "timestamp" value) = some (.timestamp, value) :=
  readOption_text .timestamp value

/-- The password is read as an option. -/
theorem readOption_password (value : Text)
    : readOption (word "password" value) = some (.password, value) :=
  readOption_text .password value

/-- The language is read as an option. -/
theorem readOption_lang (value : Text)
    : readOption (word "lang" value) = some (.lang, value) :=
  readOption_text .lang value

/-- The timezone is read as an option. -/
theorem readOption_timezone (value : Text)
    : readOption (word "timezone" value) = some (.timezone, value) :=
  readOption_text .timezone value

/-- The offset of the timezone is no option. -/
theorem readOption_timezoneOffset (value : Text)
    : readOption (word "timezoneOffset" value) = none := by
  have name : optionName "timezoneOffset".toList = none := by decide
  rw [readOption_word (by decide), name, Option.map_none]

/-- The options in front of the document options, as the parser reads them. -/
theorem LoadFields.optionsOf_front : optionsOf (fields.front uri) = fields.frontOptions uri := by
  unfold LoadFields.front LoadFields.frontOptions
  rw [optionsOf_append, optionsOf_append, optionsOf_ifGiven (readOption_timestamp _),
    optionsOf_ifGiven (readOption_password _), optionsOf_ifGiven (readOption_lang _)]

/-- Behind them, the timezone is the only option. -/
theorem LoadFields.optionsOf_back
    : optionsOf fields.back = (fields.timezone.map (OptionName.timezone, ·)).toList := by
  unfold LoadFields.back
  rw [optionsOf_append]
  cases fields.timezone with
  | none =>
      cases fields.timezoneOffset with
      | none => rfl
      | some offset => simp [readOption_timezoneOffset]
  | some timezone =>
      cases fields.timezoneOffset with
      | none => simp [readOption_timezone]
      | some offset => simp [readOption_timezone, readOption_timezoneOffset]

/-- All fields in front are options. -/
theorem LoadFields.front_isOption
    : ∀ token ∈ fields.front uri, (readOption token).isSome = true := by
  unfold LoadFields.front
  rw [List.forall_mem_append, List.forall_mem_append]
  refine ⟨⟨?_, ?_⟩, ?_⟩
  · exact forall_mem_ifGiven (by rw [readOption_timestamp, Option.isSome_some])
  · exact forall_mem_ifGiven (by rw [readOption_password, Option.isSome_some])
  · exact forall_mem_ifGiven (by rw [readOption_lang, Option.isSome_some])

/-- Behind the options stand two fields at most. -/
theorem LoadFields.back_few : Few fields.back := by
  unfold LoadFields.back Few
  cases fields.timezone with
  | none => left; cases fields.timezoneOffset <;> simp
  | some timezone =>
      cases fields.timezoneOffset with
      | none => left; simp
      | some offset =>
          exact Or.inr ⟨_, _, rfl, by rw [readOption_timezone, Option.isSome_some]⟩

/-- These fields may stand behind the options. -/
theorem LoadFields.back_behind : ∀ token ∈ fields.back, Behind token := by
  intro token member
  have isToken := fields.back_isToken token member
  refine ⟨isToken.1, isToken.2, ?_⟩
  rcases List.mem_append.mp member with zone | offset
  · obtain ⟨text, -, rfl⟩ := Option.map_eq_some_iff.mp (Option.mem_toList.mp zone)
    exact getTokenString_word_options (by decide) (by decide) text
  · obtain ⟨text, -, rfl⟩ := Option.map_eq_some_iff.mp (Option.mem_toList.mp offset)
    exact getTokenString_word_options (by decide) (by decide) text

/-- No field in front is taken for the options. -/
theorem LoadFields.front_notOptions
    : ∀ token ∈ fields.front uri, getTokenString token "options".toList = none := by
  unfold LoadFields.front
  rw [List.forall_mem_append, List.forall_mem_append]
  refine ⟨⟨?_, ?_⟩, ?_⟩
  · exact forall_mem_ifGiven (getTokenString_word_options (by decide) (by decide) _)
  · exact forall_mem_ifGiven (getTokenString_word_options (by decide) (by decide) _)
  · exact forall_mem_ifGiven (getTokenString_word_options (by decide) (by decide) _)

/-- The tokens of the rendering options, if there are any. -/
def LoadFields.optionsTokens : List Text :=
  (ifGiven fields.optionsJson ("options=".toList ++ fields.optionsJson)).flatMap (tokenize ' ')

/-- The tokens of the message behind `load`. -/
theorem LoadFields.tokenize_message
    : tokenize ' ' (fields.message uri)
      = "load".toList :: word "url" (uri.encodeURIComponent fields.doc)
        :: ((fields.currentPartNumber.map (fun part => word "part" (showNat part))).toList
          ++ fields.front uri ++ fields.optionsTokens ++ fields.back) := by
  have url : IsToken (word "url" (uri.encodeURIComponent fields.doc)) :=
    word_isToken (by decide) (uri.encoded_word _)
  have part : ∀ token
      ∈ (fields.currentPartNumber.map (fun part => word "part" (showNat part))).toList,
      IsToken token := by
    intro token member
    obtain ⟨number, -, rfl⟩ := Option.map_eq_some_iff.mp (Option.mem_toList.mp member)
    exact word_isToken (by decide) (showNat_lineWord number)
  have options : '\n' ∉ "options=".toList ++ fields.optionsJson := by
    rw [List.mem_append, not_or]
    exact ⟨options_clean.2, fields.optionsJson_line⟩
  have load : tokenize ' ' "load".toList = ["load".toList] := by decide
  unfold LoadFields.message
  rw [tokenize_parts (by decide)]
  · simp only [List.flatMap_cons, List.flatMap_append, List.cons_append, List.nil_append, load,
      tokenize_clean url.1 url.2, flatMap_tokenize part,
      flatMap_tokenize (fields.front_isToken uri), flatMap_tokenize fields.back_isToken,
      LoadFields.optionsTokens]
  · intro token member
    simp only [List.cons_append, List.mem_cons, List.mem_append] at member
    rcases member with rfl | ((inPart | inFront) | inOptions) | inBack
    · exact url.1.2
    · exact (part token inPart).1.2
    · exact (fields.front_isToken uri token inFront).1.2
    · exact @forall_mem_ifGiven (fun text => '\n' ∉ text) _ _ options token inOptions
    · exact (fields.back_isToken token inBack).1.2

end Tokens

-----------------------------------------------------------------------------------------
-- Reading
-----------------------------------------------------------------------------------------

section Reading

variable {host : Host} (uri : UriEncoding host) (fields : LoadFields)

/-- The url is read as an option. -/
theorem readOption_url (value : Text) : readOption (word "url" value) = some (.url, value) :=
  readOption_text .url value

/-- The fields whose options are in front, and the timezone. -/
theorem LoadFields.lastValues
    : let options := (.url, uri.encodeURIComponent fields.doc)
        :: (fields.frontOptions uri
          ++ (fields.timezone.map (OptionName.timezone, ·)).toList)
      (lastValue .timestamp options).getD [] = fields.timestamp
      ∧ appended host .password options = fields.docPassword
      ∧ (lastValue .lang options).getD [] = fields.locale
      ∧ (lastValue .timezone options).getD [] = fields.timezone.getD [] := by
  have decoded := uri.decode_encoded fields.docPassword
  unfold LoadFields.frontOptions
  cases fields.timezone with
  | none =>
      by_cases noTimestamp : fields.timestamp = [] <;>
      by_cases noPassword : fields.docPassword = [] <;>
      by_cases noLocale : fields.locale = [] <;>
        simp [lastValue, appended, noTimestamp, noPassword, noLocale, decoded]
  | some timezone =>
      by_cases noTimestamp : fields.timestamp = [] <;>
      by_cases noPassword : fields.docPassword = [] <;>
      by_cases noLocale : fields.locale = [] <;>
        simp [lastValue, appended, noTimestamp, noPassword, noLocale, decoded]

/-- No conversion throws, since the url was encoded. -/
theorem LoadFields.quiet
    : ∀ option ∈ ((.url, uri.encodeURIComponent fields.doc)
        :: (fields.frontOptions uri
          ++ (fields.timezone.map (OptionName.timezone, ·)).toList)
        : List (OptionName × Text)), throws host option = false := by
  intro option member
  simp only [LoadFields.frontOptions, List.mem_cons, List.mem_append] at member
  rcases member with rfl | ((inTimestamp | inPassword) | inLang) | inTimezone
  · rfl
  · split at inTimestamp
    · cases inTimestamp
    · rw [List.mem_singleton.mp inTimestamp]
      rfl
  · split at inPassword
    · cases inPassword
    · rw [List.mem_singleton.mp inPassword, throws, uri.decode_encoded]
  · split at inLang
    · cases inLang
    · rw [List.mem_singleton.mp inLang]
      rfl
  · obtain ⟨zone, -, rfl⟩ := Option.map_eq_some_iff.mp (Option.mem_toList.mp inTimezone)
    rfl

/-- The rendering options are passed on to the end of the message. -/
theorem LoadFields.drop_tokens (given : fields.optionsJson ≠ []) (url : Text)
    : let tokens := word "url" url :: (fields.front uri ++ fields.optionsTokens ++ fields.back)
      readDocOptions (tokens.drop (optionsOf tokens).length) = some fields.optionsJson
      ↔ ' ' ∉ fields.optionsJson ∧ fields.timezone = none ∧ fields.timezoneOffset = none := by
  have tokens : fields.optionsTokens = tokenize ' ' ("options=".toList ++ fields.optionsJson) := by
    rw [LoadFields.optionsTokens, ifGiven, if_neg given, List.flatMap_singleton]
  have front : ∀ token ∈ word "url" url :: fields.front uri,
      (readOption token).isSome = true := by
    rw [List.forall_mem_cons, readOption_url]
    exact ⟨rfl, fields.front_isOption uri⟩
  have back : fields.back = [] ↔ fields.timezone = none ∧ fields.timezoneOffset = none := by
    simp [LoadFields.back]
  dsimp only
  rw [List.append_assoc, ← List.cons_append, drop_options front, tokens, ← back]
  exact readDocOptions_iff fields.optionsJson_line fields.back_behind fields.back_few

/-- Without options, none are read. -/
theorem LoadFields.read_absent (absent : fields.optionsJson = []) (url : Text)
    : let tokens := word "url" url :: (fields.front uri ++ fields.optionsTokens ++ fields.back)
      readDocOptions (tokens.drop (optionsOf tokens).length) = none := by
  have noTokens : fields.optionsTokens = [] := by
    rw [LoadFields.optionsTokens, ifGiven, if_pos absent, List.flatMap_nil]
  dsimp only
  rw [noTokens, List.append_nil]
  apply readDocOptions_eq_none
  intro token member
  rcases List.mem_cons.mp (List.drop_subset _ _ member) with rfl | later
  · exact getTokenString_word_options (by decide) (by decide) url
  · rcases List.mem_append.mp later with inFront | inBack
    · exact fields.front_notOptions uri token inFront
    · exact (fields.back_behind token inBack).other

/-- The session reads what the browser sends exactly if the browser does not reconnect, and
sends rendering options, if any, without a blank in them and without a timezone.
-/
theorem loadRequest_read_iff (readOnly : Bool) (info : UserInfo)
    : fields.Read
        (parseDocOptions host ((newSession readOnly).setUserInfo info)
          (tokenize ' ' (fields.message uri)) (-1))
      ↔ fields.currentPartNumber = none
        ∧ (fields.optionsJson = []
          ∨ ' ' ∉ fields.optionsJson ∧ fields.timezone = none ∧ fields.timezoneOffset = none) := by
  have notPart := url_notPart (uri.encodeURIComponent fields.doc)
  rw [fields.tokenize_message uri]
  constructor
  · intro read
    have part := read.part
    rw [parseDocOptions_part host _ notPart] at part
    have noPart : fields.currentPartNumber = none := by
      cases number : fields.currentPartNumber with
      | none => rfl
      | some number' =>
          rw [number] at part
          exact absurd part (by simp)
    refine ⟨noPart, ?_⟩
    by_cases absent : fields.optionsJson = []
    · exact Or.inl absent
    · right
      have json := read.docOptions
      rw [noPart, Option.map_none, Option.toList_none, List.nil_append] at json
      apply (fields.drop_tokens uri absent (uri.encodeURIComponent fields.doc)).mp
      rw [← json] at absent ⊢
      exact parseDocOptions_docOptions notPart absent
  · rintro ⟨noPart, last⟩
    rw [noPart, Option.map_none, Option.toList_none, List.nil_append]
    have oneWord := last.imp_right (·.1)
    have options : optionsOf (word "url" (uri.encodeURIComponent fields.doc)
          :: (fields.front uri ++ fields.optionsTokens ++ fields.back))
        = (.url, uri.encodeURIComponent fields.doc)
          :: (fields.frontOptions uri
            ++ (fields.timezone.map (OptionName.timezone, ·)).toList) := by
      rw [optionsOf, List.filterMap_cons_some (readOption_url _)]
      congr 1
      rw [← optionsOf, optionsOf_append, optionsOf_append, fields.optionsOf_front,
        LoadFields.optionsTokens, optionsOf_docOptions fields.optionsJson_line oneWord,
        List.append_nil, fields.optionsOf_back]
    have quiet := fields.quiet uri
    rw [← options] at quiet
    obtain ⟨after, reads, result⟩ := parseDocOptions_reads notPart quiet
    obtain ⟨timestamp, docPassword, lang, timezone⟩ := fields.lastValues uri
    rw [options] at reads
    rw [result]
    refine ⟨?_, ?_, ?_, ?_, ?_, ?_⟩
    · rw [noPart]
      exact congrArg Int32.toInt reads.part
    · exact reads.timestamp.trans timestamp
    · exact reads.docPassword.trans docPassword
    · exact reads.lang.trans lang
    · exact reads.timezone.trans timezone
    · dsimp only
      by_cases absent : fields.optionsJson = []
      · have unread := fields.read_absent uri absent (uri.encodeURIComponent fields.doc)
        dsimp only at unread
        rw [unread, absent]
        rfl
      · have read := (fields.drop_tokens uri absent (uri.encodeURIComponent fields.doc)).mpr
          (last.resolve_left absent)
        rw [read, Option.getD_some]

end Reading

def escapingUri : UriEncoding escapingHost where
  encodeURIComponent text := text.flatMap escapeChar
  encoded_word := escape_word
  decode_encoded text := Prod.ext (unescape_escape text) rfl

/-- The empty text holds no blank. -/
theorem empty_lineWord : LineWord ' ' [] := by
  decide

/-- Rendering options, perhaps with the part of a document that was loaded before, and with a
timezone.
-/
def loadFields (reconnects hasTimezone : Bool) : LoadFields where
  doc := "file:///a".toList
  currentPartNumber := if reconnects then some 2 else none
  timestamp := []
  docPassword := []
  locale := "en".toList
  optionsJson := "\x7b\"rendering\":\x7b\x7d\x7d".toList
  timezone := if hasTimezone then some "Asia/Taipei".toList else none
  timezoneOffset := none
  timestamp_word := empty_lineWord
  locale_word := by decide
  optionsJson_line := by decide
  timezone_word := by cases hasTimezone <;> decide
  timezoneOffset_word := by decide

/-- What a new session reads. -/
def readFields (fields : LoadFields) : DocOptions × Option Thrown :=
  parseDocOptions escapingHost (newSession false) (tokenize ' ' (fields.message escapingUri)) (-1)

/-- The part of a browser that reconnects is not read, and with a timezone the rendering
options are not.
-/
theorem loadRequest_fields_lost
    : ¬ (loadFields true false).Read (readFields (loadFields true false))
      ∧ ¬ (loadFields false true).Read (readFields (loadFields false true)) := by
  constructor
  · intro read
    have part : (readFields (loadFields true false)).1.part = -1 := by decide +kernel
    have sent := read.part
    rw [part] at sent
    exact absurd sent (by decide)
  · intro read
    have docOptions : (readFields (loadFields false true)).1.session.docOptions = [] := by
      decide +kernel
    have sent := read.docOptions
    rw [docOptions] at sent
    exact absurd sent (by decide)

end NdcOdfWeb.Client
