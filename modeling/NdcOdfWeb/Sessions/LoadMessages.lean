import NdcOdfWeb.Sessions.LoadReading

/-! The load message on its way from a session to the kit, which reads it once more. -/

namespace NdcOdfWeb.Sessions

open NdcOdfWeb.Foundation
open NdcOdfWeb.Protocol
open NdcOdfWeb.Tiles

/-- What Poco and the standard library promise: encoded text is one word, and is decoded
again, also where two encoded texts stand one behind the other.
-/
structure LawfulHost extends Host where
  publicUri_word : LineWord ' ' publicUri
  encode_word : ∀ text, LineWord ' ' (encode text)
  decode_encode : ∀ text, decode (encode text) = (text, false)
  decode_append : ∀ left right, decode (encode left ++ encode right) = (left ++ right, false)
  opacity_word : LineWord ' ' opacity
  stod_opacity : (stod opacity).isSome = true

/-- A session when it composes the load message. The language and the timezone are values of
tokens, which it has read itself.
-/
structure LoadingSession where
  parsed : DocOptions
  lang_word : LineWord ' ' parsed.session.lang
  timezone_word : LineWord ' ' parsed.session.timezone
  docOptions_line : '\n' ∉ parsed.session.docOptions
  templateSource_line : '\n' ∉ parsed.session.templateSource

/-- What the broker knows of the session and of the jailed document. -/
structure ChildAddress where
  viewId : Text
  uriJailed : Text
  uriJailedAnonym : Text
  viewId_word : LineWord ' ' viewId
  uriJailed_word : LineWord ' ' uriJailed
  uriJailedAnonym_word : LineWord ' ' uriJailedAnonym

/-- `DocumentBroker::forwardToChild` for a session of the document; there is no message if it
reads behind the last token.
-/
def forwardToChild (address : ChildAddress) (message : Text) : Option Text :=
  let msg := "child-".toList ++ address.viewId ++ ' ' :: message
  match tokenize ' ' msg with
  | child :: command :: rest =>
      if command = "load".toList then
        match rest with
        | [] => none
        | url :: rest =>
            -- The json options must come last.
            some
              (child ++ ' ' :: command ++ ' ' :: url
                ++ " jail=".toList ++ address.uriJailed
                ++ " xjail=".toList ++ address.uriJailedAnonym
                ++ ' ' :: [' '].intercalate rest)
      else some msg
  | _ => some msg

/-- The kit removes the token of the session, and the blanks behind it. -/
def childMessage (input : Text) : Text :=
  match tokenize ' ' input with
  | [] => []
  | child :: _ => (input.drop child.length).dropWhile (· == ' ')

/-- What the kit's session reads. -/
def readByChild (host : Host) (message : Text) : DocOptions × Option Thrown :=
  parseDocOptions host (newSession false) (tokenize ' ' (childMessage message)) (-1)

/-- The kit's session has read what the session in wsd has. -/
structure SameLoad (host : Host) (parsed : DocOptions) (result : DocOptions × Option Thrown)
    : Prop where
  part : result.1.part = parsed.part
  doctemplate : result.1.doctemplate = parsed.session.templateSource
  docOptions : result.1.session.docOptions = parsed.session.docOptions
  credentials : result.1.session.credentials = parsed.session.credentials
  lang : result.1.session.lang = parsed.session.lang
  /-- The opacity of the configuration goes with a watermark. -/
  watermarkOpacity
    : parsed.session.watermarkText ≠ []
      → host.stod host.opacity = some result.1.session.watermarkOpacity

-----------------------------------------------------------------------------------------
-- The parts of the message
-----------------------------------------------------------------------------------------

section Parts

variable (host : LawfulHost) (loading : LoadingSession)

/-- What identifies the user, if both the id and the name are known. -/
def LoadingSession.userWords : List Text :=
  let session := loading.parsed.session
  if session.userId ≠ [] ∧ session.userName ≠ [] then
    [
      word "authorid" (host.encode session.userId),
      word "xauthorid"
        (host.encode session.userId ++ host.encode (host.anonymizeUsername session.userId)),
      word "author" (host.encode session.userName),
      word "xauthor"
        (host.encode session.userName ++ host.encode (host.anonymizeUsername session.userName))
    ]
  else []

/-- What stands in front of the part. -/
def LoadingSession.userPart : List Text :=
  let session := loading.parsed.session
  loading.userWords host
    ++ ifGiven session.userExtraInfo (word "authorextrainfo" (host.encode session.userExtraInfo))
    ++ [word "readonly" [if session.isReadOnly then '1' else '0']]

/-- What stands between the part and the rendering options. -/
def LoadingSession.documentPart : List Text :=
  let session := loading.parsed.session
  (if session.haveDocPassword then [word "password" (host.encode session.docPassword)] else [])
    ++ ifGiven session.lang (word "lang" session.lang)
    ++ ifGiven session.timezone (word "timezone" session.timezone)
    ++ (if session.watermarkText ≠ [] then
        [
          word "watermarkText" (host.encode session.watermarkText),
          word "watermarkOpacity" host.opacity
        ]
      else [])

/-- The part, if there is one. -/
def LoadingSession.partWords : List Text :=
  if loading.parsed.part ≥ 0 then [word "part" (showInt loading.parsed.part.toInt)] else []

def LoadingSession.optionsPart : List Text :=
  let docOptions := loading.parsed.session.docOptions
  ifGiven docOptions ("options=".toList ++ docOptions)

def LoadingSession.templatePart : List Text :=
  let templateSource := loading.parsed.session.templateSource
  ifGiven templateSource ("template=".toList ++ templateSource)

/-- Words that are written under a condition. -/
theorem spaced_ite (holds : Prop) [Decidable holds] (words : List Text)
    : spaced ' ' (if holds then words else []) = if holds then spaced ' ' words else [] := by
  split <;> rfl

/-- A word that is written if its text is given. -/
theorem spaced_ifGiven (text written : Text)
    : spaced ' ' (ifGiven text written) = if text ≠ [] then ' ' :: written else [] := by
  unfold ifGiven
  by_cases absent : text = []
  · rw [if_pos absent, if_neg (not_not_intro absent), spaced_nil]
  · rw [if_neg absent, if_pos absent, spaced_cons, spaced_nil, List.append_nil]

/-- A name is written with a blank in front of it and an equals sign behind it. -/
theorem written_word {name : String} {written : Text}
    (same : written = ' ' :: (name.toList ++ ['='])) (value : Text)
    : ' ' :: word name value = written ++ value := by
  rw [same, word, List.cons_append, List.append_assoc, List.singleton_append]

/-- A blank in front of an option belongs to its written name. -/
theorem written_options {written front : Text} (same : written = ' ' :: front) (value : Text)
    : ' ' :: (front ++ value) = written ++ value := by
  rw [same, List.cons_append]

/-- What is written about the user, word by word. -/
theorem spaced_userWords
    : spaced ' ' (loading.userWords host)
      = if loading.parsed.session.userId ≠ [] ∧ loading.parsed.session.userName ≠ [] then
          " authorid=".toList ++ host.encode loading.parsed.session.userId
          ++ " xauthorid=".toList ++ host.encode loading.parsed.session.userId
          ++ host.encode (host.anonymizeUsername loading.parsed.session.userId)
          ++ " author=".toList ++ host.encode loading.parsed.session.userName
          ++ " xauthor=".toList ++ host.encode loading.parsed.session.userName
          ++ host.encode (host.anonymizeUsername loading.parsed.session.userName)
        else [] := by
  unfold LoadingSession.userWords
  dsimp only
  rw [spaced_ite]
  congr 1
  simp only [spaced_cons, spaced_nil, List.append_nil]
  rw [← List.cons_append, ← List.cons_append, ← List.cons_append,
    written_word (by decide : " authorid=".toList = _),
    written_word (by decide : " xauthorid=".toList = _),
    written_word (by decide : " author=".toList = _),
    written_word (by decide : " xauthor=".toList = _)]
  simp only [List.append_assoc]

/-- What is written about the document, word by word. -/
theorem spaced_documentPart
    : spaced ' ' (loading.documentPart host)
      = (if loading.parsed.session.haveDocPassword then
          " password=".toList ++ host.encode loading.parsed.session.docPassword
        else [])
        ++ (if loading.parsed.session.lang ≠ [] then
            " lang=".toList ++ loading.parsed.session.lang
          else [])
        ++ (if loading.parsed.session.timezone ≠ [] then
            " timezone=".toList ++ loading.parsed.session.timezone
          else [])
        ++ (if loading.parsed.session.watermarkText ≠ [] then
            " watermarkText=".toList ++ host.encode loading.parsed.session.watermarkText
            ++ " watermarkOpacity=".toList ++ host.opacity
          else []) := by
  unfold LoadingSession.documentPart
  dsimp only
  rw [spaced_append, spaced_append, spaced_append, spaced_ite, spaced_ifGiven, spaced_ifGiven,
    spaced_ite]
  simp only [spaced_cons, spaced_nil, List.append_nil]
  rw [← List.cons_append, written_word (by decide : " password=".toList = _),
    written_word (by decide : " lang=".toList = _),
    written_word (by decide : " timezone=".toList = _),
    written_word (by decide : " watermarkText=".toList = _),
    written_word (by decide : " watermarkOpacity=".toList = _)]
  simp only [List.append_assoc]

/-- Every part of the message stands behind a blank. -/
theorem loadMessage_eq
    : loadMessage host.toHost loading.parsed
      = "load".toList
        ++ spaced ' '
          (word "url" host.publicUri
            :: (loading.userPart host ++ loading.partWords ++ loading.documentPart host
              ++ loading.optionsPart ++ loading.templatePart)) := by
  have url : "load url=".toList = "load".toList ++ ' ' :: ("url".toList ++ ['=']) := by decide
  have extra : spaced ' ' (ifGiven loading.parsed.session.userExtraInfo
        (word "authorextrainfo" (host.encode loading.parsed.session.userExtraInfo)))
      = if loading.parsed.session.userExtraInfo ≠ [] then
          " authorextrainfo=".toList ++ host.encode loading.parsed.session.userExtraInfo
        else [] := by
    rw [spaced_ifGiven, written_word (by decide : " authorextrainfo=".toList = _)]
  have readonly (value : Text) : spaced ' ' [word "readonly" value]
      = " readonly=".toList ++ value := by
    rw [spaced_cons, spaced_nil, List.append_nil,
      written_word (by decide : " readonly=".toList = _)]
  have part : spaced ' ' loading.partWords
      = if loading.parsed.part ≥ 0 then " part=".toList ++ showInt loading.parsed.part.toInt
        else [] := by
    rw [LoadingSession.partWords, spaced_ite, spaced_cons, spaced_nil, List.append_nil,
      written_word (by decide : " part=".toList = _)]
  have options : spaced ' ' loading.optionsPart
      = if loading.parsed.session.docOptions ≠ [] then
          " options=".toList ++ loading.parsed.session.docOptions
        else [] := by
    rw [LoadingSession.optionsPart, spaced_ifGiven,
      written_options (by decide : " options=".toList = _)]
  have template : spaced ' ' loading.templatePart
      = if loading.parsed.session.templateSource ≠ [] then
          " template=".toList ++ loading.parsed.session.templateSource
        else [] := by
    rw [LoadingSession.templatePart, spaced_ifGiven,
      written_options (by decide : " template=".toList = _)]
  have front : "load url=".toList ++ host.publicUri
      = "load".toList ++ ' ' :: word "url" host.publicUri := by
    rw [url, word, List.append_assoc, List.cons_append, List.append_assoc, List.singleton_append]
  unfold loadMessage LoadingSession.userPart
  dsimp only
  rw [front, spaced_cons, spaced_append, spaced_append, spaced_append, spaced_append,
    spaced_append, spaced_append, spaced_userWords, extra, readonly, part, spaced_documentPart,
    options, template]
  simp only [List.append_assoc, List.cons_append]

-----------------------------------------------------------------------------------------
-- Tokens
-----------------------------------------------------------------------------------------

/-- The words about the user are tokens, since their values are encoded. -/
theorem LoadingSession.userPart_isToken : ∀ token ∈ loading.userPart host, IsToken token := by
  have anonymous (text : Text)
      : LineWord ' ' (host.encode text ++ host.encode (host.anonymizeUsername text)) :=
    (host.encode_word _).append (host.encode_word _)
  have readOnly : LineWord ' ' [if loading.parsed.session.isReadOnly then '1' else '0'] := by
    cases loading.parsed.session.isReadOnly <;> decide
  unfold LoadingSession.userPart LoadingSession.userWords
  dsimp only
  rw [List.forall_mem_append, List.forall_mem_append]
  refine ⟨⟨?_, ?_⟩, ?_⟩
  · split
    · intro token member
      simp only [List.mem_cons, List.not_mem_nil, or_false] at member
      rcases member with rfl | rfl | rfl | rfl
      · exact word_isToken (by decide) (host.encode_word _)
      · exact word_isToken (by decide) (anonymous _)
      · exact word_isToken (by decide) (host.encode_word _)
      · exact word_isToken (by decide) (anonymous _)
    · exact List.forall_mem_nil _
  · exact forall_mem_ifGiven (word_isToken (by decide) (host.encode_word _))
  · rw [List.forall_mem_singleton]
    exact word_isToken (by decide) readOnly

/-- The word for the part is a token. -/
theorem LoadingSession.partWords_isToken : ∀ token ∈ loading.partWords, IsToken token := by
  unfold LoadingSession.partWords
  split
  · rw [List.forall_mem_singleton]
    exact word_isToken (by decide) (showInt_lineWord _)
  · exact List.forall_mem_nil _

/-- The words about the document are tokens. -/
theorem LoadingSession.documentPart_isToken
    : ∀ token ∈ loading.documentPart host, IsToken token := by
  unfold LoadingSession.documentPart
  dsimp only
  rw [List.forall_mem_append, List.forall_mem_append, List.forall_mem_append]
  refine ⟨⟨⟨?_, ?_⟩, ?_⟩, ?_⟩
  · split
    · rw [List.forall_mem_singleton]
      exact word_isToken (by decide) (host.encode_word _)
    · exact List.forall_mem_nil _
  · exact forall_mem_ifGiven (word_isToken (by decide) loading.lang_word)
  · exact forall_mem_ifGiven (word_isToken (by decide) loading.timezone_word)
  · split
    · rw [List.forall_mem_cons, List.forall_mem_singleton]
      exact ⟨word_isToken (by decide) (host.encode_word _),
        word_isToken (by decide) host.opacity_word⟩
    · exact List.forall_mem_nil _

/-- The name of the option is one word. -/
theorem template_clean : LineWord ' ' "template=".toList := by
  decide

/-- The tokens behind the URL. -/
def LoadingSession.tokens : List Text :=
  loading.userPart host ++ loading.partWords ++ loading.documentPart host
    ++ loading.optionsPart.flatMap (tokenize ' ')
    ++ loading.templatePart.flatMap (tokenize ' ')

/-- The options hold no line end. -/
theorem LoadingSession.optionsPart_line : ∀ part ∈ loading.optionsPart, '\n' ∉ part := by
  apply @forall_mem_ifGiven (fun part => '\n' ∉ part)
  rw [List.mem_append, not_or]
  exact ⟨options_clean.2, loading.docOptions_line⟩

/-- The template holds no line end. -/
theorem LoadingSession.templatePart_line : ∀ part ∈ loading.templatePart, '\n' ∉ part := by
  apply @forall_mem_ifGiven (fun part => '\n' ∉ part)
  rw [List.mem_append, not_or]
  exact ⟨template_clean.2, loading.templateSource_line⟩

/-- The url is one token. -/
theorem LoadingSession.url_isToken : IsToken (word "url" host.publicUri) :=
  word_isToken (by decide) host.publicUri_word

/-- The tokens of the forwarded load: the url, and those of the session. -/
theorem tokenize_loadMessage
    : tokenize ' ' (loadMessage host.toHost loading.parsed)
      = "load".toList :: word "url" host.publicUri :: loading.tokens host := by
  have load : tokenize ' ' "load".toList = ["load".toList] := by decide
  have url := LoadingSession.url_isToken host
  rw [loadMessage_eq, tokenize_parts (by decide)]
  · simp only [List.flatMap_cons, List.flatMap_append, List.cons_append, List.nil_append, load,
      tokenize_clean url.1 url.2, flatMap_tokenize (loading.userPart_isToken host),
      flatMap_tokenize loading.partWords_isToken,
      flatMap_tokenize (loading.documentPart_isToken host), LoadingSession.tokens]
  · intro part member
    simp only [List.mem_cons, List.mem_append] at member
    rcases member with rfl | (((inUser | inPart) | inDocument) | inOptions) | inTemplate
    · exact url.1.2
    · exact (loading.userPart_isToken host part inUser).1.2
    · exact (loading.partWords_isToken part inPart).1.2
    · exact (loading.documentPart_isToken host part inDocument).1.2
    · exact loading.optionsPart_line part inOptions
    · exact loading.templatePart_line part inTemplate

/-- All of them are tokens, by the parts that they are from. -/
theorem LoadingSession.tokens_isToken : ∀ token ∈ loading.tokens host, IsToken token := by
  intro token member
  simp only [LoadingSession.tokens, List.mem_append, List.mem_flatMap] at member
  rcases member with (((inUser | inPart) | inDocument) | ⟨part, inPart, found⟩)
    | ⟨part, inPart, found⟩
  · exact loading.userPart_isToken host token inUser
  · exact loading.partWords_isToken token inPart
  · exact loading.documentPart_isToken host token inDocument
  · exact tokenize_words (loading.optionsPart_line part inPart) token found
  · exact tokenize_words (loading.templatePart_line part inPart) token found

/-- There is always the word about the user's extra info. -/
theorem LoadingSession.tokens_ne_nil : loading.tokens host ≠ [] := by
  simp [LoadingSession.tokens, LoadingSession.userPart]

variable (address : ChildAddress)

def ChildAddress.child : Text :=
  "child-".toList ++ address.viewId

/-- The address of the session in the kit is one token. -/
theorem ChildAddress.child_isToken : IsToken address.child := by
  have clean : LineWord ' ' "child-".toList := by decide
  have nonempty : "child-".toList ≠ [] := by decide
  refine ⟨clean.append address.viewId_word, ?_⟩
  intro empty
  exact nonempty (List.append_eq_nil_iff.mp empty).1

/-- The tokens that the kit's session gets, behind `load`. -/
def childTokens : List Text :=
  word "url" host.publicUri :: word "jail" address.uriJailed
    :: word "xjail" address.uriJailedAnonym :: loading.tokens host

/-- The tokens that the kit reads are tokens again. -/
theorem childTokens_isToken : ∀ token ∈ childTokens host loading address, IsToken token := by
  unfold childTokens
  rw [List.forall_mem_cons, List.forall_mem_cons, List.forall_mem_cons]
  exact ⟨LoadingSession.url_isToken host, word_isToken (by decide) address.uriJailed_word,
    word_isToken (by decide) address.uriJailedAnonym_word, loading.tokens_isToken host⟩

/-- The broker writes all tokens behind the session's, with those of the jail in front. -/
theorem forwardToChild_loadMessage
    : forwardToChild address (loadMessage host.toHost loading.parsed)
      = some (address.child ++ spaced ' ' ("load".toList :: childTokens host loading address)) := by
  have child := address.child_isToken
  have tokens : tokenize ' ' ("child-".toList ++ address.viewId
        ++ ' ' :: loadMessage host.toHost loading.parsed)
      = address.child :: "load".toList :: word "url" host.publicUri :: loading.tokens host := by
    change tokenize ' ' (address.child ++ ' ' :: loadMessage host.toHost loading.parsed) = _
    rw [tokenize_join child.1.2, tokenize_clean child.1 child.2, tokenize_loadMessage,
      List.singleton_append]
  have jail (value : Text) : " jail=".toList ++ value = ' ' :: word "jail" value :=
    (written_word (by decide : " jail=".toList = _) value).symm
  have xjail (value : Text) : " xjail=".toList ++ value = ' ' :: word "xjail" value :=
    (written_word (by decide : " xjail=".toList = _) value).symm
  obtain ⟨first, rest, parts⟩ := List.exists_cons_of_ne_nil (loading.tokens_ne_nil host)
  unfold forwardToChild
  dsimp only
  rw [tokens]
  dsimp only
  rw [if_pos rfl, childTokens, parts, intercalate_cons]
  simp only [spaced_cons, List.append_assoc, List.cons_append]
  rw [← List.append_assoc " jail=".toList, ← List.append_assoc " xjail=".toList, jail, xjail]
  simp only [List.cons_append]

/-- The kit cuts the address off and has the load message. -/
theorem childMessage_forwarded
    : childMessage
        (address.child ++ spaced ' ' ("load".toList :: childTokens host loading address))
      = "load".toList ++ spaced ' ' (childTokens host loading address) := by
  have child := address.child_isToken
  have load : LineWord ' ' "load".toList := by decide
  have words : ∀ word ∈ "load".toList :: childTokens host loading address, LineWord ' ' word := by
    rw [List.forall_mem_cons]
    exact ⟨load, fun token member => (childTokens_isToken host loading address token member).1⟩
  have starts : ("load".toList ++ spaced ' ' (childTokens host loading address)).dropWhile
        (· == ' ')
      = "load".toList ++ spaced ' ' (childTokens host loading address) := by
    rfl
  unfold childMessage
  rw [tokenize_spaced (by decide) child.1 words,
    List.filter_cons_of_pos (by simpa using child.2)]
  dsimp only
  rw [List.drop_left, spaced_cons, List.dropWhile_cons_of_pos (by decide), starts]

/-- The kit's session reads the tokens of the load message, with those of the jail. -/
theorem tokenize_childMessage
    : tokenize ' '
        (childMessage
          (address.child ++ spaced ' ' ("load".toList :: childTokens host loading address)))
      = "load".toList :: childTokens host loading address := by
  have load : IsToken "load".toList := by decide
  have tokens := childTokens_isToken host loading address
  rw [childMessage_forwarded, tokenize_spaced (by decide) load.1
    (fun token member => (tokens token member).1), List.filter_eq_self, List.forall_mem_cons]
  exact ⟨by simp, fun token member => by simpa using (tokens token member).2⟩

-----------------------------------------------------------------------------------------
-- Options
-----------------------------------------------------------------------------------------

/-- The options in front of the part. -/
def LoadingSession.userOptions : List (OptionName × Text) :=
  let session := loading.parsed.session
  (if session.userId ≠ [] ∧ session.userName ≠ [] then
      [
        (OptionName.authorid, host.encode session.userId),
        (OptionName.xauthorid,
          host.encode session.userId ++ host.encode (host.anonymizeUsername session.userId)),
        (OptionName.author, host.encode session.userName),
        (OptionName.xauthor,
          host.encode session.userName
            ++ host.encode (host.anonymizeUsername session.userName))
      ]
    else [])
    ++ (if session.userExtraInfo = [] then []
      else [(OptionName.authorextrainfo, host.encode session.userExtraInfo)])
    ++ [(OptionName.readonly, [if session.isReadOnly then '1' else '0'])]

/-- The options between the part and the rendering options. -/
def LoadingSession.documentOptions : List (OptionName × Text) :=
  let session := loading.parsed.session
  (if session.haveDocPassword then [(OptionName.password, host.encode session.docPassword)] else [])
    ++ (if session.lang = [] then [] else [(OptionName.lang, session.lang)])
    ++ (if session.timezone = [] then [] else [(OptionName.timezone, session.timezone)])
    ++ (if session.watermarkText ≠ [] then
        [
          (OptionName.watermarkText, host.encode session.watermarkText),
          (OptionName.watermarkOpacity, host.opacity)
        ]
      else [])

def LoadingSession.templateOptions : List (OptionName × Text) :=
  let session := loading.parsed.session
  if session.templateSource = [] then [] else [(.template, session.templateSource)]

/-- The options of words that are options. -/
theorem optionsOf_cons {word : Text} {option : OptionName × Text}
    (read : readOption word = some option) (words : List Text)
    : optionsOf (word :: words) = option :: optionsOf words := by
  rw [optionsOf, List.filterMap_cons_some read]

/-- The options about the user, as the parser reads them. -/
theorem LoadingSession.optionsOf_userPart
    : optionsOf (loading.userPart host) = loading.userOptions host := by
  have extra (value : Text)
      : readOption (word "authorextrainfo" value) = some (.authorextrainfo, value) :=
    readOption_text .authorextrainfo value
  have readOnly (value : Text) : readOption (word "readonly" value) = some (.readonly, value) :=
    readOption_text .readonly value
  have authorid (value : Text) : readOption (word "authorid" value) = some (.authorid, value) :=
    readOption_text .authorid value
  have xauthorid (value : Text)
      : readOption (word "xauthorid" value) = some (.xauthorid, value) :=
    readOption_text .xauthorid value
  have author (value : Text) : readOption (word "author" value) = some (.author, value) :=
    readOption_text .author value
  have xauthor (value : Text) : readOption (word "xauthor" value) = some (.xauthor, value) :=
    readOption_text .xauthor value
  unfold LoadingSession.userPart LoadingSession.userWords LoadingSession.userOptions
  dsimp only
  rw [optionsOf_append, optionsOf_append, optionsOf_ifGiven (extra _),
    optionsOf_cons (readOnly _)]
  congr 2
  split
  · rw [optionsOf_cons (authorid _), optionsOf_cons (xauthorid _), optionsOf_cons (author _),
      optionsOf_cons (xauthor _)]
    rfl
  · rfl

/-- The options about the document, as the parser reads them. -/
theorem LoadingSession.optionsOf_documentPart
    : optionsOf (loading.documentPart host) = loading.documentOptions host := by
  have password (value : Text) : readOption (word "password" value) = some (.password, value) :=
    readOption_text .password value
  have lang (value : Text) : readOption (word "lang" value) = some (.lang, value) :=
    readOption_text .lang value
  have timezone (value : Text) : readOption (word "timezone" value) = some (.timezone, value) :=
    readOption_text .timezone value
  have watermarkText (value : Text)
      : readOption (word "watermarkText" value) = some (.watermarkText, value) :=
    readOption_text .watermarkText value
  have watermarkOpacity (value : Text)
      : readOption (word "watermarkOpacity" value) = some (.watermarkOpacity, value) :=
    readOption_text .watermarkOpacity value
  unfold LoadingSession.documentPart LoadingSession.documentOptions
  dsimp only
  rw [optionsOf_append, optionsOf_append, optionsOf_append, optionsOf_ifGiven (lang _),
    optionsOf_ifGiven (timezone _)]
  congr 1
  · congr 2
    split
    · rw [optionsOf_cons (password _)]
      rfl
    · rfl
  · split
    · rw [optionsOf_cons (watermarkText _), optionsOf_cons (watermarkOpacity _)]
      rfl
    · rfl

-----------------------------------------------------------------------------------------
-- Without a part
-----------------------------------------------------------------------------------------

/-- The tokens in front of the rendering options. -/
def frontTokens : List Text :=
  word "url" host.publicUri :: word "jail" address.uriJailed
    :: word "xjail" address.uriJailedAnonym
    :: (loading.userPart host ++ loading.documentPart host)

def frontOptions : List (OptionName × Text) :=
  (.url, host.publicUri) :: (.jail, address.uriJailed) :: (.xjail, address.uriJailedAnonym)
    :: (loading.userOptions host ++ loading.documentOptions host)

/-- The options in front of the document options. -/
theorem optionsOf_frontTokens
    : optionsOf (frontTokens host loading address) = frontOptions host loading address := by
  have url : readOption (word "url" host.publicUri) = some (.url, host.publicUri) :=
    readOption_text .url _
  have jail : readOption (word "jail" address.uriJailed) = some (.jail, address.uriJailed) :=
    readOption_text .jail _
  have xjail : readOption (word "xjail" address.uriJailedAnonym)
      = some (.xjail, address.uriJailedAnonym) :=
    readOption_text .xjail _
  unfold frontTokens frontOptions
  rw [optionsOf_cons url, optionsOf_cons jail, optionsOf_cons xjail, optionsOf_append,
    loading.optionsOf_userPart, loading.optionsOf_documentPart]

/-- The tokens of the template, which may have blanks. -/
def LoadingSession.templateTokens : List Text :=
  loading.templatePart.flatMap (tokenize ' ')

def LoadingSession.optionsTokens : List Text :=
  loading.optionsPart.flatMap (tokenize ' ')

/-- Without a part, the tokens are those in front, the options and the template. -/
theorem childTokens_eq (noPart : loading.parsed.part = -1)
    : childTokens host loading address
      = frontTokens host loading address ++ (loading.optionsTokens ++ loading.templateTokens) := by
  have part : loading.partWords = [] := by
    rw [LoadingSession.partWords, if_neg (by rw [noPart]; decide)]
  rw [childTokens, frontTokens, LoadingSession.tokens, part]
  simp only [LoadingSession.optionsTokens, LoadingSession.templateTokens, List.append_nil,
    List.append_assoc, List.cons_append]

/-- The template is written as an option. -/
theorem template_word (value : Text) : "template=".toList ++ value = word "template" value := by
  have written : "template=".toList = "template".toList ++ ['='] := by decide
  rw [written, word, List.append_assoc, List.singleton_append]

/-- A template without a blank is one token. -/
theorem LoadingSession.templateTokens_eq (oneWord : ' ' ∉ loading.parsed.session.templateSource)
    : loading.templateTokens
      = ifGiven loading.parsed.session.templateSource
          (word "template" loading.parsed.session.templateSource) := by
  have token : IsToken (word "template" loading.parsed.session.templateSource) :=
    word_isToken (by decide) ⟨oneWord, loading.templateSource_line⟩
  rw [LoadingSession.templateTokens, LoadingSession.templatePart, template_word]
  apply flatMap_tokenize
  exact forall_mem_ifGiven token

/-- A template without a blank is read as one option. -/
theorem LoadingSession.optionsOf_templateTokens
    (oneWord : ' ' ∉ loading.parsed.session.templateSource)
    : optionsOf loading.templateTokens = loading.templateOptions := by
  have template (value : Text) : readOption (word "template" value) = some (.template, value) :=
    readOption_text .template value
  rw [loading.templateTokens_eq oneWord, optionsOf_ifGiven (template _)]
  rfl

/-- A written option is read as one. -/
theorem word_isOption (name : OptionName) (value : Text)
    : (readOption (word name.text value)).isSome = true := by
  rw [readOption_text, Option.isSome_some]

/-- All tokens in front of the document options are options. -/
theorem frontTokens_isOption
    : ∀ token ∈ frontTokens host loading address, (readOption token).isSome = true := by
  have user : ∀ token ∈ loading.userPart host, (readOption token).isSome = true := by
    unfold LoadingSession.userPart LoadingSession.userWords
    dsimp only
    rw [List.forall_mem_append, List.forall_mem_append, List.forall_mem_singleton]
    refine ⟨⟨?_, forall_mem_ifGiven (word_isOption .authorextrainfo _)⟩,
      word_isOption .readonly _⟩
    split
    · rw [List.forall_mem_cons, List.forall_mem_cons, List.forall_mem_cons,
        List.forall_mem_singleton]
      exact ⟨word_isOption .authorid _, word_isOption .xauthorid _, word_isOption .author _,
        word_isOption .xauthor _⟩
    · exact List.forall_mem_nil _
  have document : ∀ token ∈ loading.documentPart host, (readOption token).isSome = true := by
    unfold LoadingSession.documentPart
    dsimp only
    rw [List.forall_mem_append, List.forall_mem_append, List.forall_mem_append]
    refine ⟨⟨⟨?_, forall_mem_ifGiven (word_isOption .lang _)⟩,
      forall_mem_ifGiven (word_isOption .timezone _)⟩, ?_⟩
    · split
      · rw [List.forall_mem_singleton]
        exact word_isOption .password _
      · exact List.forall_mem_nil _
    · split
      · rw [List.forall_mem_cons, List.forall_mem_singleton]
        exact ⟨word_isOption .watermarkText _, word_isOption .watermarkOpacity _⟩
      · exact List.forall_mem_nil _
  unfold frontTokens
  rw [List.forall_mem_cons, List.forall_mem_cons, List.forall_mem_cons, List.forall_mem_append]
  exact ⟨word_isOption .url _, word_isOption .jail _, word_isOption .xjail _, user, document⟩

/-- A template without a blank stands as one token behind the document options. -/
theorem LoadingSession.templateTokens_behind
    (oneWord : ' ' ∉ loading.parsed.session.templateSource)
    : (∀ token ∈ loading.templateTokens, Behind token) ∧ Few loading.templateTokens := by
  rw [loading.templateTokens_eq oneWord]
  constructor
  · have token : IsToken (word "template" loading.parsed.session.templateSource) :=
      word_isToken (by decide) ⟨oneWord, loading.templateSource_line⟩
    apply forall_mem_ifGiven
    exact ⟨token.1, token.2, getTokenString_word_options (by decide) (by decide) _⟩
  · left
    unfold ifGiven
    split <;> simp

/-- The rendering options of one word are read if no template stands behind them. -/
theorem readDocOptions_childTokens (noPart : loading.parsed.part = -1)
    (oneWord : ' ' ∉ loading.parsed.session.templateSource)
    (given : loading.parsed.session.docOptions ≠ [])
    : let tokens := childTokens host loading address
      readDocOptions (tokens.drop (optionsOf tokens).length)
        = some loading.parsed.session.docOptions
      ↔ ' ' ∉ loading.parsed.session.docOptions ∧ loading.parsed.session.templateSource = [] := by
  obtain ⟨behind, few⟩ := loading.templateTokens_behind oneWord
  have options : loading.optionsTokens
      = tokenize ' ' ("options=".toList ++ loading.parsed.session.docOptions) := by
    rw [LoadingSession.optionsTokens, LoadingSession.optionsPart, ifGiven, if_neg given,
      List.flatMap_singleton]
  have template : loading.templateTokens = [] ↔ loading.parsed.session.templateSource = [] := by
    rw [loading.templateTokens_eq oneWord, ifGiven]
    split
    · next absent => exact iff_of_true rfl absent
    · next present => exact iff_of_false (List.cons_ne_nil _ _) present
  dsimp only
  rw [childTokens_eq host loading address noPart,
    drop_options (frontTokens_isOption host loading address), options, ← template]
  exact readDocOptions_iff loading.docOptions_line behind few

/-- Without document options, none are read. -/
theorem readDocOptions_absent (noPart : loading.parsed.part = -1)
    (oneWord : ' ' ∉ loading.parsed.session.templateSource)
    (absent : loading.parsed.session.docOptions = [])
    : let tokens := childTokens host loading address
      readDocOptions (tokens.drop (optionsOf tokens).length) = none := by
  have options : loading.optionsTokens = [] := by
    rw [LoadingSession.optionsTokens, LoadingSession.optionsPart, ifGiven, if_pos absent,
      List.flatMap_nil]
  dsimp only
  rw [childTokens_eq host loading address noPart,
    drop_options (frontTokens_isOption host loading address), options, List.nil_append]
  apply readDocOptions_eq_none
  intro token member
  exact ((loading.templateTokens_behind oneWord).1 token (List.drop_subset _ _ member)).other

/-- The options that the kit's session sees if those of rendering are no options themselves. -/
def childOptions : List (OptionName × Text) :=
  frontOptions host loading address ++ loading.templateOptions

/-- The options that the parser reads, if none holds a blank. -/
theorem optionsOf_childTokens (noPart : loading.parsed.part = -1)
    (oneWord : ' ' ∉ loading.parsed.session.templateSource)
    (options
      : loading.parsed.session.docOptions = [] ∨ ' ' ∉ loading.parsed.session.docOptions)
    : optionsOf (childTokens host loading address) = childOptions host loading address := by
  rw [childTokens_eq host loading address noPart, optionsOf_append, optionsOf_append,
    optionsOf_frontTokens, loading.optionsOf_templateTokens oneWord, LoadingSession.optionsTokens,
    LoadingSession.optionsPart, optionsOf_docOptions loading.docOptions_line options,
    List.nil_append, childOptions]

/-- No conversion of them throws, since the values were encoded. -/
theorem childOptions_quiet
    : ∀ option ∈ childOptions host loading address, throws host.toHost option = false := by
  have encoded (text : Text) : (host.decode (host.encode text)).2 = false := by
    rw [host.decode_encode]
  have twice (left right : Text)
      : (host.decode (host.encode left ++ host.encode right)).2 = false := by
    rw [host.decode_append]
  have opacity : (host.stod host.opacity).isNone = false := by
    rw [← Option.not_isSome, host.stod_opacity, Bool.not_true]
  have user : ∀ option ∈ loading.userOptions host, throws host.toHost option = false := by
    unfold LoadingSession.userOptions
    dsimp only
    rw [List.forall_mem_append, List.forall_mem_append, List.forall_mem_singleton]
    refine ⟨⟨?_, ?_⟩, rfl⟩
    · split
      · rw [List.forall_mem_cons, List.forall_mem_cons, List.forall_mem_cons,
          List.forall_mem_singleton]
        exact ⟨encoded _, twice _ _, encoded _, twice _ _⟩
      · exact List.forall_mem_nil _
    · split
      · exact List.forall_mem_nil _
      · rw [List.forall_mem_singleton]
        exact encoded _
  have document : ∀ option ∈ loading.documentOptions host,
      throws host.toHost option = false := by
    unfold LoadingSession.documentOptions
    dsimp only
    rw [List.forall_mem_append, List.forall_mem_append, List.forall_mem_append]
    refine ⟨⟨⟨?_, ?_⟩, ?_⟩, ?_⟩
    · split
      · rw [List.forall_mem_singleton]
        exact encoded _
      · exact List.forall_mem_nil _
    · split
      · exact List.forall_mem_nil _
      · rw [List.forall_mem_singleton, throws]
    · split
      · exact List.forall_mem_nil _
      · rw [List.forall_mem_singleton, throws]
    · split
      · rw [List.forall_mem_cons, List.forall_mem_singleton]
        exact ⟨encoded _, opacity⟩
      · exact List.forall_mem_nil _
  have template : ∀ option ∈ loading.templateOptions, throws host.toHost option = false := by
    unfold LoadingSession.templateOptions
    dsimp only
    split
    · exact List.forall_mem_nil _
    · rw [List.forall_mem_singleton, throws]
  unfold childOptions frontOptions
  rw [List.forall_mem_append, List.forall_mem_cons, List.forall_mem_cons, List.forall_mem_cons,
    List.forall_mem_append]
  exact ⟨⟨rfl, rfl, rfl, user, document⟩, template⟩

/-- The last value of each option is that of the session. -/
theorem childOptions_values
    : let options := childOptions host loading address
      let session := loading.parsed.session
      (lastValue .template options).getD [] = session.templateSource
      ∧ (lastValue .lang options).getD [] = session.lang
      ∧ (session.watermarkText ≠ []
        → lastValue .watermarkOpacity options = some host.opacity)
      ∧ appended host.toHost .authorid options
        = (if session.userId ≠ [] ∧ session.userName ≠ [] then session.userId else [])
      ∧ appended host.toHost .author options
        = (if session.userId ≠ [] ∧ session.userName ≠ [] then session.userName else [])
      ∧ appended host.toHost .authorextrainfo options = session.userExtraInfo
      ∧ appended host.toHost .watermarkText options = session.watermarkText
      ∧ lastReadOnly options = some [if session.isReadOnly then '1' else '0'] := by
  have decoded := host.decode_encode
  simp only [childOptions, frontOptions, LoadingSession.userOptions,
    LoadingSession.documentOptions, LoadingSession.templateOptions, appended, lastValue,
    lastReadOnly, List.filter_append, List.filter_cons, apply_ite (List.filter _)]
  refine ⟨?_, ?_, ?_, ?_, ?_, ?_, ?_, ?_⟩
  · simp
    split <;> simp [*]
  · simp
    split <;> simp [*]
  · intro present
    simp [present]
  · simp
    split <;> simp [decoded]
  · simp
    split <;> simp [decoded]
  · simp
    split <;> simp [*]
  · simp
    split <;> simp [*]
  · simp

/-- Under these conditions the kit's session has read what the session in wsd has. -/
structure LoadingSession.Kept : Prop where
  noPart : loading.parsed.part = -1
  template : ' ' ∉ loading.parsed.session.templateSource
  options
    : loading.parsed.session.docOptions = []
      ∨ ' ' ∉ loading.parsed.session.docOptions ∧ loading.parsed.session.templateSource = []
  user : loading.parsed.session.userId = [] ↔ loading.parsed.session.userName = []

/-- The identity of a user is kept if both the id and the name are known. -/
theorem childOptions_credentials
    : (childOptions host loading address).foldl (Credentials.setOption host.toHost)
          (newSession false).credentials
        = loading.parsed.session.credentials
      ↔ (loading.parsed.session.userId = [] ↔ loading.parsed.session.userName = []) := by
  obtain ⟨-, -, -, userId, userName, extra, watermark, readOnly⟩ :=
    childOptions_values host loading address
  have flag : ∀ given : Bool, (([if given then '1' else '0'] : Text) != ['0']) = given := by
    decide
  rw [foldl_setOption, userId, userName, extra, watermark, readOnly]
  simp only [Session.credentials, newSession, Credentials.mk.injEq, List.nil_append,
    Option.elim_some, flag, and_true]
  generalize loading.parsed.session.userId = userId
  generalize loading.parsed.session.userName = userName
  by_cases noId : userId = [] <;> by_cases noName : userName = [] <;> simp [noId, noName, eq_comm]

/-- The kit reads the load of the session if and only if its options are kept. -/
theorem sameLoad_iff
    : SameLoad host.toHost loading.parsed
        (parseDocOptions host.toHost (newSession false)
          ("load".toList :: childTokens host loading address) (-1))
      ↔ loading.Kept := by
  have notPart := url_notPart host.publicUri
  have quiet := childOptions_quiet host loading address
  constructor
  · intro same
    have noPart : loading.parsed.part = -1 := by
      rw [← same.part]
      exact parseDocOptions_part host.toHost _ notPart _ _
    have template : ' ' ∉ loading.parsed.session.templateSource := by
      have blanks : ∀ token ∈ childTokens host loading address, ' ' ∉ token :=
        fun token member => (childTokens_isToken host loading address token member).1.1
      rw [← same.doctemplate]
      exact parseDocOptions_doctemplate notPart blanks
    have options : loading.parsed.session.docOptions = []
        ∨ ' ' ∉ loading.parsed.session.docOptions
          ∧ loading.parsed.session.templateSource = [] := by
      by_cases absent : loading.parsed.session.docOptions = []
      · exact Or.inl absent
      · right
        apply (readDocOptions_childTokens host loading address noPart template absent).mp
        rw [← same.docOptions] at absent ⊢
        exact parseDocOptions_docOptions notPart absent
    refine ⟨noPart, template, options, ?_⟩
    apply (childOptions_credentials host loading address).mp
    have tokens := optionsOf_childTokens host loading address noPart template
      (options.imp_right (·.1))
    rw [← tokens] at quiet ⊢
    rw [← same.credentials]
    exact (parseDocOptions_foldl notPart quiet).symm
  · intro kept
    have tokens := optionsOf_childTokens host loading address kept.noPart kept.template
      (kept.options.imp_right (·.1))
    have credentials := (childOptions_credentials host loading address).mpr kept.user
    obtain ⟨template, lang, opacity, -⟩ := childOptions_values host loading address
    rw [← tokens] at quiet credentials template lang opacity
    obtain ⟨after, reads, result⟩ := @parseDocOptions_reads _ (newSession false) _ notPart
      "load".toList _ quiet
    have userFields := @parseDocOptions_foldl _ (newSession false) _ notPart "load".toList _ quiet
    have docOptions : (readDocOptions
          ((childTokens host loading address).drop
            (optionsOf (childTokens host loading address)).length)).getD []
        = loading.parsed.session.docOptions := by
      by_cases absent : loading.parsed.session.docOptions = []
      · have unread := readDocOptions_absent host loading address kept.noPart kept.template absent
        dsimp only at unread
        rw [unread, absent, Option.getD_none]
      · have read := (readDocOptions_childTokens host loading address kept.noPart kept.template
          absent).mpr (kept.options.resolve_left absent)
        rw [read, Option.getD_some]
    refine ⟨?_, ?_, ?_, userFields.trans credentials, ?_, ?_⟩
    · exact (parseDocOptions_part host.toHost _ notPart _ _).trans kept.noPart.symm
    · exact (congrArg (·.1.doctemplate) result).trans (reads.doctemplate.trans template)
    · exact (congrArg (·.1.session.docOptions) result).trans docOptions
    · exact (congrArg (·.1.session.lang) result).trans (reads.lang.trans lang)
    · intro present
      obtain ⟨number, read⟩ := Option.isSome_iff_exists.mp host.stod_opacity
      have last := opacity present
      rw [childTokens] at last
      have written : after.session.watermarkOpacity = number := by
        rw [reads.watermarkOpacity, last, Option.bind_some, read, Option.getD_some]
      have same := congrArg (·.1.session.watermarkOpacity) result
      dsimp only [childTokens] at same
      rw [childTokens, same, read, written]

/-- The broker forwards a message from which the kit's session reads what the session in wsd
has read, exactly under the conditions of `Kept`.
-/
theorem loadMessage_read_iff
    : ∃ message,
        forwardToChild address (loadMessage host.toHost loading.parsed) = some message
        ∧ (SameLoad host.toHost loading.parsed (readByChild host.toHost message)
          ↔ loading.Kept) := by
  refine ⟨_, forwardToChild_loadMessage host loading address, ?_⟩
  rw [readByChild, tokenize_childMessage]
  exact sameLoad_iff host loading address

end Parts

def escapingLawfulHost : LawfulHost where
  toHost := escapingHost
  publicUri_word := by decide
  encode_word := escape_word
  decode_encode text := Prod.ext (unescape_escape text) rfl
  decode_append left right := by
    apply Prod.ext
    · have same := unescape_escape (left ++ right)
      rw [List.flatMap_append] at same
      exact same
    · rfl
  opacity_word := by decide
  stod_opacity := rfl

/-- A session with a part, or with rendering options and a template. -/
def loadingSession (part : Int32) (docOptions templateSource : String)
    (docOptions_line : '\n' ∉ docOptions.toList)
    (templateSource_line : '\n' ∉ templateSource.toList)
    : LoadingSession where
  parsed :=
    {
      session :=
        {
          newSession false with
          docOptions := docOptions.toList
          templateSource := templateSource.toList
        }
      part
      timestamp := []
      doctemplate := []
      offset := 2
    }
  lang_word := ⟨List.not_mem_nil, List.not_mem_nil⟩
  timezone_word := ⟨List.not_mem_nil, List.not_mem_nil⟩
  docOptions_line := docOptions_line
  templateSource_line := templateSource_line

def firstAddress : ChildAddress where
  viewId := "0001".toList
  uriJailed := "file:///user/doc".toList
  uriJailedAnonym := "file:///user/doc".toList
  viewId_word := by decide
  uriJailed_word := by decide
  uriJailedAnonym_word := by decide

/-- What the kit reads of a forwarded message. -/
def readForwarded (loading : LoadingSession) : Option (DocOptions × Option Thrown) :=
  (forwardToChild firstAddress (loadMessage escapingHost loading.parsed)).map
    (readByChild escapingHost)

/-- The kit does not read the part, nor rendering options in front of a template. -/
theorem loadMessage_fields_lost
    : let withPart := loadingSession 2 "" "" (by decide) (by decide)
      let withTemplate := loadingSession (-1) "{}" "http://t" (by decide) (by decide)
      (∃ result,
        readForwarded withPart = some result ∧ ¬ SameLoad escapingHost withPart.parsed result)
      ∧ ∃ result,
        readForwarded withTemplate = some result
        ∧ ¬ SameLoad escapingHost withTemplate.parsed result := by
  have part : (readForwarded (loadingSession 2 "" "" (by decide) (by decide))).any
        (fun result => result.1.part = -1) = true := by
    decide +kernel
  have options : (readForwarded
        (loadingSession (-1) "{}" "http://t" (by decide) (by decide))).any
        (fun result => result.1.session.docOptions = []) = true := by
    decide +kernel
  obtain ⟨first, firstRead, noPart⟩ := (Option.any_eq_true _ _).mp part
  obtain ⟨second, secondRead, noOptions⟩ := (Option.any_eq_true _ _).mp options
  refine ⟨⟨first, firstRead, ?_⟩, second, secondRead, ?_⟩
  · intro same
    have read := (of_decide_eq_true noPart).symm.trans same.part
    exact absurd read (by decide)
  · intro same
    have read := (of_decide_eq_true noOptions).symm.trans same.docOptions
    exact absurd read (by decide)

end NdcOdfWeb.Sessions
