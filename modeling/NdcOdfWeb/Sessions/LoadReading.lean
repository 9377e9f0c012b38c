import NdcOdfWeb.Protocol.TrimmedTokens
import NdcOdfWeb.Sessions.Credentials
import NdcOdfWeb.Tiles.TileDescCodec

/-! What `parseDocOptions` reads from a load message whose first token is the URL. -/

namespace NdcOdfWeb.Sessions

open NdcOdfWeb.Foundation
open NdcOdfWeb.Protocol
open NdcOdfWeb.Tiles

-----------------------------------------------------------------------------------------
-- Options
-----------------------------------------------------------------------------------------

/-- The options among some tokens. -/
abbrev optionsOf (tokens : List Text) : List (OptionName × Text) :=
  tokens.filterMap readOption

/-- Options are read token by token. -/
theorem optionsOf_append (left right : List Text)
    : optionsOf (left ++ right) = optionsOf left ++ optionsOf right :=
  List.filterMap_append

/-- The value of the last option of a name. -/
def lastValue (name : OptionName) (options : List (OptionName × Text)) : Option Text :=
  (options.filter (·.1 = name)).getLast?.map (·.2)

/-- The effect of an option that does not throw. -/
def DocOptions.apply (host : Host) (options : DocOptions) (option : OptionName × Text)
    : DocOptions :=
  (options.setOption host option.1 option.2).1

/-- No option sets the part or the rendering options. -/
theorem apply_kept (host : Host) (options : DocOptions) (option : OptionName × Text)
    : (options.apply host option).part = options.part
      ∧ (options.apply host option).session.docOptions = options.session.docOptions := by
  obtain ⟨name, value⟩ := option
  unfold DocOptions.apply DocOptions.setOption
  cases name with
  | authorid | author | authorextrainfo | watermarkText | xauthorid | xauthor | password =>
      dsimp only
      split <;> exact ⟨rfl, rfl⟩
  | watermarkOpacity =>
      dsimp only
      split <;> exact ⟨rfl, rfl⟩
  | url | jail | xjail | readonly | lang | timezone | timestamp | template => exact ⟨rfl, rfl⟩

/-- An option that does not throw is counted. -/
theorem apply_offset {host : Host} {options : DocOptions} {option : OptionName × Text}
    (quiet : throws host option = false)
    : (options.apply host option).offset = options.offset + 1 := by
  obtain ⟨name, value⟩ := option
  unfold throws at quiet
  unfold DocOptions.apply DocOptions.setOption
  cases name with
  | authorid | author | authorextrainfo | watermarkText | xauthorid | xauthor | password =>
      dsimp only at quiet ⊢
      rw [quiet]
      rfl
  | watermarkOpacity =>
      dsimp only at quiet ⊢
      cases read : host.stod value with
      | none => simp [read] at quiet
      | some opacity => rfl
  | url | jail | xjail | readonly | lang | timezone | timestamp | template => rfl

/-- Without exceptions, all options are applied in order. -/
theorem setOptions_eq {host : Host} {tokens : List Text} (options : DocOptions)
    (quiet : ∀ option ∈ optionsOf tokens, throws host option = false)
    : options.setOptions host tokens
      = ((optionsOf tokens).foldl (DocOptions.apply host) options, none) := by
  induction tokens generalizing options with
  | nil => rfl
  | cons token tokens ih =>
      rw [DocOptions.setOptions]
      cases read : readOption token with
      | none =>
          rw [optionsOf, List.filterMap_cons_none read] at quiet ⊢
          exact ih options quiet
      | some option =>
          rw [optionsOf, List.filterMap_cons_some read] at quiet ⊢
          rw [List.forall_mem_cons] at quiet
          have same := setOption_throws host options option.1 option.2
          rw [quiet.1, Option.isSome_eq_false_iff, Option.isNone_iff_eq_none] at same
          have later := ih (options.apply host option) quiet.2
          dsimp only
          rw [List.foldl_cons, ← later, DocOptions.apply]
          generalize options.setOption host option.1 option.2 = result at same ⊢
          obtain ⟨after, thrown⟩ := result
          cases same
          rfl

/-- Without an exception, all options are processed. By induction on them. -/
theorem processed_eq {host : Host} {options : List (OptionName × Text)}
    (quiet : ∀ option ∈ options, throws host option = false)
    : processed host options = options := by
  induction options with
  | nil => rfl
  | cons option options ih =>
      rw [List.forall_mem_cons] at quiet
      rw [processed, if_neg (by simp [quiet.1]), ih quiet.2]

/-- A value is part of its token. -/
theorem readOption_value {token : Text} {option : OptionName × Text}
    (read : readOption token = some option) {c : Char} (absent : c ∉ token)
    : c ∉ option.2 := by
  unfold readOption parseNameValuePair at read
  cases behind : token.dropWhile (· != '=') with
  | nil => simp [behind] at read
  | cons equals value =>
      have inside : ∀ d ∈ value, d ∈ token := by
        intro d member
        apply (List.dropWhile_suffix (· != '=')).subset
        rw [behind]
        exact List.mem_cons_of_mem _ member
      simp only [behind, Option.bind_eq_bind, Option.bind_some, Option.pure_def,
        Option.bind_eq_some_iff, Option.some.injEq] at read
      obtain ⟨name, -, rfl⟩ := read
      exact fun member => absent (inside c member)

/-- Where the options end without an exception, none of them throws. -/
theorem quiet_of_setOptions {host : Host} {tokens : List Text} {options : DocOptions}
    (ends : (options.setOptions host tokens).2 = none)
    : ∀ option ∈ optionsOf tokens, throws host option = false := by
  induction tokens generalizing options with
  | nil => exact List.forall_mem_nil _
  | cons token tokens ih =>
      rw [DocOptions.setOptions] at ends
      cases read : readOption token with
      | none =>
          rw [optionsOf, List.filterMap_cons_none read]
          rw [read] at ends
          exact ih ends
      | some option =>
          rw [optionsOf, List.filterMap_cons_some read, List.forall_mem_cons]
          rw [read] at ends
          have same := setOption_throws host options option.1 option.2
          dsimp only at ends
          generalize options.setOption host option.1 option.2 = result at ends same
          obtain ⟨after, thrown⟩ := result
          cases thrown with
          | none => exact ⟨same.symm, ih ends⟩
          | some thrown => cases ends

/-- The loop leaves the part and the document options alone, by induction on the tokens. -/
theorem setOptions_kept (host : Host) (tokens : List Text) (options : DocOptions)
    : (options.setOptions host tokens).1.part = options.part
      ∧ (options.setOptions host tokens).1.session.docOptions = options.session.docOptions := by
  induction tokens generalizing options with
  | nil => exact ⟨rfl, rfl⟩
  | cons token tokens ih =>
      rw [DocOptions.setOptions]
      cases readOption token with
      | none => exact ih options
      | some option =>
          obtain ⟨part, docOptions⟩ := apply_kept host options option
          unfold DocOptions.apply at part docOptions
          dsimp only
          generalize options.setOption host option.1 option.2 = result at part docOptions ⊢
          obtain ⟨after, thrown⟩ := result
          cases thrown with
          | none => exact ⟨(ih after).1.trans part, (ih after).2.trans docOptions⟩
          | some thrown => exact ⟨part, docOptions⟩

-----------------------------------------------------------------------------------------
-- Fields
-----------------------------------------------------------------------------------------

/-- The last value of a name is that of the last option, if it has the name. -/
theorem lastValue_append (name : OptionName) (options : List (OptionName × Text))
    (option : OptionName × Text)
    : lastValue name (options ++ [option])
      = if option.1 = name then some option.2 else lastValue name options := by
  unfold lastValue
  rw [List.filter_append]
  by_cases same : option.1 = name
  · simp [same]
  · simp [same]

/-- What options that do not throw set, other than the credentials. -/
structure Reads (host : Host) (options : List (OptionName × Text)) (start after : DocOptions)
    : Prop where
  part : after.part = start.part
  docOptions : after.session.docOptions = start.session.docOptions
  offset : after.offset = start.offset + options.length
  timestamp : after.timestamp = (lastValue .timestamp options).getD start.timestamp
  doctemplate : after.doctemplate = (lastValue .template options).getD start.doctemplate
  lang : after.session.lang = (lastValue .lang options).getD start.session.lang
  timezone : after.session.timezone = (lastValue .timezone options).getD start.session.timezone
  docPassword
    : after.session.docPassword = start.session.docPassword ++ appended host .password options
  watermarkOpacity
    : after.session.watermarkOpacity
      = ((lastValue .watermarkOpacity options).bind host.stod).getD start.session.watermarkOpacity

/-- One option sets the field of its name. -/
theorem apply_fields (host : Host) (options : DocOptions) (option : OptionName × Text)
    : let after := options.apply host option
      after.timestamp = (if option.1 = .timestamp then option.2 else options.timestamp)
      ∧ after.doctemplate = (if option.1 = .template then option.2 else options.doctemplate)
      ∧ after.session.lang = (if option.1 = .lang then option.2 else options.session.lang)
      ∧ after.session.timezone
        = (if option.1 = .timezone then option.2 else options.session.timezone)
      ∧ after.session.docPassword
        = options.session.docPassword
          ++ (if option.1 = .password then (host.decode option.2).1 else [])
      ∧ after.session.watermarkOpacity
        = (if option.1 = .watermarkOpacity then
            (host.stod option.2).getD options.session.watermarkOpacity
          else options.session.watermarkOpacity) := by
  obtain ⟨name, value⟩ := option
  unfold DocOptions.apply DocOptions.setOption
  cases name with
  | authorid | author | authorextrainfo | watermarkText | xauthorid | xauthor =>
      dsimp only
      split <;> simp [DocOptions.next]
  | password =>
      dsimp only
      split <;> simp [DocOptions.next]
  | watermarkOpacity =>
      dsimp only
      split <;> next read => simp [DocOptions.next, read]
  | url | jail | xjail | readonly | lang | timezone | timestamp | template =>
      simp [DocOptions.next]

/-- The template is the value of a token. -/
theorem setOptions_doctemplate {host : Host} {tokens : List Text} {options : DocOptions}
    {c : Char} (absent : c ∉ options.doctemplate) (clean : ∀ token ∈ tokens, c ∉ token)
    : c ∉ (options.setOptions host tokens).1.doctemplate := by
  induction tokens generalizing options with
  | nil => exact absent
  | cons token tokens ih =>
      rw [List.forall_mem_cons] at clean
      rw [DocOptions.setOptions]
      cases read : readOption token with
      | none => exact ih absent clean.2
      | some option =>
          have value := readOption_value read clean.1
          have kept : c ∉ (options.setOption host option.1 option.2).1.doctemplate := by
            have same := (apply_fields host options option).2.1
            unfold DocOptions.apply at same
            rw [same]
            split
            · exact value
            · exact absent
          dsimp only
          generalize options.setOption host option.1 option.2 = result at kept ⊢
          obtain ⟨after, thrown⟩ := result
          cases thrown with
          | none => exact ih kept clean.2
          | some thrown => exact kept

/-- What all options set, by induction from the back: the last one of each name counts. -/
theorem foldl_apply_reads {host : Host} {options : List (OptionName × Text)} (start : DocOptions)
    (quiet : ∀ option ∈ options, throws host option = false)
    : Reads host options start (options.foldl (DocOptions.apply host) start) := by
  induction options using List.reverseRecOn with
  | nil => exact ⟨rfl, rfl, rfl, rfl, rfl, rfl, rfl, (List.append_nil _).symm, rfl⟩
  | append_singleton options option ih =>
      rw [List.forall_mem_append, List.forall_mem_singleton] at quiet
      have before := ih quiet.1
      rw [List.foldl_append, List.foldl_cons, List.foldl_nil]
      generalize options.foldl (DocOptions.apply host) start = middle at before ⊢
      obtain ⟨part, docOptions⟩ := apply_kept host middle option
      obtain ⟨timestamp, doctemplate, lang, timezone, docPassword, watermarkOpacity⟩ :=
        apply_fields host middle option
      refine ⟨part.trans before.part, docOptions.trans before.docOptions, ?_, ?_, ?_, ?_, ?_, ?_,
        ?_⟩
      · rw [apply_offset quiet.2, before.offset, List.length_append, List.length_singleton,
          Nat.add_assoc]
      · rw [timestamp, before.timestamp, lastValue_append]
        split <;> rfl
      · rw [doctemplate, before.doctemplate, lastValue_append]
        split <;> rfl
      · rw [lang, before.lang, lastValue_append]
        split <;> rfl
      · rw [timezone, before.timezone, lastValue_append]
        split <;> rfl
      · rw [docPassword, before.docPassword, List.append_assoc]
        simp only [appended, List.filter_append, List.flatMap_append]
        by_cases same : option.1 = .password
        · simp [same]
        · simp [same]
      · rw [watermarkOpacity, before.watermarkOpacity, lastValue_append]
        split
        · next same =>
            have read := quiet.2
            rw [throws, same] at read
            cases number : host.stod option.2 with
            | none => simp [number] at read
            | some opacity => rw [Option.bind_some, number, Option.getD_some, Option.getD_some]
        · rfl

-----------------------------------------------------------------------------------------
-- A message with the URL in front
-----------------------------------------------------------------------------------------

/-- The rendering options are read from the last tokens of a message. -/
def readDocOptions : List Text → Option Text
  | [] => none
  | first :: rest =>
      (getTokenString first "options".toList).map (· ++ [' '].intercalate rest)

/-- The variables before the first option. -/
def DocOptions.start (session : Session) : DocOptions where
  session := session
  part := -1
  timestamp := []
  doctemplate := []
  offset := 1

/-- The part is looked for in front of the other options only. -/
theorem loadTokens_url {url : Text} (notPart : ¬ "part=".toList <+: url) (load : Text)
    (rest : List Text) (part : Int32)
    : loadTokens (load :: url :: rest) part = (part, url :: rest) := by
  cases rest with
  | nil => rfl
  | cons second rest => rw [loadTokens, if_neg notPart]

/-- The result of `parseDocOptions`: without an exception, the rendering options are those
behind as many tokens as are options.
-/
theorem parseDocOptions_url (host : Host) (session : Session) {url : Text}
    (notPart : ¬ "part=".toList <+: url) (load : Text) (rest : List Text)
    : let parsed := (DocOptions.start session).setOptions host (url :: rest)
      let result := parseDocOptions host session (load :: url :: rest) (-1)
      result.2 = parsed.2
      ∧ (parsed.2 ≠ none → result.1 = parsed.1)
      ∧ (parsed.2 = none
        → result.1
          = {
              parsed.1 with
              session :=
                {
                  parsed.1.session with
                  docOptions :=
                    (readDocOptions
                      ((url :: rest).drop (optionsOf (url :: rest)).length)).getD
                        session.docOptions
                }
            }) := by
  have start : (⟨session, -1, [], [], (load :: url :: rest).length - (url :: rest).length⟩
      : DocOptions) = DocOptions.start session := by
    simp [DocOptions.start]
  unfold parseDocOptions
  rw [loadTokens_url notPart]
  dsimp only
  rw [start]
  cases ends : ((DocOptions.start session).setOptions host (url :: rest)).2 with
  | some thrown =>
      generalize (DocOptions.start session).setOptions host (url :: rest) = parsed at ends ⊢
      obtain ⟨after, result⟩ := parsed
      cases ends
      exact ⟨rfl, fun _ => rfl, fun same => nomatch same⟩
  | none =>
      have quiet := quiet_of_setOptions ends
      have reads := foldl_apply_reads (DocOptions.start session) quiet
      rw [setOptions_eq (DocOptions.start session) quiet] at ends ⊢
      generalize (optionsOf (url :: rest)).foldl (DocOptions.apply host)
        (DocOptions.start session) = after at reads ⊢
      have tokens : (load :: url :: rest).drop after.offset
          = (url :: rest).drop (optionsOf (url :: rest)).length := by
        rw [reads.offset, DocOptions.start, Nat.add_comm, List.drop_succ_cons]
      have kept : after.session.docOptions = session.docOptions := reads.docOptions
      have same : { after with session := { after.session with docOptions := session.docOptions } }
          = after := by
        rw [← kept]
      dsimp only
      rw [tokens]
      generalize (url :: rest).drop (optionsOf (url :: rest)).length = behind
      cases behind with
      | nil => exact ⟨rfl, fun different => absurd rfl different, fun _ => same.symm⟩
      | cons first behind =>
          unfold readDocOptions
          dsimp only
          cases getTokenString first "options".toList with
          | none => exact ⟨rfl, fun different => absurd rfl different, fun _ => same.symm⟩
          | some value => exact ⟨rfl, fun different => absurd rfl different, fun _ => rfl⟩

/-- A part that does not stand in front is not read. -/
theorem parseDocOptions_part (host : Host) (session : Session) {url : Text}
    (notPart : ¬ "part=".toList <+: url) (load : Text) (rest : List Text)
    : (parseDocOptions host session (load :: url :: rest) (-1)).1.part = -1 := by
  obtain ⟨-, thrown, quiet⟩ := parseDocOptions_url host session notPart load rest
  have kept := (setOptions_kept host (url :: rest) (DocOptions.start session)).1
  by_cases ends : ((DocOptions.start session).setOptions host (url :: rest)).2 = none
  · rw [quiet ends]
    exact kept
  · rw [thrown ends]
    exact kept

/-- No template has a blank in it. -/
theorem parseDocOptions_doctemplate {host : Host} {session : Session} {url : Text}
    (notPart : ¬ "part=".toList <+: url) {load : Text} {rest : List Text} {c : Char}
    (clean : ∀ token ∈ url :: rest, c ∉ token)
    : c ∉ (parseDocOptions host session (load :: url :: rest) (-1)).1.doctemplate := by
  obtain ⟨-, thrown, quiet⟩ := parseDocOptions_url host session notPart load rest
  have absent : c ∉ (DocOptions.start session).doctemplate := List.not_mem_nil
  have kept := @setOptions_doctemplate host _ _ _ absent clean
  by_cases ends : ((DocOptions.start session).setOptions host (url :: rest)).2 = none
  · rw [quiet ends]
    exact kept
  · rw [thrown ends]
    exact kept

/-- Without exceptions, all options set credentials. -/
theorem parseDocOptions_foldl {host : Host} {session : Session} {url : Text}
    (notPart : ¬ "part=".toList <+: url) {load : Text} {rest : List Text}
    (quiet : ∀ option ∈ optionsOf (url :: rest), throws host option = false)
    : (parseDocOptions host session (load :: url :: rest) (-1)).1.session.credentials
      = (optionsOf (url :: rest)).foldl (Credentials.setOption host) session.credentials := by
  rw [parseDocOptions_credentials, loadTokens_url notPart, processed_eq quiet]

/-- Rendering options that the session did not have are those that are read. -/
theorem parseDocOptions_docOptions {host : Host} {session : Session} {url : Text}
    (notPart : ¬ "part=".toList <+: url) {load : Text} {rest : List Text}
    (new
      : (parseDocOptions host session (load :: url :: rest) (-1)).1.session.docOptions
        ≠ session.docOptions)
    : readDocOptions ((url :: rest).drop (optionsOf (url :: rest)).length)
      = some (parseDocOptions host session (load :: url :: rest) (-1)).1.session.docOptions := by
  obtain ⟨-, thrown, quiet⟩ := parseDocOptions_url host session notPart load rest
  have kept := (setOptions_kept host (url :: rest) (DocOptions.start session)).2
  by_cases ends : ((DocOptions.start session).setOptions host (url :: rest)).2 = none
  · rw [quiet ends] at new ⊢
    dsimp only at new ⊢
    cases read : readDocOptions ((url :: rest).drop (optionsOf (url :: rest)).length) with
    | none =>
        rw [read] at new
        exact absurd rfl new
    | some text => rfl
  · rw [thrown ends] at new
    exact absurd kept new

/-- Where no option throws, the options are applied, and then the rendering options read. -/
theorem parseDocOptions_reads {host : Host} {session : Session} {url : Text}
    (notPart : ¬ "part=".toList <+: url) {load : Text} {rest : List Text}
    (quiet : ∀ option ∈ optionsOf (url :: rest), throws host option = false)
    : ∃ after,
        Reads host (optionsOf (url :: rest)) (DocOptions.start session) after
        ∧ parseDocOptions host session (load :: url :: rest) (-1)
          = ({
              after with
              session :=
                {
                  after.session with
                  docOptions :=
                    (readDocOptions
                      ((url :: rest).drop (optionsOf (url :: rest)).length)).getD
                        session.docOptions
                }
            }, none) := by
  obtain ⟨same, -, reads⟩ := parseDocOptions_url host session notPart load rest
  have parsed := setOptions_eq (DocOptions.start session) quiet
  rw [parsed] at same reads
  exact ⟨_, foldl_apply_reads (DocOptions.start session) quiet, Prod.ext (reads rfl) same⟩

-----------------------------------------------------------------------------------------
-- The rendering options
-----------------------------------------------------------------------------------------

/-- A token that is read is its name and its value. -/
theorem getTokenString_eq_some {token name value : Text}
    (found : getTokenString token name = some value)
    : token = name ++ '=' :: value := by
  unfold getTokenString hasName at found
  split at found
  · next named =>
      simp only [Bool.and_eq_true, List.isPrefixOf_iff_prefix, beq_iff_eq] at named
      obtain ⟨long, ⟨rest, rfl⟩, equals⟩ := named
      rw [List.getElem?_append_right (Nat.le_refl _), Nat.sub_self] at equals
      cases rest with
      | nil => cases equals
      | cons c rest =>
          obtain rfl : c = '=' := by simpa using equals
          have behind : (name ++ '=' :: rest).drop (name.length + 1) = rest := by
            rw [← List.singleton_append, ← List.append_assoc,
              ← List.length_singleton (a := '='), ← List.length_append, List.drop_left]
          rw [behind] at found
          rw [Option.some.inj found]
  · cases found

/-- The value of a field is read back. -/
theorem getTokenString_field (name value : Text)
    : getTokenString (name ++ '=' :: value) name = some value := by
  have behind : (name ++ '=' :: value).drop (name.length + 1) = value := by
    rw [← List.singleton_append, ← List.append_assoc, ← List.length_singleton (a := '='),
      ← List.length_append, List.drop_left]
  rw [getTokenString, if_pos, behind]
  constructor
  · simp
  · simp [hasName, List.isPrefixOf_iff_prefix]

/-- The name of the options and the equals sign. -/
theorem options_eq : "options=".toList = "options".toList ++ ['='] := by
  decide

/-- The name of the options is one word. -/
theorem options_clean : LineWord ' ' "options=".toList := by
  decide

/-- The token `options=` is no option itself. -/
theorem readOption_options (value : Text)
    : readOption ("options=".toList ++ value) = none := by
  have name : optionName "options".toList = none := by decide
  have clean : '=' ∉ "options".toList := by decide
  rw [options_eq, List.append_assoc, List.singleton_append]
  unfold readOption
  rw [parseNameValuePair_field clean]
  change (optionName "options".toList).bind (fun option => some (option, value)) = none
  rw [name, Option.bind_none]

/-- Words that are written one behind the other, with the first one run on. -/
theorem intercalate_cons (first : Text) (rest : List Text)
    : [' '].intercalate (first :: rest) = first ++ spaced ' ' rest := by
  induction rest generalizing first with
  | nil => simp
  | cons second rest ih =>
      rw [List.intercalate_cons_cons, ih, spaced_cons, List.append_assoc, List.singleton_append]

/-- A token that stands behind the rendering options. -/
structure Behind (token : Text) : Prop where
  word : LineWord ' ' token
  nonempty : token ≠ []
  other : getTokenString token "options".toList = none

/-- No more than one token stands behind the rendering options, or two, the first of which is
an option.
-/
def Few (back : List Text) : Prop :=
  back.length ≤ 1 ∨ ∃ first second, back = [first, second] ∧ (readOption first).isSome = true

/-- What is read as rendering options, written behind `options=`, has for tokens the token that
it is read from, run together with the next one, and the later ones.
-/
theorem tokenize_readDocOptions {tokens : List Text} {text : Text}
    (clean : ∀ token ∈ tokens, LineWord ' ' token ∧ token ≠ [])
    (read : readDocOptions tokens = some text)
    : ∃ first value rest,
        tokens = first :: rest
        ∧ getTokenString first "options".toList = some value
        ∧ text = value ++ [' '].intercalate rest
        ∧ tokenize ' ' ("options=".toList ++ text)
          = match rest with
            | [] => [first]
            | second :: later => (first ++ second) :: later := by
  cases tokens with
  | nil => cases read
  | cons first rest =>
      obtain ⟨value, found, rfl⟩ := Option.map_eq_some_iff.mp read
      refine ⟨first, value, rest, rfl, found, rfl, ?_⟩
      have written : "options=".toList ++ (value ++ [' '].intercalate rest)
          = first ++ [' '].intercalate rest := by
        rw [getTokenString_eq_some found, options_eq]
        simp
      rw [List.forall_mem_cons] at clean
      rw [written]
      cases rest with
      | nil =>
          rw [List.intercalate_nil, List.append_nil, tokenize_clean clean.1.1 clean.1.2]
      | cons second later =>
          rw [List.forall_mem_cons] at clean
          have words : ∀ word ∈ later, LineWord ' ' word :=
            fun word member => (clean.2.2 word member).1
          have nonempty : (first ++ second) :: later
              = ((first ++ second) :: later).filter (· ≠ []) := by
            rw [eq_comm, List.filter_eq_self, List.forall_mem_cons]
            refine ⟨?_, fun word member => by simpa using (clean.2.2 word member).2⟩
            simp [clean.1.2]
          rw [intercalate_cons, ← List.append_assoc,
            tokenize_spaced (by decide) (clean.1.1.append clean.2.1.1) words, ← nonempty]

/-- Tokens that are read as they were written are read from the first one to the last, which
has no others behind it.
-/
theorem read_alone {head first : Text} {later back rest : List Text} (few : Few back)
    (notBehind : first ∉ back) (nonempty : ∀ token ∈ head :: later ++ back, token ≠ [])
    (same
      : head :: later
        = match rest with
          | [] => [first]
          | second :: more => (first ++ second) :: more)
    (behind
      : (head :: later ++ back).drop ((optionsOf later).length + (optionsOf back).length)
        = first :: rest)
    : back = [] ∧ rest = [] := by
  have lengths := congrArg List.length behind
  rw [List.length_drop, List.length_append, List.length_cons, List.length_cons] at lengths
  cases rest with
  | nil =>
      obtain ⟨rfl, rfl⟩ := List.cons.inj same
      refine ⟨?_, rfl⟩
      cases back with
      | nil => rfl
      | cons token back =>
          have index : (optionsOf []).length + (optionsOf (token :: back)).length
              = back.length + 1 := by
            simp only [List.length_nil, List.length_cons] at lengths ⊢
            omega
          rw [index, List.singleton_append, List.drop_succ_cons] at behind
          exact (notBehind (List.drop_subset _ _ (behind ▸ List.mem_singleton_self head))).elim
  | cons second more =>
      obtain ⟨rfl, rfl⟩ := List.cons.inj same
      rw [List.length_cons] at lengths
      exfalso
      have secondNonempty : second ≠ [] := by
        apply nonempty
        apply List.drop_subset
        rw [behind]
        simp
      rcases few with short | ⟨token, last, rfl, isOption⟩
      · have none' : (optionsOf later).length + (optionsOf back).length = 0 := by omega
        rw [none', List.drop_zero, List.cons_append] at behind
        have run := (List.cons.inj behind).1
        exact secondNonempty (List.append_right_eq_self.mp run)
      · -- One of the two is an option, so that none of the later words is.
        have one : 1 ≤ (optionsOf [token, last]).length := by
          obtain ⟨option, read⟩ := Option.isSome_iff_exists.mp isOption
          rw [optionsOf, List.filterMap_cons_some read]
          simp
        simp only [List.length_cons, List.length_nil] at lengths
        have none' : (optionsOf later).length = 0 := by omega
        have index : (optionsOf later).length + (optionsOf [token, last]).length = 1 := by omega
        have notLater : token ∉ later := by
          intro member
          have unread := List.filterMap_eq_nil_iff.mp (List.eq_nil_of_length_eq_zero none') token
            member
          rw [unread] at isOption
          cases isOption
        rw [index, List.cons_append, List.drop_one, List.tail_cons] at behind
        match later, behind, notLater with
        | [], behind, _ =>
            have isToken := (List.cons.inj behind).1
            exact notBehind (isToken ▸ List.mem_cons_self)
        | [word], behind, _ =>
            simp only [List.cons_append, List.nil_append, List.cons.injEq] at behind
            obtain ⟨isFirst, -, isLast, -⟩ := behind
            exact notBehind (by simp [← isFirst, ← isLast])
        | word :: other :: words, behind, notLater =>
            simp only [List.cons_append, List.cons.injEq] at behind
            apply notLater
            rw [← behind.2.2]
            simp

/-- The rendering options are read back exactly if they are one word and stand last. -/
theorem readDocOptions_iff {text : Text} (noLine : '\n' ∉ text) {back : List Text}
    (behind : ∀ token ∈ back, Behind token) (few : Few back)
    : let tokens := tokenize ' ' ("options=".toList ++ text) ++ back
      readDocOptions (tokens.drop (optionsOf tokens).length) = some text
      ↔ ' ' ∉ text ∧ back = [] := by
  have startLine : '\n' ∉ "options=".toList ++ text := by
    rw [List.mem_append, not_or]
    exact ⟨options_clean.2, noLine⟩
  have words := tokenize_words startLine
  obtain ⟨word, others, wordClean, line, tokens⟩ :=
    tokenize_starts options_clean (by decide) noLine
  have clean : ∀ token ∈ tokenize ' ' ("options=".toList ++ text) ++ back,
      LineWord ' ' token ∧ token ≠ [] := by
    intro token member
    rcases List.mem_append.mp member with own | later
    · exact words token own
    · exact ⟨(behind token later).word, (behind token later).nonempty⟩
  generalize nonemptyWords : others.filter (· ≠ []) = later at tokens
  have options : optionsOf (tokenize ' ' ("options=".toList ++ text) ++ back)
      = optionsOf later ++ optionsOf back := by
    rw [tokens, List.cons_append, optionsOf, List.filterMap_cons_none (readOption_options word),
      List.filterMap_append]
  have first : getTokenString ("options=".toList ++ word) "options".toList = some word := by
    rw [options_eq, List.append_assoc, List.singleton_append, getTokenString_field]
  dsimp only
  rw [options, List.length_append]
  constructor
  · intro read
    obtain ⟨token, value, rest, drops, found, rfl, again⟩ :=
      tokenize_readDocOptions (fun token member => clean token (List.drop_subset _ _ member)) read
    have notBehind : token ∉ back := by
      intro member
      rw [(behind token member).other] at found
      cases found
    rw [tokens] at drops again clean
    have nonempty := fun token member => (clean token member).2
    obtain ⟨rfl, rfl⟩ := read_alone few notBehind nonempty again drops
    obtain ⟨rfl, rfl⟩ := List.cons.inj again
    rw [first] at found
    rw [List.intercalate_nil, List.append_nil, ← Option.some.inj found]
    exact ⟨wordClean.1, rfl⟩
  · rintro ⟨oneWord, rfl⟩
    obtain rfl : others = [] := by
      cases others with
      | nil => rfl
      | cons other others => exact absurd (line ▸ by simp) oneWord
    obtain rfl : later = [] := nonemptyWords.symm
    rw [spaced_nil, List.append_nil] at line
    have options : (optionsOf []).length = 0 := rfl
    rw [List.append_nil, tokens, options, List.drop_zero, readDocOptions, first,
      Option.map_some, List.intercalate_nil, List.append_nil, line]

/-- Where no token is named so, no rendering options are read. -/
theorem readDocOptions_eq_none {tokens : List Text}
    (other : ∀ token ∈ tokens, getTokenString token "options".toList = none)
    : readDocOptions tokens = none := by
  cases tokens with
  | nil => rfl
  | cons first rest => rw [readDocOptions, other first List.mem_cons_self, Option.map_none]

-----------------------------------------------------------------------------------------
-- Words of options
-----------------------------------------------------------------------------------------

/-- A written option is read by its name. -/
theorem readOption_word {name : String} (clean : '=' ∉ name.toList) (value : Text)
    : readOption (word name value) = (optionName name.toList).map (·, value) := by
  unfold readOption word
  rw [parseNameValuePair_field clean]
  simp only [Option.bind_eq_bind, Option.bind_some, Option.pure_def]
  cases optionName name.toList <;> rfl

/-- The name of an option in a message. -/
def OptionName.text : OptionName → String
  | url => "url"
  | jail => "jail"
  | xjail => "xjail"
  | authorid => "authorid"
  | xauthorid => "xauthorid"
  | author => "author"
  | xauthor => "xauthor"
  | authorextrainfo => "authorextrainfo"
  | readonly => "readonly"
  | password => "password"
  | lang => "lang"
  | timezone => "timezone"
  | watermarkText => "watermarkText"
  | watermarkOpacity => "watermarkOpacity"
  | timestamp => "timestamp"
  | template => "template"

/-- An option is read from a word with its name. -/
theorem readOption_text (name : OptionName) (value : Text)
    : readOption (word name.text value) = some (name, value) := by
  have clean : '=' ∉ name.text.toList := by cases name <;> decide
  have known : optionName name.text.toList = some name := by cases name <;> decide
  rw [readOption_word clean, known, Option.map_some]

/-- One word that is not empty. -/
abbrev IsToken (token : Text) : Prop :=
  LineWord ' ' token ∧ token ≠ []

/-- A field of words is a token. -/
theorem word_isToken {name : String} (clean : LineWord ' ' name.toList) {value : Text}
    (valueClean : LineWord ' ' value)
    : IsToken (word name value) :=
  ⟨word_lineWord clean valueClean, word_ne_nil name value⟩

/-- A word that is written only if there is a value. -/
def ifGiven (text written : Text) : List Text :=
  if text = [] then [] else [written]

/-- What holds of a text holds where it is given. -/
theorem forall_mem_ifGiven {p : Text → Prop} {text written : Text} (holds : p written)
    : ∀ token ∈ ifGiven text written, p token := by
  intro token member
  unfold ifGiven at member
  split at member
  · cases member
  · rw [List.mem_singleton.mp member]
    exact holds

/-- An option that is written where it is given. -/
theorem optionsOf_ifGiven {text written value : Text} {name : OptionName}
    (read : readOption written = some (name, value))
    : optionsOf (ifGiven text written) = if text = [] then [] else [(name, value)] := by
  unfold ifGiven
  split
  · rfl
  · rw [optionsOf, List.filterMap_cons_some read, List.filterMap_nil]

/-- No other token is taken for the rendering options. -/
theorem getTokenString_word_options {name : String} (clean : '=' ∉ name.toList)
    (other : name ≠ "options") (value : Text)
    : getTokenString (word name value) "options".toList = none := by
  cases found : getTokenString (word name value) "options".toList with
  | none => rfl
  | some read =>
      have same := congrArg parseNameValuePair (getTokenString_eq_some found)
      rw [word, parseNameValuePair_field clean, parseNameValuePair_field (by decide)] at same
      have names := congrArg Prod.fst (Option.some.inj same)
      exact absurd (String.toList_inj.mp names) other

/-- The url is no part. -/
theorem url_notPart (value : Text) : ¬ "part=".toList <+: word "url" value := by
  have part : "part=".toList = "part".toList ++ ['='] := by decide
  intro starts
  rw [part] at starts
  have names := (word_eq_of_starts (by decide) (by decide) rfl (Or.inr rfl) starts).1
  exact absurd names (by decide)

/-- Rendering options of one word, and those that are not there, are no options themselves. -/
theorem optionsOf_docOptions {text : Text} (noLine : '\n' ∉ text)
    (oneWord : text = [] ∨ ' ' ∉ text)
    : optionsOf ((ifGiven text ("options=".toList ++ text)).flatMap (tokenize ' ')) = [] := by
  unfold ifGiven
  split
  · rfl
  · next given =>
      have clean : LineWord ' ' ("options=".toList ++ text) :=
        options_clean.append ⟨oneWord.resolve_left given, noLine⟩
      have nonempty : "options=".toList ++ text ≠ [] := by simp
      rw [List.flatMap_singleton, tokenize_clean clean nonempty, optionsOf,
        List.filterMap_cons_none (readOption_options _), List.filterMap_nil]

/-- Tokens that are all options are passed over by as many tokens. -/
theorem drop_options {front : List Text} (options : ∀ token ∈ front, (readOption token).isSome)
    (rest : List Text)
    : (front ++ rest).drop (optionsOf (front ++ rest)).length
      = rest.drop (optionsOf rest).length := by
  have all : (optionsOf front).length = front.length := by
    induction front with
    | nil => rfl
    | cons token front ih =>
        rw [List.forall_mem_cons] at options
        obtain ⟨option, read⟩ := Option.isSome_iff_exists.mp options.1
        rw [optionsOf, List.filterMap_cons_some read, List.length_cons, ih options.2,
          List.length_cons]
  rw [optionsOf, List.filterMap_append, List.length_append, all, ← List.drop_drop,
    List.drop_left]

/-- Words that are one token each. -/
theorem flatMap_tokenize {words : List Text}
    (clean : ∀ word ∈ words, LineWord ' ' word ∧ word ≠ [])
    : words.flatMap (tokenize ' ') = words := by
  induction words with
  | nil => rfl
  | cons word words ih =>
      rw [List.forall_mem_cons] at clean
      rw [List.flatMap_cons, tokenize_clean clean.1.1 clean.1.2, ih clean.2,
        List.singleton_append]

/-- Blanks, newlines and percent signs are written with their codes. -/
def escapeChar (c : Char) : Text :=
  if c = ' ' then ['%', '2', '0']
  else if c = '\n' then ['%', '0', 'A']
  else if c = '%' then ['%', '2', '5']
  else [c]

/-- Read codes back. -/
def unescape : Text → Text
  | '%' :: high :: low :: rest =>
      (if high = '0' then '\n' else if low = '0' then ' ' else '%') :: unescape rest
  | c :: rest => c :: unescape rest
  | [] => []

/-- What was escaped is unescaped, by induction on the text. -/
theorem unescape_escape (text : Text) : unescape (text.flatMap escapeChar) = text := by
  induction text with
  | nil => rfl
  | cons c text ih =>
      rw [List.flatMap_cons, escapeChar]
      split
      · next blank => rw [List.cons_append, List.cons_append, List.cons_append, unescape,
          List.nil_append, ih, blank]; rfl
      · split
        · next line => rw [List.cons_append, List.cons_append, List.cons_append, unescape,
            List.nil_append, ih, line]; rfl
        · split
          · next percent => rw [List.cons_append, List.cons_append, List.cons_append, unescape,
              List.nil_append, ih, percent]; rfl
          · next plain =>
              rw [List.singleton_append, unescape, ih]
              exact fun _ _ _ percent => absurd percent plain

/-- An escaped text is one word. -/
theorem escape_word (text : Text) : LineWord ' ' (text.flatMap escapeChar) := by
  have char : ∀ c, ' ' ∉ escapeChar c ∧ '\n' ∉ escapeChar c := by
    intro c
    unfold escapeChar
    split
    · decide
    · split
      · decide
      · split
        · decide
        · next blank line _ =>
            simp only [List.mem_singleton]
            exact ⟨fun same => blank same.symm, fun same => line same.symm⟩
  constructor
  · intro member
    obtain ⟨c, -, inside⟩ := List.mem_flatMap.mp member
    exact (char c).1 inside
  · intro member
    obtain ⟨c, -, inside⟩ := List.mem_flatMap.mp member
    exact (char c).2 inside

/-- A host with these codes. -/
def escapingHost : Host where
  decode value := (unescape value, false)
  encode value := value.flatMap escapeChar
  stod _ := some 0.2
  anonymizeUsername name := name
  publicUri := "file:///a".toList
  opacity := "0.2".toList
  watermarkJson _ := "{}".toList

end NdcOdfWeb.Sessions
