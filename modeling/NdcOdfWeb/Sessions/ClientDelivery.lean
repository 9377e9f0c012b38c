import NdcOdfWeb.Sessions.ChannelRuns

/-! The messages from the kit to the clients: what each session in wsd gets of all that the kit
sends on the one connection.
-/

namespace NdcOdfWeb.Sessions

open NdcOdfWeb.Foundation
open NdcOdfWeb.Protocol

variable {viewIdOf : Text → Except Exception Text} {decode : Text → Text}
  {names : DocumentNames}

-----------------------------------------------------------------------------------------
-- Messages
-----------------------------------------------------------------------------------------

/-- What `Message` leaves of a text: the first token goes, if there is a dash in it. -/
def behindToken (text : Text) : Text :=
  dropBlanks (text.drop (getForwardToken text).length)

/-- What the session gets of a message: the payload is read as a message of its own. -/
def ToWsd.payloadFor (id : SessionId) : ToWsd → Option Text
  | client other payload =>
      if other = id then some (behindToken (dropBlanks payload)) else none
  | clients payload => some (behindToken (dropBlanks payload))
  | broker _ => none

/-- What is read of a message: its address and the payload behind it. -/
theorem readMessage_eq {text forwardToken data : Text}
    (read : readMessage text = some (forwardToken, data))
    : forwardToken = getForwardToken text ∧ data = behindToken text := by
  unfold readMessage at read
  dsimp only at read
  split at read
  · cases read
  · cases read
    exact ⟨rfl, rfl⟩

/-- An addressed message is read for its address. -/
theorem getForwardToken_addressed {address : Text} (clean : ' ' ∉ address) (dash : '-' ∈ address)
    (payload : Text)
    : getForwardToken (address ++ ' ' :: payload) = address := by
  have first := getFirstToken_spaced clean [payload]
  rw [spaced_cons, spaced_nil, List.append_nil] at first
  unfold getForwardToken
  rw [first]
  exact if_pos dash

/-- Behind the address stands the payload. -/
theorem behindToken_addressed {address : Text} (clean : ' ' ∉ address) (dash : '-' ∈ address)
    (payload : Text)
    : behindToken (address ++ ' ' :: payload) = dropBlanks payload := by
  have blanks : dropBlanks (' ' :: payload) = dropBlanks payload := rfl
  rw [behindToken, getForwardToken_addressed clean dash, List.drop_left, blanks]

/-- The address of a session holds no blank. -/
theorem clientAddress_clean (id : SessionId) : ' ' ∉ "client-".toList ++ id.text := by
  have start : ' ' ∉ "client-".toList := by decide
  intro member
  rcases List.mem_append.mp member with here | there
  · exact start here
  · exact id.word.1 there

/-- The address of a session names it. -/
theorem parse_client (value : Text)
    : parseNameValuePairAt '-' ("client-".toList ++ value) = some ("client".toList, value) := by
  have address : "client-".toList = "client".toList ++ ['-'] := by decide
  rw [address, List.append_assoc, List.singleton_append]
  exact parseNameValuePairAt_append (by decide) value

/-- The address of a session holds a dash. -/
theorem dash_client (value : Text) : '-' ∈ "client-".toList ++ value :=
  List.mem_append_left _ (by decide)

/-- Without a blank in front, nothing is dropped. -/
theorem dropBlanks_eq {text : Text} (start : text.head? ≠ some ' ') : dropBlanks text = text := by
  cases text with
  | nil => rfl
  | cons c rest =>
      have other : ¬ (c == ' ') = true := by
        rw [beq_iff_eq]
        rintro rfl
        exact start rfl
      rw [dropBlanks, List.dropWhile_cons, if_neg other]

/-- What is left is not longer. -/
theorem dropBlanks_length (text : Text) : (dropBlanks text).length ≤ text.length :=
  (List.dropWhile_suffix _).length_le

/-- The payload is shorter than the message by the address. -/
theorem behindToken_length (text : Text)
    : (behindToken text).length ≤ text.length - (getForwardToken text).length := by
  rw [← List.length_drop]
  exact dropBlanks_length _

/-- A payload reaches the client as it is exactly if it does not start with a blank, and has no
dash in its first token.
-/
theorem behindToken_eq_iff (payload : Text)
    : behindToken (dropBlanks payload) = payload
      ↔ payload.head? ≠ some ' ' ∧ '-' ∉ getFirstToken ' ' payload := by
  constructor
  · intro same
    have shorter := behindToken_length (dropBlanks payload)
    rw [same] at shorter
    have start : payload.head? ≠ some ' ' := by
      intro blank
      obtain ⟨rest, rfl⟩ := List.head?_eq_some_iff.mp blank
      have skipped : dropBlanks (' ' :: rest) = dropBlanks rest := rfl
      have bound := dropBlanks_length rest
      rw [skipped, List.length_cons] at shorter
      omega
    refine ⟨start, fun dash => ?_⟩
    rw [dropBlanks_eq start, getForwardToken, if_pos dash] at shorter
    have some' := List.length_pos_of_mem dash
    have starts := getFirstToken_prefix ' ' payload
    have bound := starts.length_le
    omega
  · rintro ⟨start, noDash⟩
    rw [dropBlanks_eq start, behindToken, getForwardToken, if_neg noDash, List.length_nil,
      List.drop_zero, dropBlanks_eq start]

-----------------------------------------------------------------------------------------
-- Steps
-----------------------------------------------------------------------------------------

namespace Channels

/-- A message for a session is for the session of that name. -/
theorem recipients_client (system : Channels) (id : SessionId)
    : system.recipients ("client-".toList ++ id.text)
      = system.sessions.filter (fun other => other.text = id.text) := by
  unfold recipients
  rw [parse_client]
  dsimp only
  rw [if_pos rfl, if_neg id.ne_all]

/-- A message for all goes to all sessions. -/
theorem recipients_clients (system : Channels)
    : system.recipients "client-all".toList = system.sessions := by
  have parsed := parse_client "all".toList
  unfold recipients
  rw [show "client-all".toList = "client-".toList ++ "all".toList by decide, parsed]
  dsimp only
  rw [if_pos rfl, if_pos rfl]

/-- A message without an address is for the broker. -/
theorem recipients_broker (system : Channels) : system.recipients [] = [] := rfl

/-- What `handleInput` hands to each of the recipients. -/
theorem handleInput_eq {system next : Channels} {text : Text}
    (done : system.handleInput text = some next)
    : next
      = {
          system with
          delivered :=
            system.delivered
              ++ (system.recipients (getForwardToken text)).map
                (fun id => (id, behindToken (behindToken text)))
        } := by
  unfold handleInput at done
  split at done
  · cases done
  · next forwardToken data read =>
      obtain ⟨rfl, rfl⟩ := readMessage_eq read
      split at done
      · next none' =>
          cases done
          rw [none', List.map_nil, List.append_nil]
      · next recipients some' =>
          split at done
          · cases done
          · next token payload again =>
              obtain ⟨-, rfl⟩ := readMessage_eq again
              cases done
              rfl

/-- Nobody gets a message twice. -/
theorem recipients_nodup {system : Channels} (nodup : system.sessions.Nodup)
    (forwardToken : Text)
    : (system.recipients forwardToken).Nodup := by
  unfold recipients
  split
  · exact List.nodup_nil
  · split
    · split
      · exact nodup
      · exact nodup.filter _
    · exact List.nodup_nil

/-- A session gets the message once if it is among the recipients, by induction on them. -/
theorem filterMap_recipients {recipients : List SessionId} (nodup : recipients.Nodup)
    (payload : Text) (id : SessionId)
    : (recipients.map (fun other => (other, payload))).filterMap
        (fun (other, payload) => if other = id then some payload else none)
      = if id ∈ recipients then [payload] else [] := by
  induction recipients with
  | nil => rfl
  | cons other recipients ih =>
      obtain ⟨absent, later⟩ := List.nodup_cons.mp nodup
      rw [List.map_cons, List.filterMap_cons, ih later]
      dsimp only
      by_cases same : other = id
      · subst same
        rw [if_pos rfl, if_neg absent, if_pos List.mem_cons_self]
      · have differs : id ≠ other := fun equal => same equal.symm
        rw [if_neg same]
        simp only [List.mem_cons, differs, false_or]

/-- A text that is handled reaches each of its recipients once. -/
theorem deliveredTo_handleInput {system next : Channels} (nodup : system.sessions.Nodup)
    {text : Text} (done : system.handleInput text = some next) (id : SessionId)
    : next.deliveredTo id
      = system.deliveredTo id
        ++ if id ∈ system.recipients (getForwardToken text) then
            [behindToken (behindToken text)]
          else [] := by
  have result := handleInput_eq done
  subst result
  rw [← filterMap_recipients (recipients_nodup nodup _)]
  exact List.filterMap_append

/-- What a session is handed of a message for another one, or for itself. -/
theorem handled_client (system : Channels) (id other : SessionId) (payload : Text)
    : (if id ∈ system.recipients (getForwardToken (ToWsd.client other payload).text) then
        [behindToken (behindToken (ToWsd.client other payload).text)]
      else [])
      = if id ∈ system.sessions then ((ToWsd.client other payload).payloadFor id).toList else []
    := by
  have clean := clientAddress_clean other
  have dash := dash_client other.text
  have token : getForwardToken (ToWsd.client other payload).text = "client-".toList ++ other.text :=
    getForwardToken_addressed clean dash payload
  have data : behindToken (ToWsd.client other payload).text = dropBlanks payload :=
    behindToken_addressed clean dash payload
  rw [token, data, recipients_client, ToWsd.payloadFor]
  by_cases same : other = id
  · subst same
    simp
  · have differs : id.text ≠ other.text := fun equal => same (SessionId.ext_text equal.symm)
    simp [same, differs]

/-- What a session is handed of a message for all. -/
theorem handled_clients (system : Channels) (id : SessionId) (payload : Text)
    : (if id ∈ system.recipients (getForwardToken (ToWsd.clients payload).text) then
        [behindToken (behindToken (ToWsd.clients payload).text)]
      else [])
      = if id ∈ system.sessions then ((ToWsd.clients payload).payloadFor id).toList else [] := by
  have clean : ' ' ∉ "client-all".toList := by decide
  have dash : '-' ∈ "client-all".toList := by decide
  have token : getForwardToken (ToWsd.clients payload).text = "client-all".toList :=
    getForwardToken_addressed clean dash payload
  have data : behindToken (ToWsd.clients payload).text = dropBlanks payload :=
    behindToken_addressed clean dash payload
  rw [token, data, recipients_clients, ToWsd.payloadFor, Option.toList_some]

/-- What a session is handed of a message for the broker. -/
theorem handled_broker (system : Channels) (id : SessionId) (message : BrokerMessage)
    : (if id ∈ system.recipients (getForwardToken (ToWsd.broker message).text) then
        [behindToken (behindToken (ToWsd.broker message).text)]
      else [])
      = if id ∈ system.sessions then ((ToWsd.broker message).payloadFor id).toList else [] := by
  have token : getForwardToken (ToWsd.broker message).text = [] := if_neg message.plain
  rw [token, recipients_broker, if_neg List.not_mem_nil, ToWsd.payloadFor, Option.toList_none,
    ite_self]

/-- A message of the kit reaches each session that it is for, once. -/
theorem deliveredTo_message {system next : Channels} (nodup : system.sessions.Nodup)
    {message : ToWsd} (done : system.handleInput message.text = some next) (id : SessionId)
    : next.deliveredTo id
      = system.deliveredTo id
        ++ if id ∈ system.sessions then (message.payloadFor id).toList else [] := by
  rw [deliveredTo_handleInput nodup done]
  cases message with
  | client other payload => rw [handled_client]
  | clients payload => rw [handled_clients]
  | broker message => rw [handled_broker]

-----------------------------------------------------------------------------------------
-- Runs
-----------------------------------------------------------------------------------------

/-- The messages of the kit that have come. -/
def arrived (system : Channels) : List ToWsd :=
  system.sent.take (system.sent.length - system.toWsd.length)

/-- Every session has got its messages of those that came in one stretch: up to the last one, from
when it was added, as long as it is not removed.
-/
structure Delivers (system : Channels) : Prop where
  sent : system.sent = system.arrived ++ system.toWsd
  unused : ∀ id, id ∉ system.used → system.deliveredTo id = []
  present
    : ∀ id ∈ system.sessions,
        system.missed id ≤ system.arrived.length
        ∧ system.deliveredTo id
          = (system.arrived.drop (system.missed id)).filterMap (ToWsd.payloadFor id)
  stretch
    : ∀ id, ∃ got,
        got <:+: system.arrived ∧ system.deliveredTo id = got.filterMap (ToWsd.payloadFor id)

/-- The messages that have arrived are those that are no more under way. -/
theorem arrived_eq {system : Channels} {came : List ToWsd}
    (sent : system.sent = came ++ system.toWsd)
    : system.arrived = came := by
  rw [arrived, sent, List.length_append, Nat.add_sub_cancel, List.take_left]

/-- At first, nothing was sent. -/
theorem delivers_start : start.Delivers where
  sent := rfl
  unused _ _ := rfl
  present _ member := absurd member List.not_mem_nil
  stretch _ := ⟨[], List.nil_infix, rfl⟩

/-- What leaves the messages from the kit alone. -/
theorem Delivers.frame {system next : Channels} (delivers : system.Delivers)
    (sent : next.sent = system.sent) (toWsd : next.toWsd = system.toWsd)
    (delivered : next.delivered = system.delivered) (missed : next.missed = system.missed)
    (used : next.used = system.used) (sessions : ∀ id ∈ next.sessions, id ∈ system.sessions)
    : next.Delivers := by
  have came : next.arrived = system.arrived := by
    rw [arrived, arrived, sent, toWsd]
  have got (id : SessionId) : next.deliveredTo id = system.deliveredTo id := by
    rw [deliveredTo, deliveredTo, delivered]
  exact
    {
      sent := by rw [sent, came, toWsd, ← delivers.sent]
      unused := fun id new => (got id).trans (delivers.unused id (used ▸ new))
      present := fun id member => by
        rw [missed, came, got]
        exact delivers.present id (sessions id member)
      stretch := fun id => by
        rw [came, got]
        exact delivers.stretch id
    }

/-- A new session misses what was sent before. -/
theorem Delivers.added {system : Channels} (delivers : system.Delivers)
    (used : ∀ id ∈ system.sessions, id ∈ system.used) {added : SessionId}
    (new : added ∉ system.used) (toKit : List ToKit)
    : Delivers
        {
          system with
          sessions := system.sessions ++ [added]
          used := added :: system.used
          toKit
          missed :=
            Function.update system.missed added (system.sent.length - system.toWsd.length)
        } where
  sent := delivers.sent
  unused id unknown := delivers.unused id (fun old => unknown (List.mem_cons_of_mem _ old))
  stretch := delivers.stretch
  present := by
    have count : system.sent.length - system.toWsd.length = system.arrived.length := by
      rw [arrived, List.length_take]
      omega
    intro id member
    rcases List.mem_append.mp member with old | last
    · have other : id ≠ added := by
        rintro rfl
        exact new (used id old)
      dsimp only
      rw [Function.update_of_ne other]
      exact delivers.present id old
    · obtain rfl := List.mem_singleton.mp last
      dsimp only
      rw [Function.update_self, count]
      refine ⟨Nat.le_refl _, ?_⟩
      have nothing
          : (system.arrived.drop system.arrived.length).filterMap (ToWsd.payloadFor id) = [] := by
        rw [List.drop_length, List.filterMap_nil]
      exact (delivers.unused id new).trans nothing.symm

/-- The kit sends a message: it is under way. -/
theorem Delivers.sends {system : Channels} (delivers : system.Delivers) (message : ToWsd)
    : Delivers
        {
          system with
          toWsd := system.toWsd ++ [message]
          sent := system.sent ++ [message]
        } := by
  have shape : system.sent ++ [message] = system.arrived ++ (system.toWsd ++ [message]) := by
    rw [← List.append_assoc, ← delivers.sent]
  have came
      : arrived
          {
            system with
            toWsd := system.toWsd ++ [message]
            sent := system.sent ++ [message]
          }
        = system.arrived :=
    arrived_eq shape
  refine { sent := ?_, unused := delivers.unused, present := ?_, stretch := ?_ }
  · rw [came]
    exact shape
  · rw [came]
    exact delivers.present
  · rw [came]
    exact delivers.stretch

/-- The next message of the kit is handled. -/
theorem Delivers.handles {system next : Channels} (delivers : system.Delivers)
    (nodup : system.sessions.Nodup) (used : ∀ id ∈ system.sessions, id ∈ system.used)
    {message : ToWsd} {toWsd : List ToWsd} (first : system.toWsd = message :: toWsd)
    (done : { system with toWsd }.handleInput message.text = some next)
    : next.Delivers := by
  have distinct : ({ system with toWsd } : Channels).sessions.Nodup := nodup
  have result := deliveredTo_message distinct done
  obtain ⟨delivered, rfl⟩ := handleInput_frame done
  have shape : system.sent = (system.arrived ++ [message]) ++ toWsd := by
    rw [List.append_assoc, List.singleton_append, ← first]
    exact delivers.sent
  have came : arrived { system with toWsd, delivered } = system.arrived ++ [message] :=
    arrived_eq shape
  have got (id : SessionId)
      : deliveredTo { system with toWsd, delivered } id
        = system.deliveredTo id
          ++ if id ∈ system.sessions then (message.payloadFor id).toList else [] :=
    result id
  have last (id : SessionId)
      : [message].filterMap (ToWsd.payloadFor id) = (message.payloadFor id).toList := by
    rw [List.filterMap_cons, List.filterMap_nil]
    cases message.payloadFor id <;> rfl
  refine { sent := ?_, unused := fun id new => ?_, present := fun id member => ?_, stretch := ?_ }
  · rw [came]
    exact shape
  · have absent : id ∉ system.sessions := fun here => new (used id here)
    rw [got, if_neg absent, List.append_nil]
    exact delivers.unused id new
  · obtain ⟨bound, before⟩ := delivers.present id member
    rw [came, got, if_pos member, List.length_append]
    refine ⟨by dsimp only; omega, ?_⟩
    rw [List.drop_append_of_le_length bound, List.filterMap_append, last, before]
  · intro id
    rw [came, got]
    split
    · next member =>
        obtain ⟨bound, before⟩ := delivers.present id member
        refine ⟨system.arrived.drop (system.missed id) ++ [message], ?_, ?_⟩
        · rw [← List.drop_append_of_le_length bound]
          exact (List.drop_suffix _ _).isInfix
        · rw [List.filterMap_append, last, before]
    · obtain ⟨part, infix', before⟩ := delivers.stretch id
      refine ⟨part, infix'.trans (List.prefix_append _ _).isInfix, ?_⟩
      rw [List.append_nil, before]

/-- One step, by cases on the events. -/
theorem Delivers.step {system next : Channels} (sound : system.Sound decode names)
    (delivers : system.Delivers) {event : ChannelEvent}
    (done : system.step viewIdOf decode names event = some next)
    : next.Delivers := by
  have same (id : SessionId) (member : id ∈ system.sessions) : id ∈ system.sessions := member
  cases event with
  | addSession added =>
      rw [Channels.step] at done
      split at done
      · cases done
      · next new =>
          cases done
          exact delivers.added sound.used new _
  | forwardToChild sender message =>
      rw [Channels.step] at done
      split at done
      · cases done
        exact delivers
      · obtain ⟨rewritten, -, done⟩ := Option.map_eq_some_iff.mp done
        subst done
        exact delivers.frame rfl rfl rfl rfl rfl same
  | removeSession removed =>
      rw [Channels.step] at done
      split at done
      · cases done
        exact delivers.frame rfl rfl rfl rfl rfl (fun id member => List.mem_of_mem_erase member)
      · cases done
        exact delivers
  | setLoaded =>
      cases done
      exact delivers.frame rfl rfl rfl rfl rfl same
  | requestTiles message =>
      cases done
      exact delivers.frame rfl rfl rfl rfl rfl same
  | received =>
      rw [Channels.step] at done
      split at done
      · cases done
      · split at done
        · obtain ⟨kit, -, done⟩ := Option.map_eq_some_iff.mp done
          subst done
          exact delivers.frame rfl rfl rfl rfl rfl same
        · cases done
  | callback message command =>
      rw [Channels.step] at done
      split at done
      · cases done
        exact delivers.frame rfl rfl rfl rfl rfl same
      · cases done
        exact delivers.frame rfl rfl rfl rfl rfl same
  | run fails =>
      obtain ⟨⟨kit, handled⟩, -, done⟩ := Option.map_eq_some_iff.mp done
      subst done
      exact delivers.frame rfl rfl rfl rfl rfl same
  | send message =>
      cases done
      exact delivers.sends message
  | handleInput =>
      rw [Channels.step] at done
      split at done
      · cases done
      · next message toWsd first => exact delivers.handles sound.sessions sound.used first done

/-- Of what the kit has sent, each session in wsd has got its messages of one stretch, once and in
order; and as long as the broker has it, that is all that came since it was added.
-/
theorem clients_get_messages (viewIdOf : Text → Except Exception Text) (decode : Text → Text)
    (names : DocumentNames) (events : List ChannelEvent)
    : AllStates (step viewIdOf decode names)
        (fun system =>
          ∃ came,
            system.sent = came ++ system.toWsd
            ∧ ∀ id,
                (∃ got,
                  got <:+: came ∧ system.deliveredTo id = got.filterMap (ToWsd.payloadFor id))
                ∧ (id ∈ system.sessions
                  → system.deliveredTo id
                    = (came.drop (system.missed id)).filterMap (ToWsd.payloadFor id)))
        start events := by
  have all
      : AllStates (step viewIdOf decode names)
          (fun system => system.Sound decode names ∧ system.Delivers) start events := by
    refine allStates_of_keeps ?_ ⟨sound_start, delivers_start⟩ events
    intro system event next ⟨sound, delivers⟩ done
    exact ⟨sound_step sound done, delivers.step sound done⟩
  intro done rest reached split ran
  have delivers := (all done rest reached split ran).2
  exact ⟨reached.arrived, delivers.sent,
    fun id => ⟨delivers.stretch id, fun member => (delivers.present id member).2⟩⟩

end Channels

end NdcOdfWeb.Sessions
