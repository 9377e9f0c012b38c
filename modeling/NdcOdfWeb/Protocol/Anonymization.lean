import NdcOdfWeb.Foundation.Hexadecimal
import NdcOdfWeb.Foundation.Lines
import NdcOdfWeb.Foundation.Naming
import NdcOdfWeb.Foundation.StepRun
import NdcOdfWeb.Foundation.Tally
import NdcOdfWeb.Protocol.UrlParts

/-! Anonymised texts and URLs. Several callers share the names: `anonymize` looks for a name
under the lock, takes a number if there is none, and maps the text under the lock again.
-/

namespace NdcOdfWeb.Protocol

open NdcOdfWeb.Foundation

/-- `encodeId` without padding. -/
def encodeId (number : UInt32) : Text := showHex number.toNat

/-- The sum of the signed chars, in the 32 bits that `encodeId` takes. -/
def textHash (text : Text) : UInt32 :=
  text.foldl (fun hash c => hash + UInt32.ofInt (Int.bmod c.toNat 256)) 0

/-- The '#' is to hint that it's anonymised, the salt makes it unique. -/
def generatedName (salt : UInt32) (text : Text) : Text :=
  '#' :: (encodeId salt ++ '#' :: (encodeId (textHash text) ++ ['#']))

def getFilenameFromURL (url : Text) : Text := (splitUrl url).filename

/-- What is to be anonymised, by `anonymize` or by `anonymizeUrl`. -/
inductive NameRequest where
  | anonymize (text : Text)
  | anonymizeUrl (url : Text)
deriving DecidableEq

def NameRequest.text : NameRequest → Text
  | .anonymize text => text
  | .anonymizeUrl url => getFilenameFromURL url

/-- What is returned with the name of the text. -/
def NameRequest.result (request : NameRequest) (name : Text) : Text :=
  match request with
  | .anonymize _ => name
  | .anonymizeUrl url =>
    let parts := splitUrl url
    parts.base ++ name ++ parts.ext ++ parts.params

/-- A call of `anonymize` that has found no name, before and after it takes its number. -/
inductive NameCall where
  | unnamed (request : NameRequest)
  | named (request : NameRequest) (res : Text)
deriving DecidableEq

def NameCall.request : NameCall → NameRequest
  | .unnamed request => request
  | .named request _ => request

structure Answer where
  request : NameRequest
  name : Text
deriving DecidableEq

/-- The names, the calls in progress, and what has happened up to now. -/
structure Anonymizer where
  AnonymizedStrings : KeyedMap Text Text := ∅
  AnonymizationSalt : UInt32 := 0
  calls : KeyedMap Nat NameCall := ∅
  requested : List Text := []
  generated : List Text := []
  mapped : List (Text × Text) := []
  answers : List Answer := []

def mapAnonymized (AnonymizedStrings : KeyedMap Text Text) (plain anonymized : Text)
    : KeyedMap Text Text :=
  if plain = [] ∨ anonymized = [] then AnonymizedStrings
  else AnonymizedStrings.insert plain anonymized

namespace Anonymizer

inductive Event where
  /-- A caller looks for the name. -/
  | find (caller : Nat) (request : NameRequest)
  /-- It takes the next number. -/
  | salt (caller : Nat)
  /-- It maps its text. -/
  | record (caller : Nat)
  /-- A text gets a name that was not generated. -/
  | mapAnonymized (plain anonymized : Text)
deriving DecidableEq

def find (s : Anonymizer) (caller : Nat) (request : NameRequest) : Anonymizer :=
  let s := { s with requested := s.requested ++ [request.text] }
  match s.AnonymizedStrings.lookup request.text with
  | some name => { s with answers := s.answers ++ [⟨request, name⟩] }
  | none => { s with calls := s.calls.insert caller (.unnamed request) }

def takeSalt (s : Anonymizer) (caller : Nat) (request : NameRequest) : Anonymizer :=
  { s with
    AnonymizationSalt := s.AnonymizationSalt + 1
    generated := s.generated ++ [request.text]
    calls := s.calls.insert caller
      (.named request (generatedName s.AnonymizationSalt request.text)) }

def record (s : Anonymizer) (caller : Nat) (request : NameRequest) (res : Text) : Anonymizer :=
  { s with
    AnonymizedStrings := Protocol.mapAnonymized s.AnonymizedStrings request.text res
    calls := s.calls.erase caller
    answers := s.answers ++ [⟨request, res⟩] }

def mapExplicit (s : Anonymizer) (plain anonymized : Text) : Anonymizer :=
  { s with
    AnonymizedStrings := Protocol.mapAnonymized s.AnonymizedStrings plain anonymized
    mapped :=
      if plain = [] ∨ anonymized = [] then s.mapped else s.mapped ++ [(plain, anonymized)] }

/-- A caller is in one call at a time. -/
def step (s : Anonymizer) : Event → Option Anonymizer
  | .find caller request =>
    match s.calls.lookup caller with
    | some _ => none
    | none => some (s.find caller request)
  | .salt caller =>
    match s.calls.lookup caller with
    | some (.unnamed request) => some (s.takeSalt caller request)
    | _ => none
  | .record caller =>
    match s.calls.lookup caller with
    | some (.named request res) => some (s.record caller request res)
    | _ => none
  | .mapAnonymized plain anonymized => some (s.mapExplicit plain anonymized)

/-- All names that were given, mapped or generated. -/
def given (s : Anonymizer) : List (Text × Text) :=
  s.mapped ++ numbered (fun number => generatedName (UInt32.ofNat number)) s.generated

/-- No step gives a text a second name, or a name to a second text: a mapping agrees with the
names that were given and does not meet a call that looks for its text, a generated name is
no mapped one, and no two calls look for the same text at the same time.
-/
def Collisionless (s : Anonymizer) : Event → Prop
  | .find _ request =>
    request.text ≠ []
    → s.AnonymizedStrings.lookup request.text = none
    → ∀ call ∈ s.calls.entries, call.2.request.text ≠ request.text
  | .salt caller =>
    ∀ call ∈ s.calls.entries,
      call.1 = caller
      → ∀ pair ∈ s.mapped, pair.2 ≠ generatedName s.AnonymizationSalt call.2.request.text
  | .record _ => True
  | .mapAnonymized plain anonymized =>
    plain ≠ []
    → anonymized ≠ []
    → (∀ call ∈ s.calls.entries, call.2.request.text ≠ plain)
      ∧ ∀ pair ∈ s.given, pair.1 = plain ↔ pair.2 = anonymized

instance (s : Anonymizer) : DecidablePred s.Collisionless
  | .find _ _ => inferInstanceAs (Decidable (_ → _ → ∀ call ∈ s.calls.entries, _ ≠ _))
  | .salt _ =>
    inferInstanceAs (Decidable (∀ call ∈ s.calls.entries, _ = _ → ∀ pair ∈ s.mapped, _ ≠ _))
  | .record _ => inferInstanceAs (Decidable True)
  | .mapAnonymized _ _ =>
    inferInstanceAs
      (Decidable (_ → _ → (∀ call ∈ s.calls.entries, _ ≠ _) ∧ ∀ pair ∈ s.given, _ = _ ↔ _ = _))

/-- The same text has the same name, unless it is empty, and another text has another one. -/
def Consistent (s : Anonymizer) : Prop :=
  Naming (· ≠ []) (s.answers.map (fun answer => (answer.request.text, answer.name)))

def requestedText : Event → Option Text
  | .find _ request => some request.text
  | _ => none

/-- How many texts are anonymised: distinct ones, and the empty one each time. -/
def textCount (texts : List Text) : Nat :=
  (texts.filter (· ≠ [])).dedup.length + texts.count []

end Anonymizer

/-- Hexadecimal digits hold no separator. -/
theorem encodeId_clean (number : UInt32) : '#' ∉ encodeId number :=
  not_mem_showHex (by decide) _

/-- The salt can be read back. -/
theorem generatedName_inj {salt salt' : UInt32} {text text' : Text}
    (same : generatedName salt text = generatedName salt' text')
    : salt = salt' := by
  have behind := (List.cons.inj same).2
  have ids := congrArg (List.takeWhile (fun c => !decide (c = '#'))) behind
  rw [takeWhile_field (encodeId_clean salt), takeWhile_field (encodeId_clean salt')] at ids
  exact UInt32.toNat_inj.mp (showHex_inj ids)

namespace Anonymizer

abbrev numberedName (number : Nat) (text : Text) : Text := generatedName (UInt32.ofNat number) text

/-- Generated names differ as long as the salts have not come round, since the salt is part of the
name.
-/
theorem numberedName_distinct
    : ∀ number < 4294967296, ∀ text, ∀ number' < 4294967296, ∀ text',
        numberedName number text = numberedName number' text' → number = number' := by
  intro number small text number' small' text' same
  have salts := congrArg UInt32.toNat (generatedName_inj same)
  rwa [UInt32.toNat_ofNat_of_lt' small, UInt32.toNat_ofNat_of_lt' small'] at salts

/-- The request of a call that waits for a number. -/
def NameCall.waits (text : Text) : NameCall → Nat
  | .unnamed request => if request.text = text then 1 else 0
  | .named _ _ => 0

/-- The names that were given are a naming, which the map and the calls in progress agree
with, and each text took one number, but for the empty one.
-/
structure Valid (s : Anonymizer) : Prop where
  salt : s.AnonymizationSalt = UInt32.ofNat s.generated.length
  naming : Naming (· ≠ []) s.given
  spelled : ∀ pair ∈ s.given, pair.2 ≠ []
  stored
    : ∀ text name, s.AnonymizedStrings.lookup text = some name → text ≠ [] ∧ (text, name) ∈ s.given
  kept
    : ∀ text name, (text, name) ∈ s.given
      → text ≠ []
      → s.AnonymizedStrings.lookup text = some name
        ∨ ∃ caller request, s.calls.lookup caller = some (.named request name) ∧ request.text = text
  named
    : ∀ caller request name, s.calls.lookup caller = some (.named request name)
      → (request.text, name) ∈ s.given
  unnamed
    : ∀ caller request, s.calls.lookup caller = some (.unnamed request)
      → request.text ∈ s.requested
        ∧ (request.text ≠ [] → ∀ name, (request.text, name) ∉ s.given)
  alone
    : ∀ caller request caller' request', s.calls.lookup caller = some (.unnamed request)
      → s.calls.lookup caller' = some (.unnamed request')
      → request.text ≠ []
      → request.text = request'.text
      → caller = caller'
  answered : ∀ answer ∈ s.answers, (answer.request.text, answer.name) ∈ s.given
  once : (s.generated.filter (· ≠ [])).Nodup
  asked : s.generated ⊆ s.requested
  empties : s.generated.count [] + tally (NameCall.waits []) s.calls ≤ s.requested.count []

/-- At first, nothing was named. -/
theorem valid_start : Valid {} where
  salt := rfl
  naming := naming_nil
  spelled _ member := absurd member List.not_mem_nil
  stored _ _ found := absurd (mem_of_lookup found) (AList.notMem_empty _)
  kept _ _ member := absurd member List.not_mem_nil
  named _ _ _ found := absurd (mem_of_lookup found) (AList.notMem_empty _)
  unnamed _ _ found := absurd (mem_of_lookup found) (AList.notMem_empty _)
  alone _ _ _ _ found := absurd (mem_of_lookup found) (AList.notMem_empty _)
  answered _ member := absurd member List.not_mem_nil
  once := List.nodup_nil
  asked := List.nil_subset _
  empties := Nat.le_refl 0

variable {s : Anonymizer}

/-- The answers are among the names that were given. -/
theorem Valid.consistent (valid : s.Valid) : s.Consistent := by
  refine valid.naming.mono ?_
  intro pair member
  obtain ⟨answer, answered, rfl⟩ := List.mem_map.mp member
  exact valid.answered answer answered

/-- A given name was mapped or generated. -/
theorem mem_given {pair : Text × Text}
    : pair ∈ s.given ↔ pair ∈ s.mapped ∨ pair ∈ numbered numberedName s.generated :=
  List.mem_append

-----------------------------------------------------------------------------------------
-- What each step does to the names
-----------------------------------------------------------------------------------------

variable {caller : Nat} {request : NameRequest}

/-- A text that has a name is answered with it. -/
theorem find_found {name : Text}
    (found : s.AnonymizedStrings.lookup request.text = some name)
    : s.find caller request
      = { s with
          requested := s.requested ++ [request.text]
          answers := s.answers ++ [⟨request, name⟩] } := by
  rw [find]
  dsimp only
  rw [found]

/-- A text without a name waits for one. -/
theorem find_new (absent : s.AnonymizedStrings.lookup request.text = none)
    : s.find caller request
      = { s with
          requested := s.requested ++ [request.text]
          calls := s.calls.insert caller (.unnamed request) } := by
  rw [find]
  dsimp only
  rw [absent]

/-- One more answer, of a name that was given. -/
theorem Valid.answer (valid : s.Valid) {name : Text} (asked : (request.text, name) ∈ s.given)
    : ∀ answer ∈ s.answers ++ [⟨request, name⟩], (answer.request.text, answer.name) ∈ s.given := by
  intro answer member
  rcases List.mem_append.mp member with old | new
  · exact valid.answered answer old
  · obtain rfl := List.mem_singleton.mp new
    exact asked

/-- To answer from the map keeps the invariant. -/
theorem Valid.find_found (valid : s.Valid) {name : Text}
    (found : s.AnonymizedStrings.lookup request.text = some name)
    : (s.find caller request).Valid := by
  rw [Anonymizer.find_found found]
  exact
    { salt := valid.salt
      naming := valid.naming
      spelled := valid.spelled
      stored := valid.stored
      kept := valid.kept
      named := valid.named
      unnamed caller request unnamed :=
        (valid.unnamed caller request unnamed).imp_left (List.mem_append_left _)
      alone := valid.alone
      answered := valid.answer (valid.stored _ _ found).2
      once := valid.once
      asked := List.Subset.trans valid.asked (List.subset_append_left _ _)
      empties := Nat.le_trans valid.empties (List.sublist_append_left _ _ |>.count_le _) }

/-- A text that no name and no call has was not given a name. -/
theorem Valid.not_given (valid : s.Valid) {text : Text} (several : text ≠ [])
    (absent : s.AnonymizedStrings.lookup text = none)
    (free : ∀ call ∈ s.calls.entries, call.2.request.text ≠ text) (name : Text)
    : (text, name) ∉ s.given := by
  intro member
  rcases valid.kept text name member several with stored | ⟨caller, request, calls, same⟩
  · rw [absent] at stored
    cases stored
  · exact free ⟨caller, _⟩ (AList.mem_lookup_iff.mp calls) same

/-- To wait for a name keeps the invariant, as the text has none yet. -/
theorem Valid.find_new (valid : s.Valid) (idle : s.calls.lookup caller = none)
    (absent : s.AnonymizedStrings.lookup request.text = none)
    (law : s.Collisionless (.find caller request))
    : (s.find caller request).Valid := by
  have free (several : request.text ≠ []) := law several absent
  have counted
      : s.generated.count []
          + tally (NameCall.waits []) (s.calls.insert caller (.unnamed request))
        ≤ (s.requested ++ [request.text]).count [] := by
    have empties := valid.empties
    rw [tally_insert_new _ _ (AList.lookup_eq_none.mp idle), List.count_append,
      List.count_singleton, NameCall.waits]
    simp only [beq_iff_eq]
    omega
  rw [Anonymizer.find_new absent]
  refine
    { salt := valid.salt
      naming := valid.naming
      spelled := valid.spelled
      stored := valid.stored
      kept := ?_
      named := ?_
      unnamed := ?_
      alone := ?_
      answered := valid.answered
      once := valid.once
      asked := List.Subset.trans valid.asked (List.subset_append_left _ _)
      empties := counted }
  · intro text name member several
    rcases valid.kept text name member several with stored | ⟨other, request', calls, same⟩
    · exact .inl stored
    · refine .inr ⟨other, request', ?_, same⟩
      have differ : other ≠ caller := by
        rintro rfl
        rw [idle] at calls
        cases calls
      rw [AList.lookup_insert_ne differ, calls]
  · intro other request' name after
    rcases lookup_insert_some after with ⟨-, new⟩ | ⟨-, old⟩
    · cases new
    · exact valid.named other request' name old
  · intro other request' after
    rcases lookup_insert_some after with ⟨-, new⟩ | ⟨-, old⟩
    · cases new
      exact ⟨List.mem_append_right _ List.mem_cons_self,
        fun several => valid.not_given several absent (free several)⟩
    · exact (valid.unnamed other request' old).imp_left (List.mem_append_left _)
  · intro one request₁ other request₂ after after' several same
    rcases lookup_insert_some after with ⟨rfl, new⟩ | ⟨-, old⟩ <;>
      rcases lookup_insert_some after' with ⟨rfl, new'⟩ | ⟨-, old'⟩
    · rfl
    · cases new
      exact absurd same.symm (free several ⟨other, _⟩ (AList.mem_lookup_iff.mp old'))
    · cases new'
      exact absurd same (free (same ▸ several) ⟨one, _⟩ (AList.mem_lookup_iff.mp old))
    · exact valid.alone one request₁ other request₂ old old' several same

/-- A generated name starts with a separator. -/
theorem generatedName_ne_nil (salt : UInt32) (text : Text) : generatedName salt text ≠ [] :=
  List.cons_ne_nil _ _

/-- The names that were given and the one with the next salt. -/
theorem takeSalt_given (valid : s.Valid)
    : (s.takeSalt caller request).given
      = s.given ++ [(request.text, generatedName s.AnonymizationSalt request.text)] := by
  rw [given, given, takeSalt]
  dsimp only
  rw [numbered_append, ← valid.salt, List.append_assoc]

/-- A waiting text has taken no number yet. -/
theorem Valid.takes_once (valid : s.Valid)
    (waits : s.calls.lookup caller = some (.unnamed request))
    : ((s.generated ++ [request.text]).filter (· ≠ [])).Nodup := by
  rw [List.filter_append, List.nodup_append']
  refine ⟨valid.once, ((List.nodup_singleton _).filter _), ?_⟩
  intro text before new
  obtain ⟨generated, several⟩ := List.mem_filter.mp before
  obtain rfl := List.mem_singleton.mp (List.mem_filter.mp new).1
  obtain ⟨number, inside, same⟩ := List.getElem_of_mem generated
  have named : (request.text, numberedName number request.text) ∈ s.given :=
    mem_given.mpr (.inr (mem_numbered.mpr ⟨number, same ▸ List.getElem?_eq_getElem inside, rfl⟩))
  exact (valid.unnamed caller request waits).2 (of_decide_eq_true several) _ named

/-- A name is generated for a text that was asked for. -/
theorem Valid.takes_asked (valid : s.Valid)
    (waits : s.calls.lookup caller = some (.unnamed request))
    : s.generated ++ [request.text] ⊆ s.requested :=
  List.append_subset.mpr
    ⟨valid.asked, List.cons_subset.mpr
      ⟨(valid.unnamed caller request waits).1, List.nil_subset _⟩⟩

/-- A call for the empty text stops waiting when its name is generated. -/
theorem Valid.takes_empty (valid : s.Valid) (name : Text)
    (waits : s.calls.lookup caller = some (.unnamed request))
    : (s.generated ++ [request.text]).count []
        + tally (NameCall.waits []) (s.calls.insert caller (.named request name))
      ≤ s.requested.count [] := by
  have empties := valid.empties
  have changed := tally_insert_found (NameCall.waits []) waits (.named request name)
  rw [NameCall.waits, NameCall.waits] at changed
  rw [List.count_append, List.count_singleton]
  simp only [beq_iff_eq]
  omega

/-- The numbers do not run out before the texts do. -/
theorem Valid.generated_lt (valid : s.Valid)
    (waits : s.calls.lookup caller = some (.unnamed request))
    : s.generated.length < textCount s.requested := by
  have empties := Nat.le_of_add_right_le (valid.takes_empty [] waits)
  have length := length_le_distinct (valid.takes_once waits) (valid.takes_asked waits) empties
  rwa [List.length_append, List.length_singleton] at length

/-- To generate a name keeps the invariant: its salt is fresh, and the text has no other name. -/
theorem Valid.takeSalt (valid : s.Valid)
    (waits : s.calls.lookup caller = some (.unnamed request))
    (law : s.Collisionless (.salt caller)) (few : textCount s.requested ≤ 4294967296)
    : (s.takeSalt caller request).Valid := by
  have fresh := valid.unnamed caller request waits
  have distinct := law ⟨caller, _⟩ (AList.mem_lookup_iff.mp waits) rfl
  have numbers := numbered_fresh numberedName_distinct
    (Nat.lt_of_lt_of_le (valid.generated_lt waits) few) request.text
  have given := @takeSalt_given s caller request valid
  have old {pair : Text × Text} (member : pair ∈ s.given)
      : pair ∈ (s.takeSalt caller request).given := by
    rw [given]
    exact List.mem_append_left _ member
  have new : (request.text, generatedName s.AnonymizationSalt request.text)
      ∈ (s.takeSalt caller request).given := by
    rw [given]
    exact List.mem_append_right _ List.mem_cons_self
  have cases' {pair : Text × Text} (member : pair ∈ (s.takeSalt caller request).given)
      : pair ∈ s.given ∨ pair = (request.text, generatedName s.AnonymizationSalt request.text) := by
    rw [given] at member
    exact (List.mem_append.mp member).imp_right List.mem_singleton.mp
  have others {other : Nat} {call : NameCall}
      (after : (s.takeSalt caller request).calls.lookup other = some call)
      : (other = caller
          ∧ .named request (generatedName s.AnonymizationSalt request.text) = call)
        ∨ (other ≠ caller ∧ s.calls.lookup other = some call) :=
    lookup_insert_some after
  exact
    { salt := by
        rw [Anonymizer.takeSalt]
        dsimp only
        rw [valid.salt, List.length_append, List.length_singleton, UInt32.ofNat_add]
        rfl
      naming := by
        refine valid.naming.add (fun pair => cases') ?_ ?_
        · intro pair member same
          rcases mem_given.mp member with mapped | generated
          · exact absurd same (distinct pair mapped)
          · rw [valid.salt] at same
            exact absurd same (numbers pair generated)
        · intro pair member same several
          obtain ⟨text, name⟩ := pair
          obtain rfl : text = request.text := same
          exact absurd member (fresh.2 several name)
      spelled := by
        intro pair member
        rcases cases' member with before | rfl
        · exact valid.spelled pair before
        · exact generatedName_ne_nil _ _
      stored := fun text name found => (valid.stored text name found).imp_right old
      kept := by
        intro text name member several
        rcases cases' member with before | same
        · rcases valid.kept text name before several with stored | ⟨other, request', calls, same⟩
          · exact .inl stored
          · have differ : other ≠ caller := by
              rintro rfl
              rw [waits] at calls
              cases calls
            exact .inr ⟨other, request', (AList.lookup_insert_ne differ).trans calls, same⟩
        · obtain ⟨rfl, rfl⟩ := Prod.mk.inj same
          exact .inr ⟨caller, request, AList.lookup_insert _, rfl⟩
      named := by
        intro other request' name after
        rcases others after with ⟨-, same⟩ | ⟨-, before⟩
        · cases same
          exact new
        · exact old (valid.named other request' name before)
      unnamed := by
        intro other request' after
        rcases others after with ⟨-, same⟩ | ⟨differ, before⟩
        · cases same
        · refine ⟨(valid.unnamed other request' before).1, ?_⟩
          intro several name member
          rcases cases' member with given | same
          · exact (valid.unnamed other request' before).2 several name given
          · exact differ
              (valid.alone other request' caller request before waits several
                (Prod.mk.inj same).1)
      alone := by
        intro one request₁ other request₂ after after'
        rcases others after with ⟨-, same⟩ | ⟨-, before⟩
        · cases same
        · rcases others after' with ⟨-, same⟩ | ⟨-, before'⟩
          · cases same
          · exact valid.alone one request₁ other request₂ before before'
      answered := fun answer member => old (valid.answered answer member)
      once := valid.takes_once waits
      asked := valid.takes_asked waits
      empties := valid.takes_empty _ waits }

variable {names : KeyedMap Text Text} {plain anonymized text name : Text}

/-- What is mapped is found. -/
theorem mapAnonymized_maps (several : plain ≠ []) (spelled : anonymized ≠ [])
    : (Protocol.mapAnonymized names plain anonymized).lookup plain = some anonymized := by
  rw [Protocol.mapAnonymized, if_neg (not_or.mpr ⟨several, spelled⟩)]
  exact AList.lookup_insert _

/-- Other names stay, and so does the same one. -/
theorem mapAnonymized_keeps (agrees : text = plain → name = anonymized)
    (found : names.lookup text = some name)
    : (Protocol.mapAnonymized names plain anonymized).lookup text = some name := by
  unfold Protocol.mapAnonymized
  split
  · exact found
  · by_cases same : text = plain
    · rw [same, agrees same]
      exact AList.lookup_insert _
    · exact (AList.lookup_insert_ne same).trans found

/-- What is found behind the call was there before or was just mapped. -/
theorem mapAnonymized_some
    (after : (Protocol.mapAnonymized names plain anonymized).lookup text = some name)
    : (text = plain ∧ anonymized = name ∧ plain ≠ []) ∨ names.lookup text = some name := by
  unfold Protocol.mapAnonymized at after
  split at after
  · exact .inr after
  · next mapped =>
      rcases lookup_insert_some after with ⟨rfl, rfl⟩ | ⟨-, old⟩
      · exact .inl ⟨rfl, rfl, fun empty => mapped (.inl empty)⟩
      · exact .inr old

/-- To record a generated name keeps the invariant, since no other name was given to the text. -/
theorem Valid.record (valid : s.Valid)
    (named : s.calls.lookup caller = some (.named request name))
    : (s.record caller request name).Valid := by
  have pair := valid.named caller request name named
  have agrees {text name' : Text} (member : (text, name') ∈ s.given) (several : text ≠ [])
      (same : text = request.text)
      : name' = name :=
    valid.naming.name _ member _ pair same several
  have counted := valid.empties
  have erased := tally_erase (NameCall.waits []) named
  exact
    { salt := valid.salt
      naming := valid.naming
      spelled := valid.spelled
      stored := by
        intro text name' found
        rcases mapAnonymized_some found with ⟨rfl, rfl, several⟩ | before
        · exact ⟨several, pair⟩
        · exact valid.stored text name' before
      kept := by
        intro text name' member several
        by_cases same : text = request.text
        · obtain rfl := agrees member several same
          rw [same] at several ⊢
          exact .inl (mapAnonymized_maps several (valid.spelled _ pair))
        · rcases valid.kept text name' member several with stored | ⟨other, request', calls, text'⟩
          · exact .inl (mapAnonymized_keeps (fun equal => absurd equal same) stored)
          · have differ : other ≠ caller := by
              rintro rfl
              rw [named] at calls
              cases calls
              exact same text'.symm
            exact .inr ⟨other, request', (AList.lookup_erase_ne differ).trans calls, text'⟩
      named := fun other request' name' after =>
        valid.named other request' name' (lookup_erase_some after).2
      unnamed := fun other request' after =>
        valid.unnamed other request' (lookup_erase_some after).2
      alone := fun one request₁ other request₂ after after' =>
        valid.alone one request₁ other request₂ (lookup_erase_some after).2
          (lookup_erase_some after').2
      answered := valid.answer pair
      once := valid.once
      asked := valid.asked
      empties := by
        change s.generated.count [] + tally (NameCall.waits []) (s.calls.erase caller) ≤ _
        change _ ≤ s.requested.count []
        omega }

/-- A call with an empty text does nothing. -/
theorem mapExplicit_ignored (ignored : plain = [] ∨ anonymized = [])
    : s.mapExplicit plain anonymized = s := by
  rw [mapExplicit, Protocol.mapAnonymized, if_pos ignored, if_pos ignored]

/-- To map a text keeps the invariant if the name agrees with those that were given. -/
theorem Valid.mapExplicit (valid : s.Valid)
    (law : s.Collisionless (.mapAnonymized plain anonymized))
    : (s.mapExplicit plain anonymized).Valid := by
  by_cases ignored : plain = [] ∨ anonymized = []
  · rw [mapExplicit_ignored ignored]
    exact valid
  obtain ⟨several, spelled⟩ := not_or.mp ignored
  obtain ⟨free, agrees⟩ := law several spelled
  have inside {pair : Text × Text}
      : pair ∈ (s.mapExplicit plain anonymized).given
        ↔ pair ∈ s.given ∨ pair = (plain, anonymized) := by
    rw [mem_given, mem_given, Anonymizer.mapExplicit]
    dsimp only
    rw [if_neg ignored, List.mem_append, List.mem_singleton, or_right_comm]
  exact
    { salt := valid.salt
      naming := valid.naming.add (fun pair => inside.mp)
        (fun pair member => (agrees pair member).mpr)
        (fun pair member same _ => (agrees pair member).mp same)
      spelled := by
        intro pair member
        rcases inside.mp member with before | rfl
        · exact valid.spelled pair before
        · exact spelled
      stored := by
        intro text name found
        rcases mapAnonymized_some found with ⟨rfl, rfl, -⟩ | before
        · exact ⟨several, inside.mpr (.inr rfl)⟩
        · exact (valid.stored text name before).imp_right fun member => inside.mpr (.inl member)
      kept := by
        intro text name member several'
        rcases inside.mp member with before | same
        · rcases valid.kept text name before several' with stored | calls
          · exact .inl (mapAnonymized_keeps (fun same => (agrees _ before).mp same) stored)
          · exact .inr calls
        · obtain ⟨rfl, rfl⟩ := Prod.mk.inj same
          exact .inl (mapAnonymized_maps several spelled)
      named := fun other request name after =>
        inside.mpr (.inl (valid.named other request name after))
      unnamed := by
        intro other request after
        refine ⟨(valid.unnamed other request after).1, ?_⟩
        intro several' name member
        rcases inside.mp member with before | same
        · exact (valid.unnamed other request after).2 several' name before
        · exact free ⟨other, _⟩ (AList.mem_lookup_iff.mp after) (Prod.mk.inj same).1
      alone := valid.alone
      answered := fun answer member => inside.mpr (.inl (valid.answered answer member))
      once := valid.once
      asked := valid.asked
      empties := valid.empties }

-----------------------------------------------------------------------------------------
-- Runs
-----------------------------------------------------------------------------------------

/-- To ask for a name keeps the invariant, by whether there is one. -/
theorem Valid.find (valid : s.Valid) (idle : s.calls.lookup caller = none)
    (law : s.Collisionless (.find caller request))
    : (s.find caller request).Valid := by
  cases found : s.AnonymizedStrings.lookup request.text with
  | some name => exact valid.find_found found
  | none => exact valid.find_new idle found law

/-- What the steps can do. -/
theorem step_cases {next : Anonymizer} {event : Event} (here : step s event = some next)
    : (∃ caller request, event = .find caller request
        ∧ s.calls.lookup caller = none
        ∧ next = s.find caller request)
      ∨ (∃ caller request, event = .salt caller
        ∧ s.calls.lookup caller = some (.unnamed request)
        ∧ next = s.takeSalt caller request)
      ∨ (∃ caller request name, event = .record caller
        ∧ s.calls.lookup caller = some (.named request name)
        ∧ next = s.record caller request name)
      ∨ (∃ plain anonymized, event = .mapAnonymized plain anonymized
        ∧ next = s.mapExplicit plain anonymized) := by
  cases event with
  | find caller request =>
      rw [step] at here
      split at here
      · cases here
      · next idle => exact .inl ⟨caller, request, rfl, idle, (Option.some.inj here).symm⟩
  | salt caller =>
      rw [step] at here
      split at here
      · next request waits =>
          exact .inr (.inl ⟨caller, request, rfl, waits, (Option.some.inj here).symm⟩)
      · cases here
  | record caller =>
      rw [step] at here
      split at here
      · next request name named =>
          exact .inr (.inr (.inl
            ⟨caller, request, name, rfl, named, (Option.some.inj here).symm⟩))
      · cases here
  | mapAnonymized plain anonymized =>
      exact .inr (.inr (.inr ⟨plain, anonymized, rfl, (Option.some.inj here).symm⟩))

/-- One step keeps the invariant, by cases on the events. -/
theorem Valid.step {next : Anonymizer} {event : Event} (valid : s.Valid)
    (law : s.Collisionless event) (few : textCount s.requested ≤ 4294967296)
    (here : step s event = some next)
    : next.Valid := by
  rcases step_cases here with
    ⟨caller, request, rfl, idle, rfl⟩ | ⟨caller, request, rfl, waits, rfl⟩
    | ⟨caller, request, name, rfl, named, rfl⟩ | ⟨plain, anonymized, rfl, rfl⟩
  · exact valid.find idle law
  · exact valid.takeSalt waits law few
  · exact valid.record named
  · exact valid.mapExplicit law

/-- A step adds the text that it asks for. -/
theorem requested_step {next : Anonymizer} {event : Event} (here : step s event = some next)
    : next.requested = s.requested ++ (requestedText event).toList := by
  rcases step_cases here with
    ⟨caller, request, rfl, -, rfl⟩ | ⟨caller, request, rfl, -, rfl⟩
    | ⟨caller, request, name, rfl, -, rfl⟩ | ⟨plain, anonymized, rfl, rfl⟩
  · cases found : s.AnonymizedStrings.lookup request.text with
    | some name => rw [Anonymizer.find_found found, requestedText, Option.toList_some]
    | none => rw [Anonymizer.find_new found, requestedText, Option.toList_some]
  · exact (List.append_nil _).symm
  · exact (List.append_nil _).symm
  · exact (List.append_nil _).symm

/-- A run adds the texts that it asks for, by induction on the steps. -/
theorem requested_run {final : Anonymizer} {events : List Event}
    (ran : stepRun step s events = some final)
    : final.requested = s.requested ++ events.filterMap requestedText := by
  induction events generalizing s with
  | nil =>
      cases ran
      exact (List.append_nil _).symm
  | cons event events ih =>
      obtain ⟨next, here, later⟩ := stepRun_cons.mp ran
      rw [ih later, requested_step here, List.append_assoc, List.filterMap_cons]
      cases requestedText event <;> rfl

/-- Fewer texts are fewer different ones. -/
theorem textCount_le {texts more : List Text} (sublist : texts.Sublist more)
    : textCount texts ≤ textCount more := by
  have distinct : (texts.filter (· ≠ [])).dedup ⊆ (more.filter (· ≠ [])).dedup := by
    intro text member
    rw [List.mem_dedup] at member ⊢
    exact (sublist.filter _).subset member
  exact Nat.add_le_add (List.subperm_of_subset (List.nodup_dedup _) distinct).length_le
    (sublist.count_le _)

/-- Only the file name is changed. -/
theorem result_anonymizeUrl (url name : Text)
    : (NameRequest.anonymizeUrl url).result name
      = { splitUrl url with filename := name }.concat := by
  rw [UrlParts.concat_mk, NameRequest.result]

/-- Every run without collisions gives each text one name, as long as the numbers suffice, and
an anonymised URL is the URL with the name for its file name.
-/
theorem anonymized_consistently {events : List Event}
    (few : textCount (events.filterMap requestedText) < 4294967296)
    (collisionless : AllSteps step Collisionless {} events)
    : AllStates step Consistent {} events
      ∧ ∀ url, WholeUrl url
        → (splitUrl url).concat = url
          ∧ ∀ name, (NameRequest.anonymizeUrl url).result name
              = { splitUrl url with filename := name }.concat := by
  refine ⟨?_, fun url whole => ⟨splitUrl_concat whole, result_anonymizeUrl url⟩⟩
  have meets : AllSteps step
      (fun s event => s.Collisionless event ∧ textCount s.requested ≤ 4294967296) {} events := by
    rintro done event rest reached rfl ran
    refine ⟨collisionless done event rest reached rfl ran, ?_⟩
    have part := textCount_le (List.sublist_append_left
      (done.filterMap requestedText) ((event :: rest).filterMap requestedText))
    rw [← List.filterMap_append] at part
    rw [requested_run ran]
    exact Nat.le_of_lt (Nat.lt_of_le_of_lt part few)
  have valid := allStates_of_meets (fun s event next valid meets here =>
    valid.step meets.1 meets.2 here) valid_start meets
  exact fun done rest reached split ran => (valid done rest reached split ran).consistent

/-- Two callers and a mapped text. -/
def twoCallers : List Event :=
  [.mapAnonymized "c".toList "x".toList, .find 0 (.anonymize "a".toList),
    .find 1 (.anonymizeUrl "/doc/b.odt?x".toList), .salt 1, .salt 0, .record 0, .record 1,
    .find 0 (.anonymize "a".toList)]

/-- Two callers ask for names at the same time. -/
theorem anonymized_consistently_twoCallers
    : AllStates step Consistent {} twoCallers
      ∧ ∀ url, WholeUrl url
        → (splitUrl url).concat = url
          ∧ ∀ name, (NameRequest.anonymizeUrl url).result name
              = { splitUrl url with filename := name }.concat := by
  refine anonymized_consistently (by decide +kernel) ?_
  exact .cons (by decide +kernel) rfl (.cons (by decide +kernel) rfl
    (.cons (by decide +kernel) rfl (.cons (by decide +kernel) rfl
      (.cons (by decide +kernel) rfl (.cons (by decide +kernel) rfl
        (.cons (by decide +kernel) rfl (.cons (by decide +kernel) rfl
          (fun done event rest reached split => absurd split (by simp)))))))))

def SameNames (s : Anonymizer) : Prop :=
  ∀ one ∈ s.answers, ∀ other ∈ s.answers,
    one.request.text = other.request.text → one.name = other.name

instance (s : Anonymizer) : Decidable s.SameNames :=
  inferInstanceAs (Decidable (∀ one ∈ s.answers, ∀ other ∈ s.answers, _ = _ → _ = _))

/-- The empty text is not mapped. -/
def emptyTexts : List Event :=
  [.find 0 (.anonymize []), .salt 0, .record 0, .find 0 (.anonymize []), .salt 0, .record 0]

def emptyTextsEnd : Anonymizer where
  AnonymizationSalt := 2
  requested := [[], []]
  generated := [[], []]
  answers := [⟨.anonymize [], "#0#0#".toList⟩, ⟨.anonymize [], "#1#0#".toList⟩]

/-- Two callers look for a text before one of them has mapped it. -/
def meetingCallers : List Event :=
  [.find 0 (.anonymize "a".toList), .find 1 (.anonymize "a".toList), .salt 0, .salt 1,
    .record 0, .record 1]

/-- One text has two names, and a URL loses what is behind a NUL or all of it. -/
theorem emptyTexts_differ
    : (stepRun step {} emptyTexts = some emptyTextsEnd
        ∧ textCount (emptyTexts.filterMap requestedText) < 4294967296
        ∧ AllSteps step Collisionless {} emptyTexts
        ∧ ¬ emptyTextsEnd.SameNames)
      ∧ (stepRun step {} meetingCallers).map answers
        = some [⟨.anonymize "a".toList, "#0#61#".toList⟩, ⟨.anonymize "a".toList, "#1#61#".toList⟩]
      ∧ (splitUrl "/a\x00b".toList).concat = "/a".toList
      ∧ ∀ url, url.length = 2147483648 → (splitUrl url).concat = [] := by
  refine ⟨⟨rfl, by decide +kernel, ?_, by decide +kernel⟩, by decide +kernel, by decide +kernel,
    fun url long => by rw [splitUrl_negative (intSize_long long), UrlParts.concat_mk]; rfl⟩
  exact .cons (by decide +kernel) rfl (.cons (by decide +kernel) rfl
    (.cons (by decide +kernel) rfl (.cons (by decide +kernel) rfl
      (.cons (by decide +kernel) rfl (.cons (by decide +kernel) rfl
        (fun done event rest reached split => absurd split (by simp)))))))

end Anonymizer

end NdcOdfWeb.Protocol
