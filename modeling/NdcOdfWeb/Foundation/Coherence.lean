import Mathlib.Data.Set.Basic

/-! A cache that is kept up to date by messages in order: values to store, and keys to drop. What it
holds is current, as long as every key whose value has changed is about to be dropped, upstream or
by a message that is under way.
-/

namespace NdcOdfWeb.Foundation

variable {K V : Type}

/-- A message on its way to the cache. -/
inductive Delivery (K V : Type) where
  | store (key : K) (value : V)
  | drop (gone : Set K)

/-- What a cache holds, as a relation between keys and values. -/
abbrev Holds (K V : Type) := K → V → Prop

/-- A message arrives. -/
def Holds.receive (holds : Holds K V) : Delivery K V → Holds K V
  | .store key value =>
      fun other found => (other = key ∧ found = value) ∨ (other ≠ key ∧ holds other found)
  | .drop gone => fun key value => key ∉ gone ∧ holds key value

/-- Some message is going to drop the key. -/
def dropped (messages : List (Delivery K V)) : Set K :=
  { key | ∃ gone, Delivery.drop gone ∈ messages ∧ key ∈ gone }

/-- Of the keys that matter, what the cache holds is the current value or about to be dropped. -/
def Fresh (matters : Set K) (current : K → V) (stale : Set K) (holds : Holds K V) : Prop :=
  ∀ key ∈ matters, ∀ value, holds key value → value = current key ∨ key ∈ stale

namespace Fresh

variable {matters stale : Set K} {current : K → V} {holds : Holds K V}

/-- Fewer entries, fewer conditions. -/
theorem mono (fresh : Fresh matters current stale holds) {less : Holds K V}
    (fewer : ∀ key value, less key value → holds key value)
    : Fresh matters current stale less :=
  fun key matter value found => fresh key matter value (fewer key value found)

/-- The current value of a key gets under way. -/
theorem store (fresh : Fresh matters current stale holds) {key : K} {value : V}
    (now : key ∈ matters → value = current key)
    : Fresh matters current stale (holds.receive (.store key value)) := by
  rintro other matter held (⟨rfl, rfl⟩ | ⟨-, before⟩)
  · exact .inl (now matter)
  · exact fresh other matter held before

/-- Keys get under way to be dropped; only the others stay stale. -/
theorem drop (fresh : Fresh matters current stale holds) {gone left : Set K}
    (rest : ∀ key ∈ matters, key ∈ stale → key ∉ gone → key ∈ left)
    : Fresh matters current left (holds.receive (.drop gone)) := by
  rintro key matter value ⟨kept, before⟩
  exact (fresh key matter value before).imp_right (fun old => rest key matter old kept)

/-- The current values change, and the keys of those that do get stale. -/
theorem change (fresh : Fresh matters current stale holds) {next : K → V} {left : Set K}
    (kept : ∀ key ∈ matters, key ∈ stale → key ∈ left)
    (changed : ∀ key ∈ matters, next key ≠ current key → key ∈ left)
    : Fresh matters next left holds := by
  intro key matter value found
  by_cases same : next key = current key
  · rw [same]
    exact (fresh key matter value found).imp_right (kept key matter)
  · exact .inr (changed key matter same)

end Fresh

/-- The cache is fresh now, and it stays so after each message that is under way. -/
def Coherent (matters : Set K) (current : K → V) (upstream : Set K)
    : List (Delivery K V) → Holds K V → Prop
  | [], holds => Fresh matters current upstream holds
  | message :: messages, holds =>
      Fresh matters current (upstream ∪ dropped (message :: messages)) holds
      ∧ Coherent matters current upstream messages (holds.receive message)

namespace Coherent

variable {matters upstream left : Set K} {current : K → V} {holds : Holds K V}
variable {messages : List (Delivery K V)}

/-- What is not yet dropped counts as stale. -/
theorem fresh (coherent : Coherent matters current upstream messages holds)
    : Fresh matters current (upstream ∪ dropped messages) holds := by
  cases messages with
  | nil => exact Fresh.change coherent (fun _ _ => .inl) (fun _ _ changed => absurd rfl changed)
  | cons message messages => exact coherent.1

/-- A cache that holds less is coherent, too. -/
theorem mono (coherent : Coherent matters current upstream messages holds) {less : Holds K V}
    (fewer : ∀ key value, less key value → holds key value)
    : Coherent matters current upstream messages less := by
  induction messages generalizing holds less with
  | nil => exact Fresh.mono coherent fewer
  | cons message messages ih =>
      refine ⟨Fresh.mono coherent.1 fewer, ih coherent.2 ?_⟩
      intro key value found
      cases message with
      | store stored new => exact found.imp_right (fun kept => ⟨kept.1, fewer _ _ kept.2⟩)
      | drop gone => exact ⟨found.1, fewer _ _ found.2⟩

/-- The current values change, and upstream knows the keys of those that do. -/
theorem change (coherent : Coherent matters current upstream messages holds) {next : K → V}
    (kept : ∀ key ∈ matters, key ∈ upstream → key ∈ left)
    (changed : ∀ key ∈ matters, next key ≠ current key → key ∈ left)
    : Coherent matters next left messages holds := by
  induction messages generalizing holds with
  | nil => exact Fresh.change coherent kept changed
  | cons message messages ih =>
      refine ⟨Fresh.change coherent.1 ?_ ?_, ih coherent.2⟩
      · intro key matter stale
        exact stale.imp_left (kept key matter)
      · intro key matter new
        exact .inl (changed key matter new)

/-- More messages get under way; the keys that upstream forgets are dropped by them. -/
theorem append (coherent : Coherent matters current upstream messages holds)
    {sent : List (Delivery K V)}
    (rest : ∀ key ∈ matters, key ∈ upstream → key ∈ left ∨ key ∈ dropped sent)
    (ends
      : ∀ {last}, Fresh matters current upstream last → Coherent matters current left sent last)
    : Coherent matters current left (messages ++ sent) holds := by
  induction messages generalizing holds with
  | nil => exact ends coherent
  | cons message messages ih =>
      refine ⟨Fresh.change coherent.1 ?_ (fun _ _ changed => absurd rfl changed), ih coherent.2⟩
      rintro key matter (stale | ⟨gone, member, inside⟩)
      · refine (rest key matter stale).imp_right ?_
        rintro ⟨gone, member, inside⟩
        exact ⟨gone, List.mem_append_right (message :: messages) member, inside⟩
      · exact .inr ⟨gone, List.mem_append_left sent member, inside⟩

/-- Current values are sent. -/
theorem stores (coherent : Coherent matters current upstream messages holds)
    {sent : List (Delivery K V)}
    (now
      : ∀ message ∈ sent,
          ∃ key value, message = .store key value ∧ (key ∈ matters → value = current key))
    : Coherent matters current upstream (messages ++ sent) holds := by
  refine coherent.append (fun _ _ => .inl) ?_
  intro last fresh
  clear coherent
  induction sent generalizing last with
  | nil => exact fresh
  | cons message sent ih =>
      obtain ⟨key, value, rfl, new⟩ := now message List.mem_cons_self
      refine ⟨fresh.change (fun _ _ => .inl) (fun _ _ changed => absurd rfl changed), ?_⟩
      exact ih (fun other member => now other (List.mem_cons_of_mem _ member)) (fresh.store new)

/-- Keys are sent that are to be dropped. -/
theorem drops (coherent : Coherent matters current upstream messages holds)
    {sent : List (Delivery K V)} (all : ∀ message ∈ sent, ∃ gone, message = .drop gone)
    (rest : ∀ key ∈ matters, key ∈ upstream → key ∈ left ∨ key ∈ dropped sent)
    : Coherent matters current left (messages ++ sent) holds := by
  refine coherent.append rest ?_
  intro last fresh
  clear coherent
  induction sent generalizing last upstream with
  | nil =>
      refine fresh.change ?_ (fun _ _ changed => absurd rfl changed)
      intro key matter stale
      rcases rest key matter stale with kept | ⟨gone, member, -⟩
      · exact kept
      · exact absurd member List.not_mem_nil
  | cons message sent ih =>
      obtain ⟨gone, rfl⟩ := all message List.mem_cons_self
      refine ⟨fresh.change rest (fun _ _ changed => absurd rfl changed), ?_⟩
      have fresh' : Fresh matters current (upstream \ gone) (last.receive (.drop gone)) :=
        fresh.drop (fun _ _ stale kept => ⟨stale, kept⟩)
      refine ih (fun other member => all other (List.mem_cons_of_mem _ member)) ?_ fresh'
      rintro key matter ⟨stale, kept⟩
      refine (rest key matter stale).imp_right ?_
      rintro ⟨other, member, inside⟩
      rcases List.mem_cons.mp member with same | later
      · cases same
        exact absurd inside kept
      · exact ⟨other, later, inside⟩

end Coherent

end NdcOdfWeb.Foundation
