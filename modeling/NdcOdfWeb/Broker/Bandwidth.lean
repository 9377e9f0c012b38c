import NdcOdfWeb.Foundation.StepRun
import NdcOdfWeb.Foundation.Tally

/-! The bandwidth that a document reports to the admin console: the bytes of the sessions that it
has at the time are added up, and what they are more than last time is sent on.
-/

namespace NdcOdfWeb.Broker

open NdcOdfWeb.Foundation

/-- The bytes that the socket of a session has transferred. -/
structure SocketBytes where
  sent : UInt64
  recv : UInt64
deriving DecidableEq

/-- The sessions of a document, what it has recorded for the deltas, and the deltas that it has
added to the statistics. `transferredSent` and `transferredRecv` count the bytes that have really
been transferred for the document.
-/
structure Traffic where
  sessions : KeyedMap Nat SocketBytes
  adminSent : UInt64
  adminRecv : UInt64
  deltas : List SocketBytes
  transferredSent : Nat
  transferredRecv : Nat

inductive TrafficEvent where
  | joins (id sent recv : Nat)
  | transfers (id sent recv : Nat)
  | socketCloses (id : Nat)
  | leaves (id : Nat)
  | report

namespace Traffic

variable (traffic : Traffic)

/-- `getIOStats`. -/
def getIOStats : SocketBytes :=
  traffic.sessions.entries.foldl
    (fun total session => ⟨total.sent + session.2.sent, total.recv + session.2.recv⟩)
    ⟨0, 0⟩

/-- What is reported: the received bytes are compared with a delta that is still zero. -/
def bandwidthDeltas : SocketBytes where
  sent := if traffic.getIOStats.sent > traffic.adminSent then
      traffic.getIOStats.sent - traffic.adminSent
    else 0
  recv := if traffic.getIOStats.recv > 0 then traffic.getIOStats.recv - traffic.adminRecv else 0

/-- The report of `pollThread`. -/
def report : Traffic :=
  { traffic with
    adminSent := if traffic.getIOStats.sent > traffic.adminSent then traffic.getIOStats.sent
      else traffic.adminSent
    adminRecv := if traffic.getIOStats.recv > 0 then traffic.getIOStats.recv else traffic.adminRecv
    deltas := traffic.deltas ++ [traffic.bandwidthDeltas] }

/-- A session joins, with what its socket has transferred for the request. -/
def joins (id sent recv : Nat) : Traffic :=
  { traffic with
    sessions := emplace traffic.sessions id ⟨UInt64.ofNat sent, UInt64.ofNat recv⟩
    transferredSent := traffic.transferredSent + sent
    transferredRecv := traffic.transferredRecv + recv }

def transfers (id sent recv : Nat) : Traffic :=
  match traffic.sessions.lookup id with
  | some bytes =>
      { traffic with
        sessions := traffic.sessions.insert id
          ⟨bytes.sent + UInt64.ofNat sent, bytes.recv + UInt64.ofNat recv⟩
        transferredSent := traffic.transferredSent + sent
        transferredRecv := traffic.transferredRecv + recv }
  | none => traffic

/-- A session whose socket is gone has no bytes. -/
def socketCloses (id : Nat) : Traffic :=
  match traffic.sessions.lookup id with
  | some _ => { traffic with sessions := traffic.sessions.insert id ⟨0, 0⟩ }
  | none => traffic

def leaves (id : Nat) : Traffic :=
  { traffic with sessions := traffic.sessions.erase id }

end Traffic

def trafficStep (traffic : Traffic) : TrafficEvent → Option Traffic
  | .joins id sent recv => some (traffic.joins id sent recv)
  | .transfers id sent recv => some (traffic.transfers id sent recv)
  | .socketCloses id => some (traffic.socketCloses id)
  | .leaves id => some (traffic.leaves id)
  | .report => some traffic.report

/-- A document without sessions. -/
def noTraffic : Traffic := ⟨∅, 0, 0, [], 0, 0⟩

/-- The deltas of a report are the increase of the totals since the recorded ones. -/
def ReportsIncrease (traffic : Traffic) : TrafficEvent → Prop
  | .report =>
      traffic.bandwidthDeltas.sent.toNat
        = traffic.getIOStats.sent.toNat - traffic.adminSent.toNat
      ∧ traffic.bandwidthDeltas.recv.toNat
        = traffic.getIOStats.recv.toNat - traffic.adminRecv.toNat
  | .joins .. | .transfers .. | .socketCloses _ | .leaves _ => True

/-- The deltas added up are no more than the bytes really transferred. -/
def DeltasTransferred (traffic : Traffic) : Prop :=
  (traffic.deltas.map (·.sent.toNat)).sum ≤ traffic.transferredSent
  ∧ (traffic.deltas.map (·.recv.toNat)).sum ≤ traffic.transferredRecv

/-- No received bytes are reported, or not fewer than last time. -/
def ReceivedGrows (traffic : Traffic) : TrafficEvent → Prop
  | .report => traffic.getIOStats.recv = 0 ∨ traffic.adminRecv ≤ traffic.getIOStats.recv
  | .joins .. | .transfers .. | .socketCloses _ | .leaves _ => True

/-- A sum that wraps is smaller. -/
theorem toNat_add_le (left right : UInt64) : (left + right).toNat ≤ left.toNat + right.toNat := by
  rw [UInt64.toNat_add]
  exact Nat.mod_le _ _

/-- A sum that wraps is smaller. -/
theorem toNat_add_ofNat_le (left : UInt64) (more : Nat)
    : (left + UInt64.ofNat more).toNat ≤ left.toNat + more := by
  have bytes : (UInt64.ofNat more).toNat ≤ more := by
    rw [UInt64.toNat_ofNat']
    exact Nat.mod_le _ _
  exact Nat.le_trans (toNat_add_le left _) (Nat.add_le_add_left bytes _)

/-- A difference wraps if more is taken away than there is. -/
theorem toNat_sub_eq_iff {total recorded : UInt64} (positive : 0 < total)
    : (total - recorded).toNat = total.toNat - recorded.toNat ↔ recorded ≤ total := by
  rw [UInt64.le_iff_toNat_le]
  rw [UInt64.lt_iff_toNat_lt] at positive
  have zero : (0 : UInt64).toNat = 0 := rfl
  rw [zero] at positive
  have recordedSize := recorded.toNat_lt
  have totalSize := total.toNat_lt
  rw [UInt64.toNat_sub]
  omega

/-- The total of the sessions wraps around at most. -/
theorem getIOStats_le (traffic : Traffic)
    : traffic.getIOStats.sent.toNat ≤ tally (·.sent.toNat) traffic.sessions
      ∧ traffic.getIOStats.recv.toNat ≤ tally (·.recv.toNat) traffic.sessions := by
  unfold Traffic.getIOStats tally
  have folded (sessions : List (Sigma fun _ : Nat => SocketBytes)) (start : SocketBytes)
      : (sessions.foldl
            (fun total session => ⟨total.sent + session.2.sent, total.recv + session.2.recv⟩)
            start).sent.toNat
          ≤ start.sent.toNat + (sessions.map (fun session => session.2.sent.toNat)).sum
        ∧ (sessions.foldl
            (fun total session => ⟨total.sent + session.2.sent, total.recv + session.2.recv⟩)
            start).recv.toNat
          ≤ start.recv.toNat + (sessions.map (fun session => session.2.recv.toNat)).sum := by
    induction sessions generalizing start with
    | nil => exact ⟨Nat.le_refl _, Nat.le_refl _⟩
    | cons session sessions ih =>
        have later := ih ⟨start.sent + session.2.sent, start.recv + session.2.recv⟩
        have sent := toNat_add_le start.sent session.2.sent
        have recv := toNat_add_le start.recv session.2.recv
        rw [List.foldl_cons, List.map_cons, List.map_cons, List.sum_cons, List.sum_cons]
        dsimp only at later
        omega
  have total := folded traffic.sessions.entries ⟨0, 0⟩
  have zero : (0 : UInt64).toNat = 0 := rfl
  dsimp only at total
  rw [zero, Nat.zero_add, Nat.zero_add] at total
  exact total

-----------------------------------------------------------------------------------------
-- One event
-----------------------------------------------------------------------------------------

/-- The sessions have no more bytes than were transferred, and the deltas add up to what is
recorded, which is no more either.
-/
structure Accounted (traffic : Traffic) : Prop where
  sentTally : tally (·.sent.toNat) traffic.sessions ≤ traffic.transferredSent
  recvTally : tally (·.recv.toNat) traffic.sessions ≤ traffic.transferredRecv
  sentSum : (traffic.deltas.map (·.sent.toNat)).sum = traffic.adminSent.toNat
  recvSum : (traffic.deltas.map (·.recv.toNat)).sum = traffic.adminRecv.toNat
  sentRecorded : traffic.adminSent.toNat ≤ traffic.transferredSent
  recvRecorded : traffic.adminRecv.toNat ≤ traffic.transferredRecv

/-- At first, nothing is counted. -/
theorem accounted_noTraffic : Accounted noTraffic :=
  ⟨Nat.le_refl 0, Nat.le_refl 0, rfl, rfl, Nat.le_refl 0, Nat.le_refl 0⟩

/-- The sums of the deltas are what is recorded. -/
theorem Accounted.deltasTransferred {traffic : Traffic} (accounted : Accounted traffic)
    : DeltasTransferred traffic :=
  ⟨accounted.sentSum ▸ accounted.sentRecorded, accounted.recvSum ▸ accounted.recvRecorded⟩

/-- The sent bytes are compared with the recorded ones. -/
theorem sentDelta_eq (traffic : Traffic)
    : traffic.bandwidthDeltas.sent.toNat
      = traffic.getIOStats.sent.toNat - traffic.adminSent.toNat := by
  have zero : (0 : UInt64).toNat = 0 := rfl
  unfold Traffic.bandwidthDeltas
  dsimp only
  split
  · next grows =>
      rw [gt_iff_lt, UInt64.lt_iff_toNat_lt] at grows
      rw [UInt64.toNat_sub_of_le _ _ (UInt64.le_iff_toNat_le.mpr (Nat.le_of_lt grows))]
  · next falls =>
      rw [gt_iff_lt, UInt64.lt_iff_toNat_lt] at falls
      rw [zero]
      omega

/-- The received bytes' difference, under the guard of the source. -/
theorem recvDelta_iff (traffic : Traffic)
    : traffic.bandwidthDeltas.recv.toNat
        = traffic.getIOStats.recv.toNat - traffic.adminRecv.toNat
      ↔ ReceivedGrows traffic .report := by
  have zero : (0 : UInt64).toNat = 0 := rfl
  unfold Traffic.bandwidthDeltas ReceivedGrows
  dsimp only
  split
  · next positive =>
      have nonzero : traffic.getIOStats.recv ≠ 0 := by
        intro same
        rw [same] at positive
        exact absurd positive (UInt64.lt_irrefl 0)
      rw [toNat_sub_eq_iff positive]
      constructor
      · exact Or.inr
      · exact fun grows => grows.resolve_left nonzero
  · next none' =>
      have same : traffic.getIOStats.recv = 0 := by
        rw [gt_iff_lt, UInt64.lt_iff_toNat_lt, zero] at none'
        exact UInt64.toNat_inj.mp (by rw [zero]; omega)
      rw [same, zero, Nat.zero_sub]
      exact iff_of_true rfl (.inl rfl)

/-- Only a report sends deltas. -/
theorem reportsIncrease_iff (traffic : Traffic) (event : TrafficEvent)
    : ReportsIncrease traffic event ↔ ReceivedGrows traffic event := by
  cases event with
  | report =>
      constructor
      · exact fun increase => (recvDelta_iff traffic).mp increase.2
      · exact fun grows => ⟨sentDelta_eq traffic, (recvDelta_iff traffic).mpr grows⟩
  | joins | transfers | socketCloses | leaves => exact Iff.rfl

/-- The deltas reported are the ones that are added. -/
theorem Accounted.report {traffic : Traffic} (accounted : Accounted traffic)
    (grows : ReceivedGrows traffic .report)
    : Accounted traffic.report := by
  have totals := getIOStats_le traffic
  have sent := sentDelta_eq traffic
  have recv := (recvDelta_iff traffic).mpr grows
  have sentTally := accounted.sentTally
  have recvTally := accounted.recvTally
  have sentRecorded := accounted.sentRecorded
  have recvRecorded := accounted.recvRecorded
  have zero : (0 : UInt64).toNat = 0 := rfl
  have adminSent : traffic.report.adminSent.toNat
      = max traffic.getIOStats.sent.toNat traffic.adminSent.toNat := by
    unfold Traffic.report
    dsimp only
    split
    · next larger =>
        rw [gt_iff_lt, UInt64.lt_iff_toNat_lt] at larger
        omega
    · next smaller =>
        rw [gt_iff_lt, UInt64.lt_iff_toNat_lt] at smaller
        omega
  have adminRecv : traffic.report.adminRecv.toNat
      = max traffic.getIOStats.recv.toNat traffic.adminRecv.toNat := by
    unfold Traffic.report
    dsimp only
    split
    · next positive =>
        rw [gt_iff_lt, UInt64.lt_iff_toNat_lt, zero] at positive
        rcases grows with none' | more
        · rw [none', zero] at positive
          omega
        · rw [UInt64.le_iff_toNat_le] at more
          omega
    · next none' =>
        rw [gt_iff_lt, UInt64.lt_iff_toNat_lt, zero] at none'
        omega
  refine ⟨sentTally, recvTally, ?_, ?_, ?_, ?_⟩
  · change ((traffic.deltas ++ [traffic.bandwidthDeltas]).map (·.sent.toNat)).sum = _
    rw [List.map_append, List.sum_append, accounted.sentSum, adminSent, List.map_singleton,
      List.sum_singleton, sent]
    omega
  · change ((traffic.deltas ++ [traffic.bandwidthDeltas]).map (·.recv.toNat)).sum = _
    rw [List.map_append, List.sum_append, accounted.recvSum, adminRecv, List.map_singleton,
      List.sum_singleton, recv]
    omega
  · rw [adminSent]
    change _ ≤ traffic.transferredSent
    omega
  · rw [adminRecv]
    change _ ≤ traffic.transferredRecv
    omega

/-- The sessions change, and bytes are transferred. -/
theorem Accounted.change {traffic : Traffic} (accounted : Accounted traffic)
    {sessions : KeyedMap Nat SocketBytes} {sent recv : Nat}
    (sentTally : tally (·.sent.toNat) sessions ≤ traffic.transferredSent + sent)
    (recvTally : tally (·.recv.toNat) sessions ≤ traffic.transferredRecv + recv)
    : Accounted { traffic with
        sessions
        transferredSent := traffic.transferredSent + sent
        transferredRecv := traffic.transferredRecv + recv } :=
  ⟨sentTally, recvTally, accounted.sentSum, accounted.recvSum,
    Nat.le_add_right_of_le accounted.sentRecorded,
    Nat.le_add_right_of_le accounted.recvRecorded⟩

/-- A count that wraps is smaller. -/
theorem ofNat_le (bytes : Nat) : (UInt64.ofNat bytes).toNat ≤ bytes := by
  rw [UInt64.toNat_ofNat']
  exact Nat.mod_le _ _

/-- By cases on the event. -/
theorem Accounted.step {traffic : Traffic} (accounted : Accounted traffic)
    {event : TrafficEvent} (grows : ReceivedGrows traffic event) {next : Traffic}
    (step : trafficStep traffic event = some next)
    : Accounted next := by
  have sentTally := accounted.sentTally
  have recvTally := accounted.recvTally
  cases event with
  | report =>
      cases step
      exact accounted.report grows
  | joins id sent recv =>
      cases step
      have sentBytes := ofNat_le sent
      have recvBytes := ofNat_le recv
      apply accounted.change
      · unfold emplace
        split
        · omega
        · next absent =>
            rw [tally_insert_new _ _ absent]
            dsimp only
            omega
      · unfold emplace
        split
        · omega
        · next absent =>
            rw [tally_insert_new _ _ absent]
            dsimp only
            omega
  | transfers id sent recv =>
      cases step
      unfold Traffic.transfers
      split
      · next bytes found =>
          apply accounted.change
          · have total := tally_insert_found (fun session : SocketBytes => session.sent.toNat) found
              ⟨bytes.sent + UInt64.ofNat sent, bytes.recv + UInt64.ofNat recv⟩
            have added := toNat_add_ofNat_le bytes.sent sent
            dsimp only at total
            omega
          · have total := tally_insert_found (fun session : SocketBytes => session.recv.toNat) found
              ⟨bytes.sent + UInt64.ofNat sent, bytes.recv + UInt64.ofNat recv⟩
            have added := toNat_add_ofNat_le bytes.recv recv
            dsimp only at total
            omega
      · exact accounted
  | socketCloses id =>
      cases step
      unfold Traffic.socketCloses
      split
      · next bytes found =>
          have zero : (0 : UInt64).toNat = 0 := rfl
          apply @Accounted.change _ accounted _ 0 0
          · have total := tally_insert_found (fun session : SocketBytes => session.sent.toNat) found
              ⟨0, 0⟩
            dsimp only at total
            rw [zero] at total
            omega
          · have total := tally_insert_found (fun session : SocketBytes => session.recv.toNat) found
              ⟨0, 0⟩
            dsimp only at total
            rw [zero] at total
            omega
      · exact accounted
  | leaves id =>
      cases step
      have fewer (weight : SocketBytes → Nat)
          : tally weight (traffic.sessions.erase id) ≤ tally weight traffic.sessions := by
        cases found : traffic.sessions.lookup id with
        | none =>
            have absent : id ∉ traffic.sessions.entries.keys := AList.lookup_eq_none.mp found
            have same : traffic.sessions.erase id = traffic.sessions :=
              AList.ext (List.kerase_of_notMem_keys absent)
            rw [same]
        | some bytes =>
            have erased := tally_erase weight found
            omega
      exact @Accounted.change _ accounted _ 0 0 (Nat.le_trans (fewer _) sentTally)
        (Nat.le_trans (fewer _) recvTally)

/-- In a run, every delta is the increase of its total and the deltas add up to no more than was
transferred, if and only if the received bytes never fall between two reports, except to none.
-/
theorem bandwidth_iff (events : List TrafficEvent)
    : AllSteps trafficStep ReportsIncrease noTraffic events
        ∧ AllStates trafficStep DeltasTransferred noTraffic events
      ↔ AllSteps trafficStep ReceivedGrows noTraffic events := by
  constructor
  · intro both done event rest reached split ran
    exact (reportsIncrease_iff reached event).mp (both.1 done event rest reached split ran)
  · intro grows
    constructor
    · intro done event rest reached split ran
      exact (reportsIncrease_iff reached event).mpr (grows done event rest reached split ran)
    · intro done rest reached split ran
      have accounted := allStates_of_meets
        (fun traffic event next accounted grows step => Accounted.step accounted grows step)
        accounted_noTraffic grows done rest reached split ran
      exact accounted.deltasTransferred

/-- A session that has received much leaves, another one stays. -/
def leavingEvents : List TrafficEvent :=
  [.joins 1 0 0, .joins 2 0 3, .transfers 1 0 10, .report, .leaves 1, .report]

/-- The difference of the received bytes wraps around. -/
theorem leaving_wraps
    : (stepRun trafficStep noTraffic leavingEvents).map
        (fun traffic => (traffic.deltas.map (·.recv.toNat), traffic.transferredRecv))
      = some ([13, 18446744073709551606], 13)
      ∧ ¬ AllStates trafficStep DeltasTransferred noTraffic leavingEvents := by
  refine ⟨by decide +kernel, ?_⟩
  intro transferred
  cases ran : stepRun trafficStep noTraffic leavingEvents with
  | none =>
      have result : (stepRun trafficStep noTraffic leavingEvents).isSome = true := by
        decide +kernel
      rw [ran] at result
      cases result
  | some last =>
      have bounded := (transferred leavingEvents [] last (List.append_nil _).symm ran).2
      have wrapped
          : (stepRun trafficStep noTraffic leavingEvents).all
              (fun traffic =>
                decide (traffic.transferredRecv < (traffic.deltas.map (·.recv.toNat)).sum))
            = true := by
        decide +kernel
      rw [ran, Option.all_some, decide_eq_true_iff] at wrapped
      exact absurd bounded (Nat.not_le.mpr wrapped)

end NdcOdfWeb.Broker
