import Mathlib.Data.List.Basic
import Mathlib.Tactic.Tauto

/-! Grouping a queue: its first element starts a group, a scan over the others takes some of
them out of the queue, and so on until the queue is empty. Elements that a group would start
with can be dropped.
-/

namespace NdcOdfWeb.Foundation

/-- What a scan does with an element. -/
inductive ScanDecision where
  | stop
  | take
  | leave
deriving DecidableEq

variable {σ α : Type} (pass : σ → α → ScanDecision × σ)

/-- What a scan takes, and what it leaves in the queue. -/
def scan : σ → List α → List α × List α
  | _, [] => ([], [])
  | state, current :: rest =>
      match pass state current with
      | (.stop, _) => ([], current :: rest)
      | (.take, next) =>
          let (taken, left) := scan next rest
          (current :: taken, left)
      | (.leave, next) =>
          let (taken, left) := scan next rest
          (taken, current :: left)

/-- The state of a scan behind the queue, unless it has stopped. -/
def scanEnd : σ → List α → Option σ
  | state, [] => some state
  | state, current :: rest =>
      match pass state current with
      | (.stop, _) => none
      | (.take, next) | (.leave, next) => scanEnd next rest

/-- A scan that goes on, if it has not stopped. -/
def scanFrom : Option σ → List α → List α × List α
  | none, queue => ([], queue)
  | some state, queue => scan pass state queue

/-- Scans one after the other, each over what those before it have left. -/
def scans : List (Option σ) → List α → List α × List α
  | [], queue => ([], queue)
  | state :: states, queue =>
      let (taken, left) := scanFrom pass state queue
      let (more, left) := scans states left
      (taken ++ more, left)

/-- One scan, and the others behind it. -/
theorem scans_cons (state : Option σ) (states : List (Option σ)) (queue : List α)
    : scans pass (state :: states) queue
      = (
          (scanFrom pass state queue).1 ++ (scans pass states (scanFrom pass state queue).2).1,
          (scans pass states (scanFrom pass state queue).2).2
        ) :=
  rfl

/-- The states of these scans behind the queue. -/
def scansEnd : List (Option σ) → List α → List (Option σ)
  | [], _ => []
  | state :: states, queue =>
      state.bind (scanEnd pass · queue) :: scansEnd states (scanFrom pass state queue).2

/-- By induction on the queue: each element is taken or left. -/
theorem scan_perm (state : σ) (queue : List α)
    : ((scan pass state queue).1 ++ (scan pass state queue).2).Perm queue := by
  induction queue generalizing state with
  | nil => exact .refl _
  | cons current rest ih =>
      rw [scan]
      match pass state current with
      | (.stop, _) => exact .refl _
      | (.take, next) => exact (ih next).cons current
      | (.leave, next) => exact List.perm_middle.trans ((ih next).cons current)

/-- A scan adds no element. -/
theorem length_scan_le (state : σ) (queue : List α)
    : (scan pass state queue).2.length ≤ queue.length := by
  have length := (scan_perm pass state queue).length_eq
  rw [List.length_append] at length
  omega

/-- A scan over a queue that is cut in two is one over the front, which then goes on. By induction
on the front.
-/
theorem scan_append (state : σ) (front back : List α)
    : scan pass state (front ++ back)
      = (
          (scan pass state front).1 ++ (scanFrom pass (scanEnd pass state front) back).1,
          (scan pass state front).2 ++ (scanFrom pass (scanEnd pass state front) back).2
        ) := by
  induction front generalizing state with
  | nil => rfl
  | cons current rest ih =>
      rw [List.cons_append, scan, scan, scanEnd]
      match pass state current with
      | (.stop, _) => rfl
      | (.take, next) | (.leave, next) =>
          dsimp only
          rw [ih next]
          rfl

/-- The scan of the back goes on where the front's ended. -/
theorem scanFrom_append (state : Option σ) (front back : List α)
    : scanFrom pass state (front ++ back)
      = (
          (scanFrom pass state front).1
            ++ (scanFrom pass (state.bind (scanEnd pass · front)) back).1,
          (scanFrom pass state front).2
            ++ (scanFrom pass (state.bind (scanEnd pass · front)) back).2
        ) := by
  cases state with
  | none => rfl
  | some state => exact scan_append pass state front back

/-- Scans over a queue that is cut in two leave what they leave of the front, and of the back when
they go on there. By induction on the scans.
-/
theorem scans_append_left (states : List (Option σ)) (front back : List α)
    : (scans pass states (front ++ back)).2
      = (scans pass states front).2 ++ (scans pass (scansEnd pass states front) back).2 := by
  induction states generalizing front back with
  | nil => rfl
  | cons state states ih =>
      simp only [scans, scansEnd]
      rw [scanFrom_append]
      exact ih ..

/-- Likewise for what they take. -/
theorem mem_scans_append (states : List (Option σ)) (front back : List α) (element : α)
    : element ∈ (scans pass states (front ++ back)).1
      ↔ element ∈ (scans pass states front).1
        ∨ element ∈ (scans pass (scansEnd pass states front) back).1 := by
  induction states generalizing front back with
  | nil => simp [scans, scansEnd]
  | cons state states ih =>
      simp only [scans, scansEnd, List.mem_append]
      rw [scanFrom_append, ih]
      simp only [List.mem_append]
      tauto

/-- More scans go over what the first ones have left. -/
theorem scans_concat (states more : List (Option σ)) (queue : List α)
    : scans pass (states ++ more) queue
      = (
          (scans pass states queue).1 ++ (scans pass more (scans pass states queue).2).1,
          (scans pass more (scans pass states queue).2).2
        ) := by
  induction states generalizing queue with
  | nil => rfl
  | cons state states ih =>
      simp only [List.cons_append, scans]
      rw [ih, List.append_assoc]

variable (start : α → σ) (drops : α → Bool)

/-- The groups of a queue. -/
def groups : List α → List (List α)
  | [] => []
  | first :: rest =>
      if drops first then groups rest
      else (first :: (scan pass (start first) rest).1) :: groups (scan pass (start first) rest).2
termination_by queue => queue.length
decreasing_by
  · exact Nat.lt_succ_self _
  · exact Nat.lt_succ_of_le (length_scan_le pass (start first) rest)

/-- The states behind the queue of the scans that have made the groups. -/
def groupsEnd : List α → List (Option σ)
  | [] => []
  | first :: rest =>
      if drops first then groupsEnd rest
      else scanEnd pass (start first) rest :: groupsEnd (scan pass (start first) rest).2
termination_by queue => queue.length
decreasing_by
  · exact Nat.lt_succ_self _
  · exact Nat.lt_succ_of_le (length_scan_le pass (start first) rest)

/-- Every element of the queue is in one group, or dropped. -/
theorem groups_perm (queue : List α)
    : ∃ dropped,
        ((groups pass start drops queue).flatten ++ dropped).Perm queue
        ∧ ∀ element ∈ dropped, drops element = true := by
  fun_induction groups pass start drops queue with
  | case1 => exact ⟨[], .refl _, fun _ member => absurd member List.not_mem_nil⟩
  | case2 first rest drop ih =>
      obtain ⟨dropped, all, only⟩ := ih
      exact ⟨first :: dropped, List.perm_middle.trans (all.cons first),
        List.forall_mem_cons.mpr ⟨drop, only⟩⟩
  | case3 first rest keep ih =>
      obtain ⟨dropped, all, only⟩ := ih
      refine ⟨dropped, ?_, only⟩
      rw [List.flatten_cons, List.cons_append, List.cons_append, List.append_assoc]
      exact ((all.append_left _).trans (scan_perm pass (start first) rest)).cons first

/-- The elements that would not be dropped are in one group each; others can be, too. -/
theorem groups_filter_perm (queue : List α)
    : ((groups pass start drops queue).flatten.filter (!drops ·)).Perm
        (queue.filter (!drops ·)) := by
  obtain ⟨dropped, all, only⟩ := groups_perm pass start drops queue
  have none' : dropped.filter (!drops ·) = [] := by
    rw [List.filter_eq_nil_iff]
    intro element member
    simp [only element member]
  have kept := all.filter (!drops ·)
  rwa [List.filter_append, none', List.append_nil] at kept

/-- A group has elements of the queue only. -/
theorem mem_of_mem_groups {queue : List α} {element : α}
    (member : element ∈ (groups pass start drops queue).flatten)
    : element ∈ queue := by
  obtain ⟨dropped, all, _⟩ := groups_perm pass start drops queue
  exact all.subset (List.mem_append_left dropped member)

/-- The groups of a queue that is cut in two are those of its front, whose scans go on, and those
of what they leave of the back. By induction on the groups of the front.
-/
theorem mem_groups_append (front back : List α) (element : α)
    : element ∈ (groups pass start drops (front ++ back)).flatten
      ↔ element ∈ (groups pass start drops front).flatten
        ∨ element ∈ (scans pass (groupsEnd pass start drops front) back).1
        ∨ element
          ∈ (groups pass start drops
              (scans pass (groupsEnd pass start drops front) back).2).flatten := by
  fun_induction groups pass start drops front generalizing back with
  | case1 => simp [groupsEnd, scans]
  | case2 first rest dropped ih =>
      rw [List.cons_append, groups, if_pos dropped, groupsEnd, if_pos dropped]
      exact ih back
  | case3 first rest kept ih =>
      rw [List.cons_append, groups, if_neg kept, groupsEnd, if_neg kept, scan_append]
      simp only [List.flatten_cons, List.mem_append, List.mem_cons, scans]
      rw [ih]
      tauto

/-- What is in the groups once some scans have gone over the queue, or was taken by these. -/
def InGroups (states : List (Option σ)) (queue : List α) (element : α) : Prop :=
  element ∈ (scans pass states queue).1
    ∨ element ∈ (groups pass start drops (scans pass states queue).2).flatten

/-- No elements, none taken. -/
theorem scanFrom_nil (state : Option σ) : scanFrom pass state [] = ([], []) := by
  cases state <;> rfl

/-- No elements, none taken. -/
theorem scans_nil (states : List (Option σ)) : scans pass states [] = ([], []) := by
  induction states with
  | nil => rfl
  | cons state states ih => rw [scans_cons, scanFrom_nil, ih, List.nil_append]

/-- An empty queue has no groups. -/
theorem not_inGroups_nil (states : List (Option σ)) (element : α)
    : ¬ InGroups pass start drops states [] element := by
  rw [InGroups, scans_nil, groups]
  simp

/-- The scans behind a part of the queue: those that were there, and those of the new groups. -/
def scansBehind (states : List (Option σ)) (queue : List α) : List (Option σ) :=
  scansEnd pass states queue ++ groupsEnd pass start drops (scans pass states queue).2

/-- A queue can be grouped part by part. -/
theorem inGroups_append (states : List (Option σ)) (front back : List α) (element : α)
    : InGroups pass start drops states (front ++ back) element
      ↔ InGroups pass start drops states front element
        ∨ InGroups pass start drops (scansBehind pass start drops states front) back
            element := by
  unfold InGroups scansBehind
  rw [mem_scans_append, scans_append_left, mem_groups_append, scans_concat]
  simp only [List.mem_append]
  tauto

end NdcOdfWeb.Foundation
