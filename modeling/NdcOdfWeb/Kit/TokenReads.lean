import NdcOdfWeb.Kit.ChildSession

/-! The tokens that the handlers of the kit read. Two of them read a token without asking for
it: `renderWindow` the id of the window, and `mouseEvent` the count behind a window id that is
none.
-/

namespace NdcOdfWeb.Kit

open NdcOdfWeb.Foundation
open NdcOdfWeb.Protocol
open NdcOdfWeb.Sessions

/-- The handling ends without an effect, in an error reply or in an exception that is caught. -/
def ChildEnding.rejects : ChildEnding → Bool
  | .ignored | .error _ | .threw => true
  | .handled | .assertion => false

/-- The tokens without which a message lacks arguments, with the name of the command. -/
def leastTokens : Command → Nat
  | .clientzoom | .clientvisiblearea | .outlinestate | .downloadas | .windowkey | .mouse => 5
  | .windowmouse => 6
  | .key | .textinput | .selecttext | .selectgraphic => 4
  | .renderfont | .selectclientpart | .insertfile | .windowcommand => 3
  | .loolclient | .load | .tileprocessed | .commandvalues | .versionrestore | .gettextselection
  | .paste | .insertpicture | .changepicture | .saveas | .setclientpart
  | .moveselectedclientparts | .setpage | .tile | .tilecombine | .uno | .getunostates | .runmacroCommand
  | .paintwindow | .rendershapeselection | .getgraphicgelection | .removesession
  | .renamefile => 2
  | _ => 1

/-- The commands that the kit asserts to know, `load` included. -/
def childCommands : List Command :=
  [
    .commandvalues, .load, .renderfont, .setclientpart, .selectclientpart,
    .moveselectedclientparts, .setpage, .status, .paintwindow, .requestloksession, .canceltiles,
    .clientzoom, .clientvisiblearea, .outlinestate, .downloadas, .getchildid, .gettextselection,
    .paste, .insertfile, .insertpicture, .changepicture, .key, .textinput, .windowkey, .mouse,
    .windowmouse, .uno, .getunostates, .runmacroCommand, .selecttext, .selectgraphic, .resetselection,
    .saveas, .useractive, .userinactive, .windowcommand, .signdocument, .asksignaturestatus,
    .rendershapeselection, .getgraphicgelection
  ]

/-- The five tokens of a window's mouse event without an id, but with a type and a place: the
count is looked for behind them.
-/
def OverrunsMouse : List Text → Prop
  | [_, id, type, x, y] =>
      isUInt32 "id".toList id = false ∧ isMouseType type = true ∧ isInteger "x".toList x = true
      ∧ isInteger "y".toList y = true
  | _ => False

/-- The tokens of a command that the kit reads exist. -/
def ReadsTokens (tokens : List Text) : Command → Prop
  | .paintwindow => 1 < tokens.length
  | .windowmouse => ¬ OverrunsMouse tokens
  | _ => True

/-- A handler reads existing tokens only, knows the command, and rejects a message that lacks
arguments.
-/
structure Handles (least : Nat) (tokens : List Text) (result : Option ChildEnding) : Prop where
  known : ∃ ending, result = some ending ∧ ending ≠ .assertion
  rejected : tokens.length < least → ∃ ending, result = some ending ∧ ending.rejects = true

variable {tokens : List Text} {least : Nat}

/-- An ending that is known, and that rejects what is too short. -/
theorem handles_of_ending {ending : ChildEnding} (known : ending ≠ .assertion)
    (rejected : tokens.length < least → ending.rejects = true)
    : Handles least tokens (some ending) :=
  ⟨⟨ending, rfl, known⟩, fun short => ⟨ending, rfl, rejected short⟩⟩

/-- A rejection is right for every length. -/
theorem handles_of_rejects {ending : ChildEnding} (rejects : ending.rejects = true)
    : Handles least tokens (some ending) := by
  apply handles_of_ending
  · rintro rfl
    cases rejects
  · exact fun _ => rejects

/-- Checks on tokens that exist have a result. -/
theorem checkTokens_isSome {checks : List (Text → Bool)} {start : Nat}
    (fits : start + checks.length ≤ tokens.length)
    : ∃ passed, checkTokens tokens start checks = some passed := by
  induction checks generalizing start with
  | nil => exact ⟨true, rfl⟩
  | cons check checks ih =>
      rw [List.length_cons] at fits
      have exists_ : start < tokens.length := by omega
      rw [checkTokens, List.getElem?_eq_getElem exists_]
      dsimp only
      split
      · exact ih (by omega)
      · exact ⟨false, rfl⟩

/-- A handler that asks for as many tokens as it checks. -/
theorem handles_arguments {sized : Bool} {start : Nat} {checks : List (Text → Bool)}
    {reply accepted : ChildEnding} (rejects : reply.rejects = true)
    (known : accepted ≠ .assertion)
    (fits : sized = true → start + checks.length ≤ tokens.length)
    (enough : sized = true → least ≤ tokens.length)
    : Handles least tokens (handleArguments tokens reply sized start checks accepted) := by
  unfold handleArguments
  split
  · next asked =>
      obtain ⟨passed, checked⟩ := checkTokens_isSome (fits asked)
      rw [checked, Option.map_some]
      cases passed with
      | true => exact handles_of_ending known (fun short => absurd (enough asked) (by omega))
      | false => exact handles_of_rejects rejects
  · exact handles_of_rejects rejects

/-- Most handlers ask for a least or an exact number of tokens, from the first argument on. -/
theorem handles_checks {asked : Prop} [Decidable asked] {checks : List (Text → Bool)}
    {command kind : Text} {accepted : ChildEnding} (known : accepted ≠ .assertion)
    (fits : asked → 1 + checks.length ≤ tokens.length) (enough : asked → least ≤ tokens.length)
    : Handles least tokens
        (handleArguments tokens (errorReply command kind) (decide asked) 1 checks accepted) := by
  apply handles_arguments rfl known
  · exact fun sized => fits (of_decide_eq_true sized)
  · exact fun sized => enough (of_decide_eq_true sized)

-----------------------------------------------------------------------------------------
-- Handlers of their own
-----------------------------------------------------------------------------------------

/-- The tokens are counted before they are read. -/
theorem sendFontRendering_handles (core : Core)
    : Handles 3 tokens (sendFontRendering core tokens) := by
  apply handles_checks
  · split <;> exact fun same => nomatch same
  · exact fun sized => sized
  · exact fun sized => sized

/-- The tokens are counted before they are read. -/
theorem insertFile_handles (core : Core) : Handles 3 tokens (insertFile core tokens) := by
  apply handles_checks
  · dsimp only
    split
    · exact fun same => nomatch same
    · split
      · split <;> exact fun same => nomatch same
      · exact fun same => nomatch same
  · exact fun sized => sized.ge
  · exact fun sized => sized.ge

/-- The tokens are counted before they are read. -/
theorem extTextInputEvent_handles (core : Core) (name : Text)
    : Handles 4 tokens (extTextInputEvent core name tokens) := by
  apply handles_checks
  · split <;> exact fun same => nomatch same
  · exact fun sized => sized
  · exact fun sized => sized

/-- The tokens are counted before they are read. -/
theorem saveAs_handles (core : Core) : Handles 2 tokens (saveAs core tokens) := by
  apply handles_checks
  · split
    · exact fun same => nomatch same
    · split <;> exact fun same => nomatch same
  · exact fun sized => sized
  · exact fun sized => sized

/-- A window's event has one token more. -/
theorem keyEvent_handles (isWindow : Bool) (name : Text)
    : Handles (if isWindow then 5 else 4) tokens (keyEvent isWindow name tokens) := by
  unfold keyEvent
  dsimp only
  cases isWindow with
  | false =>
      simp only [Bool.false_eq_true, if_false]
      apply handles_arguments
      · rfl
      · exact fun same => nomatch same
      · exact fun sized => (of_decide_eq_true sized).ge
      · exact fun sized => (of_decide_eq_true sized).ge
  | true =>
      simp only [if_true]
      split
      · exact handles_of_rejects rfl
      · next several =>
          have exists_ : 1 < tokens.length := by omega
          rw [List.getElem?_eq_getElem exists_]
          rw [Option.bind_some]
          split
          · apply handles_arguments
            · rfl
            · exact fun same => nomatch same
            · exact fun sized => (of_decide_eq_true sized).ge
            · exact fun sized => (of_decide_eq_true sized).ge
          · exact handles_of_rejects rfl

/-- Without a number in front, the id of a window command is no reason to read on. -/
theorem sendWindowCommand_handles (core : Core)
    : Handles 3 tokens (sendWindowCommand core tokens) := by
  unfold sendWindowCommand
  split
  · exact handles_of_rejects rfl
  · split
    · next close =>
        have exists_ := (List.getElem?_eq_some_iff.mp close).1
        exact handles_of_ending (fun same => nomatch same) (fun short => absurd short (by omega))
    · split
      · next paste =>
          have exists_ := (List.getElem?_eq_some_iff.mp paste).1
          split
          · exact handles_of_rejects rfl
          · split
            · exact handles_of_rejects rfl
            · exact handles_of_ending (fun same => nomatch same)
                (fun short => absurd short (by omega))
      · exact handles_of_rejects rfl

/-- The window's id is read before the tokens are counted. -/
theorem renderWindow_handles (core : Core) (hasId : 1 < tokens.length)
    : Handles 2 tokens (renderWindow core tokens) := by
  unfold renderWindow
  dsimp only
  split
  · exact handles_of_rejects rfl
  · rw [List.getElem?_eq_getElem hasId]
    exact handles_of_ending (fun same => nomatch same) (fun short => absurd short (by omega))

/-- Without an id, `renderWindow` reads it all the same. -/
theorem renderWindow_overruns (core : Core) (noId : ¬ 1 < tokens.length)
    : renderWindow core tokens = none := by
  have noToken (i : Nat) (behind : 1 ≤ i) : tokens[i]? = none :=
    List.getElem?_eq_none (by omega)
  unfold renderWindow windowIdThrows
  rw [noToken 1 (by omega), noToken 3 (by omega)]
  rfl

-----------------------------------------------------------------------------------------
-- Mouse events
-----------------------------------------------------------------------------------------

/-- The checks of a mouse event have a result if the place of the count lies inside. -/
theorem checkMouse_isSome (success : Bool) {counter minTokens : Nat}
    (fits : minTokens ≤ tokens.length → counter + 4 ≤ tokens.length)
    : ∃ passed, checkMouse tokens success counter minTokens = some passed
        ∧ (passed = true → success = true ∧ minTokens ≤ tokens.length) := by
  unfold checkMouse
  by_cases short : tokens.length < minTokens
  · rw [if_pos short]
    exact ⟨_, rfl, fun passed => by simp at passed⟩
  · rw [if_neg short]
    obtain ⟨passed, checked⟩ : ∃ passed, checkTokens tokens counter
        [isMouseType, isInteger "x".toList, isInteger "y".toList, isInteger "count".toList]
        = some passed :=
      checkTokens_isSome (fits (by omega))
    rw [checked]
    refine ⟨_, rfl, fun all => ⟨?_, by omega⟩⟩
    simp only [Bool.and_eq_true] at all
    exact all.1.1

/-- What a mouse event makes of its checks. -/
theorem mouseEvent_handles_of {least : Nat} {name : Text} {success : Bool}
    {counter minTokens : Nat} (fits : minTokens ≤ tokens.length → counter + 4 ≤ tokens.length)
    (enough : success = true → least ≤ minTokens)
    : Handles least tokens
        ((checkMouse tokens success counter minTokens).map
          (fun success => if success then .handled else errorReply name "syntax".toList)) := by
  obtain ⟨passed, checked, needs⟩ := checkMouse_isSome success fits
  rw [checked, Option.map_some]
  cases passed with
  | false => exact handles_of_rejects rfl
  | true =>
      obtain ⟨success, several⟩ := needs rfl
      exact handles_of_ending (fun same => nomatch same)
        (fun short => absurd (enough success) (by omega))

/-- Four checks from the third of five tokens on get to the end if the first three pass. -/
theorem checkTokens_five (name id type x y : Text) (first second third fourth : Text → Bool)
    : checkTokens [name, id, type, x, y] 2 [first, second, third, fourth]
      = if first type then
          if second x then if third y then none else some false else some false
        else some false :=
  rfl

/-- Five tokens, one of which is not what the mouse event expects. -/
theorem checkMouse_of_not_overruns {name id type x y : Text}
    (stays : ¬ OverrunsMouse [name, id, type, x, y]) (noId : isUInt32 "id".toList id = false)
    : checkMouse [name, id, type, x, y] false 2 5 = some false := by
  unfold checkMouse
  rw [if_neg (by simp), checkTokens_five]
  by_cases isType : isMouseType type = true
  · rw [if_pos isType]
    by_cases isX : isInteger "x".toList x = true
    · rw [if_pos isX, if_neg (fun isY => stays ⟨noId, isType, isX, isY⟩)]
      rfl
    · rw [if_neg isX]
      rfl
  · rw [if_neg isType]
    rfl

/-- Five tokens that all fit, so the next one is read too. -/
theorem checkMouse_of_overruns {name id type x y : Text}
    (overruns : OverrunsMouse [name, id, type, x, y])
    : checkMouse [name, id, type, x, y] false 2 5 = none := by
  obtain ⟨-, isType, isX, isY⟩ := overruns
  unfold checkMouse
  rw [if_neg (by simp), checkTokens_five, if_pos isType, if_pos isX, if_pos isY]
  rfl

/-- Only five tokens can overrun. -/
theorem overrunsMouse_cases (overruns : OverrunsMouse tokens)
    : ∃ name id type x y,
        tokens = [name, id, type, x, y] ∧ isUInt32 "id".toList id = false := by
  unfold OverrunsMouse at overruns
  split at overruns
  · exact ⟨_, _, _, _, _, rfl, overruns.1⟩
  · exact overruns.elim

/-- A mouse event that overruns reads a token that does not exist. -/
theorem mouseEvent_overruns (name : Text) (overruns : OverrunsMouse tokens)
    : mouseEvent true name tokens = none := by
  obtain ⟨first, id, type, x, y, rfl, noId⟩ := overrunsMouse_cases overruns
  unfold mouseEvent checkMouseEvent
  rw [if_pos rfl, if_neg (by simp)]
  simp only [List.getElem?_cons_succ, List.getElem?_cons_zero, Option.bind_some, noId,
    Bool.false_eq_true, if_false, checkMouse_of_overruns overruns, Option.map_none]

/-- A window's event has an id in front. -/
theorem mouseEvent_handles (isWindow : Bool) (name : Text)
    (stays : isWindow = true → ¬ OverrunsMouse tokens)
    : Handles (if isWindow then 6 else 5) tokens (mouseEvent isWindow name tokens) := by
  have unsuccessful : ∀ {least : Nat}, false = true → least ≤ 5 := fun same => nomatch same
  unfold mouseEvent checkMouseEvent
  cases isWindow with
  | false => exact mouseEvent_handles_of (fun several => several) (fun _ => le_rfl)
  | true =>
      simp only [if_true]
      split
      · exact mouseEvent_handles_of (fun several => several) unsuccessful
      · next several =>
          have exists_ : 1 < tokens.length := by omega
          rw [List.getElem?_eq_getElem exists_, Option.bind_some]
          split
          · exact mouseEvent_handles_of (fun several => several) (fun _ => le_rfl)
          · next noId =>
              by_cases five : tokens.length = 5
              · match tokens, five with
                | [first, id, type, x, y], _ =>
                    rw [checkMouse_of_not_overruns (stays rfl) (Bool.not_eq_true _ |>.mp noId)]
                    exact handles_of_rejects rfl
              · exact mouseEvent_handles_of (fun several => by omega) unsuccessful

/-- A command that the kit knows is handled well, if its tokens exist. -/
theorem handleChildCommand_handles (core : Core) (name : Text) {command : Command}
    (isKnown : command ∈ childCommands) (nonempty : tokens ≠ [])
    (reads : ReadsTokens tokens command)
    : Handles (leastTokens command) tokens (handleChildCommand core name tokens command) := by
  have several := List.length_pos_of_ne_nil nonempty
  have plain : ∀ {ending : ChildEnding}, ending ≠ .assertion → Handles 1 tokens (some ending) :=
    fun known => handles_of_ending known (fun short => absurd several (by omega))
  cases command with
  | load => exact handles_of_rejects rfl
  | requestloksession | canceltiles => exact handles_of_rejects rfl
  | status | getchildid | useractive | userinactive | signdocument | asksignaturestatus =>
      exact plain (fun same => nomatch same)
  | renderfont => exact sendFontRendering_handles core
  | insertfile => exact insertFile_handles core
  | textinput => exact extTextInputEvent_handles core name
  | saveas => exact saveAs_handles core
  | key => exact keyEvent_handles false name
  | windowkey => exact keyEvent_handles true name
  | mouse => exact mouseEvent_handles false name (fun same => nomatch same)
  | windowmouse => exact mouseEvent_handles true name (fun _ => reads)
  | windowcommand => exact sendWindowCommand_handles core
  | paintwindow => exact renderWindow_handles core reads
  | clientzoom | clientvisiblearea | outlinestate | commandvalues | gettextselection
  | insertpicture | changepicture | selecttext | selectgraphic | rendershapeselection
  | getgraphicgelection | resetselection =>
      apply handles_checks
      · exact fun same => nomatch same
      · exact fun sized => sized.ge
      · exact fun sized => sized.ge
  | downloadas | paste | uno | getunostates | runmacroCommand | setclientpart | selectclientpart
  | moveselectedclientparts | setpage =>
      apply handles_checks
      · exact fun same => nomatch same
      · exact fun sized => sized
      · exact fun sized => sized
  | _ => exact absurd isKnown (by decide)

/-- The tokens that the two handlers read without asking have to exist. -/
theorem readsTokens_of_isSome (core : Core) (name : Text) {command : Command}
    (ends : (handleChildCommand core name tokens command).isSome = true)
    : ReadsTokens tokens command := by
  cases command with
  | paintwindow =>
      by_contra noId
      rw [handleChildCommand, renderWindow_overruns core noId] at ends
      cases ends
  | windowmouse =>
      intro overruns
      rw [handleChildCommand, mouseEvent_overruns name overruns] at ends
      cases ends
  | _ => trivial

end NdcOdfWeb.Kit
