import HeartbeatMesh.Proofs.Mesh.Table
import HeartbeatMesh.Proofs.Shell.Command
import HeartbeatMesh.Shell.Program
import Mathlib.Data.List.TakeWhile

/-!
# The end of a session

A session reads on after every line that does not ask for its end, whatever comes of the line
(`meet_of_goesOn`). It ends at the first line that does, at an interrupt or at the end of its input,
and then all nodes are stopped (`Session.Stopped`).

There is one more way out. A line that is no text ends the session at once, and the nodes are left
as they are (`meet_of_isBroken`).
-/

namespace HeartbeatMesh.Shell

/-! ## What a line asks for -/

/-- The words that ask for the end. -/
def IsQuit (words : List String) : Prop := words = ["quit"] ∨ words = ["exit"]

theorem parse_eq_quit_iff (text : String) :
    Command.parse text = .ok .quit ↔ IsQuit (Text.words text) := by
  rw [Command.parse, Command.ofWords_eq_ok_iff, Command.spellings, List.mem_pair, IsQuit]

namespace Arrival

/-- The session goes on: a line is text, whether it is blank, a command that fails or not, or no
command, and does not ask for the end. -/
def GoesOn : Arrival → Prop
  | .line bytes => ∃ text, lineText bytes = .ok text ∧ ¬IsQuit (Text.words text)
  | .interrupt => False

/-- The session is asked to end, by a line or an interrupt. -/
def Closes : Arrival → Prop
  | .line bytes => ∃ text, lineText bytes = .ok text ∧ IsQuit (Text.words text)
  | .interrupt => True

/-- A line is no text. -/
def IsBroken (a : Arrival) (fault : Text.Fault) : Prop :=
  ∃ bytes, a = .line bytes ∧ lineText bytes = .error fault

/-- There is nothing else to come. -/
theorem cases (a : Arrival) : a.GoesOn ∨ a.Closes ∨ ∃ fault, a.IsBroken fault := by
  cases a with
  | interrupt => exact .inr (.inl trivial)
  | line bytes =>
    cases h : lineText bytes with
    | error fault => exact .inr (.inr ⟨fault, bytes, rfl, h⟩)
    | ok text =>
      by_cases hquit : IsQuit (Text.words text)
      · exact .inr (.inl ⟨text, h, hquit⟩)
      · exact .inl ⟨text, h, hquit⟩

end Arrival

namespace Session

variable {γ : Type} {s : Session γ} {a : Arrival}

/-! ## One arrival -/

/-- The nodes that the first session has are stopped in the second one: its table is empty, no
heartbeat is due, and their subscriptions are gone. -/
structure Stopped (s s' : Session γ) : Prop where
  members : s'.timeline.mesh.members = ∅
  timers : s'.timeline.timers = ∅
  unsubscribed : ∀ (k : String) (member : Member γ), s.timeline.mesh.members[k]? = some member →
    s'.timeline.mesh.bus.isSubscribed member.subscription = false

theorem stopped_shutdown (s : Session γ) : s.Stopped s.shutdown where
  members := s.timeline.mesh.shutdown_members
  timers := rfl
  unsubscribed _ _ := Mesh.isSubscribed_shutdown

/-- Only `quit` and `exit` are answered by the end. -/
theorem interpret_fst_ne_exit {text : String} (h : ¬IsQuit (Text.words text)) (s : Session γ)
    (origin : Float) : (s.interpret origin text).1 ≠ .ok .exit := by
  rw [← parse_eq_quit_iff] at h
  rw [interpret]
  cases hparse : Command.parse text with
  | error e => simp
  | ok command =>
    dsimp only
    cases command with
    | quit => exact absurd hparse h
    | remove k =>
      rw [execute]
      split <;> simp
    | add | list | status | help => simp [execute]

theorem meet_of_goesOn (h : a.GoesOn) (s : Session γ) :
    ∃ text s', s.meet a = (.shown text, s') := by
  cases a with
  | interrupt => cases h
  | line bytes =>
    obtain ⟨text, htext, hquit⟩ := h
    have hexit := s.interpret_fst_ne_exit hquit s.wallTime
    rw [meet, serve, htext]
    dsimp only
    split_ifs with hblank
    · exact ⟨"", s, rfl⟩
    · rcases hinterpret : s.interpret s.wallTime text with ⟨_ | _ | _, s'⟩
      · exact ⟨_, _, rfl⟩
      · exact ⟨_, _, rfl⟩
      · rw [hinterpret] at hexit
        exact absurd rfl hexit

theorem meet_of_closes (h : a.Closes) (s : Session γ) :
    s.meet a = (.ended .finished, s.shutdown) := by
  cases a with
  | interrupt => rfl
  | line bytes =>
    obtain ⟨text, htext, hquit⟩ := h
    have hblank : ¬Text.isBlankLine text = true := fun hblank ↦ by
      rw [Text.words_of_isBlankLine hblank, IsQuit] at hquit
      simp at hquit
    rw [meet, serve, htext]
    dsimp only
    rw [if_neg hblank, interpret, (parse_eq_quit_iff text).mpr hquit]
    rfl

theorem meet_of_isBroken {fault : Text.Fault} (h : a.IsBroken fault) (s : Session γ) :
    s.meet a = (.ended (.failed (.io fault.message)), s) := by
  obtain ⟨bytes, rfl, hbytes⟩ := h
  rw [meet, serve, hbytes]

/-! ## All of them -/

variable [WordSource γ]

/-- What has been shown after some arrivals, and the session then. -/
def follow (s : Session γ) (output : String) :
    List (Nanoseconds × Arrival) → String × Session γ
  | [] => (output, s)
  | (instant, a) :: rest =>
    match (s.advanceTo instant).meet a with
    | (.shown text, s) => s.follow (output ++ text) rest
    | (.ended _, s) => (output, s)

/-- What comes after arrivals that the session goes on from is met as they have left it. -/
theorem attend_append {before : List (Nanoseconds × Arrival)} (h : ∀ a ∈ before, a.2.GoesOn)
    (s : Session γ) (output : String) (rest : List (Nanoseconds × Arrival)) :
    s.attend output (before ++ rest)
      = (s.follow output before).2.attend (s.follow output before).1 rest := by
  induction before generalizing s output with
  | nil => rfl
  | cons a before ih =>
    obtain ⟨ha, hbefore⟩ := List.forall_mem_cons.mp h
    obtain ⟨text, s', hmeet⟩ := meet_of_goesOn ha (s.advanceTo a.1)
    rw [List.cons_append, attend, follow, hmeet]
    exact ih hbefore s' _

/-- The arrivals up to the first one that the session does not go on from. -/
theorem exists_goesOn (arrivals : List (Nanoseconds × Arrival)) :
    ∃ before rest, arrivals = before ++ rest ∧ (∀ a ∈ before, a.2.GoesOn) ∧
      ∀ a ∈ rest.head?, ¬a.2.GoesOn := by
  classical
  let goesOn (a : Nanoseconds × Arrival) : Bool := decide a.2.GoesOn
  refine ⟨arrivals.takeWhile goesOn, arrivals.dropWhile goesOn,
    List.takeWhile_append_dropWhile.symm, fun a ha ↦ ?_, fun a ha ↦ ?_⟩
  · have hyes : goesOn a = true := List.mem_takeWhile_imp ha
    exact of_decide_eq_true hyes
  · have hnot := List.head?_dropWhile_not goesOn arrivals
    rw [Option.mem_def.mp ha] at hnot
    exact of_decide_eq_false hnot

/-- **How a session ends.** Let any lines arrive at a session, and interrupts, at any instants. The
session goes on from every line that is text and does not ask for its end: from a blank line, from
one that is no command, from a command that fails and from one that succeeds. It ends with what it
has shown so far

* when its input ends, or at the first interrupt or line that says `quit` or `exit`. Then it has
  finished, all nodes are stopped and its table is empty;
* at the first line that is no text. Then it has failed with an error of its input, and it is left
  as it was when the line came: every node in its table still runs. -/
theorem attend_ends (s : Session γ) (output : String) (arrivals : List (Nanoseconds × Arrival)) :
    ∃ before rest, arrivals = before ++ rest ∧ (∀ a ∈ before, a.2.GoesOn) ∧
      let shown := s.follow output before
      let final := s.attend output arrivals
      final.1.output = shown.1 ∧
        ((∃ s', (rest = [] ∧ s' = shown.2 ∨ ∃ instant a, rest.head? = some (instant, a) ∧
              a.Closes ∧ s' = shown.2.advanceTo instant) ∧
            final.1.ending = .finished ∧ s'.Stopped final.2) ∨
          ∃ instant a fault, rest.head? = some (instant, a) ∧ a.IsBroken fault ∧
            final.1.ending = .failed (.io fault.message) ∧
            final.2 = shown.2.advanceTo instant) := by
  obtain ⟨before, rest, rfl, hbefore, hrest⟩ := exists_goesOn arrivals
  refine ⟨before, rest, rfl, hbefore, ?_⟩
  dsimp only
  rw [attend_append hbefore]
  generalize s.follow output before = shown
  cases rest with
  | nil => exact ⟨rfl, .inl ⟨shown.2, .inl ⟨rfl, rfl⟩, rfl, shown.2.stopped_shutdown⟩⟩
  | cons a rest =>
    obtain ⟨instant, a⟩ := a
    rcases a.cases with hon | hcloses | ⟨fault, hbroken⟩
    · exact absurd hon (hrest _ rfl)
    · rw [attend, meet_of_closes hcloses]
      exact ⟨rfl, .inl ⟨_, .inr ⟨instant, a, rfl, hcloses, rfl⟩, rfl, stopped_shutdown _⟩⟩
    · rw [attend, meet_of_isBroken hbroken]
      exact ⟨rfl, .inr ⟨instant, a, fault, rfl, hbroken, rfl, rfl⟩⟩

/-- A session with a node. -/
def soloSession : Session WordCycle :=
  populate
    { timeline :=
        { mesh := { bus := { slots := 8 }, settings := ⟨5, false⟩ }
          period := 5000000000
          watch := ⟨100, 0⟩ }
      timeout := 10
      newcomers := fun _ ↦ ⟨"a", "r", ⟨#[], 0⟩⟩ } 1

/-- Of two lines the first one is no text: the second one is not read, and the node still runs when
the session has ended. -/
theorem attend_ends_brokenLine :
    let final := soloSession.attend greeting
      [(0, .line [0xFF, 0x0A]), (0, .line (Text.utf8 "help\n"))]
    final.1 = ⟨greeting, .failed (.io "invalid utf-8 sequence of 1 bytes from index 0")⟩ ∧
      final.2.timeline.mesh.ids = ["a"] := by
  decide +kernel

end Session

end HeartbeatMesh.Shell
